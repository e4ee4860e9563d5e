import Mathlib.Data.List.Induction
import Noyra.Mind.Consolidation
import Noyra.Proofs.Integration

/-!
# Consolidation keeps what it should

A due run commits and forgets safely exactly when its key is new, every memory it revises has a place for one more
source and no withdrawn source, and no keeper of duplicates is archived itself.
-/

namespace Noyra.Mind.Consolidation.Proofs
open Noyra.Lib Noyra.Mind Noyra.Mind.Proofs

lemma fromkeys_append (l : List String) (x : String) :
    fromkeys (l ++ [x]) = if x ∈ fromkeys l then fromkeys l else fromkeys l ++ [x] := by
  unfold fromkeys
  rw [List.foldl_append]
  rfl

lemma fromkeys_nodup (l : List String) : (fromkeys l).Nodup := by
  induction l using List.reverseRecOn with
  | nil => exact List.nodup_nil
  | append_singleton l x ih =>
    rw [fromkeys_append]
    by_cases hx : x ∈ fromkeys l
    · rwa [if_pos hx]
    · rw [if_neg hx]
      exact List.nodup_append.mpr ⟨ih, List.nodup_singleton x,
        fun a ha b hb heq => hx (by cases List.mem_singleton.mp hb; exact heq ▸ ha)⟩

lemma fromkeys_of_nodup {l : List String} (h : l.Nodup) : fromkeys l = l := by
  induction l using List.reverseRecOn with
  | nil => rfl
  | append_singleton l x ih =>
    obtain ⟨hl, -, hx⟩ := List.nodup_append.mp h
    rw [fromkeys_append, ih hl, if_neg (fun hmem => hx x hmem x (List.mem_singleton_self x) rfl)]

lemma validate_ok {m : MindTables} {subject : String} {ids sources : List String}
    (h : m.validateEventIds subject ids = .ok sources) :
    sources.Nodup ∧ sources.length ≤ 64 ∧ ∀ e ∈ sources, m.events.contains (subject, e) = true := by
  unfold MindTables.validateEventIds at h
  obtain ⟨_, _, h⟩ := bind_eq_ok.mp h
  obtain ⟨_, hmany, h⟩ := bind_eq_ok.mp h
  obtain ⟨_, hknown, h⟩ := bind_eq_ok.mp h
  obtain ⟨_, _, h⟩ := bind_eq_ok.mp h
  cases h
  refine ⟨fromkeys_nodup ids, Nat.le_of_not_lt (raiseIf_eq_ok.mp hmany), fun e he => ?_⟩
  have hall := raiseIf_eq_ok.mp hknown
  rw [Bool.not_eq_false, List.all_eq_true] at hall
  exact hall e he

/-- A row as creations and revisions write it. -/
structure Readable (cfg : MemoryConfig) (events : List (String × String)) (row : MemoryRow) : Prop where
  read : row.check cfg = .ok row
  content : strip row.content ≠ ""
  short : row.content.length ≤ 200000
  salience : stored row.salience = row.salience
  confidence : stored row.confidence = row.confidence
  distinct : row.sources.Nodup
  few : row.sources.length ≤ 64
  known : ∀ e ∈ row.sources, events.contains (row.subjectId, e) = true
  id_short : row.memoryId.length ≤ 64

lemma stored_stored (x : Double) : stored (stored x) = stored x := by
  unfold stored
  by_cases h : x.value = 0
  · rw [if_pos h, if_pos rfl]
  · rw [if_neg h, if_neg h]

lemma Readable.more {cfg : MemoryConfig} {events events' : List (String × String)} {row : MemoryRow}
    (h : Readable cfg events row) (hmore : ∀ e ∈ events, e ∈ events') : Readable cfg events' row :=
  { h with known := fun e he => List.contains_iff_mem.mpr (hmore _ (List.contains_iff_mem.mp (h.known e he))) }

lemma Readable.units {cfg : MemoryConfig} {events : List (String × String)} {row : MemoryRow}
    (h : Readable cfg events row) :
    isUnit row.salience.value = true ∧ isUnit row.confidence.value = true := by
  have hread := h.read
  unfold MemoryRow.check at hread
  obtain ⟨_, _, hread⟩ := bind_eq_ok.mp hread
  obtain ⟨_, hsalience, hread⟩ := bind_eq_ok.mp hread
  obtain ⟨_, hconfidence, -⟩ := bind_eq_ok.mp hread
  exact ⟨Bool.not_eq_false _ ▸ raiseIf_eq_ok.mp hsalience, Bool.not_eq_false _ ▸ raiseIf_eq_ok.mp hconfidence⟩

lemma validateFields_ok {content privacy reason : String} {salience confidence : ℚ} :
    validateFields content salience confidence privacy reason = .ok () ↔
      (strip content ≠ "" ∧ strip privacy ≠ "" ∧ strip reason ≠ "") ∧
      (content.length ≤ 200000 ∧ reason.length ≤ 10000 ∧ privacy.length ≤ 64) ∧ isUnit salience = true ∧
      isUnit confidence = true := by
  unfold validateFields
  constructor
  · intro h
    obtain ⟨_, hblank, h⟩ := bind_eq_ok.mp h
    obtain ⟨_, hlong, hunit⟩ := bind_eq_ok.mp h
    have hblank := raiseIf_eq_ok.mp hblank
    have hlong := raiseIf_eq_ok.mp hlong
    have hunit := raiseIf_eq_ok.mp hunit
    push Not at hblank hlong hunit
    exact ⟨hblank, hlong, by simpa using hunit⟩
  · rintro ⟨⟨h₁, h₂, h₃⟩, ⟨h₄, h₅, h₆⟩, h₇, h₈⟩
    rw [raiseIf_neg (by rintro (h | h | h); exacts [h₁ h, h₂ h, h₃ h]), ok_bind, raiseIf_neg (by omega), ok_bind,
      raiseIf_neg (by rw [h₇, h₈]; simp)]

/-- A row with hashes of its columns is read back. -/
lemma check_ok {cfg : MemoryConfig} {row : MemoryRow} (hcontent : row.contentHash = cfg.contentHash row.content)
    (hsalience : isUnit row.salience.value = true) (hconfidence : isUnit row.confidence.value = true)
    (hrevision : 1 ≤ row.currentRevision)
    (hstate : row.stateHash = cfg.stateHash row.content row.salience row.confidence row.status) :
    row.check cfg = .ok row := by
  unfold MemoryRow.check
  rw [raiseIf_neg (not_not.mpr hcontent.symm), ok_bind, raiseIf_neg (by rw [hsalience]; simp), ok_bind,
    raiseIf_neg (by rw [hconfidence]; simp),
    ok_bind, raiseIf_neg (by omega), ok_bind, raiseIf_neg (not_not.mpr hstate.symm), ok_bind]

lemma create_eq_ok {cfg : MemoryConfig} {m m' : MindTables} {new : MindTables.NewMemory} {id : String} {now : Nat}
    {record : MemoryRow} (h : m.create cfg new id now = .ok (record, m')) (hid : id.length ≤ 64) :
    record.memoryId = id ∧ record.status = .active ∧ Readable cfg m.events record ∧
      ∃ memories, m.memories.insert? record = some memories ∧ m' = { m with memories := memories } := by
  unfold MindTables.create at h
  obtain ⟨_, hfields, h⟩ := bind_eq_ok.mp h
  obtain ⟨sources, hsources, h⟩ := bind_eq_ok.mp h
  obtain ⟨memories, hinsert, h⟩ := bind_eq_ok.mp h
  obtain ⟨record', hcheck, h⟩ := bind_eq_ok.mp h
  cases h
  have hsame := check_eq hcheck
  obtain ⟨⟨hblank, -⟩, ⟨hshort, -⟩, -⟩ := validateFields_ok.mp hfields
  obtain ⟨hnodup, hfew, hknown⟩ := validate_ok hsources
  have hread : record.check cfg = .ok record := by
    rw [hsame]
    rw [hsame] at hcheck
    exact hcheck
  refine ⟨by rw [hsame], by rw [hsame], ⟨hread, ?_, ?_, ?_, ?_, ?_, ?_, ?_, ?_⟩,
    memories, by rw [hsame]; exact orRaise_eq_ok.mp hinsert, rfl⟩
  all_goals rw [hsame]
  · exact hblank
  · exact hshort
  · exact stored_stored _
  · exact stored_stored _
  · exact hnodup
  · exact hfew
  · exact hknown
  · exact hid

lemma revise_eq_ok {cfg : MemoryConfig} {m m' : MindTables} {r : MindTables.Revision} {id : String} {now : Nat}
    {record : MemoryRow} (h : m.revise cfg id r now = .ok (record, m')) :
    ∃ row, m.memories.find? id = some row ∧ record.memoryId = id ∧ record.subjectId = row.subjectId ∧
      (row.memoryId.length ≤ 64 → Readable cfg m.events record) ∧
      m' = { m with memories := m.memories.replace record } := by
  unfold MindTables.revise at h
  obtain ⟨_, hfields, h⟩ := bind_eq_ok.mp h
  obtain ⟨row, hrow, h⟩ := bind_eq_ok.mp h
  obtain ⟨_, _, h⟩ := bind_eq_ok.mp h
  obtain ⟨sources, hsources, h⟩ := bind_eq_ok.mp h
  obtain ⟨record', hcheck, h⟩ := bind_eq_ok.mp h
  cases h
  have hsame := check_eq hcheck
  have hfind : m.memories.find? id = some row := orRaise_eq_ok.mp hrow
  obtain ⟨⟨hblank, -⟩, ⟨hshort, -⟩, -⟩ := validateFields_ok.mp hfields
  obtain ⟨hnodup, hfew, hknown⟩ := validate_ok hsources
  refine ⟨row, hfind, by rw [hsame]; exact (Table.find?_eq_some.mp hfind).2, by rw [hsame],
    fun hid => ?_, by rw [hsame]⟩
  have hread : record.check cfg = .ok record := by
    rw [hsame]
    rw [hsame] at hcheck
    exact hcheck
  refine ⟨hread, ?_, ?_, ?_, ?_, ?_, ?_, ?_, ?_⟩
  all_goals rw [hsame]
  · exact hblank
  · exact hshort
  · exact stored_stored _
  · exact stored_stored _
  · exact hnodup
  · exact hfew
  · exact hknown
  · exact hid

lemma insert?_of_free {m : Table MemoryRow.memoryId} {row : MemoryRow} (h : m.find? row.memoryId = none) :
    ∃ m', m.insert? row = some m' := by
  unfold Table.insert?
  rw [dif_neg]
  · exact ⟨_, rfl⟩
  · intro hmem
    obtain ⟨x, hx, hk⟩ := List.mem_map.mp hmem
    exact Table.find?_eq_none.mp h x hx hk

/-- A creation whose fields, sources and id are accepted. -/
lemma create_exists {cfg : MemoryConfig} {m : MindTables} {new : MindTables.NewMemory} {id : String}
    {sources : List String} (now : Nat)
    (hfields : validateFields new.content new.salience.value new.confidence.value new.privacyLevel new.reason = .ok ())
    (hsources : m.validateEventIds new.subjectId new.sourceEventIds = .ok sources) (hfree : m.memories.find? id = none)
    (hsalience : stored new.salience = new.salience)
    (hconfidence : stored new.confidence.toFloat = new.confidence.toFloat)
    (hvalue : new.confidence.toFloat.value = new.confidence.value) :
    ∃ record m', m.create cfg new id now = .ok (record, m') := by
  unfold MindTables.create
  rw [hfields, ok_bind, hsources, ok_bind]
  obtain ⟨-, -, hunit, hunit'⟩ := validateFields_ok.mp hfields
  dsimp only
  obtain ⟨memories, hinsert⟩ := @insert?_of_free m.memories
    { memoryId := id
      subjectId := new.subjectId
      memoryType := new.memoryType
      content := new.content
      contentHash := cfg.contentHash new.content
      stateHash := cfg.stateHash new.content new.salience new.confidence.toFloat .active
      salience := stored new.salience
      confidence := stored new.confidence.toFloat
      privacyLevel := new.privacyLevel
      status := .active
      currentRevision := 1
      createdAt := now
      updatedAt := now
      sources := sources } hfree
  rw [hinsert, orRaise_some, ok_bind, check_ok]
  · exact ⟨_, _, rfl⟩
  · rfl
  · dsimp only
    rw [hsalience]
    exact hunit
  · dsimp only
    rw [hconfidence, hvalue]
    exact hunit'
  · exact Nat.le_refl 1
  · dsimp only
    rw [hsalience, hconfidence]

/-- A candidate takes one more source. -/
def Sourced (withdrawn : List String) (c : Candidate) : Prop :=
  c.memory.sources.length < 64 ∧ ∀ e ∈ c.memory.sources, e ∉ withdrawn

lemma validate_append {m : MindTables} {subject e : String} {sources : List String} (hdistinct : sources.Nodup)
    (hknown : ∀ x ∈ sources, m.events.contains (subject, x) = true) (hnew : e ∉ sources)
    (hevent : m.events.contains (subject, e) = true)
    (hopen : e ∉ m.withdrawn) (found : List String) :
    m.validateEventIds subject (sources ++ [e]) = .ok found ↔
      (sources.length < 64 ∧ ∀ x ∈ sources, x ∉ m.withdrawn) ∧ found = sources ++ [e] := by
  have hids : fromkeys (sources ++ [e]) = sources ++ [e] := by
    rw [fromkeys_append, fromkeys_of_nodup hdistinct, if_neg hnew]
  have hall : (sources ++ [e]).all (fun x => m.events.contains (subject, x)) = true := by
    rw [List.all_eq_true]
    intro x hx
    rcases List.mem_append.mp hx with hx | hx
    · exact hknown x hx
    · rw [List.mem_singleton.mp hx]
      exact hevent
  unfold MindTables.validateEventIds
  rw [hids]
  dsimp only
  rw [raiseIf_neg (by simp), ok_bind]
  constructor
  · intro h
    obtain ⟨_, hmany, h⟩ := bind_eq_ok.mp h
    obtain ⟨_, -, h⟩ := bind_eq_ok.mp h
    obtain ⟨_, hwithdrawn, h⟩ := bind_eq_ok.mp h
    cases h
    have hmany := raiseIf_eq_ok.mp hmany
    have hwithdrawn := raiseIf_eq_ok.mp hwithdrawn
    rw [List.length_append, List.length_singleton] at hmany
    rw [List.any_eq_true] at hwithdrawn
    refine ⟨⟨by omega, fun x hx hmem => hwithdrawn ⟨x, List.mem_append_left _ hx, ?_⟩⟩, rfl⟩
    exact List.contains_iff_mem.mpr hmem
  · rintro ⟨⟨hfew, hclean⟩, rfl⟩
    rw [raiseIf_neg (by rw [List.length_append, List.length_singleton]; omega), ok_bind,
      raiseIf_neg (by rw [hall]; simp), ok_bind, raiseIf_neg, ok_bind]
    rw [List.any_eq_true]
    rintro ⟨x, hx, hmem⟩
    rcases List.mem_append.mp hx with hx | hx
    · exact hclean x hx (List.contains_iff_mem.mp hmem)
    · exact hopen (List.mem_singleton.mp hx ▸ List.contains_iff_mem.mp hmem)

/-- The row of a revised candidate. -/
def revisedRow (cfg : ConsolidationConfig) (r : Readings) (c : Candidate) (salience : Double) (status : MemoryStatus) :
    MemoryRow :=
  { c.memory with
    contentHash := cfg.contentHash c.memory.content
    stateHash := cfg.stateHash c.memory.content salience c.memory.confidence status
    salience := stored salience
    confidence := stored c.memory.confidence
    status := status
    currentRevision := c.memory.currentRevision + 1
    updatedAt := r.revisedAt c.id
    sources := c.memory.sources ++ [r.eventId] }

/-- What the loop relies on in the tables it starts from. -/
structure Base (cfg : ConsolidationConfig) (start : ConsolidationTables) (r : Readings) : Prop where
  readable : ∀ row ∈ start.memories, Readable cfg.toMemoryConfig start.events row
  event : start.events.contains (cfg.subjectId, r.eventId) = true
  event_open : r.eventId ∉ start.withdrawn
  event_new : ∀ row ∈ start.memories, r.eventId ∉ row.sources
  summary_free : ∀ k, start.memories.find? (r.summaryId k) = none
  summary_short : ∀ k, (r.summaryId k).length ≤ 64

/-- A candidate of the tables. -/
structure IsCandidate (cfg : ConsolidationConfig) (start : ConsolidationTables) (c : Candidate) : Prop where
  found : start.memories.find? c.id = some c.memory
  subject : c.memory.subjectId = cfg.subjectId
  active : c.memory.status = .active

section Revise

variable {cfg : ConsolidationConfig} {start t t' : ConsolidationTables} {r : Readings} {c : Candidate}
  {salience : Double} {status : MemoryStatus}
  {reason : String}

lemma IsCandidate.mem (h : IsCandidate cfg start c) : c.memory ∈ start.memories := (Table.find?_eq_some.mp h.found).1

lemma revisedRow_readable (hb : Base cfg start r) (hc : IsCandidate cfg start c)
    (hsalience : isUnit salience.value = true)
    (hstored : stored salience = salience) (hfew : c.memory.sources.length < 64) (status : MemoryStatus) :
    Readable cfg.toMemoryConfig start.events (revisedRow cfg r c salience status) := by
  have hread := hb.readable _ hc.mem
  refine ⟨?_, hread.content, hread.short, stored_stored _, stored_stored _, ?_, ?_, ?_, hread.id_short⟩
  · unfold revisedRow
    apply check_ok
    · rfl
    · dsimp only
      rw [hstored]
      exact hsalience
    · dsimp only
      rw [hread.confidence]
      exact hread.units.2
    · exact Nat.le_add_left 1 _
    · dsimp only
      rw [hstored, hread.confidence]
  · exact List.nodup_append.mpr ⟨hread.distinct, List.nodup_singleton _, fun a ha b hb' heq => hb.event_new _ hc.mem (by
      rw [List.mem_singleton.mp hb'] at heq
      exact heq ▸ ha)⟩
  · unfold revisedRow
    rw [List.length_append, List.length_singleton]
    omega
  · intro e he
    rcases List.mem_append.mp he with he | he
    · exact hread.known e he
    · rw [List.mem_singleton.mp he]
      change start.events.contains (c.memory.subjectId, r.eventId) = true
      rw [hc.subject]
      exact hb.event

lemma private_nonblank : strip "private" ≠ "" := strip_ne_empty (c := 'p') rfl (by decide)

/-- A revision of a candidate succeeds exactly when there is a place for one more source and none is withdrawn. -/
lemma reviseCandidate_eq_ok (hb : Base cfg start r) (hc : IsCandidate cfg start c) (hevents : t.events = start.events)
    (hwithdrawn : t.withdrawn = start.withdrawn) (hfind : t.memories.find? c.id = some c.memory)
    (hsalience : isUnit salience.value = true)
    (hstored : stored salience = salience) (hreason : strip reason ≠ "" ∧ reason.length ≤ 10000) :
    t.reviseCandidate cfg r c salience status reason = .ok t' ↔
      Sourced start.withdrawn c ∧
        t' = t.withMind { t.toMindTables with memories := t.memories.replace (revisedRow cfg r c salience
          status) } := by
  have hread := hb.readable _ hc.mem
  have hfields : validateFields c.memory.content salience.value c.memory.confidence.value "private" reason = .ok () :=
    validateFields_ok.mpr ⟨⟨hread.content, private_nonblank, hreason.1⟩, ⟨hread.short, hreason.2, by decide⟩,
      hsalience, hread.units.2⟩
  have hvalidate := @validate_append t.toMindTables c.memory.subjectId r.eventId c.memory.sources hread.distinct
    (fun x hx => by rw [hevents]; exact hread.known x hx) (hb.event_new _ hc.mem)
      (by rw [hevents, hc.subject]; exact hb.event)
    (by rw [hwithdrawn]; exact hb.event_open)
  unfold ConsolidationTables.reviseCandidate MindTables.revise MindTables.getRow
  dsimp only
  rw [hfields, ok_bind, hfind, orRaise_some, ok_bind, raiseIf_neg (by simp), ok_bind]
  constructor
  · intro h
    obtain ⟨⟨record, mind⟩, hrevise, h⟩ := bind_eq_ok.mp h
    obtain ⟨sources, hsources, hrevise⟩ := bind_eq_ok.mp hrevise
    obtain ⟨hsourced, hids⟩ := (hvalidate sources).mp hsources
    obtain ⟨record', hcheck, hrevise⟩ := bind_eq_ok.mp hrevise
    cases hrevise
    cases h
    subst hids
    exact ⟨⟨hsourced.1, fun e he => hwithdrawn ▸ hsourced.2 e he⟩, rfl⟩
  · rintro ⟨⟨hfew, hclean⟩, rfl⟩
    rw [(hvalidate _).mpr ⟨⟨hfew, fun e he => hwithdrawn ▸ hclean e he⟩, rfl⟩, ok_bind]
    have hcheck := (revisedRow_readable hb hc hsalience hstored hfew status).read
    unfold revisedRow at hcheck
    rw [hcheck]
    rfl

end Revise

/-! ### The loop -/

/-- How many of the candidates reviewed so far are losers or fading. -/
def leaving (cfg : ConsolidationConfig) (r : Readings) (cs before : List Candidate) : Nat :=
  (before.filter (fun x => (duplicateKeeper cfg cs x).isSome || x.fading cfg r.now)).length

/-- A fading candidate that comes before the minimum is reached. -/
def Fades (cfg : ConsolidationConfig) (r : Readings) (cs before : List Candidate) (c : Candidate) : Prop :=
  duplicateKeeper cfg cs c = none ∧ c.fading cfg r.now = true ∧
    cfg.minimumActiveMemories < (cs.length : ℤ) - leaving cfg r cs before

def Leaves (cfg : ConsolidationConfig) (r : Readings) (cs before : List Candidate) (c : Candidate) : Prop :=
  (duplicateKeeper cfg cs c).isSome = true ∨ Fades cfg r cs before c

/-- A candidate that the run revises. -/
def Revised (cfg : ConsolidationConfig) (r : Readings) (cs before : List Candidate) (c : Candidate) : Prop :=
  Leaves cfg r cs before c ∨ c.recalled = true

/-- The memories while the loop runs: those in `done` are reviewed, those in `archived` archived, and those in `made`
are new. -/
structure Memories (cfg : ConsolidationConfig) (start : ConsolidationTables) (done archived made : List String)
    (m : Table MemoryRow.memoryId) : Prop where
  readable : ∀ row ∈ m, Readable cfg.toMemoryConfig start.events row
  rest : ∀ k, k ∉ done → ∀ row, start.memories.find? k = some row → m.find? k = some row
  kept : ∀ k row, start.memories.find? k = some row → ∃ row', m.find? k = some row' ∧ row'.content = row.content ∧
    row'.confidence = row.confidence ∧ row'.subjectId = row.subjectId ∧
      row'.status = if k ∈ archived then .archived else row.status
  fresh : ∀ k, start.memories.find? k = none → k ∉ made → m.find? k = none

section Memories

variable {cfg : ConsolidationConfig} {start : ConsolidationTables} {done archived made : List String}
  {m m' : Table MemoryRow.memoryId}

lemma Memories.initial (h : ∀ row ∈ start.memories, Readable cfg.toMemoryConfig start.events row) :
    Memories cfg start [] [] [] start.memories :=
  ⟨h, fun _ _ _ hrow => hrow, fun _ row hrow => ⟨row, hrow, rfl, rfl, rfl, by simp⟩, fun _ hk _ => hk⟩

lemma Memories.review (h : Memories cfg start done archived made m) (k : String) :
    Memories cfg start (done ++ [k]) archived made m :=
  ⟨h.readable, fun j hj => h.rest j (fun hmem => hj (List.mem_append_left _ hmem)), h.kept, h.fresh⟩

/-- A reviewed row is replaced. -/
lemma Memories.replace (h : Memories cfg start done archived made m) {row row' : MemoryRow}
    (hdone : row'.memoryId ∉ done)
    (hrow : start.memories.find? row'.memoryId = some row) (hread : Readable cfg.toMemoryConfig start.events row')
    (hcontent : row'.content = row.content) (hconfidence : row'.confidence = row.confidence)
    (hsubject : row'.subjectId = row.subjectId)
    {archived' : List String} (harchived : ∀ k, k ≠ row'.memoryId → (k ∈ archived' ↔ k ∈ archived))
    (hstatus : row'.status = if row'.memoryId ∈ archived' then .archived else row.status) :
    Memories cfg start (done ++ [row'.memoryId]) archived' made (m.replace row') := by
  have hfind := h.rest _ hdone _ hrow
  refine ⟨fun x hx => ?_, fun k hk x hx => ?_, fun k x hx => ?_, fun k hk hmade => ?_⟩
  · rcases Table.mem_replace.mp hx with ⟨rfl, -⟩ | ⟨hx, -⟩
    · exact hread
    · exact h.readable x hx
  · rw [Table.find?_replace_ne (fun heq => hk (List.mem_append_right _ (List.mem_singleton.mpr heq)))]
    exact h.rest k (fun hmem => hk (List.mem_append_left _ hmem)) x hx
  · by_cases hk : k = row'.memoryId
    · subst hk
      rw [hrow] at hx
      cases hx
      exact ⟨row', Table.find?_replace_self hfind, hcontent, hconfidence, hsubject, hstatus⟩
    · obtain ⟨y, hy, hy'⟩ := h.kept k x hx
      refine ⟨y, by rw [Table.find?_replace_ne hk, hy], ?_⟩
      simp only [harchived k hk]
      exact hy'
  · rw [Table.find?_replace_ne (fun heq => by rw [heq, hrow] at hk; cases hk)]
    exact h.fresh k hk hmade

/-- A new row is appended. -/
lemma Memories.insert (h : Memories cfg start done archived made m) {row : MemoryRow}
    (hnew : start.memories.find? row.memoryId = none)
    (hread : Readable cfg.toMemoryConfig start.events row) (hinsert : m.insert? row = some m') :
    Memories cfg start done archived (made ++ [row.memoryId]) m' := by
  have hfind := Table.find?_insert hinsert
  have hother : ∀ k x, start.memories.find? k = some x → k ≠ row.memoryId := by
    intro k x hx heq
    rw [heq, hnew] at hx
    cases hx
  refine ⟨fun x hx => ?_, fun k hk x hx => ?_, fun k x hx => ?_, fun k hk hmade => ?_⟩
  · have hx' : m'.find? x.memoryId = some x := Table.find?_key hx
    rw [hfind] at hx'
    by_cases hkey : x.memoryId = row.memoryId
    · rw [if_pos hkey] at hx'
      cases hx'
      exact hread
    · rw [if_neg hkey] at hx'
      exact h.readable x (Table.find?_eq_some.mp hx').1
  · rw [hfind, if_neg (hother k x hx)]
    exact h.rest k hk x hx
  · obtain ⟨y, hy, hy'⟩ := h.kept k x hx
    exact ⟨y, by rw [hfind, if_neg (hother k x hx), hy], hy'⟩
  · rw [hfind, if_neg (fun heq => hmade (List.mem_append_right _ (List.mem_singleton.mpr heq)))]
    exact h.fresh k hk (fun hmem => hmade (List.mem_append_left _ hmem))

end Memories

/-- What holds when the candidates `pre` are reviewed. -/
structure Loop (cfg : ConsolidationConfig) (start : ConsolidationTables) (r : Readings) (cs pre : List Candidate)
    (p : Progress) : Prop where
  tables : p.tables = start.withMind { start.toMindTables with memories := p.tables.memories }
  memories : Memories cfg start (pre.map Candidate.id) p.archived p.summaries p.tables.memories
  count : p.activeCount = (cs.length : ℤ) - p.archived.length
  active : p.activeCount = (cs.length : ℤ) - leaving cfg r cs pre ∨
    (p.activeCount ≤ cfg.minimumActiveMemories ∧ (cs.length : ℤ) - leaving cfg r cs pre ≤ p.activeCount)
  strengthened : p.strengthened.Sublist (pre.map Candidate.id)
  summaries : p.summaries.Sublist (pre.map (fun c => r.summaryId c.id))
  sources : p.verdicts.map Verdict.source = pre.map Candidate.id
  archived : p.archived = (p.verdicts.filter (fun v => v.disposition.archives)).map Verdict.source
  duplicates : ∀ v ∈ p.verdicts, v.disposition = .archivedDuplicate → ∃ d ∈ pre, v.source = d.id ∧
    (duplicateKeeper cfg cs d).isSome = true ∧ v.result = duplicateKeeper cfg cs d
  losers : ∀ d ∈ pre, (duplicateKeeper cfg cs d).isSome = true → ∃ v ∈ p.verdicts, v.disposition = .archivedDuplicate ∧
    v.result = duplicateKeeper cfg cs d
  leaves : ∀ before d after, pre = before ++ d :: after → (d.id ∈ p.archived ↔ Leaves cfg r cs before d)
  minimum : ∀ before v after, p.verdicts = before ++ v :: after → v.disposition = .summarized →
    cfg.minimumActiveMemories ≤ (cs.length : ℤ) - ((before ++ [v]).filter (fun v => v.disposition.archives)).length

section Loop

variable {cfg : ConsolidationConfig} {start : ConsolidationTables} {r : Readings} {cs pre post : List Candidate}
  {c : Candidate} {p p' : Progress}

/-- A list that ends with `x`, cut at one of its elements. -/
lemma append_singleton_eq {α : Type} {l before after : List α} {x y : α} (h : l ++ [x] = before ++ y :: after) :
    (l = before ∧ x = y ∧ after = []) ∨ ∃ rest, l = before ++ y :: rest ∧ after = rest ++ [x] := by
  rcases List.eq_nil_or_concat after with rfl | ⟨rest, z, rfl⟩
  · left
    have hsame := List.append_inj' h rfl
    exact ⟨hsame.1, List.head_eq_of_cons_eq hsame.2, rfl⟩
  · right
    rw [List.concat_eq_append, ← List.cons_append, ← List.append_assoc] at h
    have hsame := List.append_inj' h rfl
    exact ⟨rest, hsame.1, by rw [List.concat_eq_append, List.head_eq_of_cons_eq hsame.2]⟩

lemma leaving_append (pre : List Candidate) (c : Candidate) :
    leaving cfg r cs (pre ++ [c]) = leaving cfg r cs pre +
      if ((duplicateKeeper cfg cs c).isSome || c.fading cfg r.now) = true then 1 else 0 := by
  unfold leaving
  rw [List.filter_append, List.length_append, List.filter_singleton]
  by_cases h : ((duplicateKeeper cfg cs c).isSome || c.fading cfg r.now) = true
  · rw [if_pos h, h]
    rfl
  · rw [if_neg h, Bool.eq_false_of_not_eq_true h]
    rfl

lemma Loop.archived_mem (h : Loop cfg start r cs pre p) {k : String} (hk : k ∈ p.archived) :
    k ∈ pre.map Candidate.id := by
  rw [h.archived] at hk
  obtain ⟨v, hv, rfl⟩ := List.mem_map.mp hk
  rw [← h.sources]
  exact List.mem_map_of_mem (List.mem_filter.mp hv).1

/-- A list of identifiers to which the candidate under review is added or not. -/
lemma sublist_advance {l l' next : List String} {x : String} (h : l.Sublist l') (hnext : next = l ∨ next = l ++ [x]) :
    next.Sublist (l' ++ [x]) := by
  rcases hnext with rfl | rfl
  · exact h.trans (List.sublist_append_left _ _)
  · exact h.append (List.Sublist.refl _)

/-- Whether the candidate leaves is decided before the step by the counts alone. -/
lemma Loop.active_advance (h : Loop cfg start r cs pre p) {archives : Bool}
    (hleaves : archives = true ↔ Leaves cfg r cs pre c) {count : ℤ}
    (hcount : count = p.activeCount - if archives = true then 1 else 0) :
    count = (cs.length : ℤ) - leaving cfg r cs (pre ++ [c]) ∨
      (count ≤ cfg.minimumActiveMemories ∧ (cs.length : ℤ) - leaving cfg r cs (pre ++ [c]) ≤ count) := by
  rw [leaving_append, hcount]
  have hactive := h.active
  unfold Leaves Fades at hleaves
  by_cases hkeeper : (duplicateKeeper cfg cs c).isSome = true
  · have hv : archives = true := hleaves.mpr (.inl hkeeper)
    rw [if_pos hv, if_pos (by rw [hkeeper, Bool.true_or])]
    omega
  · have hnone : duplicateKeeper cfg cs c = none := by rwa [Option.isSome_iff_ne_none, not_not] at hkeeper
    by_cases hfading : c.fading cfg r.now = true
    · have hor : ((duplicateKeeper cfg cs c).isSome || c.fading cfg r.now) = true := by rw [hfading, Bool.or_true]
      rw [if_pos hor]
      by_cases hv : archives = true
      · obtain hkeep | ⟨-, -, hless⟩ := hleaves.mp hv
        · exact absurd hkeep hkeeper
        · rw [if_pos hv]
          omega
      · have hless : ¬ cfg.minimumActiveMemories < (cs.length : ℤ) - leaving cfg r cs pre :=
          fun hless => hv (hleaves.mpr (.inr ⟨hnone, hfading, hless⟩))
        rw [if_neg hv]
        omega
    · have hv : ¬ archives = true := by
        intro hv
        obtain hkeep | ⟨-, hfade, -⟩ := hleaves.mp hv
        · exact hkeeper hkeep
        · exact hfading hfade
      have hor : ¬ ((duplicateKeeper cfg cs c).isSome || c.fading cfg r.now) = true := by
        rw [Bool.or_eq_true]
        exact fun hor => hor.elim hkeeper hfading
      rw [if_neg hv, if_neg hor]
      omega

lemma Loop.leaves_advance (h : Loop cfg start r cs pre p) (hid : c.id ∉ pre.map Candidate.id) {archives : Bool}
    (hleaves : archives = true ↔ Leaves cfg r cs pre c) {before after : List Candidate} {d : Candidate}
    (hcut : pre ++ [c] = before ++ d :: after) :
    d.id ∈ p.archived ++ (if archives = true then [c.id] else []) ↔ Leaves cfg r cs before d := by
  have hmem : ∀ k, k ∈ (if archives = true then [c.id] else []) ↔ archives = true ∧ k = c.id := by
    intro k
    cases archives <;> simp
  rw [List.mem_append, hmem]
  rcases append_singleton_eq hcut with ⟨rfl, rfl, -⟩ | ⟨rest, hpre, -⟩
  · rw [← hleaves]
    constructor
    · rintro (hold | hnew)
      · exact absurd (h.archived_mem hold) hid
      · exact hnew.1
    · exact fun hv => .inr ⟨hv, rfl⟩
  · rw [← h.leaves before d rest hpre]
    have hd : d.id ∈ pre.map Candidate.id := by
      rw [hpre]
      exact List.mem_map_of_mem (List.mem_append_right _ List.mem_cons_self)
    constructor
    · rintro (hold | hnew)
      · exact hold
      · exact absurd (hnew.2 ▸ hd) hid
    · exact Or.inl

/-- One more candidate is reviewed. -/
lemma Loop.advance (h : Loop cfg start r cs pre p) {v : Verdict} (hid : c.id ∉ pre.map Candidate.id)
    (hsource : v.source = c.id) (hverdicts : p'.verdicts = p.verdicts ++ [v])
    (harchived : p'.archived = p.archived ++ if v.disposition.archives = true then [c.id] else [])
    (hcount : p'.activeCount = p.activeCount - if v.disposition.archives = true then 1 else 0)
    (hleaves : v.disposition.archives = true ↔ Leaves cfg r cs pre c)
    (htables : p'.tables = start.withMind { start.toMindTables with memories := p'.tables.memories })
    (hmemories : Memories cfg start ((pre ++ [c]).map Candidate.id) p'.archived p'.summaries p'.tables.memories)
    (hstrengthened : p'.strengthened = p.strengthened ∨ p'.strengthened = p.strengthened ++ [c.id])
    (hsummaries : p'.summaries = p.summaries ∨ p'.summaries = p.summaries ++ [r.summaryId c.id])
    (hduplicate : v.disposition = .archivedDuplicate ↔ (duplicateKeeper cfg cs c).isSome = true)
    (hresult : v.disposition = .archivedDuplicate → v.result = duplicateKeeper cfg cs c)
    (hminimum : v.disposition = .summarized → cfg.minimumActiveMemories < p.activeCount) :
    Loop cfg start r cs (pre ++ [c]) p' := by
  refine ⟨htables, hmemories, ?_, h.active_advance hleaves hcount, ?_, ?_, ?_, ?_, ?_, ?_, ?_, ?_⟩
  · rw [hcount, harchived, h.count, List.length_append]
    by_cases hv : v.disposition.archives = true
    · rw [if_pos hv, if_pos hv, List.length_singleton]
      omega
    · rw [if_neg hv, if_neg hv, List.length_nil]
      omega
  · rw [List.map_append]
    exact sublist_advance h.strengthened hstrengthened
  · rw [List.map_append]
    exact sublist_advance h.summaries hsummaries
  · rw [hverdicts, List.map_append, List.map_append, h.sources, List.map_singleton, List.map_singleton, hsource]
  · rw [hverdicts, harchived, List.filter_append, List.map_append, ← h.archived, List.filter_singleton]
    by_cases hv : v.disposition.archives = true
    · rw [if_pos hv, hv, cond_true, List.map_singleton, hsource]
    · rw [if_neg hv, Bool.eq_false_of_not_eq_true hv, cond_false, List.map_nil]
  · intro w hw hdisposition
    rw [hverdicts, List.mem_append, List.mem_singleton] at hw
    rcases hw with hw | rfl
    · obtain ⟨d, hd, hrest⟩ := h.duplicates w hw hdisposition
      exact ⟨d, List.mem_append_left _ hd, hrest⟩
    · exact ⟨c, List.mem_append_right _ (List.mem_singleton_self c), hsource, hduplicate.mp hdisposition,
        hresult hdisposition⟩
  · intro d hd hkeeper
    rw [hverdicts]
    rcases List.mem_append.mp hd with hd | hd
    · obtain ⟨w, hw, hrest⟩ := h.losers d hd hkeeper
      exact ⟨w, List.mem_append_left _ hw, hrest⟩
    · rw [List.mem_singleton.mp hd] at hkeeper ⊢
      have hdisposition := hduplicate.mpr hkeeper
      exact ⟨v, List.mem_append_right _ (List.mem_singleton_self v), hdisposition, hresult hdisposition⟩
  · intro before d after hcut
    rw [harchived]
    exact h.leaves_advance hid hleaves hcut
  · intro before w after hcut hdisposition
    rw [hverdicts] at hcut
    rcases append_singleton_eq hcut with ⟨rfl, rfl, -⟩ | ⟨rest, hpre, -⟩
    · have hless := hminimum hdisposition
      have hlength : (p.verdicts.filter (fun v => v.disposition.archives)).length = p.archived.length := by
        rw [h.archived, List.length_map]
      have harchives : v.disposition.archives = true := by
        rw [hdisposition]
        rfl
      rw [List.filter_append, List.length_append, hlength, List.filter_singleton, harchives, cond_true,
        List.length_singleton]
      have hactive := h.count
      omega
    · exact h.minimum before w rest hpre hdisposition

end Loop

/-! ### Duplicates -/

section Duplicates

variable {cfg : ConsolidationConfig} {cs : List Candidate} {c : Candidate} {keeper : String}

/-- A keeper is a candidate, and has no keeper itself. -/
lemma keeper_spec (h : duplicateKeeper cfg cs c = some keeper) :
    ∃ d ∈ cs, d.id = keeper ∧ duplicateKeeper cfg cs d = none := by
  unfold duplicateKeeper at h
  obtain ⟨hhead, -⟩ := Option.filter_eq_some_iff.mp h
  obtain ⟨d, hd, rfl⟩ := Option.map_eq_some_iff.mp hhead
  have hmem : d ∈ groupOf cfg cs c := List.mem_of_head? hd
  unfold groupOf at hmem
  rw [List.mem_insertionSort, List.mem_filter, decide_eq_true_eq] at hmem
  refine ⟨d, hmem.1, rfl, ?_⟩
  have hgroup : groupOf cfg cs d = groupOf cfg cs c := by
    unfold groupOf
    rw [hmem.2]
  unfold duplicateKeeper
  rw [hgroup, hd, Option.map_some, Option.filter_some, if_neg (by simp)]

end Duplicates

/-! ### One candidate -/

section Review

variable {cfg : ConsolidationConfig} {start : ConsolidationTables} {r : Readings} {cs pre post : List Candidate}
  {c : Candidate} {p p' : Progress}

/-- The candidates of a run. -/
structure Ready (cfg : ConsolidationConfig) (start : ConsolidationTables) (r : Readings) (cs : List Candidate) :
    Prop extends Base cfg start r where
  candidates : ∀ c ∈ cs, IsCandidate cfg start c
  distinct : (cs.map Candidate.id).Nodup
  summary_distinct : ∀ c ∈ cs, ∀ d ∈ cs, r.summaryId c.id = r.summaryId d.id → c.id = d.id

/-- The candidate of a step of the loop. -/
structure Turn (cfg : ConsolidationConfig) (start : ConsolidationTables) (r : Readings) (cs pre : List Candidate)
    (c : Candidate) (p : Progress) : Prop extends Ready cfg start r cs, Loop cfg start r cs pre p where
  mem : c ∈ cs
  reviewed : ∀ d ∈ pre, d ∈ cs
  waiting : c.id ∉ pre.map Candidate.id

lemma Turn.candidate (h : Turn cfg start r cs pre c p) : IsCandidate cfg start c := h.candidates c h.mem

lemma Turn.found (h : Turn cfg start r cs pre c p) : p.tables.memories.find? c.id = some c.memory :=
  h.memories.rest c.id h.waiting c.memory h.candidate.found

lemma Turn.events (h : Turn cfg start r cs pre c p) : p.tables.events = start.events := by
  rw [h.tables]
  rfl

lemma Turn.withdrawn (h : Turn cfg start r cs pre c p) : p.tables.withdrawn = start.withdrawn := by
  rw [h.tables]
  rfl

lemma Turn.unarchived (h : Turn cfg start r cs pre c p) : c.id ∉ p.archived :=
  fun hmem => h.waiting (h.archived_mem hmem)

/-- The candidate fades when the number of active memories is still above the minimum. -/
lemma Turn.fades_iff (h : Turn cfg start r cs pre c p) (hnone : duplicateKeeper cfg cs c = none) :
    Fades cfg r cs pre c ↔ c.fading cfg r.now = true ∧ cfg.minimumActiveMemories < p.activeCount := by
  have hactive := h.active
  unfold Fades
  constructor
  · rintro ⟨-, hfading, hless⟩
    exact ⟨hfading, by omega⟩
  · rintro ⟨hfading, hless⟩
    exact ⟨hnone, hfading, by omega⟩

lemma not_fading_of_recalled (h : c.recalled = true) : c.fading cfg r.now = false := by
  unfold Candidate.recalled at h
  unfold Candidate.fading
  have hcount : ¬ c.accessCount = 0 := by
    rw [Bool.and_eq_true, decide_eq_true_eq] at h
    omega
  rw [decide_eq_false hcount, Bool.and_false, Bool.and_false, Bool.false_and]

/-- The tables after a candidate is revised. -/
lemma Turn.revised (h : Turn cfg start r cs pre c p) {salience : Double} {status : MemoryStatus}
    (hsalience : isUnit salience.value = true)
    (hstored : stored salience = salience) (hfew : c.memory.sources.length < 64) {made : List String}
    {m : Table MemoryRow.memoryId}
    (hm : Memories cfg start (pre.map Candidate.id) p.archived made m) {archived : List String}
    (harchived : archived = p.archived ++ if status = .archived then [c.id] else [])
    (hstatus : status = .archived ∨ status = .active) :
    Memories cfg start ((pre ++ [c]).map Candidate.id) archived made
      (m.replace (revisedRow cfg r c salience status)) := by
  have hc := h.candidate
  rw [List.map_append, List.map_singleton]
  have hnext := @Memories.replace cfg start (pre.map Candidate.id) p.archived made m hm c.memory
      (revisedRow cfg r c salience status)
    h.waiting hc.found (revisedRow_readable h.toBase hc hsalience hstored hfew status) rfl
    (h.readable _ hc.mem).confidence rfl archived
  refine hnext (fun k hk => ?_) ?_
  · rw [harchived, List.mem_append]
    constructor
    · rintro (hmem | hmem)
      · exact hmem
      · by_cases hs : status = .archived
        · rw [if_pos hs] at hmem
          exact absurd (List.mem_singleton.mp hmem) hk
        · rw [if_neg hs] at hmem
          cases hmem
    · exact Or.inl
  · change status = if c.id ∈ archived then _ else c.memory.status
    rcases hstatus with rfl | rfl
    · rw [if_pos]
      rw [harchived]
      exact List.mem_append_right _ (List.mem_singleton_self _)
    · rw [if_neg, hc.active]
      rw [harchived, if_neg (by decide), List.append_nil]
      exact h.unarchived

lemma Turn.salience (h : Turn cfg start r cs pre c p) :
    isUnit c.memory.salience.value = true ∧ stored c.memory.salience = c.memory.salience :=
  have hread := h.readable _ h.candidate.mem
  ⟨hread.units.1, hread.salience⟩

lemma blank_of_head {s : String} {x : Char} {xs : List Char} (t : String) (hs : s.toList = x :: xs)
    (hx : isSpace x = false) : strip (s ++ t) ≠ "" :=
  strip_ne_empty (by rw [String.toList_append, hs]; rfl) hx

/-- A loser is archived when it takes one more source. -/
lemma Turn.archiveDuplicate (h : Turn cfg start r cs pre c p) {keeper : String}
    (hkeeper : duplicateKeeper cfg cs c = some keeper) :
    ((∃ p', archiveDuplicate cfg r c keeper p = .ok p') ↔ Sourced start.withdrawn c) ∧
      ∀ p', archiveDuplicate cfg r c keeper p = .ok p' → Loop cfg start r cs (pre ++ [c]) p' := by
  have hreason : strip ("duplicate consolidated into " ++ keeper) ≠ "" ∧
      ("duplicate consolidated into " ++ keeper).length ≤ 10000 := by
    obtain ⟨d, hd, rfl, -⟩ := keeper_spec hkeeper
    refine ⟨@blank_of_head "duplicate consolidated into " 'd' "uplicate consolidated into ".toList d.id
      rfl (by decide), ?_⟩
    have hshort := (h.readable _ (h.candidates d hd).mem).id_short
    rw [String.length_append]
    change 28 + d.memory.memoryId.length ≤ 10000
    omega
  have hrevise := fun t' => @reviseCandidate_eq_ok cfg start p.tables t' r c c.memory.salience .archived _ h.toBase
      h.candidate h.events
    h.withdrawn h.found h.salience.1 h.salience.2 hreason
  unfold Noyra.Mind.archiveDuplicate
  refine ⟨⟨?_, fun hsourced => ?_⟩, fun p' hp' => ?_⟩
  · rintro ⟨p', hp'⟩
    obtain ⟨t', ht', -⟩ := bind_eq_ok.mp hp'
    exact ((hrevise t').mp ht').1
  · rw [(hrevise _).mpr ⟨hsourced, rfl⟩, ok_bind]
    exact ⟨_, rfl⟩
  · obtain ⟨t', ht', hp'⟩ := bind_eq_ok.mp hp'
    obtain ⟨hsourced, rfl⟩ := (hrevise t').mp ht'
    cases hp'
    apply h.toLoop.advance (v := ⟨c.id, some keeper, .archivedDuplicate, "exact duplicate"⟩) h.waiting rfl rfl rfl rfl
    · exact ⟨fun _ => .inl (by rw [hkeeper]; rfl), fun _ => rfl⟩
    · dsimp only
      rw [h.tables]
      rfl
    · exact h.revised h.salience.1 h.salience.2 hsourced.1 h.memories rfl (.inl rfl)
    · exact .inl rfl
    · exact .inl rfl
    · rw [hkeeper]
      simp
    · intro _
      exact hkeeper.symm
    · intro hv
      cases hv

/-- A recalled candidate is strengthened when it takes one more source. -/
lemma Turn.strengthenCandidate (h : Turn cfg start r cs pre c p) (hkeeper : duplicateKeeper cfg cs c = none)
    (hrecalled : c.recalled = true) :
    ((∃ p', strengthenCandidate cfg r c p = .ok p') ↔ Sourced start.withdrawn c) ∧
      ∀ p', strengthenCandidate cfg r c p = .ok p' → Loop cfg start r cs (pre ++ [c]) p' := by
  have hunit := h.salience.1
  unfold isUnit at hunit
  rw [Bool.and_eq_true, decide_eq_true_eq, decide_eq_true_eq] at hunit
  have hcount : 3 ≤ c.accessCount := by
    unfold Candidate.recalled at hrecalled
    rw [Bool.and_eq_true, decide_eq_true_eq] at hrecalled
    exact hrecalled.1
  obtain ⟨hpos, hone⟩ := cfg.strengthen_pos c.memory.salience c.accessCount hunit.1 hunit.2 hcount
  have hsalience : isUnit (cfg.strengthen c.memory.salience c.accessCount).value = true := by
    unfold isUnit
    rw [Bool.and_eq_true, decide_eq_true_eq, decide_eq_true_eq]
    exact ⟨le_of_lt hpos, hone⟩
  have hstored : stored (cfg.strengthen c.memory.salience c.accessCount) =
      cfg.strengthen c.memory.salience c.accessCount := by
    unfold stored
    rw [if_neg (ne_of_gt hpos)]
  have hreason : strip "repeated contextual recall strengthened accessibility" ≠ "" ∧
      "repeated contextual recall strengthened accessibility".length ≤ 10000 :=
        ⟨strip_ne_empty (c := 'r') rfl (by decide), by decide⟩
  have hrevise := fun t' => @reviseCandidate_eq_ok cfg start p.tables t' r c
      (cfg.strengthen c.memory.salience c.accessCount) .active _ h.toBase
    h.candidate h.events h.withdrawn h.found hsalience hstored hreason
  unfold Noyra.Mind.strengthenCandidate
  refine ⟨⟨?_, fun hsourced => ?_⟩, fun p' hp' => ?_⟩
  · rintro ⟨p', hp'⟩
    obtain ⟨t', ht', -⟩ := bind_eq_ok.mp hp'
    exact ((hrevise t').mp ht').1
  · rw [(hrevise _).mpr ⟨hsourced, rfl⟩, ok_bind]
    exact ⟨_, rfl⟩
  · obtain ⟨t', ht', hp'⟩ := bind_eq_ok.mp hp'
    obtain ⟨hsourced, rfl⟩ := (hrevise t').mp ht'
    cases hp'
    apply h.toLoop.advance (v := ⟨c.id, some c.id, .strengthened, "repeated recall"⟩) h.waiting rfl rfl
    · exact (List.append_nil _).symm
    · exact (sub_zero _).symm
    · constructor
      · intro hv
        cases hv
      · rintro (hk | ⟨-, hfading, -⟩)
        · rw [hkeeper] at hk
          cases hk
        · rw [not_fading_of_recalled hrecalled] at hfading
          cases hfading
    · dsimp only
      rw [h.tables]
      rfl
    · exact h.revised hsalience hstored hsourced.1 h.memories (List.append_nil _).symm (.inr rfl)
    · exact .inr rfl
    · exact .inl rfl
    · rw [hkeeper]
      simp
    · intro hv
      cases hv
    · intro hv
      cases hv

/-- A candidate that nothing happens to. -/
lemma Turn.retain (h : Turn cfg start r cs pre c p) (hkeeper : duplicateKeeper cfg cs c = none)
    (hstays : ¬ (c.fading cfg r.now = true ∧ cfg.minimumActiveMemories < p.activeCount)) :
    Loop cfg start r cs (pre ++ [c]) (retain c p) := by
  unfold Noyra.Mind.retain
  apply h.toLoop.advance (v := ⟨c.id, some c.id, .retained, "retained"⟩) h.waiting rfl rfl
  · exact (List.append_nil _).symm
  · exact (sub_zero _).symm
  · constructor
    · intro hv
      cases hv
    · rintro (hk | hfades)
      · rw [hkeeper] at hk
        cases hk
      · exact absurd ((h.fades_iff hkeeper).mp hfades) hstays
  · exact h.tables
  · rw [List.map_append, List.map_singleton]
    exact h.memories.review c.id
  · exact .inl rfl
  · exact .inl rfl
  · rw [hkeeper]
    simp
  · intro hv
    cases hv
  · intro hv
    cases hv

/-! ### Summaries -/

lemma length_intercalate_le {n : Nat} : ∀ {l : List String}, (∀ s ∈ l, s.length ≤ n) →
    (", ".intercalate l).length ≤ l.length * (n + 2)
  | [], _ => by
    rw [String.intercalate_nil]
    exact Nat.zero_le _
  | [s], h => by
    rw [String.intercalate_singleton]
    have hs := h s List.mem_cons_self
    rw [List.length_singleton]
    omega
  | s :: s' :: l, h => by
    have hs := h s List.mem_cons_self
    have htail := @length_intercalate_le n (s' :: l) (fun x hx => h x (List.mem_cons_of_mem s hx))
    rw [String.intercalate_cons_cons, String.length_append, String.length_append, List.length_cons, Nat.succ_mul]
    change s.length + 2 + _ ≤ _
    omega

lemma summary_fields (hr : Ready cfg start r cs) (c : Candidate) :
    validateFields ("Consolidated memory cluster: " ++ ", ".intercalate (cluster cfg cs r.now c)) point45.value
      (Number.float point45).value "private"
      "deterministic consolidation of low-access memories" = .ok () := by
  have hunit : isUnit point45.value = true := by decide +kernel
  refine validateFields_ok.mpr ⟨⟨?_, private_nonblank, strip_ne_empty (c := 'd') rfl (by decide)⟩,
    ⟨?_, by decide, by decide⟩, hunit, hunit⟩
  · exact @blank_of_head "Consolidated memory cluster: " 'C' "onsolidated memory cluster: ".toList _ rfl (by decide)
  · have hids : ∀ s ∈ cluster cfg cs r.now c, s.length ≤ 64 := by
      intro s hs
      unfold cluster at hs
      have hmem := List.mem_of_mem_take hs
      rw [List.mem_insertionSort, List.mem_map] at hmem
      obtain ⟨d, hd, rfl⟩ := hmem
      exact (hr.readable _ (hr.candidates d (List.mem_filter.mp hd).1).mem).id_short
    have hfew : (cluster cfg cs r.now c).length ≤ 8 := by
      unfold cluster
      rw [List.length_take]
      exact Nat.min_le_left _ _
    have hlength := length_intercalate_le hids
    rw [String.length_append]
    change 29 + _ ≤ _
    omega

lemma validate_singleton {m : MindTables} {subject e : String} (hevent : m.events.contains (subject, e) = true)
    (hopen : e ∉ m.withdrawn) :
    m.validateEventIds subject [e] = .ok [e] :=
  (@validate_append m subject e [] List.nodup_nil (fun _ hx => by cases hx) List.not_mem_nil hevent hopen [e]).mpr
    ⟨⟨by decide, fun _ hx => by cases hx⟩, rfl⟩

/-- A summary that a run may make. -/
lemma Turn.summarize (h : Turn cfg start r cs pre c p) :
    (∃ s q, summarize cfg r cs c p = .ok (s, q)) ∧
      ∀ s q, summarize cfg r cs c p = .ok (s, q) →
        q = { p with tables := q.tables, summaries := q.summaries } ∧
        q.tables = start.withMind { start.toMindTables with memories := q.tables.memories } ∧
        Memories cfg start (pre.map Candidate.id) p.archived q.summaries q.tables.memories ∧
        (q.summaries = p.summaries ∨ q.summaries = p.summaries ++ [r.summaryId c.id]) := by
  have hsame : p = { p with tables := p.tables, summaries := p.summaries } ∧
      p.tables = start.withMind { start.toMindTables with memories := p.tables.memories } ∧
      Memories cfg start (pre.map Candidate.id) p.archived p.summaries p.tables.memories ∧
      (p.summaries = p.summaries ∨ p.summaries = p.summaries ++ [r.summaryId c.id]) :=
        ⟨rfl, h.tables, h.memories, .inl rfl⟩
  have hfresh : r.summaryId c.id ∉ p.summaries := by
    intro hmem
    obtain ⟨d, hd, heq⟩ := List.mem_map.mp (h.summaries.subset hmem)
    exact h.waiting (h.summary_distinct d (h.reviewed d hd) c h.mem heq ▸ List.mem_map_of_mem hd)
  have hfree : p.tables.memories.find? (r.summaryId c.id) = none := h.memories.fresh _ (h.summary_free c.id) hfresh
  have hevent : p.tables.events.contains (cfg.subjectId, r.eventId) = true := by
    rw [h.events]
    exact h.event
  have hopen : r.eventId ∉ p.tables.withdrawn := by
    rw [h.withdrawn]
    exact h.event_open
  have hstored : stored point45 = point45 := by decide +kernel
  unfold Noyra.Mind.summarize
  dsimp only
  by_cases hfew : (cluster cfg cs r.now c).length < 2
  · rw [if_pos hfew]
    refine ⟨⟨_, _, rfl⟩, fun s q hq => ?_⟩
    cases hq
    exact hsame
  · rw [if_neg hfew]
    cases hexisting : p.tables.memories.rows.find? (fun m => m.subjectId = cfg.subjectId &&
        m.contentHash = cfg.contentHash ("Consolidated memory cluster: " ++ ", ".intercalate (cluster cfg cs r.now c)))
          with
    | some existing =>
      refine ⟨⟨_, _, rfl⟩, fun s q hq => ?_⟩
      cases hq
      exact hsame
    | none =>
      constructor
      · obtain ⟨record, mind, hcreate⟩ := @create_exists cfg.toMemoryConfig p.tables.toMindTables
          ⟨cfg.subjectId, .reflection, "Consolidated memory cluster: " ++ ", ".intercalate (cluster cfg cs r.now c),
            point45, .float point45, [r.eventId], "private", "deterministic consolidation of low-access memories"⟩
          (r.summaryId c.id) [r.eventId] (r.summaryAt c.id) (summary_fields h.toReady c)
            (validate_singleton hevent hopen) hfree hstored hstored rfl
        dsimp only
        rw [hcreate, ok_bind]
        exact ⟨_, _, rfl⟩
      · intro s q hq
        dsimp only at hq
        obtain ⟨⟨record, mind⟩, hcreate, hq⟩ := bind_eq_ok.mp hq
        obtain ⟨hid, -, hread, memories, hinsert, rfl⟩ := create_eq_ok hcreate (h.summary_short c.id)
        cases hq
        rw [h.events] at hread
        refine ⟨rfl, ?_, h.memories.insert (by rw [hid]; exact h.summary_free c.id) hread hinsert,
          .inr (by dsimp only; rw [hid])⟩
        dsimp only
        rw [h.tables]
        rfl

/-- A fading candidate is archived when it takes one more source. -/
lemma Turn.archiveStale (h : Turn cfg start r cs pre c p) (hkeeper : duplicateKeeper cfg cs c = none)
    (hfades : c.fading cfg r.now = true ∧ cfg.minimumActiveMemories < p.activeCount) :
    ((∃ p', archiveStale cfg r cs c p = .ok p') ↔ Sourced start.withdrawn c) ∧
      ∀ p', archiveStale cfg r cs c p = .ok p' → Loop cfg start r cs (pre ++ [c]) p' := by
  obtain ⟨⟨s, q, hq⟩, hsummary⟩ := h.summarize
  obtain ⟨hsame, htables, hmemories, hsummaries⟩ := hsummary s q hq
  have hreason : strip "inactive low-salience memory moved out of active recall" ≠ "" ∧
      "inactive low-salience memory moved out of active recall".length ≤ 10000 :=
        ⟨strip_ne_empty (c := 'i') rfl (by decide), by decide⟩
  have hrevise := fun t' => @reviseCandidate_eq_ok cfg start q.tables t' r c c.memory.salience .archived _ h.toBase
      h.candidate
    (by rw [htables]; rfl) (by rw [htables]; rfl) (hmemories.rest c.id h.waiting c.memory h.candidate.found)
      h.salience.1 h.salience.2 hreason
  unfold Noyra.Mind.archiveStale
  rw [hq, ok_bind]
  dsimp only
  refine ⟨⟨?_, fun hsourced => ?_⟩, fun p' hp' => ?_⟩
  · rintro ⟨p', hp'⟩
    obtain ⟨t', ht', -⟩ := bind_eq_ok.mp hp'
    exact ((hrevise t').mp ht').1
  · rw [(hrevise _).mpr ⟨hsourced, rfl⟩, ok_bind]
    exact ⟨_, rfl⟩
  · obtain ⟨t', ht', hp'⟩ := bind_eq_ok.mp hp'
    obtain ⟨hsourced, rfl⟩ := (hrevise t').mp ht'
    cases hp'
    apply h.toLoop.advance (v := ⟨c.id, s, .summarized, "archived without deleting history"⟩) h.waiting rfl
    · dsimp only
      rw [hsame]
    · dsimp only
      rw [hsame]
      rfl
    · dsimp only
      rw [hsame]
      rfl
    · exact ⟨fun _ => .inr ((h.fades_iff hkeeper).mpr hfades), fun _ => rfl⟩
    · dsimp only
      rw [htables]
      rfl
    · exact h.revised h.salience.1 h.salience.2 hsourced.1 hmemories (by rw [hsame]; rfl) (.inl rfl)
    · dsimp only
      rw [hsame]
      exact .inl rfl
    · exact hsummaries
    · rw [hkeeper]
      simp
    · intro hv
      cases hv
    · intro _
      exact hfades.2

/-- A step of the loop raises exactly when the candidate is revised and takes no more sources. -/
lemma Turn.review (h : Turn cfg start r cs pre c p) :
    ((∃ p', review cfg r cs p c = .ok p') ↔ (Revised cfg r cs pre c → Sourced start.withdrawn c)) ∧
      ∀ p', review cfg r cs p c = .ok p' → Loop cfg start r cs (pre ++ [c]) p' := by
  unfold Noyra.Mind.review Revised Leaves
  cases hkeeper : duplicateKeeper cfg cs c with
  | some keeper =>
    obtain ⟨hiff, hloop⟩ := h.archiveDuplicate hkeeper
    refine ⟨hiff.trans ?_, hloop⟩
    exact ⟨fun hsourced _ => hsourced, fun himp => himp (.inl (.inl rfl))⟩
  | none =>
    have hfades := h.fades_iff hkeeper
    dsimp only
    by_cases hrecalled : c.recalled = true
    · rw [if_pos hrecalled]
      obtain ⟨hiff, hloop⟩ := h.strengthenCandidate hkeeper hrecalled
      exact ⟨hiff.trans ⟨fun hsourced _ => hsourced, fun himp => himp (.inr hrecalled)⟩, hloop⟩
    · rw [if_neg hrecalled]
      by_cases hleave : c.fading cfg r.now = true ∧ cfg.minimumActiveMemories < p.activeCount
      · rw [if_pos hleave]
        obtain ⟨hiff, hloop⟩ := h.archiveStale hkeeper hleave
        exact ⟨hiff.trans ⟨fun hsourced _ => hsourced, fun himp => himp (.inl (.inr (hfades.mpr hleave)))⟩, hloop⟩
      · rw [if_neg hleave]
        refine ⟨⟨fun _ hrevised => ?_, fun _ => ⟨_, rfl⟩⟩, fun p' hp' => ?_⟩
        · rcases hrevised with (hk | hf) | hr
          · cases hk
          · exact absurd (hfades.mp hf) hleave
          · exact absurd hr hrecalled
        · cases hp'
          exact h.retain hkeeper hleave

end Review

/-! ### The transaction -/

/-- The tables that keep their rows readable. -/
structure Sound (cfg : ConsolidationConfig) (t : ConsolidationTables) : Prop where
  readable : ∀ row ∈ t.memories, Readable cfg.toMemoryConfig t.events row
  runs : ∀ run ∈ t.runs, ConsolidationTables.checkRun cfg run = .ok run
  members : ∀ m ∈ t.members, ConsolidationTables.verifyMember cfg m = .ok () ∧ ∃ run ∈ t.runs, run.consolidationId =
    m.consolidationId
  accesses : ∀ a ∈ t.accesses, ConsolidationTables.verifyAccess cfg a = .ok ()
  integrations : ∀ row ∈ t.integrations, RowSound cfg.toIntegrationConfig t.toIntegrationTables row

/-- The new ids of a call are new. -/
structure Fresh (t : ConsolidationTables) (r : Readings) : Prop where
  event : ∀ e ∈ t.events, e.2 ≠ r.eventId
  event_open : r.eventId ∉ t.withdrawn
  run : ∀ run ∈ t.runs, run.consolidationId ≠ r.consolidationId
  summary : ∀ k, t.memories.find? (r.summaryId k) = none
  summary_distinct : ∀ a ∈ t.memories, ∀ b ∈ t.memories, r.summaryId a.memoryId = r.summaryId b.memoryId →
    a.memoryId = b.memoryId
  summary_short : ∀ k, (r.summaryId k).length ≤ 64
  member : ∀ k, ∀ m ∈ t.members, m.memberId ≠ r.memberId k
  member_distinct : ∀ a ∈ t.memories, ∀ b ∈ t.memories, r.memberId a.memoryId = r.memberId b.memoryId →
    a.memoryId = b.memoryId

section Run

variable {cfg : ConsolidationConfig} {t t' start : ConsolidationTables} {r : Readings} {cs pre post : List Candidate}
  {p p' : Progress}

lemma Loop.initial (hr : Ready cfg start r cs) : Loop cfg start r cs [] ⟨start, [], [], [], cs.length, []⟩ where
  tables := rfl
  memories := Memories.initial hr.readable
  count := by simp
  active := .inl (by unfold leaving; simp)
  strengthened := List.Sublist.refl _
  summaries := List.Sublist.refl _
  sources := rfl
  archived := rfl
  duplicates v hv := by cases hv
  losers d hd := by cases hd
  leaves before d after h := by simp at h
  minimum before v after h := by simp at h

/-- The loop raises exactly when some candidate is revised and takes no more sources. -/
lemma Loop.run (hr : Ready cfg start r cs) (hcut : cs = pre ++ post) (h : Loop cfg start r cs pre p) :
    ((∃ p', post.foldlM (review cfg r cs) p = .ok p') ↔
      ∀ before c after, post = before ++ c :: after → Revised cfg r cs (pre ++ before) c → Sourced start.withdrawn c) ∧
      ∀ p', post.foldlM (review cfg r cs) p = .ok p' → Loop cfg start r cs cs p' := by
  induction post generalizing pre p with
  | nil =>
    rw [List.append_nil] at hcut
    subst hcut
    refine ⟨⟨fun _ before c after hnil => by simp at hnil, fun _ => ⟨p, rfl⟩⟩, fun p' hp' => ?_⟩
    cases hp'
    exact h
  | cons c post ih =>
    have hturn : Turn cfg start r cs pre c p :=
      { hr, h with
        mem := by rw [hcut]; exact List.mem_append_right _ List.mem_cons_self
        reviewed := fun d hd => by rw [hcut]; exact List.mem_append_left _ hd
        waiting := by
          have hdistinct := hr.distinct
          rw [hcut, List.map_append, List.map_cons, List.nodup_append] at hdistinct
          exact fun hmem => hdistinct.2.2 _ hmem _ List.mem_cons_self rfl }
    obtain ⟨hiff, hloop⟩ := hturn.review
    have hcut' : cs = (pre ++ [c]) ++ post := by rw [hcut, List.append_assoc, List.singleton_append]
    rw [List.foldlM_cons]
    refine ⟨⟨?_, fun hall => ?_⟩, fun p' hp' => ?_⟩
    · rintro ⟨p', hp'⟩ before d after hsplit hrevised
      obtain ⟨q, hq, hp'⟩ := bind_eq_ok.mp hp'
      cases before with
      | nil =>
        rw [List.nil_append, List.cons.injEq] at hsplit
        rw [List.append_nil] at hrevised
        obtain ⟨rfl, -⟩ := hsplit
        exact hiff.mp ⟨q, hq⟩ hrevised
      | cons b before =>
        rw [List.cons_append, List.cons.injEq] at hsplit
        obtain ⟨rfl, hsplit⟩ := hsplit
        refine (ih hcut' (hloop q hq)).1.mp ⟨p', hp'⟩ before d after hsplit ?_
        rw [List.append_assoc]
        exact hrevised
    · obtain ⟨q, hq⟩ := hiff.mpr (fun hrevised => hall [] c post rfl (by rwa [List.append_nil]))
      rw [hq, ok_bind]
      refine (ih hcut' (hloop q hq)).1.mpr (fun before d after hsplit hrevised => hall (c :: before) d after ?_ ?_)
      · rw [hsplit, List.cons_append]
      · rw [List.append_assoc] at hrevised
        exact hrevised
    · obtain ⟨q, hq, hp'⟩ := bind_eq_ok.mp hp'
      exact (ih hcut' (hloop q hq)).2 p' hp'

lemma Ready.summaries_nodup (hr : Ready cfg start r cs) : (cs.map (fun c => r.summaryId c.id)).Nodup := by
  have hcomp : cs.map (fun c => r.summaryId c.id) = (cs.map Candidate.id).map r.summaryId := by
    rw [List.map_map]
    rfl
  rw [hcomp]
  refine hr.distinct.map_on (fun a ha b hb heq => ?_)
  obtain ⟨c, hc, rfl⟩ := List.mem_map.mp ha
  obtain ⟨d, hd, rfl⟩ := List.mem_map.mp hb
  exact hr.summary_distinct c hc d hd heq

/-- The tables after the event of a run. -/
def withEvent (cfg : ConsolidationConfig) (t : ConsolidationTables) (r : Readings) : ConsolidationTables :=
  t.withMind { t.toMindTables with events := t.events ++ [(cfg.subjectId, r.eventId)] }

lemma appendEvent_ok (hfresh : Fresh t r) : t.appendEvent cfg r.eventId = .ok (withEvent cfg t r) := by
  unfold ConsolidationTables.appendEvent
  rw [raiseIf_neg, ok_bind]
  · rfl
  · rw [List.any_eq_true]
    rintro ⟨e, he, heq⟩
    exact hfresh.event e he (by simpa using heq)

/-- The candidates of readable tables. -/
lemma candidates_ok (h : Sound cfg t) : ∃ cs, t.candidates cfg = .ok cs ∧ cs.map Candidate.memory = t.activeRows cfg ∧
    cs.map Candidate.id = (t.activeRows cfg).map MemoryRow.memoryId ∧ ∀ c ∈ cs, c.memory ∈ t.memories ∧
    c.memory.subjectId = cfg.subjectId ∧
      c.memory.status = .active := by
  have hactive : ∀ row ∈ t.activeRows cfg, row ∈ t.memories ∧ row.subjectId = cfg.subjectId ∧ row.status = .active := by
    intro row hrow
    unfold ConsolidationTables.activeRows at hrow
    rw [List.mem_insertionSort, List.mem_filter, Bool.and_eq_true, decide_eq_true_eq, decide_eq_true_eq] at hrow
    exact hrow
  have hstep : ∀ row ∈ t.activeRows cfg, ∃ c, (do
      let memory ← row.check cfg.toMemoryConfig
      .ok ⟨memory, t.accessCount memory.memoryId⟩ : Except MindError Candidate) = .ok c := by
    intro row hrow
    rw [(h.readable row (hactive row hrow).1).read, ok_bind]
    exact ⟨_, rfl⟩
  obtain ⟨cs, hcs⟩ := mapM_exists hstep
  have hmap : cs.map Candidate.memory = (t.activeRows cfg).map id := by
    refine map_of_mapM (fun row c hc => ?_) hcs
    obtain ⟨memory, hread, hc⟩ := bind_eq_ok.mp hc
    cases hc
    exact check_eq hread
  rw [List.map_id] at hmap
  refine ⟨cs, hcs, hmap, ?_, fun c hc => hactive c.memory (hmap ▸ List.mem_map_of_mem hc)⟩
  rw [← hmap, List.map_map]
  rfl

lemma ready_of_sound (h : Sound cfg t) (hfresh : Fresh t r)
    (hmap : cs.map Candidate.id = (t.activeRows cfg).map MemoryRow.memoryId)
    (hcs : ∀ c ∈ cs, c.memory ∈ t.memories ∧ c.memory.subjectId = cfg.subjectId ∧ c.memory.status = .active) :
    Ready cfg (withEvent cfg t r) r cs where
  readable row hrow := (h.readable row hrow).more (fun e he => List.mem_append_left _ he)
  event := List.contains_iff_mem.mpr (List.mem_append_right _ (List.mem_singleton_self _))
  event_open := hfresh.event_open
  event_new row hrow hmem := hfresh.event _ (List.contains_iff_mem.mp ((h.readable row hrow).known _ hmem)) rfl
  summary_free := hfresh.summary
  summary_short := hfresh.summary_short
  candidates c hc := ⟨Table.find?_key (hcs c hc).1, (hcs c hc).2.1, (hcs c hc).2.2⟩
  distinct := by
    rw [hmap]
    unfold ConsolidationTables.activeRows
    refine ((List.perm_insertionSort _ _).map _).nodup_iff.mpr ?_
    exact t.memories.nodup.sublist (List.filter_sublist.map _)
  summary_distinct c hc d hd heq := hfresh.summary_distinct _ (hcs c hc).1 _ (hcs d hd).1 heq

/-- The rows of the dispositions are inserted. -/
lemma insertMembers_ok {members : Table MemberRow.memberId} {vs : List Verdict}
    (hfree : ∀ v ∈ vs, ∀ m ∈ members, m.memberId ≠ r.memberId v.source)
    (hdistinct : (vs.map (fun v => r.memberId v.source)).Nodup) :
    ∃ members', vs.foldlM (insertMember cfg r) members = .ok members' ∧ members'.rows = members.rows ++ vs.map
      (memberRow cfg r) := by
  induction vs generalizing members with
  | nil => exact ⟨members, rfl, (List.append_nil _).symm⟩
  | cons v vs ih =>
    rw [List.map_cons, List.nodup_cons] at hdistinct
    obtain ⟨mid, hmid⟩ : ∃ mid, members.insert? (memberRow cfg r v) = some mid := by
      unfold Table.insert?
      rw [dif_neg]
      · exact ⟨_, rfl⟩
      · intro hmem
        obtain ⟨m, hm, heq⟩ := List.mem_map.mp hmem
        exact hfree v List.mem_cons_self m hm heq
    obtain ⟨-, hrows⟩ := Table.insert?_eq_some.mp hmid
    have hfree' : ∀ w ∈ vs, ∀ m ∈ mid, m.memberId ≠ r.memberId w.source := by
      intro w hw m hm
      rw [Table.mem_def, hrows, List.mem_append, List.mem_singleton] at hm
      rcases hm with hm | rfl
      · exact hfree w (List.mem_cons_of_mem v hw) m hm
      · exact fun heq => hdistinct.1 (List.mem_map.mpr ⟨w, hw, heq.symm⟩)
    obtain ⟨members', hmembers, hall⟩ := ih hfree' hdistinct.2
    refine ⟨members', ?_, ?_⟩
    · rw [List.foldlM_cons]
      unfold insertMember
      rw [hmid, orRaise_some, ok_bind]
      exact hmembers
    · rw [hall, hrows, List.append_assoc, List.map_cons]
      rfl

/-- The tables of a run that commits. -/
structure Commits (cfg : ConsolidationConfig) (t t' : ConsolidationTables) (r : Readings) (cs : List Candidate)
    (p : Progress) : Prop where
  loop : Loop cfg (withEvent cfg t r) r cs cs p
  runs : t'.runs.rows = t.runs.rows ++ [runRow cfg r cs p]
  members : t'.members.rows = t.members.rows ++ p.verdicts.map (memberRow cfg r)
  mind : t'.toMindTables = p.tables.toMindTables
  accesses : t'.accesses = t.accesses
  integrations : t'.integrations = t.integrations
  revisions : t'.revisions = t.revisions

/-- A run whose loop ends commits. -/
lemma commit_ok (h : Sound cfg t) (hfresh : Fresh t r)
    (hmap : cs.map Candidate.id = (t.activeRows cfg).map MemoryRow.memoryId)
    (hcs : ∀ c ∈ cs, c.memory ∈ t.memories ∧ c.memory.subjectId = cfg.subjectId ∧ c.memory.status = .active)
    (hnew : t.existing cfg r = none)
    (hp : cs.foldlM (review cfg r cs) ⟨withEvent cfg t r, [], [], [], cs.length, []⟩ = .ok p) :
    ∃ status t', t.commit cfg r cs = .ok (status, t') ∧ Commits cfg t t' r cs p := by
  have hr := ready_of_sound h hfresh hmap hcs
  have hloop := (Loop.run hr rfl (Loop.initial hr)).2 p hp
  have hruns : p.tables.runs = t.runs := by
    rw [hloop.tables]
    rfl
  have hmembers : p.tables.members = t.members := by
    rw [hloop.tables]
    rfl
  have hinsert : ∃ runs, p.tables.runs.insert? (runRow cfg r cs p) = some runs := by
    unfold Table.insert?
    rw [dif_neg]
    · exact ⟨_, rfl⟩
    · rw [hruns]
      intro hmem
      obtain ⟨run, hrun, heq⟩ := List.mem_map.mp hmem
      exact hfresh.run run hrun heq
  obtain ⟨runs, hinsert⟩ := hinsert
  have hdistinct : (p.verdicts.map (fun v => r.memberId v.source)).Nodup := by
    have hcomp : p.verdicts.map (fun v => r.memberId v.source) = (cs.map Candidate.id).map r.memberId := by
      rw [← hloop.sources, List.map_map]
      rfl
    rw [hcomp]
    refine hr.distinct.map_on (fun a ha b hb heq => ?_)
    obtain ⟨c, hc, rfl⟩ := List.mem_map.mp ha
    obtain ⟨d, hd, rfl⟩ := List.mem_map.mp hb
    exact hfresh.member_distinct _ (hcs c hc).1 _ (hcs d hd).1 heq
  obtain ⟨members, hfold, hrows⟩ := @insertMembers_ok cfg r p.tables.members p.verdicts
    (fun v _ m hm => hfresh.member v.source m (hmembers ▸ hm)) hdistinct
  refine ⟨"memory_consolidation_" ++ (runRow cfg r cs p).status.text,
    { p.tables with runs := runs, members := members }, ?_, hloop, ?_, ?_, rfl,
    ?_, ?_, ?_⟩
  · unfold ConsolidationTables.commit
    rw [hnew, appendEvent_ok hfresh]
    dsimp only
    rw [ok_bind, hp, ok_bind, hinsert, orRaise_some, ok_bind, hfold, ok_bind]
  · dsimp only
    rw [(Table.insert?_eq_some.mp hinsert).2, hruns]
  · dsimp only
    rw [hrows, hmembers]
  all_goals
    dsimp only
    rw [hloop.tables]
    rfl

/-! ### What a run leaves behind -/

/-- A committed run that forgets safely. -/
structure ForgetsSafely (cfg : ConsolidationConfig) (t t' : ConsolidationTables) (r : Readings) : Prop where
  recorded : ∃ run, t'.runs.rows = t.runs.rows ++ [run] ∧ run.consolidationId = r.consolidationId ∧
    run.subjectId = cfg.subjectId ∧ run.idempotencyKey = r.key cfg
  dispositions : ((t'.membersOf r.consolidationId).map MemberRow.sourceMemoryId).Perm
    ((t.activeRows cfg).map MemoryRow.memoryId)
  statuses : ∀ m ∈ t'.membersOf r.consolidationId, ∃ row ∈ t'.memories, row.memoryId = m.sourceMemoryId ∧
    row.status = if m.disposition.archives = true then .archived else .active
  kept : ∀ row ∈ t.memories, ∃ row' ∈ t'.memories, row'.memoryId = row.memoryId ∧ row'.content = row.content ∧
    row'.confidence = row.confidence
  duplicates : ∀ m ∈ t'.membersOf r.consolidationId, m.disposition = .archivedDuplicate → ∃ keeper ∈ t'.memories,
    m.resultMemoryId = some keeper.memoryId ∧ keeper.status = .active
  minimum : ∀ before m after, t'.membersOf r.consolidationId = before ++ m :: after → m.disposition = .summarized →
    cfg.minimumActiveMemories ≤
      ((t.activeRows cfg).length : ℤ) - ((before ++ [m]).filter (fun x => x.disposition.archives)).length
  verified : t'.verifyLifecycle cfg = .ok ()

/-- When a due run forgets safely. -/
structure Consolidatable (cfg : ConsolidationConfig) (t : ConsolidationTables) (r : Readings) : Prop where
  key_new : t.existing cfg r = none
  sourced : ∀ cs, t.candidates cfg = .ok cs → ∀ before c after, cs = before ++ c :: after → Revised cfg r cs before c →
    Sourced t.withdrawn c
  keepers : ∀ cs, t.candidates cfg = .ok cs → ∀ before c after, cs = before ++ c :: after → Fades cfg r cs before c →
    ∀ d ∈ cs, duplicateKeeper cfg cs d ≠ some c.id

lemma Commits.membersOf (h : Commits cfg t t' r cs p) (hs : Sound cfg t) (hfresh : Fresh t r) :
    t'.membersOf r.consolidationId = p.verdicts.map (memberRow cfg r) := by
  unfold ConsolidationTables.membersOf
  rw [h.members, List.filter_append]
  have hold : t.members.rows.filter (fun m => m.consolidationId = r.consolidationId) = [] := by
    rw [List.filter_eq_nil_iff]
    intro m hm heq
    obtain ⟨-, run, hrun, hid⟩ := hs.members m hm
    exact hfresh.run run hrun (hid.trans (by simpa using heq))
  have hnew : (p.verdicts.map (memberRow cfg r)).filter (fun m => m.consolidationId = r.consolidationId) =
      p.verdicts.map (memberRow cfg r) := by
    rw [List.filter_eq_self]
    intro m hm
    obtain ⟨v, -, rfl⟩ := List.mem_map.mp hm
    exact decide_eq_true rfl
  rw [hold, hnew, List.nil_append]

/-- A commit keeps the tables readable. -/
lemma Commits.sound (h : Commits cfg t t' r cs p) (hs : Sound cfg t) (hr : Ready cfg (withEvent cfg t r) r cs) :
    Sound cfg t' where
  readable := by
    rw [h.mind]
    intro row hrow
    have hread := h.loop.memories.readable row hrow
    rw [h.loop.tables]
    exact hread
  runs := by
    intro run hrun
    rw [Table.mem_def, h.runs, List.mem_append, List.mem_singleton] at hrun
    rcases hrun with hrun | rfl
    · exact hs.runs run hrun
    · have harchived : p.archived.Nodup := by
        rw [h.loop.archived]
        have hsources : (p.verdicts.map Verdict.source).Nodup := by
          rw [h.loop.sources]
          exact hr.distinct
        exact hsources.sublist (List.filter_sublist.map _)
      unfold ConsolidationTables.checkRun runRow
      dsimp only
      rw [raiseIf_neg (not_not.mpr harchived), ok_bind,
        raiseIf_neg (not_not.mpr (hr.distinct.sublist h.loop.strengthened)), ok_bind,
        raiseIf_neg (not_not.mpr (hr.summaries_nodup.sublist h.loop.summaries)), ok_bind,
          raiseIf_neg (not_not.mpr rfl), ok_bind]
  members := by
    intro m hm
    rw [Table.mem_def, h.members, List.mem_append] at hm
    have hmore : ∀ run ∈ t.runs, run ∈ t'.runs := by
      intro run hrun
      rw [Table.mem_def, h.runs]
      exact List.mem_append_left _ hrun
    rcases hm with hm | hm
    · obtain ⟨hverify, run, hrun, hid⟩ := hs.members m hm
      exact ⟨hverify, run, hmore run hrun, hid⟩
    · obtain ⟨v, -, rfl⟩ := List.mem_map.mp hm
      refine ⟨raiseIf_neg (not_not.mpr rfl), runRow cfg r cs p, ?_, rfl⟩
      rw [Table.mem_def, h.runs]
      exact List.mem_append_right _ (List.mem_singleton_self _)
  accesses := by
    rw [h.accesses]
    exact hs.accesses
  integrations := by
    apply rows_keep hs.integrations h.integrations h.revisions
    · intro e he
      have hevents : t'.events = t.events ++ [(cfg.subjectId, r.eventId)] := by
        have hmind := congrArg MindTables.events h.mind
        rw [h.loop.tables] at hmind
        exact hmind
      rw [hevents]
      exact List.contains_iff_mem.mpr (List.mem_append_left _ (List.contains_iff_mem.mp he))
    · intro k subject hk
      obtain ⟨row, hrow, hsubject⟩ := find?_of_subjectOf hk
      obtain ⟨row', hrow', -, -, hsame, -⟩ := h.loop.memories.kept k row hrow
      unfold subjectOf
      rw [h.mind, hrow', Option.map_some, hsame, hsubject]

/-- Readable tables are verified. -/
lemma Sound.verified (hs : Sound cfg t) : t.verifyLifecycle cfg = .ok () := by
  have haccesses : (t.accesses.rows.filter (fun a => a.subjectId = cfg.subjectId)).forM
      (ConsolidationTables.verifyAccess cfg) = .ok () :=
    forM_eq_ok (fun a ha => hs.accesses a (List.mem_filter.mp ha).1)
  have hruns : (t.runs.rows.filter (fun run => run.subjectId = cfg.subjectId)).forM (t.verifyRun cfg) = .ok () := by
    apply forM_eq_ok
    intro run hrun
    unfold ConsolidationTables.verifyRun
    rw [hs.runs run (List.mem_filter.mp hrun).1, ok_bind]
    exact forM_eq_ok (fun m hm => (hs.members m (List.mem_filter.mp hm).1).1)
  unfold ConsolidationTables.verifyLifecycle
  rw [haccesses, ok_bind, hruns, ok_bind, verified_of_rows hs.integrations]

/-- The status of a candidate after the run. -/
lemma Commits.status (h : Commits cfg t t' r cs p) {c : Candidate} (hc : IsCandidate cfg (withEvent cfg t r) c) :
    ∃ row ∈ t'.memories, row.memoryId = c.id ∧ row.status = if c.id ∈ p.archived then .archived else .active := by
  obtain ⟨row, hrow, -, -, -, hstatus⟩ := h.loop.memories.kept c.id c.memory hc.found
  obtain ⟨hmem, hid⟩ := Table.find?_eq_some.mp hrow
  refine ⟨row, by rw [h.mind]; exact hmem, hid, ?_⟩
  rw [hstatus, hc.active]

/-- A keeper that does not fade is active after the run, and one that fades is archived. -/
lemma Commits.duplicates_iff (h : Commits cfg t t' r cs p) (hs : Sound cfg t) (hfresh : Fresh t r)
    (hr : Ready cfg (withEvent cfg t r) r cs) :
    (∀ m ∈ t'.membersOf r.consolidationId, m.disposition = .archivedDuplicate → ∃ keeper ∈ t'.memories,
      m.resultMemoryId = some keeper.memoryId ∧ keeper.status = .active) ↔
      ∀ before c after, cs = before ++ c :: after → Fades cfg r cs before c →
      ∀ d ∈ cs, duplicateKeeper cfg cs d ≠ some c.id := by
  rw [h.membersOf hs hfresh]
  constructor
  · intro hall before c after hcut hfades d hd hkeeper
    have hc : IsCandidate cfg (withEvent cfg t r) c :=
      hr.candidates c (by rw [hcut]; exact List.mem_append_right _ List.mem_cons_self)
    obtain ⟨v, hv, hdisposition, hresult⟩ := h.loop.losers d hd (by rw [hkeeper]; rfl)
    obtain ⟨keeper, hmem, hid, hactive⟩ := hall (memberRow cfg r v) (List.mem_map_of_mem hv) hdisposition
    obtain ⟨row, hrow, hrowid, hstatus⟩ := h.status hc
    have hsame : keeper = row := by
      apply Table.eq_of_key hmem hrow
      have hid' : v.result = some keeper.memoryId := hid
      rw [hresult, hkeeper] at hid'
      exact (Option.some.inj hid').symm.trans hrowid.symm
    rw [if_pos ((h.loop.leaves before c after hcut).mpr (.inr hfades)), ← hsame, hactive] at hstatus
    cases hstatus
  · intro hstay m hm hdisposition
    obtain ⟨v, hv, rfl⟩ := List.mem_map.mp hm
    obtain ⟨d, hd, -, hsome, hresult⟩ := h.loop.duplicates v hv hdisposition
    obtain ⟨keeper, hkeeper⟩ := Option.isSome_iff_exists.mp hsome
    obtain ⟨c, hc, hid, hnone⟩ := keeper_spec hkeeper
    obtain ⟨row, hrow, hrowid, hstatus⟩ := h.status (hr.candidates c hc)
    obtain ⟨before, after, hcut⟩ := List.append_of_mem hc
    have hactive : c.id ∉ p.archived := by
      rw [h.loop.leaves before c after hcut]
      rintro (hk | hfades)
      · rw [hnone] at hk
        cases hk
      · exact hstay before c after hcut hfades d hd (hkeeper.trans (congrArg some hid.symm))
    rw [if_neg hactive] at hstatus
    refine ⟨row, hrow, ?_, hstatus⟩
    change v.result = _
    rw [hresult, hkeeper, hrowid, hid]

/-- A run that commits is safe exactly when no keeper fades. -/
lemma Commits.safe_iff (h : Commits cfg t t' r cs p) (hs : Sound cfg t) (hfresh : Fresh t r)
    (hr : Ready cfg (withEvent cfg t r) r cs)
    (hmap : cs.map Candidate.id = (t.activeRows cfg).map MemoryRow.memoryId) :
    ForgetsSafely cfg t t' r ↔
      ∀ before c after, cs = before ++ c :: after → Fades cfg r cs before c →
      ∀ d ∈ cs, duplicateKeeper cfg cs d ≠ some c.id := by
  have hlength : (t.activeRows cfg).length = cs.length := by
    have hlengths := congrArg List.length hmap
    rw [List.length_map, List.length_map] at hlengths
    exact hlengths.symm
  rw [← h.duplicates_iff hs hfresh hr]
  constructor
  · exact fun hsafe => hsafe.duplicates
  · intro hduplicates
    refine ⟨⟨runRow cfg r cs p, h.runs, rfl, rfl, rfl⟩, ?_, ?_, ?_, hduplicates, ?_, (h.sound hs hr).verified⟩
    · rw [h.membersOf hs hfresh, List.map_map, ← hmap, ← h.loop.sources]
      exact List.Perm.refl _
    · rw [h.membersOf hs hfresh]
      intro m hm
      obtain ⟨v, hv, rfl⟩ := List.mem_map.mp hm
      have hsource : v.source ∈ cs.map Candidate.id := by
        rw [← h.loop.sources]
        exact List.mem_map_of_mem hv
      obtain ⟨c, hc, hid⟩ := List.mem_map.mp hsource
      obtain ⟨row, hrow, hrowid, hstatus⟩ := h.status (hr.candidates c hc)
      refine ⟨row, hrow, hrowid.trans hid, hstatus.trans ?_⟩
      have harchives : c.id ∈ p.archived ↔ (memberRow cfg r v).disposition.archives = true := by
        change _ ↔ v.disposition.archives = true
        have hnodup : (p.verdicts.map Verdict.source).Nodup := by
          rw [h.loop.sources]
          exact hr.distinct
        rw [h.loop.archived, hid, List.mem_map]
        constructor
        · rintro ⟨w, hw, heq⟩
          obtain ⟨hw, harchives⟩ := List.mem_filter.mp hw
          rw [List.inj_on_of_nodup_map hnodup hv hw heq.symm]
          exact harchives
        · exact fun harchives => ⟨v, List.mem_filter.mpr ⟨hv, harchives⟩, rfl⟩
      exact if_congr harchives rfl rfl
    · intro row hrow
      obtain ⟨row', hrow', hcontent, hconfidence, -⟩ := h.loop.memories.kept row.memoryId row (Table.find?_key hrow)
      obtain ⟨hmem, hid⟩ := Table.find?_eq_some.mp hrow'
      exact ⟨row', by rw [h.mind]; exact hmem, hid, hcontent, hconfidence⟩
    · intro before m after hcut hdisposition
      rw [h.membersOf hs hfresh] at hcut
      obtain ⟨vs, ws, hvs, rfl, hws⟩ := List.map_eq_append_iff.mp hcut
      obtain ⟨v, us, rfl, rfl, rfl⟩ := List.map_eq_cons_iff.mp hws
      have hminimum := h.loop.minimum vs v us hvs hdisposition
      have hcount : ((vs.map (memberRow cfg r) ++ [memberRow cfg r v]).filter
          (fun x => x.disposition.archives)).length =
          ((vs ++ [v]).filter (fun x => x.disposition.archives)).length := by
        rw [← List.map_singleton, ← List.map_append, List.filter_map, List.length_map]
        rfl
      rw [hcount, hlength]
      exact hminimum

/-- A due run forgets safely exactly when its key is new, what it revises takes one more source, and no keeper fades. -/
lemma safe_iff (hs : Sound cfg t) (hfresh : Fresh t r) (hdue : t.isDue cfg r = .ok true) :
    (∃ status t', t.runDue cfg r = (.ok (some status), t') ∧ ForgetsSafely cfg t t' r) ↔ Consolidatable cfg t r := by
  obtain ⟨cs, hcs, -, hmap, hcandidates⟩ := candidates_ok hs
  have hr := ready_of_sound hs hfresh hmap hcandidates
  have hrun := Loop.run hr rfl (Loop.initial hr)
  have hfold : (∃ p, cs.foldlM (review cfg r cs) ⟨withEvent cfg t r, [], [], [], cs.length, []⟩ = .ok p) ↔
      ∀ before c after, cs = before ++ c :: after → Revised cfg r cs before c → Sourced t.withdrawn c := hrun.1
  unfold ConsolidationTables.runDue ConsolidationTables.runWhenDue
  rw [hdue, hcs, ok_bind]
  dsimp only
  constructor
  · rintro ⟨status, t', hresult, hsafe⟩
    cases hexisting : t.existing cfg r with
    | some run =>
      rw [hexisting] at hresult
      cases hresult
      obtain ⟨row, hrows, -⟩ := hsafe.recorded
      have hlength := congrArg List.length hrows
      rw [List.length_append, List.length_singleton] at hlength
      omega
    | none =>
      rw [hexisting] at hresult
      dsimp only at hresult
      cases hp : cs.foldlM (review cfg r cs) ⟨withEvent cfg t r, [], [], [], cs.length, []⟩ with
      | error e =>
        have hcommit : t.commit cfg r cs = .error e := by
          unfold ConsolidationTables.commit
          rw [hexisting, appendEvent_ok hfresh]
          dsimp only
          rw [ok_bind, hp]
          rfl
        rw [hcommit] at hresult
        cases hresult
      | ok p =>
        obtain ⟨status', t'', hcommit, hcommits⟩ := commit_ok hs hfresh hmap hcandidates hexisting hp
        rw [hcommit] at hresult
        cases hresult
        refine ⟨hexisting, fun cs' hcs' => ?_, fun cs' hcs' => ?_⟩
        · rw [hcs] at hcs'
          cases hcs'
          exact hfold.mp ⟨p, hp⟩
        · rw [hcs] at hcs'
          cases hcs'
          exact (hcommits.safe_iff hs hfresh hr hmap).mp hsafe
  · intro h
    obtain ⟨p, hp⟩ := hfold.mpr (h.sourced cs hcs)
    obtain ⟨status, t', hcommit, hcommits⟩ := commit_ok hs hfresh hmap hcandidates h.key_new hp
    rw [h.key_new]
    dsimp only
    rw [hcommit]
    exact ⟨status, t', rfl, (hcommits.safe_iff hs hfresh hr hmap).mpr (h.keepers cs hcs)⟩

/-! ### Reachable tables -/

/-- Calls whose new ids are new and whose relevances are no negative zero. -/
def Proper (t : ConsolidationTables) : LifeAction → Prop
  | .create _ memoryId _ => memoryId.length ≤ 64
  | .access c => ∀ x ∈ c.recalls, stored x.relevance = x.relevance
  | .runDue r => Fresh t r
  | _ => True

lemma sound_create {m : MindTables.NewMemory} {id : String} {now : Nat} {record : MemoryRow} {mind : MindTables}
    (hs : Sound cfg t)
    (hid : id.length ≤ 64) (h : t.toMindTables.create cfg.toMemoryConfig m id now = .ok (record, mind)) :
    Sound cfg (t.withMind mind) := by
  obtain ⟨-, -, hread, memories, hinsert, rfl⟩ := create_eq_ok h hid
  refine ⟨fun row hrow => ?_, hs.runs, hs.members, hs.accesses,
    rows_keep hs.integrations rfl rfl (fun _ he => he) (fun k subject hk => ?_)⟩
  rotate_left
  · obtain ⟨row, hrow, hsubject⟩ := find?_of_subjectOf hk
    unfold subjectOf
    rw [Table.find?_insert (by exact hinsert), if_neg (fun heq => ?_), hrow, Option.map_some, hsubject]
    have hfree := Table.find?_eq_none.mpr (Table.insert?_eq_some.mp hinsert).1
    rw [← heq] at hfree
    exact absurd (hrow.symm.trans hfree) (by simp)
  have hrows := (Table.insert?_eq_some.mp hinsert).2
  change row ∈ memories at hrow
  rw [Table.mem_def, hrows, List.mem_append, List.mem_singleton] at hrow
  rcases hrow with hrow | rfl
  · exact hs.readable row hrow
  · exact hread

lemma sound_revise {v : MindTables.Revision} {id : String} {now : Nat} {record : MemoryRow} {mind : MindTables}
    (hs : Sound cfg t)
    (h : t.toMindTables.revise cfg.toMemoryConfig id v now = .ok (record, mind)) : Sound cfg (t.withMind mind) := by
  obtain ⟨row, hrow, hid, hsubject, hread, rfl⟩ := revise_eq_ok h
  subst hid
  refine ⟨fun x hx => ?_, hs.runs, hs.members, hs.accesses,
    rows_keep hs.integrations rfl rfl (fun _ he => he) (fun k subject hk => ?_)⟩
  rotate_left
  · unfold subjectOf
    dsimp only [ConsolidationTables.withMind]
    rw [Table.find?_replace (by exact hrow)]
    by_cases hkey : k = record.memoryId
    · unfold subjectOf at hk
      rw [hkey, hrow] at hk
      rw [if_pos hkey, Option.map_some, hsubject]
      exact hk
    · rw [if_neg hkey]
      exact hk
  rcases Table.mem_replace.mp hx with ⟨rfl, -⟩ | ⟨hx, -⟩
  · exact hread (hs.readable row (Table.find?_eq_some.mp hrow).1).id_short
  · exact hs.readable x hx

/-- One access keeps the tables readable. -/
lemma sound_access {c : RecallCall} {item : Recalled} (hs : Sound cfg t)
    (hitem : stored item.relevance = item.relevance)
    (h : recordAccess cfg c t item = .ok t') : Sound cfg t' := by
  unfold recordAccess at h
  obtain ⟨_, hchecked, h⟩ := bind_eq_ok.mp h
  have hunit : isUnit item.relevance.value = true := by
    have hneg := raiseIf_eq_ok.mp hchecked
    push Not at hneg
    simpa using hneg.2
  split at h
  case h_1 =>
    obtain ⟨accesses, hinsert, h⟩ := bind_eq_ok.mp h
    cases h
    refine ⟨hs.readable, hs.runs, hs.members, fun a ha => ?_, hs.integrations⟩
    have hrows := (Table.insert?_eq_some.mp (orRaise_eq_ok.mp hinsert)).2
    change a ∈ accesses at ha
    rw [Table.mem_def, hrows, List.mem_append, List.mem_singleton] at ha
    rcases ha with ha | rfl
    · exact hs.accesses a ha
    · unfold ConsolidationTables.verifyAccess
      dsimp only
      rw [hitem, raiseIf_neg (by rw [hunit]; simp), ok_bind, raiseIf_neg (by decide), ok_bind,
        raiseIf_neg (not_not.mpr rfl)]
  case h_2 row hfound =>
    cases h
    refine ⟨hs.readable, hs.runs, hs.members, fun a ha => ?_, hs.integrations⟩
    rcases Table.mem_replace.mp ha with ⟨rfl, -⟩ | ⟨ha, -⟩
    · have hkey := List.find?_some hfound
      simp only [Bool.and_eq_true, decide_eq_true_eq] at hkey
      obtain ⟨⟨⟨-, htype⟩, hcontext⟩, hquery⟩ := hkey
      unfold ConsolidationTables.verifyAccess
      dsimp only
      rw [hitem, htype, hcontext, hquery, raiseIf_neg (by rw [hunit]; simp), ok_bind, raiseIf_neg (by omega), ok_bind,
        raiseIf_neg (not_not.mpr rfl)]
    · exact hs.accesses a ha

/-- A call of `run_due` commits, or it changes nothing. -/
lemma runDue_cases (hs : Sound cfg t) (hfresh : Fresh t r) :
    (t.runDue cfg r).2 = t ∨ ∃ cs p, Ready cfg (withEvent cfg t r) r cs ∧ Commits cfg t (t.runDue cfg r).2 r cs p := by
  unfold ConsolidationTables.runDue
  split
  case h_1 => exact .inl rfl
  case h_2 => exact .inl rfl
  case h_3 =>
    obtain ⟨cs, hcs, -, hmap, hcandidates⟩ := candidates_ok hs
    have hr := ready_of_sound hs hfresh hmap hcandidates
    unfold ConsolidationTables.runWhenDue
    rw [hcs, ok_bind]
    cases hexisting : t.existing cfg r with
    | some run => exact .inl rfl
    | none =>
      dsimp only
      cases hp : cs.foldlM (review cfg r cs) ⟨withEvent cfg t r, [], [], [], cs.length, []⟩ with
      | error e =>
        left
        have hcommit : t.commit cfg r cs = .error e := by
          unfold ConsolidationTables.commit
          rw [hexisting, appendEvent_ok hfresh]
          dsimp only
          rw [ok_bind, hp]
          rfl
        rw [hcommit]
      | ok p =>
        right
        obtain ⟨status, t', hcommit, hcommits⟩ := commit_ok hs hfresh hmap hcandidates hexisting hp
        rw [hcommit]
        exact ⟨cs, p, hr, hcommits⟩

lemma sound_runDue (hs : Sound cfg t) (hfresh : Fresh t r) : Sound cfg (t.runDue cfg r).2 := by
  rcases runDue_cases hs hfresh with hsame | ⟨cs, p, hr, hcommits⟩
  · rw [hsame]
    exact hs
  · exact hcommits.sound hs hr

lemma sound_step (hs : Sound cfg t) {a : LifeAction} (ha : Proper t a) : Sound cfg (t.step cfg a) := by
  unfold ConsolidationTables.step
  cases a with
  | create m id now =>
    dsimp only
    cases h : t.toMindTables.create cfg.toMemoryConfig m id now with
    | error e => exact hs
    | ok x => exact sound_create hs ha h
  | revise id v now =>
    dsimp only
    cases h : t.toMindTables.revise cfg.toMemoryConfig id v now with
    | error e => exact hs
    | ok x => exact sound_revise hs h
  | access c =>
    dsimp only
    cases h : t.recordAccesses cfg c with
    | error e => exact hs
    | ok t' => exact foldlM_preserves (fun item hitem x y hx hy => sound_access hx (ha item hitem) hy) h hs
  | event subject id =>
    refine ⟨fun row hrow => (hs.readable row hrow).more (fun e he => List.mem_append_left _ he), hs.runs, hs.members,
      hs.accesses, rows_keep hs.integrations rfl rfl (fun e he => ?_) (fun _ _ hk => hk)⟩
    exact List.contains_iff_mem.mpr (List.mem_append_left _ (List.contains_iff_mem.mp he))
  | withdraw id =>
    exact ⟨hs.readable, hs.runs, hs.members, hs.accesses,
      rows_keep hs.integrations rfl rfl (fun _ he => he) (fun _ _ hk => hk)⟩
  | runDue r => exact sound_runDue hs ha

lemma sound_of_reachable (h : (lifeMachine cfg).ReachableUnder Proper t) : Sound cfg t := by
  apply h.invariant (I := Sound cfg)
  · rintro t ⟨hmemories, hintegrations, haccesses, hruns, hmembers⟩
    refine ⟨fun row hrow => ?_, fun run hrun => ?_, fun m hm => ?_, fun a ha => ?_, fun row hrow => ?_⟩
    · rw [Table.mem_def, hmemories] at hrow
      cases hrow
    · rw [Table.mem_def, hruns] at hrun
      cases hrun
    · rw [Table.mem_def, hmembers] at hm
      cases hm
    · rw [Table.mem_def, haccesses] at ha
      cases ha
    · rw [Table.mem_def, hintegrations] at hrow
      cases hrow
  · exact fun t a hs ha => sound_step hs ha

end Run

/-- In every reachable state a due run commits and forgets safely exactly when its key is new, every memory it
revises takes one more source, and no keeper of duplicates fades. -/
theorem consolidation_safe (cfg : ConsolidationConfig) {t : ConsolidationTables}
    (h : (lifeMachine cfg).ReachableUnder Proper t) {r : Readings}
    (hfresh : Fresh t r) (hdue : t.isDue cfg r = .ok true) :
    (∃ status t', t.runDue cfg r = (.ok (some status), t') ∧ ForgetsSafely cfg t t' r) ↔ Consolidatable cfg t r :=
  safe_iff (sound_of_reachable h) hfresh hdue

def accessHash (contextType contextId queryHash : String) (relevance : Double) (accessCount first last : Nat) :
    String :=
  ", ".intercalate [contextType, contextId, queryHash, toString relevance.value, toString accessCount, toString first,
    toString last]

def runHash (status : RunStatus) (reviewed : Nat) (archived strengthened summaries : List String) (summary : String)
    (now : Nat) : String :=
  ", ".intercalate ([status.text, toString reviewed, summary, toString now] ++ archived ++ strengthened ++ summaries)

def Disposition.letter : Disposition → String
  | .retained => "r"
  | .strengthened => "s"
  | .archivedDuplicate => "d"
  | .summarized => "f"

def memberHash (source : String) (result : Option String) (disposition : Disposition) (reason : String) (now : Nat) :
    String :=
  ", ".intercalate [source, result.getD "", Disposition.letter disposition, reason, toString now]

/-- `min(0.95, salience + min(0.12, access_count * 0.02))`, without rounding. -/
def strengthen (salience : Double) (accessCount : Nat) : Double :=
  let q := min point95 (salience.value + min (3 / 25 : ℚ) (accessCount / 50 : ℚ))
  ⟨q, q < 0, fun _ => by simp⟩

lemma strengthen_pos (s : Double) (n : Nat) (hs : 0 ≤ s.value) (hn : 3 ≤ n) :
    0 < (strengthen s n).value ∧ (strengthen s n).value ≤ 1 := by
  have hcount : (0 : ℚ) < n / 50 := div_pos (Nat.cast_pos.mpr (by omega)) (by decide +kernel)
  have hgain : 0 < min (3 / 25 : ℚ) (n / 50 : ℚ) := lt_min (by decide +kernel) hcount
  exact ⟨lt_min (by decide +kernel) (add_pos_of_nonneg_of_pos hs hgain), (min_le_left _ _).trans (by decide +kernel)⟩

/-- Times are milliseconds; one active memory is enough. -/
def lifeConfig : ConsolidationConfig where
  contentHash content := content
  stateHash content _ confidence status := sampleStateHash point45 content confidence status
  subjectId := "s"
  stateHash_injective content _ _ _ _ status h := sampleStateHash_injective point45 content status h
  hash := integrationHash
  hash_valid := integrationHash_valid
  revisionHash := integrationRevisionHash
  revisionHash_valid := integrationRevisionHash_valid
  normalHash content := content
  accessHash := accessHash
  runHash := runHash
  memberHash := memberHash
  elapsed now last := decide (last + 86400000 ≤ now)
  stale now updated := decide (updated + 2592000000 ≤ now)
  old now updated := decide (updated + 15552000000 ≤ now)
  minimumActiveMemories := 1
  period now := if now < 86400000 then "1970-01-01" else "1970-08-20"
  strengthen := strengthen
  strengthen_pos s n hs _ hn := strengthen_pos s n hs hn

def quarter : Double := ⟨1 / 4, false, fun _ => by decide +kernel⟩

def emptyLife : ConsolidationTables where
  memories := .empty
  events := [("s", "e")]
  withdrawn := []
  integrations := .empty
  revisions := []
  accesses := .empty
  runs := .empty
  members := .empty

lemma emptyLife_init : (lifeMachine lifeConfig).init emptyLife := ⟨rfl, rfl, rfl, rfl, rfl⟩

def newMemory (memoryType : MemoryType) (content : String) (salience : Double) (id : String) : LifeAction :=
  .create ⟨"s", memoryType, content, salience, .float point45, ["e"], "private", "reason"⟩ id 0

/-- A weak memory. -/
def weakMemory (id : String) : LifeAction := newMemory .episodic "content" quarter id

def summaryIdOf (id : String) : String := if id.length ≤ 32 then "summary-" ++ id else "summary"

def readingsAt (now : Nat) : Readings :=
  ⟨now, now, now, "r", "k", fun _ => now, summaryIdOf, fun _ => now, fun id => id⟩

lemma summaryIdOf_length (id : String) : 7 ≤ (summaryIdOf id).length ∧ (summaryIdOf id).length ≤ 64 := by
  unfold summaryIdOf
  split
  case isTrue h =>
    rw [String.length_append]
    have hprefix : "summary-".length = 8 := by decide
    omega
  case isFalse => decide

lemma summaryIdOf_injective {x y : String} (hx : x.length ≤ 32) (hy : y.length ≤ 32)
    (h : summaryIdOf x = summaryIdOf y) : x = y := by
  unfold summaryIdOf at h
  rw [if_pos hx, if_pos hy] at h
  exact (String.append_right_inj _).mp h

def twins : ConsolidationTables := [weakMemory "a", weakMemory "b"].foldl (lifeMachine lifeConfig).step emptyLife

lemma proper_weak {id : String} (h : id.length ≤ 64) (t : ConsolidationTables) : Proper t (weakMemory id) := h

lemma twins_reachable : (lifeMachine lifeConfig).ReachableUnder Proper twins :=
  Machine.reachableUnder_foldl emptyLife_init [weakMemory "a", weakMemory "b"] ⟨proper_weak (by decide) _,
    proper_weak (by decide) _, trivial⟩

/-- The sample readings are new when no row has their ids. -/
lemma fresh_readings {t : ConsolidationTables} {now : Nat} (hevent : ∀ e ∈ t.events, e.2 ≠ "r")
    (hopen : "r" ∉ t.withdrawn)
    (hrun : ∀ run ∈ t.runs.rows, run.consolidationId ≠ "k") (hshort : ∀ row ∈ t.memories.rows, row.memoryId.length < 7)
    (hmember : t.members.rows = []) : Fresh t (readingsAt now) where
  event := hevent
  event_open := hopen
  run := hrun
  summary k := by
    apply Table.find?_eq_none.mpr
    intro row hrow heq
    have hlength := congrArg String.length heq
    have hsummary := (summaryIdOf_length k).1
    have hrow := hshort row hrow
    change row.memoryId.length = (summaryIdOf k).length at hlength
    omega
  summary_distinct a ha b hb h := by
    have ha := hshort a ha
    have hb := hshort b hb
    exact summaryIdOf_injective (by omega) (by omega) h
  summary_short k := (summaryIdOf_length k).2
  member _ m hm := by
    rw [Table.mem_def, hmember] at hm
    cases hm
  member_distinct _ _ _ _ h := h

/-- The keeper of two equal memories is weak and old: both are archived, the second one as a duplicate of the first. -/
theorem keeper_archived :
    ∃ t r, (lifeMachine lifeConfig).ReachableUnder Proper t ∧ Fresh t r ∧ t.isDue lifeConfig r = .ok true ∧
      ∃ m ∈ (t.runDue lifeConfig r).2.membersOf r.consolidationId, m.disposition = .archivedDuplicate ∧
        ∀ keeper ∈ (t.runDue lifeConfig r).2.memories.rows, m.resultMemoryId = some keeper.memoryId →
        keeper.status ≠ .active := by
  refine ⟨twins, readingsAt 20000000000, twins_reachable, ?_, by decide +kernel, by decide +kernel⟩
  apply fresh_readings
  · decide +kernel
  · decide +kernel
  · decide +kernel
  · decide +kernel
  · exact List.isEmpty_iff.mp (by decide +kernel)

/-- The third memory is recalled for one query. -/
def recallOf (id : String) (now : Nat) : LifeAction :=
  .access ⟨"s", "chat", "c", "q", [⟨id, one, "access-" ++ id⟩], now⟩

/-- Two equal memories, one that is recalled three times, and two weak ones. -/
def mixedActions : List LifeAction :=
  [newMemory .semantic "fact" one "a", newMemory .semantic "fact" one "b", newMemory .semantic "skill" quarter "c",
    newMemory .episodic "trifle" quarter "d", newMemory .episodic "errand" quarter "e", recallOf "c" 1, recallOf "c" 2,
      recallOf "c" 3]

def mixed : ConsolidationTables := mixedActions.foldl (lifeMachine lifeConfig).step emptyLife

lemma proper_recall (id : String) (now : Nat) (t : ConsolidationTables) : Proper t (recallOf id now) := by
  have hone : stored one = one := by decide +kernel
  intro x hx
  rw [List.mem_singleton.mp hx]
  exact hone

lemma mixed_proper : ∀ a ∈ mixedActions, ∀ t, Proper t a := by
  have hnew : ∀ {memoryType : MemoryType} {content id : String} {salience : Double}, id.length ≤ 64 →
      ∀ t, Proper t (newMemory memoryType content salience id) := fun h t => h
  simp only [mixedActions, List.forall_mem_cons]
  exact ⟨hnew (by decide), hnew (by decide), hnew (by decide), hnew (by decide), hnew (by decide), proper_recall "c" 1,
    proper_recall "c" 2, proper_recall "c" 3, List.forall_mem_nil _⟩

lemma mixed_reachable : (lifeMachine lifeConfig).ReachableUnder Proper mixed :=
  Machine.reachableUnder_foldl emptyLife_init mixedActions (Machine.Meets.of_forall mixed_proper)

lemma fresh_mixed : Fresh mixed (readingsAt 20000000000) := by
  apply fresh_readings
  · decide +kernel
  · decide +kernel
  · decide +kernel
  · decide +kernel
  · exact List.isEmpty_iff.mp (by decide +kernel)

/-- Where every memory takes one more source and no keeper is fading, a run forgets safely. -/
lemma consolidatable_of_candidates {cfg : ConsolidationConfig} {t : ConsolidationTables} {r : Readings}
    (hkey : t.existing cfg r = none) (h : ∀ cs ∈ (t.candidates cfg).toOption, ∀ c ∈ cs, Sourced t.withdrawn c ∧
      (c.fading cfg r.now = true → ∀ d ∈ cs, duplicateKeeper cfg cs d ≠ some c.id)) : Consolidatable cfg t r := by
  have hmem : ∀ {cs before : List Candidate} {c : Candidate} {after : List Candidate}, cs = before ++ c :: after →
      c ∈ cs := by
    intro cs before c after hcut
    rw [hcut]
    exact List.mem_append_right _ List.mem_cons_self
  have hoption : ∀ cs, t.candidates cfg = .ok cs → cs ∈ (t.candidates cfg).toOption := by
    intro cs hcs
    rw [hcs]
    rfl
  exact ⟨hkey, fun cs hcs before c after hcut _ => (h cs (hoption cs hcs) c (hmem hcut)).1,
    fun cs hcs before c after hcut hfades => (h cs (hoption cs hcs) c (hmem hcut)).2 hfades.2.1⟩

/-- A run over them forgets safely: the second of the equal memories is archived as a duplicate of the first, which
stays, the recalled one is strengthened, and the weak ones are archived with a summary. -/
theorem mixed_consolidated :
    (∃ status t', mixed.runDue lifeConfig (readingsAt 20000000000) = (.ok (some status), t') ∧
      ForgetsSafely lifeConfig mixed t' (readingsAt 20000000000)) ∧
    (mixed.runDue lifeConfig (readingsAt 20000000000)).2.members.rows.map
      (fun m => (m.sourceMemoryId, m.resultMemoryId, m.disposition)) =
      [("a", some "a", .retained), ("b", some "a", .archivedDuplicate), ("c", some "c", .strengthened),
        ("d", some "summary-d", .summarized), ("e", some "summary-d", .summarized)] := by
  refine ⟨(consolidation_safe lifeConfig mixed_reachable fresh_mixed (by decide +kernel)).mpr
    (consolidatable_of_candidates ?_ ?_), by decide +kernel⟩
  · exact Option.isNone_iff_eq_none.mp (by decide +kernel)
  · unfold Sourced
    decide +kernel

end Noyra.Mind.Consolidation.Proofs
