import Mathlib.Logic.Relation
import Noyra.Lib.Versions
import Noyra.Mind.Store
import Noyra.Proofs.Consolidation

/-!
# Memories under every operation

Whatever operations commit, a memory keeps its identity and counts its changes, so a revision that expects the
revision its caller has read loses nothing; and where callers are regular, every memory and integration is read back
and the lifecycle is verified.
-/

namespace Noyra.Mind.Store.Proofs
open Noyra.Lib Noyra.Mind
open Noyra.Mind.Proofs (Books RowSound integrate_cases revert_cases get_ok get_of_sound)
open Noyra.Mind.Proofs (sampleMerge sampleRevert)
open Noyra.Mind.Consolidation.Proofs (Sound Readable Proper create_eq_ok revise_eq_ok runDue_cases sound_step quarter
  lifeConfig emptyLife mixed
  mixedActions readingsAt fresh_mixed mixed_proper recallOf)

/-- A memory is created under an allowed id, or revised. -/
inductive Touch (cfg : MemoryConfig) (allowed : String → Prop) (m m' : MindTables) : Prop
  | created {new : MindTables.NewMemory} {id : String} {now : Nat} {record : MemoryRow} (hid : allowed id)
      (h : m.create cfg new id now = .ok (record, m'))
  | revised {id : String} {r : MindTables.Revision} {now : Nat} {record : MemoryRow} (h : m.revise cfg id r now =
    .ok (record, m'))

/-- Any number of creations and revisions. -/
abbrev Touches (cfg : MemoryConfig) (allowed : String → Prop) : MindTables → MindTables → Prop :=
  Relation.ReflTransGen (Touch cfg allowed)

/-- The columns no operation changes. -/
def identity (row : MemoryRow) : String × MemoryType × String × Nat :=
  (row.subjectId, row.memoryType, row.privacyLevel, row.createdAt)

/-- Memories keep their identities and count their changes. -/
abbrev MemoriesEvolve (m m' : MindTables) : Prop := Evolves MemoryRow.currentRevision identity m.memories m'.memories

section Touch

variable {cfg : MemoryConfig} {allowed : String → Prop} {m m' : MindTables}

/-- What a revision does to its row. -/
lemma revise_row {id : String} {r : MindTables.Revision} {now : Nat} {record : MemoryRow}
    (h : m.revise cfg id r now = .ok (record, m')) :
    ∃ row, m.memories.find? record.memoryId = some row ∧ record.memoryId = id ∧ identity record = identity row ∧
      record.currentRevision = row.currentRevision + 1 ∧ (∀ n, r.expectedRevision = some n → n = row.currentRevision) ∧
      m' = { m with memories := m.memories.replace record } := by
  unfold MindTables.revise at h
  obtain ⟨_, _, h⟩ := bind_eq_ok.mp h
  obtain ⟨row, hrow, h⟩ := bind_eq_ok.mp h
  obtain ⟨_, hexpected, h⟩ := bind_eq_ok.mp h
  obtain ⟨sources, _, h⟩ := bind_eq_ok.mp h
  obtain ⟨record', hcheck, h⟩ := bind_eq_ok.mp h
  cases h
  have hsame := Noyra.Mind.Proofs.check_eq hcheck
  have hfind : m.memories.find? id = some row := orRaise_eq_ok.mp hrow
  have hid : row.memoryId = id := (Table.find?_eq_some.mp hfind).2
  have hexpected := raiseIf_eq_ok.mp hexpected
  refine ⟨row, ?_, ?_, ?_, ?_, ?_, ?_⟩
  · rw [hsame]
    dsimp only
    rw [hid]
    exact hfind
  · rw [hsame]
    exact hid
  · rw [hsame]
    rfl
  · rw [hsame]
  · intro n hn
    rw [hn] at hexpected
    simpa using hexpected
  · rw [hsame]

lemma Touch.evolves (h : Touch cfg allowed m m') : MemoriesEvolve m m' ∧ m'.events = m.events := by
  cases h with
  | created _ h =>
    unfold MindTables.create at h
    obtain ⟨_, _, h⟩ := bind_eq_ok.mp h
    obtain ⟨_, _, h⟩ := bind_eq_ok.mp h
    obtain ⟨memories, hinsert, h⟩ := bind_eq_ok.mp h
    obtain ⟨_, _, h⟩ := bind_eq_ok.mp h
    cases h
    exact ⟨Evolves.insert (orRaise_eq_ok.mp hinsert), rfl⟩
  | revised h =>
    obtain ⟨row, hrow, -, hidentity, hrevision, -, rfl⟩ := revise_row h
    exact ⟨Evolves.replace hrow hidentity (by omega), rfl⟩

lemma Touches.evolves (h : Touches cfg allowed m m') : MemoriesEvolve m m' ∧ m'.events = m.events := by
  induction h with
  | refl => exact ⟨Evolves.refl _, rfl⟩
  | tail _ hstep ih => exact ⟨ih.1.trans hstep.evolves.1, hstep.evolves.2.trans ih.2⟩

lemma Touches.mono {allowed' : String → Prop} (hallowed : ∀ id, allowed id → allowed' id)
    (h : Touches cfg allowed m m') :
    Touches cfg allowed' m m' := by
  refine Relation.ReflTransGen.mono (fun a b hab => ?_) _ _ h
  cases hab with
  | created hid h => exact .created (hallowed _ hid) h
  | revised h => exact .revised h

/-- Memories stay readable when new ids are short. -/
lemma Touches.readable (h : Touches cfg (fun id => id.length ≤ 64) m m')
    (hread : ∀ row ∈ m.memories, Readable cfg m.events row) :
    ∀ row ∈ m'.memories, Readable cfg m'.events row := by
  induction h with
  | refl => exact hread
  | tail _ hstep ih =>
    cases hstep with
    | created hid h =>
      obtain ⟨-, -, hrecord, memories, hinsert, rfl⟩ := create_eq_ok h hid
      intro row hrow
      have hrows := (Table.insert?_eq_some.mp hinsert).2
      change row ∈ memories at hrow
      rw [Table.mem_def, hrows, List.mem_append, List.mem_singleton] at hrow
      rcases hrow with hrow | rfl
      · exact ih row hrow
      · exact hrecord
    | revised h =>
      obtain ⟨old, hold, -, -, hrecord, rfl⟩ := revise_eq_ok h
      intro row hrow
      rcases Table.mem_replace.mp hrow with ⟨rfl, -⟩ | ⟨hrow, -⟩
      · exact hrecord (ih old (Table.find?_eq_some.mp hold).1).id_short
      · exact ih row hrow

end Touch

section Operations

variable {cfg : IntegrationConfig} {t t' : IntegrationTables} {allowed : String → Prop}

lemma reviseMemory_touches {id : String} {r : MindTables.Revision} {now : Nat}
    (h : t.reviseMemory cfg id r now = .ok t') :
    Touches cfg.toMemoryConfig allowed t.toMindTables t'.toMindTables := by
  unfold IntegrationTables.reviseMemory at h
  obtain ⟨⟨record, mind⟩, hrevise, h⟩ := bind_eq_ok.mp h
  cases h
  exact .single (.revised hrevise)

lemma supersedeRecords_touches {c : IntegrateCall} {operation : Operation} {records : List MemoryRow}
    (h : IntegrationTables.supersedeRecords cfg c operation records t = .ok t') :
    Touches cfg.toMemoryConfig allowed t.toMindTables t'.toMindTables := by
  unfold IntegrationTables.supersedeRecords at h
  by_cases hop : operation = .contradict
  · rw [if_pos hop] at h
    cases h
    exact .refl
  · rw [if_neg hop] at h
    exact foldlM_preserves (P := fun x => Touches cfg.toMemoryConfig allowed t.toMindTables x.toMindTables)
      (fun record _ x y hx hy => hx.trans (reviseMemory_touches hy)) h .refl

lemma integrate_touches (c : IntegrateCall) :
    Touches cfg.toMemoryConfig (fun id => id = c.memoryId) t.toMindTables (t.integrate cfg c).2.toMindTables := by
  unfold IntegrationTables.integrate
  split
  case h_1 => exact .refl
  case h_2 t' hrun =>
    obtain ⟨⟨operation, records⟩, -, hcommit⟩ := bind_eq_ok.mp hrun
    unfold IntegrationTables.commitIntegrate at hcommit
    obtain ⟨_, _, hcommit⟩ := bind_eq_ok.mp hcommit
    obtain ⟨⟨output, mind⟩, hcreate, hcommit⟩ := bind_eq_ok.mp hcommit
    obtain ⟨mid, hmid, hcommit⟩ := bind_eq_ok.mp hcommit
    obtain ⟨integrations, _, hcommit⟩ := bind_eq_ok.mp hcommit
    obtain ⟨_, _, hcommit⟩ := bind_eq_ok.mp hcommit
    cases hcommit
    exact .head (.created rfl hcreate) (supersedeRecords_touches hmid)

lemma revert_touches (c : RevertCall) : Touches cfg.toMemoryConfig allowed t.toMindTables
    (t.revert cfg c).2.toMindTables := by
  unfold IntegrationTables.revert
  split
  case h_1 => exact .refl
  case h_2 t' hrun =>
    obtain ⟨⟨record, output⟩, -, hcommit⟩ := bind_eq_ok.mp hrun
    unfold IntegrationTables.commitRevert at hcommit
    obtain ⟨restored, hrestored, hcommit⟩ := bind_eq_ok.mp hcommit
    obtain ⟨archived, harchived, hcommit⟩ := bind_eq_ok.mp hcommit
    obtain ⟨_, _, hcommit⟩ := bind_eq_ok.mp hcommit
    cases hcommit
    have hsources : Touches cfg.toMemoryConfig allowed t.toMindTables restored.toMindTables := by
      refine foldlM_preserves (P := fun x => Touches cfg.toMemoryConfig allowed t.toMindTables x.toMindTables)
        (fun id _ x y hx hy => hx.trans ?_) hrestored .refl
      unfold IntegrationTables.restoreSource at hy
      obtain ⟨memory, _, hy⟩ := bind_eq_ok.mp hy
      split at hy
      case isTrue => exact reviseMemory_touches hy
      case isFalse =>
        cases hy
        exact .refl
    have houtput : Touches cfg.toMemoryConfig allowed restored.toMindTables archived.toMindTables := by
      unfold IntegrationTables.archiveOutput at harchived
      split at harchived
      case isTrue =>
        cases harchived
        exact .refl
      case isFalse => exact reviseMemory_touches harchived
    exact hsources.trans houtput

end Operations

section Consolidation

variable {cfg : ConsolidationConfig} {t t' : ConsolidationTables} {r : Readings}

/-- Anything may be created. -/
abbrev Touched (cfg : ConsolidationConfig) (t t' : ConsolidationTables) : Prop :=
  Touches cfg.toMemoryConfig (fun _ => True) t.toMindTables t'.toMindTables

lemma reviseCandidate_touches {c : Candidate} {salience : Double} {status : MemoryStatus} {reason : String}
    (h : t.reviseCandidate cfg r c salience status reason = .ok t') : Touched cfg t t' := by
  unfold ConsolidationTables.reviseCandidate at h
  obtain ⟨⟨record, mind⟩, hrevise, h⟩ := bind_eq_ok.mp h
  cases h
  exact .single (.revised hrevise)

lemma summarize_touches {cs : List Candidate} {c : Candidate} {p : Progress} {result : Option String × Progress}
    (h : summarize cfg r cs c p = .ok result) : Touched cfg p.tables result.2.tables := by
  unfold summarize at h
  dsimp only at h
  split at h
  case isTrue =>
    cases h
    exact .refl
  case isFalse =>
    split at h
    case h_1 =>
      cases h
      exact .refl
    case h_2 =>
      obtain ⟨⟨record, mind⟩, hcreate, h⟩ := bind_eq_ok.mp h
      cases h
      exact .single (.created trivial hcreate)

lemma review_touches {cs : List Candidate} {c : Candidate} {p p' : Progress} (h : review cfg r cs p c = .ok p') :
    Touched cfg p.tables p'.tables := by
  unfold review at h
  split at h
  case h_1 =>
    unfold archiveDuplicate at h
    obtain ⟨tables, hrevise, h⟩ := bind_eq_ok.mp h
    cases h
    exact reviseCandidate_touches hrevise
  case h_2 =>
    split at h
    case isTrue =>
      unfold strengthenCandidate at h
      obtain ⟨tables, hrevise, h⟩ := bind_eq_ok.mp h
      cases h
      exact reviseCandidate_touches hrevise
    case isFalse =>
      split at h
      case isTrue =>
        unfold archiveStale at h
        obtain ⟨⟨summaryMemoryId, q⟩, hsummary, h⟩ := bind_eq_ok.mp h
        obtain ⟨tables, hrevise, h⟩ := bind_eq_ok.mp h
        cases h
        exact (summarize_touches hsummary).trans (reviseCandidate_touches hrevise)
      case isFalse =>
        cases h
        exact .refl

/-- A consolidation evolves the memories, whether or not its call is regular. -/
lemma runDue_evolves (t : ConsolidationTables) (r : Readings) :
    MemoriesEvolve t.toMindTables (t.runDue cfg r).2.toMindTables := by
  unfold ConsolidationTables.runDue
  split
  case h_1 => exact Evolves.refl _
  case h_2 => exact Evolves.refl _
  case h_3 =>
    cases hrun : t.runWhenDue cfg r with
    | error e => exact Evolves.refl _
    | ok result =>
      unfold ConsolidationTables.runWhenDue at hrun
      obtain ⟨cs, _, hrun⟩ := bind_eq_ok.mp hrun
      unfold ConsolidationTables.commit at hrun
      cases hexisting : t.existing cfg r with
      | some run =>
        rw [hexisting] at hrun
        cases hrun
        exact Evolves.refl _
      | none =>
        rw [hexisting] at hrun
        obtain ⟨start, hstart, hrun⟩ := bind_eq_ok.mp hrun
        obtain ⟨p, hp, hrun⟩ := bind_eq_ok.mp hrun
        obtain ⟨runs, _, hrun⟩ := bind_eq_ok.mp hrun
        obtain ⟨members, _, hrun⟩ := bind_eq_ok.mp hrun
        cases hrun
        have hloop : Touched cfg start p.tables :=
          foldlM_preserves (P := fun x => Touched cfg start x.tables)
            (fun c _ x y hx hy => hx.trans (review_touches hy)) hp .refl
        have hmemories : start.memories = t.memories := by
          unfold ConsolidationTables.appendEvent at hstart
          obtain ⟨_, _, hstart⟩ := bind_eq_ok.mp hstart
          cases hstart
          rfl
        have hevolves := hloop.evolves.1
        unfold MemoriesEvolve at hevolves
        rw [hmemories] at hevolves
        exact hevolves

lemma recordAccesses_keeps {c : RecallCall} (h : t.recordAccesses cfg c = .ok t') :
    t'.toIntegrationTables = t.toIntegrationTables := by
  unfold ConsolidationTables.recordAccesses at h
  refine foldlM_preserves (P := fun x => x.toIntegrationTables = t.toIntegrationTables) (fun item _ x y hx hy => ?_) h
    rfl
  unfold recordAccess at hy
  obtain ⟨_, _, hy⟩ := bind_eq_ok.mp hy
  split at hy
  case h_1 =>
    obtain ⟨accesses, _, hy⟩ := bind_eq_ok.mp hy
    cases hy
    exact hx
  case h_2 =>
    cases hy
    exact hx

/-- One action evolves the memories. -/
lemma act_evolves (t : ConsolidationTables) (a : StoreAction) :
    MemoriesEvolve t.toMindTables (t.act cfg a).toMindTables := by
  cases a with
  | integration call =>
    cases call with
    | integrate c => exact (integrate_touches c).evolves.1
    | revert c => exact (@revert_touches _ _ (fun _ => True) c).evolves.1
  | life a =>
    unfold ConsolidationTables.act ConsolidationTables.step
    cases a with
    | create m id now =>
      dsimp only
      cases h : t.toMindTables.create cfg.toMemoryConfig m id now with
      | error e => exact Evolves.refl _
      | ok x => exact (show Touch cfg.toMemoryConfig (fun _ => True) _ _ from .created trivial h).evolves.1
    | revise id v now =>
      dsimp only
      cases h : t.toMindTables.revise cfg.toMemoryConfig id v now with
      | error e => exact Evolves.refl _
      | ok x => exact (show Touch cfg.toMemoryConfig (fun _ => True) _ _ from .revised h).evolves.1
    | access c =>
      dsimp only
      cases h : t.recordAccesses cfg c with
      | error e => exact Evolves.refl _
      | ok t' =>
        have hsame := congrArg IntegrationTables.toMindTables (recordAccesses_keeps h)
        change MemoriesEvolve t.toMindTables t'.toMindTables
        rw [hsame]
        exact Evolves.refl _
    | event subject id => exact Evolves.refl _
    | withdraw id => exact Evolves.refl _
    | runDue r => exact runDue_evolves t r

lemma actions_evolve (t : ConsolidationTables) (actions : List StoreAction) :
    MemoriesEvolve t.toMindTables (actions.foldl (storeMachine cfg).step t).toMindTables := by
  induction actions generalizing t with
  | nil => exact Evolves.refl _
  | cons a actions ih => exact (act_evolves t a).trans (ih (t.act cfg a))

end Consolidation

/-- Whatever actions follow, a memory stays with its identity and its revision does not go back; and a later revision
that expects the revision read before replaces exactly the row that was read. -/
theorem no_lost_update (cfg : ConsolidationConfig) (t : ConsolidationTables) (actions : List StoreAction)
    {memoryId : String} {row : MemoryRow}
    (hrow : t.memories.find? memoryId = some row) :
    (∃ row', (actions.foldl (storeMachine cfg).step t).memories.find? memoryId = some row' ∧
      identity row' = identity row ∧ row.currentRevision ≤ row'.currentRevision) ∧
    ∀ r now record mind, (actions.foldl (storeMachine cfg).step t).toMindTables.revise cfg.toMemoryConfig memoryId r
      now = .ok (record, mind) →
      r.expectedRevision = some row.currentRevision →
      (actions.foldl (storeMachine cfg).step t).memories.find? memoryId = some row ∧
      record.currentRevision = row.currentRevision + 1 := by
  have hevolves := @actions_evolve cfg t actions
  obtain ⟨row', hrow', hidentity, hle, -⟩ := hevolves memoryId row hrow
  refine ⟨⟨row', hrow', hidentity, hle⟩, fun r now record mind hrevise hexpected => ?_⟩
  obtain ⟨found, hfound, rfl, -, hrevision, hexpects, -⟩ := revise_row hrevise
  have hsame : found = row := hevolves.unchanged hrow hfound (hexpects _ hexpected).symm
  subst hsame
  exact ⟨hfound, hrevision⟩

/-- A revision of the first memory that expects its first revision. -/
def firstChange : MindTables.Revision := ⟨"new content", quarter, point45, .active, "reason", ["e"], some 1⟩

def laterActions : List StoreAction :=
  [.life (recallOf "c" 4), .integration (.integrate (sampleMerge ["b", "c"] "x" "i" point45 5))]

/-- After a recall and a merge of other memories the revision still replaces the row read before. -/
theorem change_after_merge : ∃ row record mind, mixed.memories.find? "a" = some row ∧
    (laterActions.foldl (storeMachine lifeConfig).step mixed).toMindTables.revise lifeConfig.toMemoryConfig "a"
      firstChange 6 = .ok (record, mind) ∧
    record.currentRevision = row.currentRevision + 1 := by
  have hfound : (mixed.memories.find? "a").map MemoryRow.currentRevision = some 1 := by decide +kernel
  have hrevised : ((laterActions.foldl (storeMachine lifeConfig).step mixed).toMindTables.revise
      lifeConfig.toMemoryConfig "a" firstChange 6).toBool =
      true := by decide +kernel
  obtain ⟨row, hrow, hfirst⟩ := Option.map_eq_some_iff.mp hfound
  cases hresult : (laterActions.foldl (storeMachine lifeConfig).step mixed).toMindTables.revise
    lifeConfig.toMemoryConfig "a" firstChange 6 with
  | error e =>
    rw [hresult] at hrevised
    cases hrevised
  | ok result =>
    have hkept := (no_lost_update lifeConfig mixed laterActions hrow).2 firstChange 6 result.1 result.2 hresult
        (by rw [hfirst]; rfl)
    exact ⟨row, result.1, result.2, hrow, rfl, hkept.2⟩

/-- Actions that keep everything readable: new ids are new and short, a confidence is a float, and no clock goes back
before what it reverts. -/
def Regular (cfg : ConsolidationConfig) (t : ConsolidationTables) : StoreAction → Prop
  | .life action => Proper t action
  | .integration (.integrate c) => c.memoryId.length ≤ 64 ∧ ∃ x, c.confidence = .float x
  | .integration (.revert c) =>
    ∀ record, t.toIntegrationTables.get cfg.toIntegrationConfig c.integrationId = .ok record → record.createdAt ≤ c.now

/-- What holds in every state of a regular run. -/
structure StoreSound (cfg : ConsolidationConfig) (t : ConsolidationTables) : Prop extends Sound cfg t where
  known : ∀ r ∈ t.revisions, ∃ row ∈ t.integrations, row.integrationId = r.integrationId

section Regular

variable {cfg : ConsolidationConfig} {t t' : ConsolidationTables}

lemma StoreSound.books (h : StoreSound cfg t) : Books cfg.toIntegrationConfig t.toIntegrationTables :=
  ⟨h.integrations, h.known⟩

/-- An integration or a revert that keeps the books keeps everything. -/
lemma StoreSound.integrated (h : StoreSound cfg t) {ti : IntegrationTables} (hbooks : Books cfg.toIntegrationConfig ti)
    (htouches : Touches cfg.toMemoryConfig (fun id => id.length ≤ 64) t.toMindTables ti.toMindTables) :
    StoreSound cfg { t with toIntegrationTables := ti } where
  readable := htouches.readable h.readable
  runs := h.runs
  members := h.members
  accesses := h.accesses
  integrations := hbooks.rows
  known := hbooks.known

/-- An action of a lifetime leaves the integrations alone. -/
lemma StoreSound.step_books (h : StoreSound cfg t) {a : LifeAction} (ha : Proper t a) :
    (t.step cfg a).integrations = t.integrations ∧ (t.step cfg a).revisions = t.revisions := by
  unfold ConsolidationTables.step
  cases a with
  | create m id now =>
    dsimp only
    cases t.toMindTables.create cfg.toMemoryConfig m id now with
    | error e => exact ⟨rfl, rfl⟩
    | ok x => exact ⟨rfl, rfl⟩
  | revise id v now =>
    dsimp only
    cases t.toMindTables.revise cfg.toMemoryConfig id v now with
    | error e => exact ⟨rfl, rfl⟩
    | ok x => exact ⟨rfl, rfl⟩
  | access c =>
    dsimp only
    cases hc : t.recordAccesses cfg c with
    | error e => exact ⟨rfl, rfl⟩
    | ok t' =>
      have hsame := recordAccesses_keeps hc
      exact ⟨congrArg IntegrationTables.integrations hsame, congrArg IntegrationTables.revisions hsame⟩
  | event subject id => exact ⟨rfl, rfl⟩
  | withdraw id => exact ⟨rfl, rfl⟩
  | runDue r =>
    dsimp only
    rcases runDue_cases h.toSound ha with hsame | ⟨cs, p, -, hcommits⟩
    · rw [hsame]
      exact ⟨rfl, rfl⟩
    · exact ⟨hcommits.integrations, hcommits.revisions⟩

lemma StoreSound.act (h : StoreSound cfg t) {a : StoreAction} (ha : Regular cfg t a) :
    StoreSound cfg (t.act cfg a) := by
  cases a with
  | life a =>
    obtain ⟨hintegrations, hrevisions⟩ := h.step_books ha
    refine ⟨sound_step h.toSound ha, ?_⟩
    change ∀ r ∈ (t.step cfg a).revisions, ∃ row ∈ (t.step cfg a).integrations, row.integrationId = r.integrationId
    rw [hintegrations, hrevisions]
    exact h.known
  | integration call =>
    cases call with
    | integrate c =>
      refine h.integrated ?_ ((integrate_touches c).mono (fun id hid => by rw [hid]; exact ha.1))
      unfold IntegrationTables.call
      rcases integrate_cases t.toIntegrationTables c with ⟨e, herror⟩ | ⟨operation, t', hdone, hcommit⟩
      · dsimp only
        rw [herror]
        exact h.books
      · dsimp only
        rw [hcommit]
        exact hdone.books h.books ha.2
    | revert c =>
      refine h.integrated ?_ (revert_touches c)
      unfold IntegrationTables.call
      rcases revert_cases t.toIntegrationTables c with ⟨e, herror⟩ | ⟨record, t', hdone, hcommit⟩
      · dsimp only
        rw [herror]
        exact h.books
      · dsimp only
        rw [hcommit]
        exact hdone.books h.books (ha record hdone.found)

lemma storeSound_of_reachable (h : (storeMachine cfg).ReachableUnder (Regular cfg) t) : StoreSound cfg t := by
  apply h.invariant (I := StoreSound cfg)
  · rintro t ⟨hmemories, hintegrations, hrevisions, haccesses, hruns, hmembers⟩
    have hbooks : Books cfg.toIntegrationConfig t.toIntegrationTables := Books.initial hintegrations hrevisions
    refine ⟨⟨fun row hrow => ?_, fun run hrun => ?_, fun m hm => ?_, fun a ha => ?_, hbooks.rows⟩, hbooks.known⟩
    · rw [Table.mem_def, hmemories] at hrow
      cases hrow
    · rw [Table.mem_def, hruns] at hrun
      cases hrun
    · rw [Table.mem_def, hmembers] at hm
      cases hm
    · rw [Table.mem_def, haccesses] at ha
      cases ha
  · intro t a ht ha
    exact ht.act ha

end Regular

/-- In every state that regular creations, revisions, recalls, consolidations, integrations and reverts reach, in any
order, every memory and every integration is read back and the lifecycle is verified. -/
theorem store_verified (cfg : ConsolidationConfig) {t : ConsolidationTables}
    (h : (storeMachine cfg).ReachableUnder (Regular cfg) t) :
    t.verifyLifecycle cfg = .ok () ∧
      (∀ row ∈ t.memories, t.toMindTables.load cfg.toMemoryConfig row.memoryId = .ok row) ∧
      ∀ row ∈ t.integrations, t.toIntegrationTables.get cfg.toIntegrationConfig row.integrationId = .ok row := by
  have ht := storeSound_of_reachable h
  refine ⟨ht.toSound.verified, fun row hrow => ?_, fun row hrow => get_of_sound hrow (ht.integrations row hrow)⟩
  unfold MindTables.load MindTables.getRow
  rw [Table.find?_key hrow, orRaise_some, ok_bind, (ht.readable row hrow).read]

/-- The mixed memories are consolidated; then a merge, its revert, and the merge again. -/
def laterStoreActions : List StoreAction :=
  [.life (.runDue (readingsAt 20000000000)),
    .integration (.integrate (sampleMerge ["a", "c"] "x" "i" point45 20000000001)),
    .integration (.revert (sampleRevert 20000000002)),
      .integration (.integrate (sampleMerge ["a", "c"] "y" "j" point45 20000000003))]

def busy : ConsolidationTables := laterStoreActions.foldl (storeMachine lifeConfig).step mixed

lemma regular_merge {sources : List String} {memoryId integrationId : String} {confidence : Double} {now : Nat}
    (h : memoryId.length ≤ 64) (t : ConsolidationTables) : Regular lifeConfig t
      (.integration (.integrate (sampleMerge sources memoryId integrationId confidence now))) :=
  ⟨h, confidence, rfl⟩

/-- A revert is regular when nothing is integrated after it. -/
lemma regular_revert {t : ConsolidationTables} {now : Nat} (h : ∀ row ∈ t.integrations.rows, row.createdAt ≤ now) :
    Regular lifeConfig t (.integration (.revert (sampleRevert now))) := by
  intro record hget
  exact h record (get_ok hget).1

lemma later_meets : (storeMachine lifeConfig).Meets (Regular lifeConfig) mixed laterStoreActions :=
  ⟨fresh_mixed, regular_merge (by decide) _, regular_revert (by decide +kernel), regular_merge (by decide) _, trivial⟩

lemma busy_reachable : (storeMachine lifeConfig).ReachableUnder (Regular lifeConfig) busy := by
  have hregular : ∀ a ∈ mixedActions.map StoreAction.life, ∀ t, Regular lifeConfig t a := by
    rw [List.forall_mem_map]
    exact mixed_proper
  obtain ⟨actions, hmixed⟩ := @Machine.reachableUnder_foldl _ _ (storeMachine lifeConfig) _ emptyLife ⟨rfl, rfl, rfl,
      rfl, rfl, rfl⟩ _
    (Machine.Meets.of_forall hregular)
  exact ⟨_, Machine.run_foldl hmixed laterStoreActions later_meets⟩

/-- Three recalls, a consolidation, a merge, its revert and another merge: everything is verified and read back. -/
theorem busy_verified :
    (busy.verifyLifecycle lifeConfig = .ok () ∧
      (∀ row ∈ busy.memories, busy.toMindTables.load lifeConfig.toMemoryConfig row.memoryId = .ok row) ∧
      ∀ row ∈ busy.integrations, busy.toIntegrationTables.get lifeConfig.toIntegrationConfig row.integrationId =
        .ok row) ∧
    busy.memories.rows.map (fun row => (row.memoryId, row.status, row.currentRevision)) =
      [("a", .superseded, 4), ("b", .archived, 2), ("c", .superseded, 5), ("d", .archived, 2), ("e", .archived, 2),
        ("summary-d", .active, 1), ("x", .archived, 2), ("y", .active, 1)] ∧
    busy.accesses.rows.map (fun row => (row.memoryId, row.accessCount)) = [("c", 3)] ∧
    busy.runs.rows.map (fun row => (row.consolidationId, row.status)) = [("k", .committed)] ∧
    busy.members.rows.map (fun row => (row.sourceMemoryId, row.disposition)) =
      [("a", .retained), ("b", .archivedDuplicate), ("c", .strengthened), ("d", .summarized), ("e", .summarized)] ∧
    busy.integrations.rows.map (fun row => (row.integrationId, row.status)) = [("i", .reverted), ("j", .active)] := by
  exact ⟨store_verified lifeConfig busy_reachable, by decide +kernel⟩

end Noyra.Mind.Store.Proofs
