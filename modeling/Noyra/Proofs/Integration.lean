import Noyra.Lib.Digest
import Noyra.Mind.Integration

/-!
# Integrations that can be reverted

In a run in which every confidence is a float, no clock goes back, and a revert meets only sources that were active
before and that no other integration covers, covered memories are superseded, reverting restores them, and every
integration is read back.
-/

namespace Noyra.Mind.Proofs
open Noyra.Lib Noyra.Mind

variable {cfg : IntegrationConfig} {t t' : IntegrationTables} {id k : String}

def subjectOf (t : IntegrationTables) (memoryId : String) : Option String :=
  (t.memories.find? memoryId).map MemoryRow.subjectId

/-- Tables that differ only in memories, and there not in the subjects. -/
structure SameBooks (t t' : IntegrationTables) : Prop where
  events : t'.events = t.events
  integrations : t'.integrations = t.integrations
  revisions : t'.revisions = t.revisions
  subjects : ∀ k, subjectOf t' k = subjectOf t k

lemma SameBooks.refl (t : IntegrationTables) : SameBooks t t := ⟨rfl, rfl, rfl, fun _ => rfl⟩

lemma SameBooks.trans {t₁ t₂ t₃ : IntegrationTables} (h : SameBooks t₁ t₂) (h' : SameBooks t₂ t₃) : SameBooks t₁ t₃ :=
  ⟨h'.events.trans h.events, h'.integrations.trans h.integrations, h'.revisions.trans h.revisions,
    fun k => (h'.subjects k).trans (h.subjects k)⟩

/-- A revised memory has the new status, and nothing else changes its own. -/
lemma reviseMemory_ok {r : MindTables.Revision} {now : Nat} (h : t.reviseMemory cfg id r now = .ok t') :
    SameBooks t t' ∧ ∀ k, t'.statusOf k = if k = id then some r.status else t.statusOf k := by
  unfold IntegrationTables.reviseMemory at h
  obtain ⟨⟨record, mind⟩, hrevise, h⟩ := bind_eq_ok.mp h
  cases h
  unfold MindTables.revise at hrevise
  obtain ⟨_, _, hrevise⟩ := bind_eq_ok.mp hrevise
  obtain ⟨row, hrow, hrevise⟩ := bind_eq_ok.mp hrevise
  obtain ⟨_, _, hrevise⟩ := bind_eq_ok.mp hrevise
  obtain ⟨sources, _, hrevise⟩ := bind_eq_ok.mp hrevise
  obtain ⟨_, _, hrevise⟩ := bind_eq_ok.mp hrevise
  cases hrevise
  have hfind : t.memories.find? id = some row := orRaise_eq_ok.mp hrow
  have hkey : row.memoryId = id := (Table.find?_eq_some.mp hfind).2
  subst hkey
  refine ⟨⟨rfl, rfl, rfl, fun k => ?_⟩, fun k => ?_⟩
  · unfold subjectOf
    dsimp only
    rw [Table.find?_replace (by exact hfind)]
    dsimp only
    by_cases hk : k = row.memoryId
    · rw [if_pos hk, hk, hfind]
      rfl
    · rw [if_neg hk]
  · unfold IntegrationTables.statusOf
    dsimp only
    rw [Table.find?_replace (by exact hfind)]
    dsimp only
    by_cases hk : k = row.memoryId
    · rw [if_pos hk, if_pos hk]
      rfl
    · rw [if_neg hk, if_neg hk]

/-- Superseding records one after the other. -/
lemma supersede_ok {c : IntegrateCall} {records : List MemoryRow}
    (h : records.foldlM (IntegrationTables.supersedeRecord cfg c) t = .ok t') :
    SameBooks t t' ∧ ∀ k, t'.statusOf k = if k ∈ records.map MemoryRow.memoryId then some .superseded else t.statusOf
      k := by
  induction records generalizing t with
  | nil =>
    cases h
    exact ⟨SameBooks.refl _, fun k => by simp⟩
  | cons record records ih =>
    rw [List.foldlM_cons] at h
    obtain ⟨mid, hfirst, hrest⟩ := bind_eq_ok.mp h
    obtain ⟨hbooks, hstatus⟩ := reviseMemory_ok hfirst
    obtain ⟨hbooks', hstatus'⟩ := ih hrest
    refine ⟨hbooks.trans hbooks', fun k => ?_⟩
    rw [hstatus', hstatus, List.map_cons]
    by_cases hk : k ∈ records.map MemoryRow.memoryId
    · rw [if_pos hk, if_pos (List.mem_cons_of_mem _ hk)]
    · rw [if_neg hk]
      by_cases hkr : k = record.memoryId
      · rw [if_pos hkr, if_pos (hkr ▸ List.mem_cons_self)]
      · rw [if_neg hkr, if_neg (fun hmem => (List.mem_cons.mp hmem).elim hkr hk)]

lemma check_eq {mcfg : MemoryConfig} {row record : MemoryRow} (h : row.check mcfg = .ok record) : record = row := by
  unfold MemoryRow.check at h
  obtain ⟨_, _, h⟩ := bind_eq_ok.mp h
  obtain ⟨_, _, h⟩ := bind_eq_ok.mp h
  obtain ⟨_, _, h⟩ := bind_eq_ok.mp h
  obtain ⟨_, _, h⟩ := bind_eq_ok.mp h
  obtain ⟨_, _, h⟩ := bind_eq_ok.mp h
  cases h
  rfl

/-- Restoring the superseded sources one after the other. -/
lemma restore_ok {c : RevertCall} {record : IntegrationRow} {before : IntegrationTables} {ids : List String}
    (h : ids.foldlM (IntegrationTables.restoreSource cfg c record before) t = .ok t') :
    SameBooks t t' ∧
      ∀ k, t'.statusOf k = if k ∈ ids ∧ before.statusOf k = some .superseded then some .active else t.statusOf k := by
  induction ids generalizing t with
  | nil =>
    cases h
    exact ⟨SameBooks.refl _, fun k => by simp⟩
  | cons id ids ih =>
    rw [List.foldlM_cons] at h
    obtain ⟨mid, hfirst, hrest⟩ := bind_eq_ok.mp h
    obtain ⟨hbooks', hstatus'⟩ := ih hrest
    have hstep : SameBooks t mid ∧ ∀ k, mid.statusOf k = if k = id ∧
        before.statusOf k = some .superseded then some .active else t.statusOf k := by
      unfold IntegrationTables.restoreSource at hfirst
      obtain ⟨memory, hload, hfirst⟩ := bind_eq_ok.mp hfirst
      unfold MindTables.load at hload
      obtain ⟨row, hrow, hcheck⟩ := bind_eq_ok.mp hload
      have hsame : memory = row := check_eq hcheck
      subst hsame
      have hstatusid : before.statusOf id = some memory.status := by
        unfold IntegrationTables.statusOf
        rw [orRaise_eq_ok.mp hrow]
        rfl
      split at hfirst
      case isTrue hsup =>
        obtain ⟨hbooks, hstatus⟩ := reviseMemory_ok hfirst
        refine ⟨hbooks, fun k => ?_⟩
        rw [hstatus]
        by_cases hk : k = id
        · subst hk
          rw [if_pos rfl, if_pos ⟨rfl, by rw [hstatusid, hsup]⟩]
        · rw [if_neg hk, if_neg (fun hand => hk hand.1)]
      case isFalse hsup =>
        cases hfirst
        refine ⟨SameBooks.refl t, fun k => ?_⟩
        rw [if_neg]
        rintro ⟨rfl, hs⟩
        rw [hstatusid] at hs
        exact hsup (Option.some.inj hs)
    refine ⟨hstep.1.trans hbooks', fun k => ?_⟩
    rw [hstatus', hstep.2]
    by_cases hs : before.statusOf k = some .superseded
    · by_cases hk : k ∈ ids
      · rw [if_pos ⟨hk, hs⟩, if_pos ⟨List.mem_cons_of_mem _ hk, hs⟩]
      · rw [if_neg (fun hand => hk hand.1)]
        by_cases hki : k = id
        · rw [if_pos ⟨hki, hs⟩, if_pos ⟨hki ▸ List.mem_cons_self, hs⟩]
        · rw [if_neg (fun hand => hki hand.1), if_neg (fun hand => (List.mem_cons.mp hand.1).elim hki hk)]
    · rw [if_neg (fun hand => hs hand.2), if_neg (fun hand => hs hand.2), if_neg (fun hand => hs hand.2)]

/-! ### What a call changes -/

/-- The row of a committed integration. -/
def newRow (cfg : IntegrationConfig) (c : IntegrateCall) (operation : Operation) : IntegrationRow where
  integrationId := c.integrationId
  subjectId := cfg.subjectId
  operation := operation
  sourceMemoryIds := c.sourceMemoryIds
  outputMemoryId := c.memoryId
  evidenceEventIds := c.evidenceEventIds
  reason := strip c.reason
  confidence := stored c.confidence.toFloat
  status := .active
  stateHash := cfg.hash operation c.sourceMemoryIds c.memoryId c.evidenceEventIds (strip c.reason) c.confidence .active
  createdAt := c.now
  revertedAt := none

/-- What `integrate` found and did when it commits. -/
structure Integrated (cfg : IntegrationConfig) (c : IntegrateCall) (operation : Operation) (t t' : IntegrationTables) :
    Prop where
  many : 2 ≤ c.sourceMemoryIds.length
  distinct : c.sourceMemoryIds.Nodup
  reason : strip c.reason ≠ ""
  unit : isUnit c.confidence.value = true
  evidence : c.evidenceEventIds ≠ []
  evidence_distinct : c.evidenceEventIds.Nodup
  evidence_known : ∀ e ∈ c.evidenceEventIds, t.events.contains (cfg.subjectId, e) = true
  owned : ∀ id ∈ c.sourceMemoryIds, subjectOf t id = some cfg.subjectId
  confidence_kept : stored c.confidence.toFloat = c.confidence.toFloat
  memory_new : subjectOf t c.memoryId = none
  integration_new : ∀ row ∈ t.integrations, row.integrationId ≠ c.integrationId
  events : t'.events = t.events
  integrations : t'.integrations.rows = t.integrations.rows ++ [newRow cfg c operation]
  revisions : t'.revisions =
    t.revisions ++ [⟨c.integrationId, .commit, strip c.reason,
      cfg.revisionHash c.integrationId .commit (strip c.reason) c.now, c.now⟩]
  subjects : ∀ k, subjectOf t' k = if k = c.memoryId then some cfg.subjectId else subjectOf t k
  statuses : ∀ k, k ≠ c.memoryId →
    t'.statusOf k = if operation ≠ .contradict ∧ k ∈ c.sourceMemoryIds then some .superseded else t.statusOf k

lemma find?_of_subjectOf {s : String} (h : subjectOf t k = some s) :
    ∃ row, t.memories.find? k = some row ∧ row.subjectId = s := by
  unfold subjectOf at h
  obtain ⟨row, hrow, hs⟩ := Option.map_eq_some_iff.mp h
  exact ⟨row, hrow, hs⟩

lemma load_ok {mcfg : MemoryConfig} {m : MindTables} {row : MemoryRow} (h : m.load mcfg id = .ok row) :
    m.memories.find? id = some row := by
  unfold MindTables.load at h
  obtain ⟨found, hfound, hcheck⟩ := bind_eq_ok.mp h
  rw [check_eq hcheck]
  exact orRaise_eq_ok.mp hfound

lemma statusOf_of_load {mcfg : MemoryConfig} {row : MemoryRow} (h : t.toMindTables.load mcfg id = .ok row) :
    t.statusOf id = some row.status := by
  unfold IntegrationTables.statusOf
  rw [load_ok h]
  rfl

/-- What creating the output changes. -/
lemma create_ok {m : MindTables.NewMemory} {now : Nat} {record : MemoryRow} {mind : MindTables}
    (h : t.toMindTables.create cfg.toMemoryConfig m id now = .ok (record, mind)) :
    record.memoryId = id ∧ subjectOf t id = none ∧ stored m.confidence.toFloat = m.confidence.toFloat ∧
    mind.events = t.events ∧
      (∀ k, subjectOf { t with toMindTables := mind } k = if k = id then some m.subjectId else subjectOf t k) ∧
      ∀ k, ({ t with toMindTables := mind } : IntegrationTables).statusOf k =
        if k = id then some .active else t.statusOf k := by
  unfold MindTables.create at h
  obtain ⟨_, _, h⟩ := bind_eq_ok.mp h
  obtain ⟨sources, _, h⟩ := bind_eq_ok.mp h
  obtain ⟨memories, hinsert, h⟩ := bind_eq_ok.mp h
  obtain ⟨row, hcheck, h⟩ := bind_eq_ok.mp h
  have hinsert := orRaise_eq_ok.mp hinsert
  have hrow := check_eq hcheck
  subst hrow
  cases h
  have hfresh : t.memories.find? id = none := Table.find?_eq_none.mpr (Table.insert?_eq_some.mp hinsert).1
  have hstored : stored m.confidence.toFloat = m.confidence.toFloat := by
    unfold MemoryRow.check at hcheck
    obtain ⟨_, _, hcheck⟩ := bind_eq_ok.mp hcheck
    obtain ⟨_, _, hcheck⟩ := bind_eq_ok.mp hcheck
    obtain ⟨_, _, hcheck⟩ := bind_eq_ok.mp hcheck
    obtain ⟨_, _, hcheck⟩ := bind_eq_ok.mp hcheck
    obtain ⟨_, hstate, _⟩ := bind_eq_ok.mp hcheck
    exact cfg.stateHash_injective _ _ _ _ _ _ (not_not.mp (raiseIf_eq_ok.mp hstate))
  refine ⟨rfl, ?_, hstored, rfl, fun k => ?_, fun k => ?_⟩
  · unfold subjectOf
    rw [hfresh]
    rfl
  · unfold subjectOf
    dsimp only
    rw [Table.find?_insert hinsert]
    dsimp only
    by_cases hk : k = id
    · rw [if_pos hk, if_pos hk]
      rfl
    · rw [if_neg hk, if_neg hk]
  · unfold IntegrationTables.statusOf
    dsimp only
    rw [Table.find?_insert hinsert]
    dsimp only
    by_cases hk : k = id
    · rw [if_pos hk, if_pos hk]
      rfl
    · rw [if_neg hk, if_neg hk]

lemma mapM_load {ids : List String} {records : List MemoryRow} {mcfg : MemoryConfig}
    (h : ids.mapM (t.toMindTables.load mcfg) = .ok records) :
    records.map MemoryRow.memoryId = ids ∧ ∀ id ∈ ids, ∃ record ∈ records, t.memories.find? id = some record := by
  induction ids generalizing records with
  | nil =>
    cases h
    exact ⟨rfl, fun id hid => by cases hid⟩
  | cons id ids ih =>
    obtain ⟨record, rest, hrecord, hrest, rfl⟩ := mapM_eq_ok_cons h
    obtain ⟨hids, hfound⟩ := ih hrest
    have hfind := load_ok hrecord
    refine ⟨?_, fun k hk => ?_⟩
    · rw [List.map_cons, hids, (Table.find?_eq_some.mp hfind).2]
    · rcases List.mem_cons.mp hk with rfl | hk
      · exact ⟨record, List.mem_cons_self, hfind⟩
      · obtain ⟨r, hr, hfr⟩ := hfound k hk
        exact ⟨r, List.mem_cons_of_mem _ hr, hfr⟩

/-- `integrate` commits, or it raises and changes nothing. -/
theorem integrate_cases (t : IntegrationTables) (c : IntegrateCall) :
    (∃ e, t.integrate cfg c = (.error e, t)) ∨
      ∃ operation t', Integrated cfg c operation t t' ∧ t.integrate cfg c = (t'.get cfg c.integrationId, t') := by
  generalize hcall : t.integrate cfg c = call
  unfold IntegrationTables.integrate at hcall
  split at hcall
  case h_1 e hrun => exact .inl ⟨e, hcall.symm⟩
  case h_2 t' hrun =>
    right
    obtain ⟨⟨operation, records⟩, hcheck, hcommit⟩ := bind_eq_ok.mp hrun
    refine ⟨operation, t', ?_, hcall.symm⟩
    · unfold IntegrationTables.checkIntegrate at hcheck
      obtain ⟨operation', _, hcheck⟩ := bind_eq_ok.mp hcheck
      obtain ⟨_, hsources, hcheck⟩ := bind_eq_ok.mp hcheck
      obtain ⟨_, hsynthesis, hcheck⟩ := bind_eq_ok.mp hcheck
      obtain ⟨_, hevidence, hcheck⟩ := bind_eq_ok.mp hcheck
      obtain ⟨records', hrecords, hcheck⟩ := bind_eq_ok.mp hcheck
      obtain ⟨_, hsubjects, hcheck⟩ := bind_eq_ok.mp hcheck
      obtain ⟨_, _, hcheck⟩ := bind_eq_ok.mp hcheck
      cases hcheck
      have hsources := raiseIf_eq_ok.mp hsources
      have hsynthesis := raiseIf_eq_ok.mp hsynthesis
      have hevidence := raiseIf_eq_ok.mp hevidence
      have hsubjects := raiseIf_eq_ok.mp hsubjects
      push Not at hsources hsynthesis hevidence
      obtain ⟨hids, hfound⟩ := mapM_load hrecords
      unfold IntegrationTables.commitIntegrate at hcommit
      obtain ⟨_, hknown, hcommit⟩ := bind_eq_ok.mp hcommit
      obtain ⟨⟨output, mind⟩, hcreate, hcommit⟩ := bind_eq_ok.mp hcommit
      obtain ⟨mid, hmid, hcommit⟩ := bind_eq_ok.mp hcommit
      obtain ⟨integrations, hinsert, hcommit⟩ := bind_eq_ok.mp hcommit
      obtain ⟨_, _, hcommit⟩ := bind_eq_ok.mp hcommit
      cases hcommit
      obtain ⟨hoid, hnew, hstored, hevents, hsubject, hstatus⟩ := create_ok hcreate
      have hknown := raiseIf_eq_ok.mp hknown
      have hsuperseded : SameBooks { t with toMindTables := mind } mid ∧
          ∀ k, mid.statusOf k = if operation ≠ .contradict ∧ k ∈ c.sourceMemoryIds then some .superseded
            else ({ t with toMindTables := mind } : IntegrationTables).statusOf k := by
        unfold IntegrationTables.supersedeRecords at hmid
        by_cases hop : operation = .contradict
        · rw [if_pos hop] at hmid
          cases hmid
          exact ⟨SameBooks.refl _, fun k => by rw [if_neg (fun hand => hand.1 hop)]⟩
        · rw [if_neg hop] at hmid
          obtain ⟨hbooks, hset⟩ := supersede_ok hmid
          refine ⟨hbooks, fun k => ?_⟩
          rw [hset, hids]
          by_cases hk : k ∈ c.sourceMemoryIds
          · rw [if_pos hk, if_pos ⟨hop, hk⟩]
          · rw [if_neg hk, if_neg (fun hand => hk hand.2)]
      obtain ⟨hbooks, hset⟩ := hsuperseded
      obtain ⟨hfresh, hrows⟩ := Table.insert?_eq_some.mp (orRaise_eq_ok.mp hinsert)
      exact
        { many := hsources.1
          distinct := hsources.2
          reason := hsynthesis.2.1
          unit := by simpa using hsynthesis.2.2
          evidence := hevidence.1
          evidence_distinct := hevidence.2
          evidence_known := by
            rw [Bool.not_eq_false, List.all_eq_true] at hknown
            exact hknown
          owned := by
            intro id hid
            obtain ⟨record, hrecord, hfind⟩ := hfound id hid
            unfold subjectOf
            rw [hfind, Option.map_some]
            rw [Bool.not_eq_true, List.any_eq_false] at hsubjects
            simpa using hsubjects record hrecord
          confidence_kept := hstored
          memory_new := hnew
          integration_new := by
            intro row hrow
            apply hfresh row
            rw [hbooks.integrations]
            exact hrow
          events := hbooks.events.trans hevents
          integrations := by
            have hbefore : mid.integrations.rows = t.integrations.rows := by rw [hbooks.integrations]
            rw [hbefore] at hrows
            rw [hoid] at hrows
            exact hrows
          revisions := by
            unfold IntegrationTables.revision
            dsimp only
            rw [hbooks.revisions]
          subjects := fun k => (hbooks.subjects k).trans (hsubject k)
          statuses := by
            intro k hk
            have hchain := hset k
            rw [hstatus, if_neg hk] at hchain
            exact hchain }

/-- The row of a reverted integration. -/
def revertedRow (cfg : IntegrationConfig) (c : RevertCall) (record : IntegrationRow) : IntegrationRow :=
  { record with
    status := .reverted
    stateHash := cfg.hash record.operation record.sourceMemoryIds record.outputMemoryId record.evidenceEventIds
      record.reason
      (.float record.confidence) .reverted
    revertedAt := some c.now }

/-- What `revert` found and did when it commits. -/
structure Reverted (cfg : IntegrationConfig) (c : RevertCall) (record : IntegrationRow) (t t' : IntegrationTables) :
    Prop where
  found : t.get cfg c.integrationId = .ok record
  active : record.status = .active
  reason : strip c.reason ≠ ""
  events : t'.events = t.events
  integrations : t'.integrations = t.integrations.replace (revertedRow cfg c record)
  revisions : t'.revisions =
    t.revisions ++ [⟨c.integrationId, .revert, strip c.reason,
      cfg.revisionHash c.integrationId .revert (strip c.reason) c.now, c.now⟩]
  subjects : ∀ k, subjectOf t' k = subjectOf t k
  output : t'.statusOf record.outputMemoryId = some .archived
  statuses : ∀ k, k ≠ record.outputMemoryId →
    t'.statusOf k = if k ∈ record.sourceMemoryIds ∧ t.statusOf k = some .superseded then some .active else t.statusOf k

lemma get_ok {row : IntegrationRow} (h : t.get cfg id = .ok row) :
    row ∈ t.integrations ∧ row.integrationId = id ∧ row.subjectId = cfg.subjectId := by
  unfold IntegrationTables.get at h
  obtain ⟨found, hfound, h⟩ := bind_eq_ok.mp h
  obtain ⟨_, _, h⟩ := bind_eq_ok.mp h
  cases h
  obtain ⟨hfind, hsubject⟩ := Option.filter_eq_some_iff.mp (orRaise_eq_ok.mp hfound)
  obtain ⟨hmem, hkey⟩ := Table.find?_eq_some.mp hfind
  exact ⟨hmem, hkey, by simpa using hsubject⟩

/-- `revert` commits, or it raises and changes nothing. -/
theorem revert_cases (t : IntegrationTables) (c : RevertCall) :
    (∃ e, t.revert cfg c = (.error e, t)) ∨
      ∃ record t', Reverted cfg c record t t' ∧ t.revert cfg c = (t'.get cfg c.integrationId, t') := by
  generalize hcall : t.revert cfg c = call
  unfold IntegrationTables.revert at hcall
  split at hcall
  case h_1 e hrun => exact .inl ⟨e, hcall.symm⟩
  case h_2 t' hrun =>
    right
    obtain ⟨⟨record, output⟩, hcheck, hcommit⟩ := bind_eq_ok.mp hrun
    refine ⟨record, t', ?_, hcall.symm⟩
    · unfold IntegrationTables.checkRevert at hcheck
      obtain ⟨record', hget, hcheck⟩ := bind_eq_ok.mp hcheck
      obtain ⟨_, hguard, hcheck⟩ := bind_eq_ok.mp hcheck
      obtain ⟨output', hload, hcheck⟩ := bind_eq_ok.mp hcheck
      cases hcheck
      have hguard := raiseIf_eq_ok.mp hguard
      push Not at hguard
      unfold IntegrationTables.commitRevert at hcommit
      obtain ⟨mid, hrestore, hcommit⟩ := bind_eq_ok.mp hcommit
      obtain ⟨last, hlast, hcommit⟩ := bind_eq_ok.mp hcommit
      obtain ⟨_, _, hcommit⟩ := bind_eq_ok.mp hcommit
      cases hcommit
      obtain ⟨hbooks, hstatus⟩ := restore_ok hrestore
      have houtput : output.memoryId = record.outputMemoryId := (Table.find?_eq_some.mp (load_ok hload)).2
      have hstored := statusOf_of_load hload
      have harchive : SameBooks mid last ∧ last.statusOf record.outputMemoryId = some .archived ∧
          ∀ k, k ≠ record.outputMemoryId → last.statusOf k = mid.statusOf k := by
        unfold IntegrationTables.archiveOutput at hlast
        by_cases harchived : output.status = .archived
        · rw [if_pos harchived] at hlast
          cases hlast
          refine ⟨SameBooks.refl _, ?_, fun _ _ => rfl⟩
          rw [hstatus, if_neg, hstored, harchived]
          rintro ⟨-, hsup⟩
          rw [hstored, harchived] at hsup
          cases hsup
        · rw [if_neg harchived] at hlast
          obtain ⟨hbooks', hset⟩ := reviseMemory_ok hlast
          rw [houtput] at hset
          refine ⟨hbooks', ?_, fun k hk => ?_⟩
          · rw [hset, if_pos rfl]
          · rw [hset, if_neg hk]
      obtain ⟨hbooks', harchived, hothers⟩ := harchive
      have hall := hbooks.trans hbooks'
      exact
        { found := hget
          active := hguard.1
          reason := hguard.2
          events := hall.events
          integrations := by
            have hsame := hall.integrations
            unfold IntegrationTables.revision
            dsimp only
            rw [hsame]
            rfl
          revisions := by
            have hsame := hall.revisions
            unfold IntegrationTables.revision
            dsimp only
            rw [hsame]
          subjects := hall.subjects
          output := harchived
          statuses := fun k hk => (hothers k hk).trans (hstatus k) }

/-! ### Sound rows -/

def commitRevision (cfg : IntegrationConfig) (row : IntegrationRow) : IntegrationRevision :=
  ⟨row.integrationId, .commit, row.reason, cfg.revisionHash row.integrationId .commit row.reason row.createdAt,
    row.createdAt⟩

def revertRevision (cfg : IntegrationConfig) (row : IntegrationRow) (reason : String) (now : Nat) :
    IntegrationRevision :=
  ⟨row.integrationId, .revert, reason, cfg.revisionHash row.integrationId .revert reason now, now⟩

/-- The revisions of an integration in the order they were inserted. -/
def historyOf (t : IntegrationTables) (integrationId : String) : List IntegrationRevision :=
  t.revisions.filter (fun r => r.integrationId = integrationId)

/-- What an integration was when it was committed, and what became of it. -/
structure RowSound (cfg : IntegrationConfig) (t : IntegrationTables) (row : IntegrationRow) : Prop where
  subject : row.subjectId = cfg.subjectId
  many : 2 ≤ row.sourceMemoryIds.length
  distinct : row.sourceMemoryIds.Nodup
  reason : strip row.reason ≠ ""
  unit : isUnit row.confidence.value = true
  evidence : row.evidenceEventIds ≠ []
  evidence_distinct : row.evidenceEventIds.Nodup
  evidence_known : ∀ e ∈ row.evidenceEventIds, t.events.contains (cfg.subjectId, e) = true
  owned : ∀ id ∈ row.sourceMemoryIds, subjectOf t id = some cfg.subjectId
  output_owned : subjectOf t row.outputMemoryId = some cfg.subjectId
  output : row.outputMemoryId ∉ row.sourceMemoryIds
  hash : row.stateHash =
    cfg.hash row.operation row.sourceMemoryIds row.outputMemoryId row.evidenceEventIds row.reason
      (.float row.confidence) row.status
  history : (row.status = .active ∧ row.revertedAt = none ∧ historyOf t row.integrationId = [commitRevision cfg row]) ∨
    ∃ reason now, row.status = .reverted ∧ row.revertedAt = some now ∧ row.createdAt ≤ now ∧ strip reason ≠ "" ∧
      historyOf t row.integrationId = [commitRevision cfg row, revertRevision cfg row reason now]

lemma RowSound.keep {row : IntegrationRow} (h : RowSound cfg t row)
    (hevents : ∀ e, t.events.contains e = true → t'.events.contains e = true)
    (hsubjects : ∀ k s, subjectOf t k = some s → subjectOf t' k = some s)
    (hhistory : historyOf t' row.integrationId = historyOf t row.integrationId) : RowSound cfg t' row :=
  { h with
    evidence_known := fun e he => hevents _ (h.evidence_known e he)
    owned := fun id hid => hsubjects _ _ (h.owned id hid)
    output_owned := hsubjects _ _ h.output_owned
    history := by
      rw [hhistory]
      exact h.history }

lemma get_of_sound {row : IntegrationRow} (hrow : row ∈ t.integrations) (h : RowSound cfg t row) :
    t.get cfg row.integrationId = .ok row := by
  have hfind : (t.integrations.find? row.integrationId).filter (fun r => r.subjectId = cfg.subjectId) = some row := by
    rw [Table.find?_key hrow, Option.filter_some, if_pos (by simpa using h.subject)]
  unfold IntegrationTables.get
  rw [hfind, orRaise_some, ok_bind, raiseIf_neg (not_not.mpr h.hash.symm), ok_bind]

lemma verifyOwned_of_subjects {ids : List String} {context : String}
    (h : ∀ id ∈ ids, subjectOf t id = some cfg.subjectId) :
    t.verifyOwnedMemories cfg ids context = .ok () := by
  apply forM_eq_ok
  intro id hid
  obtain ⟨row, hrow, hsubject⟩ := find?_of_subjectOf (h id hid)
  rw [hrow, orRaise_some, ok_bind, raiseIf_neg (not_not.mpr hsubject)]

lemma verify_commit {row : IntegrationRow} (h : RowSound cfg t row) :
    IntegrationTables.verifyRevision cfg row true .commit (commitRevision cfg row) = .ok () := by
  unfold IntegrationTables.verifyRevision commitRevision
  dsimp only
  rw [raiseIf_neg (by simp), ok_bind, raiseIf_neg h.reason, ok_bind, raiseIf_neg (by simp [cfg.revisionHash_valid]),
    ok_bind, raiseIf_neg (by simp), ok_bind, raiseIf_neg (by simp)]

lemma verify_revert {row : IntegrationRow} {reason : String} {now : Nat} (hreason : strip reason ≠ "")
    (hreverted : row.revertedAt = some now) :
    IntegrationTables.verifyRevision cfg row false .revert (revertRevision cfg row reason now) = .ok () := by
  unfold IntegrationTables.verifyRevision revertRevision
  dsimp only
  rw [raiseIf_neg (by simp), ok_bind, raiseIf_neg hreason, ok_bind, raiseIf_neg (by simp [cfg.revisionHash_valid]),
    ok_bind, raiseIf_neg (by simp), ok_bind, raiseIf_neg (by simp [hreverted])]

/-- A sound row passes its checks. -/
lemma verifyIntegration_of_sound {row : IntegrationRow} (h : RowSound cfg t row) :
    t.verifyIntegration cfg row = .ok () := by
  have hevents : t.verifyOwnedEvents cfg row.evidenceEventIds ("memory integration " ++ row.integrationId ++
      " evidence event") = .ok () := by
    apply forM_eq_ok
    intro e he
    rw [raiseIf_neg (by rw [h.evidence_known e he]; decide)]
  have hlifecycle : ¬ decide (row.status = .active) ≠ row.revertedAt.isNone := by
    rcases h.history with ⟨hstatus, hnone, -⟩ | ⟨_, now, hstatus, hsome, -⟩
    · rw [hstatus, hnone]
      decide
    · rw [hstatus, hsome]
      simp
  have hunit := h.unit
  have hmany := h.many
  unfold IntegrationTables.verifyIntegration
  dsimp only
  rw [raiseIf_neg (not_not.mpr h.distinct), ok_bind, raiseIf_neg (not_not.mpr h.evidence_distinct), ok_bind,
    raiseIf_neg (by push Not; exact ⟨hmany, h.evidence⟩), ok_bind, raiseIf_neg h.output, ok_bind, raiseIf_neg h.reason,
      ok_bind,
    raiseIf_neg (by rw [hunit]; decide), ok_bind, raiseIf_neg hlifecycle, ok_bind,
    raiseIf_neg (by rw [h.hash, cfg.hash_valid]; decide), ok_bind, raiseIf_neg (not_not.mpr h.hash), ok_bind,
    verifyOwned_of_subjects h.owned, ok_bind,
    verifyOwned_of_subjects (fun id hid => by rw [List.mem_singleton.mp hid]; exact h.output_owned), ok_bind, hevents,
      ok_bind]
  unfold IntegrationTables.revisionsOf
  rcases h.history with ⟨hstatus, -, hhistory⟩ | ⟨reason, now, hstatus, hreverted, hle, hreason, hhistory⟩
  · unfold historyOf at hhistory
    rw [hhistory, hstatus]
    exact verify_commit h
  · unfold historyOf at hhistory
    have hsorted : List.insertionSort (fun a b : IntegrationRevision => a.createdAt ≤ b.createdAt)
        [commitRevision cfg row, revertRevision cfg row reason now] =
          [commitRevision cfg row, revertRevision cfg row reason now] := by
      rw [List.insertionSort_cons, List.insertionSort_cons, List.insertionSort_nil, List.orderedInsert_nil]
      exact if_pos hle
    rw [hhistory, hsorted, hstatus]
    dsimp only
    rw [verify_commit h, ok_bind, verify_revert hreason hreverted]

/-- Sound rows outlast what keeps events and the subjects of memories. -/
lemma rows_keep (h : ∀ row ∈ t.integrations, RowSound cfg t row) (hintegrations : t'.integrations = t.integrations)
    (hrevisions : t'.revisions = t.revisions) (hevents : ∀ e, t.events.contains e = true → t'.events.contains e = true)
    (hsubjects : ∀ k s, subjectOf t k = some s → subjectOf t' k = some s) :
    ∀ row ∈ t'.integrations, RowSound cfg t' row := by
  intro row hrow
  rw [hintegrations] at hrow
  apply (h row hrow).keep hevents hsubjects
  unfold historyOf
  rw [hrevisions]

lemma verified_of_rows (h : ∀ row ∈ t.integrations, RowSound cfg t row) : t.verifyLifecycleIntegrity cfg = .ok () :=
  forM_eq_ok (fun row hrow => verifyIntegration_of_sound (h row (List.mem_filter.mp hrow).1))

/-- Every integration is sound, and every revision is one of an integration. -/
structure Books (cfg : IntegrationConfig) (t : IntegrationTables) : Prop where
  rows : ∀ row ∈ t.integrations, RowSound cfg t row
  known : ∀ r ∈ t.revisions, ∃ row ∈ t.integrations, row.integrationId = r.integrationId

lemma Books.initial (hrows : t.integrations.rows = []) (hrevisions : t.revisions = []) : Books cfg t := by
  refine ⟨fun row hrow => ?_, fun r hr => ?_⟩
  · rw [Table.mem_def, hrows] at hrow
    cases hrow
  · rw [hrevisions] at hr
    cases hr

/-! ### Runs -/

/-- The calls after which integrations stay reversible: a confidence is a float; and a revert does not go back in
time, finds every superseded source covered by this integration alone and active before it was covered, and its
output not covered. -/
def Allowed (cfg : IntegrationConfig) (w : World) : Call → Prop
  | .integrate c => ∃ x, c.confidence = .float x
  | .revert c => ∀ record, w.tables.get cfg c.integrationId = .ok record → record.status = .active →
      record.createdAt ≤ c.now ∧
      (∀ m ∈ record.sourceMemoryIds, w.tables.statusOf m = some .superseded →
        record.operation ≠ .contradict ∧ w.before m = some .active ∧
          ∀ other ∈ w.tables.integrations, other.integrationId ≠ record.integrationId → other.covers m = false) ∧
      (w.tables.statusOf record.outputMemoryId ≠ some .archived → w.tables.covered record.outputMemoryId = false)

/-- What holds in every state of such a run. -/
structure Sound (cfg : IntegrationConfig) (w : World) : Prop extends Books cfg w.tables where
  covered : ∀ m, w.tables.covered m = true → w.tables.statusOf m = some .superseded
  retired : ∀ row ∈ w.tables.integrations, row.status = .reverted →
    (w.tables.covered row.outputMemoryId = false → w.tables.statusOf row.outputMemoryId = some .archived) ∧
    (w.tables.covered row.outputMemoryId = true → w.before row.outputMemoryId = some .archived)

lemma covered_iff {m : String} : t.covered m = true ↔ ∃ row ∈ t.integrations, row.covers m = true := by
  unfold IntegrationTables.covered
  rw [List.any_eq_true]
  rfl

lemma covers_iff {row : IntegrationRow} {m : String} :
    row.covers m = true ↔ row.status = .active ∧ row.operation ≠ .contradict ∧ m ∈ row.sourceMemoryIds := by
  unfold IntegrationRow.covers
  simp only [Bool.and_eq_true, decide_eq_true_eq, List.contains_iff_mem, and_assoc]

lemma historyOf_append (r : IntegrationRevision) (hr : t'.revisions = t.revisions ++ [r]) (integrationId : String) :
    historyOf t' integrationId = historyOf t integrationId ++ if r.integrationId = integrationId then [r] else [] := by
  unfold historyOf
  rw [hr, List.filter_append, List.filter_singleton]
  by_cases h : r.integrationId = integrationId
  · simp [h]
  · simp [h]

section
variable {w : World} {c : IntegrateCall} {operation : Operation}

/-- The memories covered after an integration. -/
lemma Integrated.covered_iff (h : Integrated cfg c operation t t') {m : String} :
    t'.covered m = true ↔ t.covered m = true ∨ (operation ≠ .contradict ∧ m ∈ c.sourceMemoryIds) := by
  rw [Proofs.covered_iff, Proofs.covered_iff]
  constructor
  · rintro ⟨row, hrow, hcovers⟩
    rw [Table.mem_def, h.integrations, List.mem_append] at hrow
    rcases hrow with hrow | hrow
    · exact .inl ⟨row, hrow, hcovers⟩
    · rw [List.mem_singleton.mp hrow] at hcovers
      exact .inr (covers_iff.mp hcovers).2
  · rintro (⟨row, hrow, hcovers⟩ | hnew)
    · refine ⟨row, ?_, hcovers⟩
      rw [Table.mem_def, h.integrations]
      exact List.mem_append_left _ hrow
    · refine ⟨newRow cfg c operation, ?_, covers_iff.mpr ⟨rfl, hnew⟩⟩
      rw [Table.mem_def, h.integrations]
      exact List.mem_append_right _ (List.mem_singleton_self _)

lemma Integrated.subject_kept (h : Integrated cfg c operation t t') {s : String} (hk : subjectOf t k = some s) :
    subjectOf t' k = some s := by
  rw [h.subjects, if_neg, hk]
  rintro rfl
  rw [h.memory_new] at hk
  cases hk

lemma Integrated.member (h : Integrated cfg c operation t t') (row : IntegrationRow) :
    row ∈ t'.integrations ↔ row ∈ t.integrations ∨ row = newRow cfg c operation := by
  rw [Table.mem_def, h.integrations, List.mem_append, List.mem_singleton]
  rfl

/-- The new memory is none of the old ones. -/
lemma Integrated.memory_old (h : Integrated cfg c operation t t') {s : String} (hk : subjectOf t k = some s) :
    k ≠ c.memoryId := by
  rintro rfl
  rw [h.memory_new] at hk
  cases hk

/-- A covered memory existed before. -/
lemma Sound.covered_subject (hw : Sound cfg w) {m : String} (h : w.tables.covered m = true) :
    subjectOf w.tables m = some cfg.subjectId := by
  obtain ⟨row, hrow, hcovers⟩ := covered_iff.mp h
  exact (hw.rows row hrow).owned m (covers_iff.mp hcovers).2.2

lemma Integrated.books (hb : Books cfg t) (h : Integrated cfg c operation t t')
    (hfloat : ∃ x, c.confidence = .float x) : Books cfg t' := by
  have hnew : ∀ r ∈ t.revisions, r.integrationId ≠ c.integrationId := by
    intro r hr heq
    obtain ⟨row, hrow, hid⟩ := hb.known r hr
    exact h.integration_new row hrow (hid.trans heq)
  refine ⟨fun row hrow => ?_, fun r hr => ?_⟩
  · rcases (h.member row).mp hrow with hrow | rfl
    · apply (hb.rows row hrow).keep (fun e he => by rw [h.events]; exact he) (fun k s => h.subject_kept)
      rw [historyOf_append _ h.revisions, if_neg (fun heq => h.integration_new row hrow heq.symm), List.append_nil]
    · obtain ⟨x, hx⟩ := hfloat
      have hkept := h.confidence_kept
      rw [hx] at hkept
      exact
        { subject := rfl
          many := h.many
          distinct := h.distinct
          reason := strip_strip_ne_empty h.reason
          unit := by
            have hunit := h.unit
            unfold newRow
            dsimp only
            rw [hx] at hunit ⊢
            rw [hkept]
            exact hunit
          evidence := h.evidence
          evidence_distinct := h.evidence_distinct
          evidence_known := by
            rw [h.events]
            exact h.evidence_known
          owned := fun id hid => h.subject_kept (h.owned id hid)
          output_owned := by
            unfold newRow
            dsimp only
            rw [h.subjects, if_pos rfl]
          output := fun hid => h.memory_old (h.owned _ hid) rfl
          hash := by
            unfold newRow
            dsimp only
            rw [hx, hkept]
            rfl
          history := by
            left
            refine ⟨rfl, rfl, ?_⟩
            have hempty : historyOf t c.integrationId = [] := by
              unfold historyOf
              rw [List.filter_eq_nil_iff]
              intro r hr
              simpa using hnew r hr
            have hid : (newRow cfg c operation).integrationId = c.integrationId := rfl
            rw [hid, historyOf_append _ h.revisions, hempty, if_pos rfl]
            rfl }
  · rw [h.revisions, List.mem_append, List.mem_singleton] at hr
    rcases hr with hr | rfl
    · obtain ⟨row, hrow, hid⟩ := hb.known r hr
      exact ⟨row, (h.member row).mpr (.inl hrow), hid⟩
    · exact ⟨newRow cfg c operation, (h.member _).mpr (.inr rfl), rfl⟩

lemma Integrated.sound (hw : Sound cfg w) (h : Integrated cfg c operation w.tables t')
    (hfloat : ∃ x, c.confidence = .float x) :
    Sound cfg ⟨t', noteBefore w.tables t' w.before⟩ := by
  refine ⟨h.books hw.toBooks hfloat, fun m hm => ?_, fun row hrow hreverted => ?_⟩
  · have hne : m ≠ c.memoryId := by
      rcases h.covered_iff.mp hm with hcovered | ⟨-, hsource⟩
      · exact h.memory_old (hw.covered_subject hcovered)
      · exact h.memory_old (h.owned m hsource)
    dsimp only
    rw [h.statuses m hne]
    rcases h.covered_iff.mp hm with hcovered | hsource
    · rw [hw.covered m hcovered, ite_self]
    · rw [if_pos hsource]
  · rcases (h.member row).mp hrow with hrow | rfl
    · have hretired := hw.retired row hrow hreverted
      have hne := h.memory_old (hw.rows row hrow).output_owned
      dsimp only
      refine ⟨fun huncovered => ?_, fun hcovered => ?_⟩
      · have hbefore : w.tables.covered row.outputMemoryId = false := by
          by_contra hcov
          rw [Bool.not_eq_false] at hcov
          rw [h.covered_iff.mpr (.inl hcov)] at huncovered
          cases huncovered
        rw [h.statuses _ hne, if_neg, hretired.1 hbefore]
        intro hsource
        rw [h.covered_iff.mpr (.inr hsource)] at huncovered
        cases huncovered
      · unfold noteBefore
        by_cases hcov : w.tables.covered row.outputMemoryId = true
        · rw [if_neg (fun hand => by rw [hcov] at hand; cases hand.2), hretired.2 hcov]
        · rw [Bool.not_eq_true] at hcov
          rw [if_pos ⟨hcovered, hcov⟩, hretired.1 hcov]
    · cases hreverted

end

section
variable {w : World} {c : RevertCall} {record : IntegrationRow}

lemma Reverted.member (h : Reverted cfg c record t t') (row : IntegrationRow) :
    row ∈ t'.integrations ↔ row = revertedRow cfg c record ∨
      (row ∈ t.integrations ∧ row.integrationId ≠ record.integrationId) := by
  rw [h.integrations, Table.mem_replace]
  constructor
  · rintro (⟨hrow, -⟩ | hrow)
    · exact .inl hrow
    · exact .inr hrow
  · rintro (hrow | hrow)
    · exact .inl ⟨hrow, record, (get_ok h.found).1, rfl⟩
    · exact .inr hrow

/-- The memories covered after a revert: those another integration covers. -/
lemma Reverted.covered_iff (h : Reverted cfg c record t t') {m : String} :
    t'.covered m = true ↔ ∃ row ∈ t.integrations, row.integrationId ≠ record.integrationId ∧ row.covers m = true := by
  rw [Proofs.covered_iff]
  constructor
  · rintro ⟨row, hrow, hcovers⟩
    rcases (h.member row).mp hrow with rfl | ⟨hrow, hne⟩
    · cases (covers_iff.mp hcovers).1
    · exact ⟨row, hrow, hne, hcovers⟩
  · rintro ⟨row, hrow, hne, hcovers⟩
    exact ⟨row, (h.member row).mpr (.inr ⟨hrow, hne⟩), hcovers⟩

lemma Reverted.covered_before (h : Reverted cfg c record t t') {m : String} (hm : t'.covered m = true) :
    t.covered m = true := by
  obtain ⟨row, hrow, -, hcovers⟩ := h.covered_iff.mp hm
  exact Proofs.covered_iff.mpr ⟨row, hrow, hcovers⟩

/-- A memory that stays covered is not touched by an allowed revert. -/
lemma Reverted.covered_kept (hw : Sound cfg w) (h : Reverted cfg c record w.tables t')
    (hallowed : Allowed cfg w (.revert c)) {m : String}
    (hm : t'.covered m = true) : m ≠ record.outputMemoryId ∧ t'.statusOf m = w.tables.statusOf m := by
  obtain ⟨-, hsources, houtput⟩ := hallowed record h.found h.active
  have hcovered := h.covered_before hm
  have hstatus := hw.covered m hcovered
  have hne : m ≠ record.outputMemoryId := by
    rintro rfl
    have hfree := houtput (by rw [hstatus]; decide)
    rw [hcovered] at hfree
    cases hfree
  refine ⟨hne, ?_⟩
  rw [h.statuses m hne, if_neg]
  rintro ⟨hsource, hsuperseded⟩
  obtain ⟨row, hrow, hother, hcovers⟩ := h.covered_iff.mp hm
  rw [(hsources m hsource hsuperseded).2.2 row hrow hother] at hcovers
  cases hcovers

lemma Reverted.books (hb : Books cfg t) (h : Reverted cfg c record t t') (hclock : record.createdAt ≤ c.now) :
    Books cfg t' := by
  obtain ⟨hrecord, hid, -⟩ := get_ok h.found
  refine ⟨fun row hrow => ?_, fun r hr => ?_⟩
  · rcases (h.member row).mp hrow with rfl | ⟨hrow, hne⟩
    · have hsound := hb.rows record hrecord
      have hhistory : historyOf t record.integrationId = [commitRevision cfg record] := by
        rcases hsound.history with ⟨-, -, hhistory⟩ | ⟨_, _, hstatus, -⟩
        · exact hhistory
        · rw [h.active] at hstatus
          cases hstatus
      exact
        { subject := hsound.subject
          many := hsound.many
          distinct := hsound.distinct
          reason := hsound.reason
          unit := hsound.unit
          evidence := hsound.evidence
          evidence_distinct := hsound.evidence_distinct
          evidence_known := by
            rw [h.events]
            exact hsound.evidence_known
          owned := fun k hk => (h.subjects k).trans (hsound.owned k hk)
          output_owned := (h.subjects _).trans hsound.output_owned
          output := hsound.output
          hash := rfl
          history := by
            right
            refine ⟨strip c.reason, c.now, rfl, rfl, hclock, strip_strip_ne_empty h.reason, ?_⟩
            have hsame : (revertedRow cfg c record).integrationId = record.integrationId := rfl
            rw [hsame, historyOf_append _ h.revisions, hhistory, if_pos hid.symm]
            unfold revertRevision
            rw [hsame, hid]
            rfl }
    · apply (hb.rows row hrow).keep (fun e he => by rw [h.events]; exact he) (fun k s hk => (h.subjects k).trans hk)
      rw [historyOf_append _ h.revisions, if_neg (fun heq => hne (heq.symm.trans hid.symm)), List.append_nil]
  · rw [h.revisions, List.mem_append, List.mem_singleton] at hr
    rcases hr with hr | rfl
    · obtain ⟨row, hrow, hrid⟩ := hb.known r hr
      by_cases hsame : row.integrationId = record.integrationId
      · exact ⟨revertedRow cfg c record, (h.member _).mpr (.inl rfl), hsame.symm.trans hrid⟩
      · exact ⟨row, (h.member _).mpr (.inr ⟨hrow, hsame⟩), hrid⟩
    · exact ⟨revertedRow cfg c record, (h.member _).mpr (.inl rfl), hid⟩

lemma Reverted.sound (hw : Sound cfg w) (h : Reverted cfg c record w.tables t') (hallowed : Allowed cfg w (.revert c)) :
    Sound cfg ⟨t', noteBefore w.tables t' w.before⟩ := by
  obtain ⟨hclock, hsources, houtput⟩ := hallowed record h.found h.active
  obtain ⟨hrecord, -, -⟩ := get_ok h.found
  have hbefore : noteBefore w.tables t' w.before = w.before := by
    funext m
    unfold noteBefore
    rw [if_neg]
    rintro ⟨hafter, hnot⟩
    rw [h.covered_before hafter] at hnot
    cases hnot
  rw [hbefore]
  refine ⟨h.books hw.toBooks hclock, fun m hm => ?_, fun row hrow hreverted => ?_⟩
  · exact (h.covered_kept hw hallowed hm).2.trans (hw.covered m (h.covered_before hm))
  · dsimp only
    rcases (h.member row).mp hrow with rfl | ⟨hrow, hne⟩
    · exact ⟨fun _ => h.output, fun hm => absurd rfl (h.covered_kept hw hallowed hm).1⟩
    · have hretired := hw.retired row hrow hreverted
      refine ⟨fun hfree => ?_, fun hm => hretired.2 (h.covered_before hm)⟩
      by_cases hout : row.outputMemoryId = record.outputMemoryId
      · rw [hout]
        exact h.output
      rw [h.statuses _ hout, if_neg]
      · apply hretired.1
        -- a memory covered by the reverted integration alone was active before
        by_contra hcov
        rw [Bool.not_eq_false] at hcov
        obtain ⟨cover, hcover, hcovers⟩ := Proofs.covered_iff.mp hcov
        have hsame : cover.integrationId = record.integrationId := by
          by_contra hother
          rw [h.covered_iff.mpr ⟨cover, hcover, hother, hcovers⟩] at hfree
          cases hfree
        rw [Table.eq_of_key hcover hrecord hsame] at hcovers
        have hactive := (hsources _ (covers_iff.mp hcovers).2.2 (hw.covered _ hcov)).2.1
        rw [hretired.2 hcov] at hactive
        cases hactive
      · rintro ⟨hsource, hsuperseded⟩
        have hactive := (hsources _ hsource hsuperseded).2.1
        have hcov : w.tables.covered row.outputMemoryId = true :=
          Proofs.covered_iff.mpr ⟨record, hrecord, covers_iff.mpr ⟨h.active, (hsources _ hsource hsuperseded).1,
            hsource⟩⟩
        rw [hretired.2 hcov] at hactive
        cases hactive

/-- What a revert leaves of a source that nothing covers any more. -/
lemma Reverted.restored (hw : Sound cfg w) (h : Reverted cfg c record w.tables t')
    (hallowed : Allowed cfg w (.revert c)) {m : String}
    (hm : m ∈ record.sourceMemoryIds) :
    t'.statusOf m = if w.tables.covered m = true then (if t'.covered m = true then some .superseded else w.before m)
      else w.tables.statusOf m := by
  obtain ⟨-, hsources, -⟩ := hallowed record h.found h.active
  obtain ⟨hrecord, -, -⟩ := get_ok h.found
  have hne : m ≠ record.outputMemoryId := by
    rintro rfl
    exact (hw.rows record hrecord).output hm
  by_cases hafter : t'.covered m = true
  · rw [if_pos (h.covered_before hafter), if_pos hafter, (h.covered_kept hw hallowed hafter).2,
      hw.covered m (h.covered_before hafter)]
  · rw [if_neg hafter, h.statuses m hne]
    by_cases hsuperseded : w.tables.statusOf m = some .superseded
    · obtain ⟨hop, hactive, -⟩ := hsources m hm hsuperseded
      rw [if_pos ⟨hm, hsuperseded⟩,
        if_pos (Proofs.covered_iff.mpr ⟨record, hrecord, covers_iff.mpr ⟨h.active, hop, hm⟩⟩), hactive]
    · rw [if_neg (fun hand => hsuperseded hand.2), if_neg (fun hcov => hsuperseded (hw.covered m hcov))]

end

lemma sound_step {w : World} (hw : Sound cfg w) {c : Call} (hallowed : Allowed cfg w c) :
    Sound cfg ((integrationMachine cfg).step w c) := by
  have hsame : Sound cfg ⟨w.tables, noteBefore w.tables w.tables w.before⟩ := by
    have hbefore : noteBefore w.tables w.tables w.before = w.before := by
      funext m
      unfold noteBefore
      rw [if_neg (fun hand => by rw [hand.1] at hand; cases hand.2)]
    rw [hbefore]
    exact hw
  unfold integrationMachine IntegrationTables.call
  cases c with
  | integrate c =>
    rcases integrate_cases w.tables c with ⟨e, herror⟩ | ⟨operation, t', h, hcommit⟩
    · dsimp only
      rw [herror]
      exact hsame
    · dsimp only
      rw [hcommit]
      exact h.sound hw hallowed
  | revert c =>
    rcases revert_cases w.tables c with ⟨e, herror⟩ | ⟨record, t', h, hcommit⟩
    · dsimp only
      rw [herror]
      exact hsame
    · dsimp only
      rw [hcommit]
      exact h.sound hw hallowed

lemma sound_of_reachable {w : World} (h : (integrationMachine cfg).ReachableUnder (Allowed cfg) w) : Sound cfg w := by
  apply h.invariant (I := Sound cfg)
  · rintro w ⟨hrows, hrevisions⟩
    have hnone : ∀ row, row ∉ w.tables.integrations := by
      intro row hrow
      rw [Table.mem_def, hrows] at hrow
      cases hrow
    refine ⟨Books.initial hrows hrevisions, fun m hm => ?_, fun row hrow => absurd hrow (hnone row)⟩
    obtain ⟨row, hrow, -⟩ := covered_iff.mp hm
    exact absurd hrow (hnone row)
  · intro w c hw hallowed
    exact sound_step hw hallowed

/-- In every state of a run of allowed calls: covered memories are superseded, the output of a reverted integration
is not active, integrations are read back and pass the integrity check; and an allowed call that commits also
returns, and if it is a revert, gives every source that nothing covers any more the status it had before it was
covered. -/
theorem integrations_reversible (cfg : IntegrationConfig) {w : World}
    (h : (integrationMachine cfg).ReachableUnder (Allowed cfg) w) :
    (∀ m, w.tables.covered m = true → w.tables.statusOf m = some .superseded) ∧
    (∀ row ∈ w.tables.integrations, row.status = .reverted → w.tables.statusOf row.outputMemoryId ≠ some .active) ∧
    (∀ row ∈ w.tables.integrations, w.tables.get cfg row.integrationId = .ok row) ∧
    w.tables.verifyLifecycleIntegrity cfg = .ok () ∧
    ∀ c, Allowed cfg w c →
      ((∃ record, (w.tables.call cfg c).1 = .ok record) ∨ (w.tables.call cfg c).2 = w.tables) ∧
      ∀ r record, c = .revert r → (w.tables.call cfg c).1 = .ok record →
        ∀ m ∈ record.sourceMemoryIds, (w.tables.call cfg c).2.covered m = false →
          (w.tables.call cfg c).2.statusOf m =
            if w.tables.covered m = true then w.before m else w.tables.statusOf m := by
  have hw := sound_of_reachable h
  refine ⟨hw.covered, fun row hrow hreverted hactive => ?_, fun row hrow => get_of_sound hrow (hw.rows row hrow), ?_,
    fun c hallowed => ⟨?_, ?_⟩⟩
  · have hretired := hw.retired row hrow hreverted
    by_cases hcov : w.tables.covered row.outputMemoryId = true
    · rw [hw.covered _ hcov] at hactive
      cases hactive
    · rw [hretired.1 (Bool.not_eq_true _ ▸ hcov)] at hactive
      cases hactive
  · apply forM_eq_ok
    intro row hrow
    exact verifyIntegration_of_sound (hw.rows row (List.mem_filter.mp hrow).1)
  · have hstep := sound_step hw hallowed
    cases c with
    | integrate c =>
      rcases integrate_cases w.tables c with ⟨e, herror⟩ | ⟨operation, t', hdone, hcommit⟩
      · right
        exact congrArg Prod.snd herror
      · left
        have hsound := hdone.sound hw hallowed
        have hrow : newRow cfg c operation ∈ t'.integrations := by
          rw [Table.mem_def, hdone.integrations]
          exact List.mem_append_right _ (List.mem_singleton_self _)
        exact ⟨_, (congrArg Prod.fst hcommit).trans (get_of_sound hrow (hsound.rows _ hrow))⟩
    | revert c =>
      rcases revert_cases w.tables c with ⟨e, herror⟩ | ⟨record, t', hdone, hcommit⟩
      · right
        exact congrArg Prod.snd herror
      · left
        have hsound := hdone.sound hw hallowed
        have hrow : revertedRow cfg c record ∈ t'.integrations := (hdone.member _).mpr (.inl rfl)
        have hget := get_of_sound hrow (hsound.rows _ hrow)
        have hid : (revertedRow cfg c record).integrationId = c.integrationId := (get_ok hdone.found).2.1
        rw [hid] at hget
        exact ⟨_, (congrArg Prod.fst hcommit).trans hget⟩
  · rintro c record rfl hanswer m hm huncovered
    rcases revert_cases w.tables c with ⟨e, herror⟩ | ⟨found, t', hdone, hcommit⟩
    · have hfst := congrArg Prod.fst herror
      rw [IntegrationTables.call] at hanswer
      rw [hanswer] at hfst
      cases hfst
    · have hfst := congrArg Prod.fst hcommit
      have hsnd := congrArg Prod.snd hcommit
      rw [IntegrationTables.call] at hanswer huncovered ⊢
      rw [hsnd] at huncovered ⊢
      rw [hanswer] at hfst
      have hsources : record.sourceMemoryIds = found.sourceMemoryIds := by
        obtain ⟨hmem, hid, -⟩ := get_ok hfst.symm
        have hrow : revertedRow cfg c found ∈ t'.integrations := (hdone.member _).mpr (.inl rfl)
        have hkey : (revertedRow cfg c found).integrationId = c.integrationId := (get_ok hdone.found).2.1
        rw [Table.eq_of_key hmem hrow (hid.trans hkey.symm)]
        rfl
      dsimp only at huncovered ⊢
      rw [hdone.restored hw hallowed (hsources ▸ hm), huncovered]
      rfl

/-! ### Overlapping integrations -/

/-- A digest of 64 digits. -/
def digest (parts : List String) : String :=
  Digest.hex (Digest.checksum ((", ".intercalate parts).toList.map Char.toNat))

lemma digest_valid (parts : List String) : validHash (digest parts) = true := by
  unfold validHash digest
  rw [Digest.hex_length, Digest.hex_all]
  rfl

/-- A text of a float, empty for one of them. -/
def floatText (short x : Double) : String := if x = short then "" else String.ofList ('x' :: Document.text (.float x))

lemma floatText_injective (short : Double) : Function.Injective (floatText short) := by
  intro x y h
  unfold floatText at h
  split at h <;> split at h
  case isTrue.isTrue hx hy => exact hx.trans hy.symm
  case isTrue.isFalse => exact absurd (String.ofList_injective (h : String.ofList [] = _)) (by simp)
  case isFalse.isTrue => exact absurd (String.ofList_injective (h : _ = String.ofList [])) (by simp)
  case isFalse.isFalse =>
    have htext := Document.text_injective (List.cons.inj (String.ofList_injective h)).2
    cases htext
    rfl

def MemoryStatus.letter : MemoryStatus → String
  | .active => "a"
  | .superseded => "s"
  | .archived => "r"

/-- A state hash that reads the content, the status and the confidence. -/
def sampleStateHash (short : Double) (content : String) (confidence : Double) (status : MemoryStatus) : String :=
  content ++ (MemoryStatus.letter status ++ floatText short confidence)

lemma sampleStateHash_injective (short : Double) (content : String) (status : MemoryStatus) {x y : Double}
    (h : sampleStateHash short content x status = sampleStateHash short content y status) : x = y :=
  floatText_injective short ((String.append_right_inj _).mp ((String.append_right_inj _).mp h))

/-- An int and a float are written apart. -/
def numberText : Number → String
  | .int i => toString i
  | .float x => toString x.value ++ "f"

def integrationHash (operation : Operation) (sources : List String) (output : String) (evidence : List String)
    (reason : String) (confidence : Number) (status : IntegrationStatus) : String :=
  digest ([if operation = .merge then "m" else "o", output, reason, numberText confidence,
    if status = .active then "a" else "r"] ++ sources ++ evidence)

lemma integrationHash_valid (operation : Operation) (sources : List String) (output : String) (evidence : List String)
    (reason : String) (confidence : Number) (status : IntegrationStatus) :
    validHash (integrationHash operation sources output evidence reason confidence status) = true :=
  digest_valid _

def integrationRevisionHash (integrationId : String) (action : IntegrationAction) (reason : String) (now : Nat) :
    String :=
  digest [integrationId, if action = .commit then "c" else "r", reason, toString now]

lemma integrationRevisionHash_valid (integrationId : String) (action : IntegrationAction) (reason : String)
    (now : Nat) : validHash (integrationRevisionHash integrationId action reason now) = true :=
  digest_valid _

def one : Double := ⟨1, false, Double.one_sign⟩

def sampleConfig : IntegrationConfig where
  contentHash content := content
  stateHash content _ confidence status := sampleStateHash one content confidence status
  subjectId := "s"
  stateHash_injective content _ _ _ _ status h := sampleStateHash_injective one content status h
  hash := integrationHash
  hash_valid := integrationHash_valid
  revisionHash := integrationRevisionHash
  revisionHash_valid := integrationRevisionHash_valid

def sampleMemory (id : String) : MemoryRow where
  memoryId := id
  subjectId := "s"
  memoryType := .episodic
  content := "content"
  contentHash := "content"
  stateHash := "contenta"
  salience := one
  confidence := one
  privacyLevel := "private"
  status := .active
  currentRevision := 1
  createdAt := 0
  updatedAt := 0
  sources := ["e"]

/-- Three active memories and one event. -/
def sampleWorld : World where
  tables :=
    { memories := ⟨[sampleMemory "a", sampleMemory "b", sampleMemory "c"], by decide⟩
      events := [("s", "e")]
      withdrawn := []
      integrations := .empty
      revisions := [] }
  before _ := none

def sampleMerge (sources : List String) (memoryId integrationId : String) (confidence : Double) (now : Nat) :
    IntegrateCall where
  operation := "merge"
  sourceMemoryIds := sources
  synthesis := "synthesis"
  confidence := .float confidence
  evidenceEventIds := ["e"]
  reason := "reason"
  memoryId := memoryId
  integrationId := integrationId
  memoryNow _ := now
  now := now
  fails := false

def sampleRevert (now : Nat) : RevertCall := ⟨"i", "reason", fun _ => now, now, false⟩

lemma sampleWorld_init : (integrationMachine sampleConfig).init sampleWorld := ⟨rfl, rfl⟩

/-- The first of two overlapping integrations is reverted: the source they share is active although the second one
covers it. -/
theorem shared_source_reactivated :
    ∃ w, (integrationMachine sampleConfig).Reachable w ∧ w.tables.covered "a" = true ∧
    w.tables.statusOf "a" = some .active := by
  refine ⟨_, Machine.reachable_foldl sampleWorld_init
    [.integrate (sampleMerge ["a", "b"] "x" "i" one 1), .integrate (sampleMerge ["a", "c"] "y" "j" one 1),
      .revert (sampleRevert 2)], ?_, ?_⟩
  · decide +kernel
  · decide +kernel

def merged : World := [Call.integrate (sampleMerge ["a", "b"] "x" "i" one 1)].foldl
    (integrationMachine sampleConfig).step sampleWorld

def reverted : World := (integrationMachine sampleConfig).step merged (.revert (sampleRevert 2))

lemma merged_before : ∀ m ∈ ["a", "b"], merged.before m = some .active := by decide +kernel

lemma revert_allowed : Allowed sampleConfig merged (.revert (sampleRevert 2)) := by
  intro record hget _
  have hfields : (merged.tables.get sampleConfig "i").toOption.map
      (fun row => (row.createdAt, row.sourceMemoryIds, row.operation, row.outputMemoryId,
      row.integrationId)) = some (1, ["a", "b"], .merge, "x", "i") := by decide +kernel
  change merged.tables.get sampleConfig "i" = .ok record at hget
  rw [hget] at hfields
  obtain ⟨hcreated, hsources, hoperation, houtput, hid⟩ : record.createdAt = 1 ∧ record.sourceMemoryIds = ["a", "b"] ∧
      record.operation = .merge ∧
      record.outputMemoryId = "x" ∧ record.integrationId = "i" := by simpa using Option.some.inj hfields
  have halone : ∀ other ∈ merged.tables.integrations.rows, other.integrationId = "i" := by decide +kernel
  rw [hcreated, hsources, hoperation, houtput, hid]
  refine ⟨by decide, fun m hm _ => ⟨by decide, merged_before m hm, fun other hother hne => absurd (halone other hother) hne⟩,
    fun _ => ?_⟩
  decide +kernel

lemma reverted_fields :
    (∀ m ∈ ["a", "b"], merged.tables.covered m = true ∧ reverted.tables.covered m = false) ∧
    (merged.tables.call sampleConfig (.revert (sampleRevert 2))).1.toOption.map
      (fun row => (row.sourceMemoryIds, row.outputMemoryId)) = some (["a", "b"], "x") ∧
    reverted.tables.statusOf "x" = some .archived := by
  decide +kernel

/-- A merge and its revert: the sources are superseded and then active as before, and the output is archived. -/
theorem merge_reverted :
    (∀ m ∈ ["a", "b"], merged.tables.statusOf m = some .superseded) ∧
    ∃ record, (merged.tables.call sampleConfig (.revert (sampleRevert 2))).1 = .ok record ∧
    record.sourceMemoryIds = ["a", "b"] ∧
      (∀ m ∈ ["a", "b"], reverted.tables.statusOf m = merged.before m ∧ merged.before m = some .active) ∧
      reverted.tables.statusOf record.outputMemoryId = some .archived ∧
      (∀ row ∈ reverted.tables.integrations, reverted.tables.get sampleConfig row.integrationId = .ok row) ∧
      reverted.tables.verifyLifecycleIntegrity sampleConfig = .ok () := by
  have hmerged : (integrationMachine sampleConfig).ReachableUnder (Allowed sampleConfig) merged :=
    Machine.reachableUnder_foldl sampleWorld_init [.integrate (sampleMerge ["a", "b"] "x" "i" one 1)]
      ⟨⟨one, rfl⟩, trivial⟩
  have hreverted : (integrationMachine sampleConfig).ReachableUnder (Allowed sampleConfig) reverted :=
    Machine.reachableUnder_foldl sampleWorld_init [.integrate (sampleMerge ["a", "b"] "x" "i" one 1),
      .revert (sampleRevert 2)]
      ⟨⟨one, rfl⟩, revert_allowed, trivial⟩
  have hstep : (merged.tables.call sampleConfig (.revert (sampleRevert 2))).2 = reverted.tables := rfl
  obtain ⟨hcovered, hanswer, houtput⟩ := reverted_fields
  have h := integrations_reversible sampleConfig hmerged
  have h' := integrations_reversible sampleConfig hreverted
  refine ⟨fun m hm => h.1 m (hcovered m hm).1, ?_⟩
  cases hcall : (merged.tables.call sampleConfig (.revert (sampleRevert 2))).1 with
  | error e =>
    rw [hcall] at hanswer
    cases hanswer
  | ok record =>
    rw [hcall] at hanswer
    obtain ⟨hsources, hid⟩ : record.sourceMemoryIds = ["a", "b"] ∧ record.outputMemoryId = "x" := by
      simpa using Option.some.inj hanswer
    refine ⟨record, rfl, hsources, fun m hm => ⟨?_, merged_before m hm⟩, ?_, h'.2.2.1, h'.2.2.2.1⟩
    · have hrestored := (h.2.2.2.2 _ revert_allowed).2 (sampleRevert 2) record rfl hcall m (hsources ▸ hm)
          (hcovered m hm).2
      rw [if_pos (hcovered m hm).1, hstep] at hrestored
      exact hrestored
    · rw [hid]
      exact houtput

end Noyra.Mind.Proofs
