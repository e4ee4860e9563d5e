import Noyra.Core.Actions
import Mathlib.Data.List.Range
import Mathlib.Tactic.Lemma

/-!
# The action ledger keeps its books

An action has a history of revisions of which the last carries its state, and from its first outcome on
one behaviour log whose history ends with its status. The two halves are kept apart: a transaction changes
an action, its revisions and its log in steps, and each half is preserved by the steps that touch it.
-/

namespace Noyra.Core.Proofs
open Noyra.Lib Noyra.Core

variable {cfg : ActionConfig} {x : ActionReading} {db db' : ActionTables} {actions : Table ActionRow.actionId}

lemma nextNumber_range (n : Nat) : ActionTables.nextNumber (List.range' 1 n) = n + 1 := by
  cases n with
  | zero => rfl
  | succ n =>
    have hmax : (List.range' 1 (n + 1)).max? = some (n + 1) := by
      rw [List.max?_eq_some_iff]
      constructor
      · simp
      · intro b hb
        rw [List.mem_range'_1] at hb
        omega
    simp [ActionTables.nextNumber, hmax]

/-- A history of revisions that ends with the state of its action. -/
structure Revised (cfg : ActionConfig) (a : ActionRow) (history : List ActionRevision) : Prop where
  numbers : history.map ActionRevision.revisionNumber = List.range' 1 history.length
  owned : ∀ r ∈ history, r.subjectId = a.subjectId
  latest : ∃ r, history.getLast? = some r ∧ r.status = a.status ∧ r.stateHash = cfg.actionStateHash a

structure Revisions (cfg : ActionConfig) (actions : Table ActionRow.actionId) (revisions : List ActionRevision) :
    Prop where
  revised : ∀ a ∈ actions, Revised cfg a (revisions.filter (fun r => r.actionId = a.actionId))
  owned : ∀ r ∈ revisions, ∃ a ∈ actions, a.actionId = r.actionId
  identity : ∀ a ∈ actions, ∀ b ∈ actions, a.subjectId = b.subjectId → a.idempotencyKey = b.idempotencyKey → a = b

/-- A later statement of a log keeps all but what a reconciliation may change. -/
def Restated (l l' : BehaviorLog) : Prop :=
  l' = { l with
    occurredAt := l'.occurredAt, resultStatus := l'.resultStatus, sideEffectSummary := l'.sideEffectSummary,
    publicExplanation := l'.publicExplanation }

def Sealed (cfg : ActionConfig) (r : LogRevision) : Prop := r.stateHash = cfg.behaviorLogStateHash r.toLogState

/-- The history of a log: the first outcome, then possibly its reconciliation. -/
inductive Logged (cfg : ActionConfig) (status : ActionStatus) (l : BehaviorLog) : List LogRevision → Prop
  | initial {r : LogRevision} : Sealed cfg r → r.revisionNumber = 1 → r.log = l → l.resultStatus = status →
      Logged cfg status l [r]
  | reconciled {r r' : LogRevision} : Sealed cfg r → Sealed cfg r' → r.revisionNumber = 1 → r'.revisionNumber = 2 →
      r.log = l → l.resultStatus = .unknown → Restated l r'.log → r'.log.resultStatus = status → status ≠ .unknown →
      Logged cfg status l [r, r']

structure Logs (cfg : ActionConfig) (actions : Table ActionRow.actionId) (logs : Table BehaviorLog.logId)
    (logRevisions : List LogRevision) : Prop where
  logged : ∀ l ∈ logs, ∃ a ∈ actions, a.actionId = l.actionId ∧ a.subjectId = l.subjectId ∧
    a.status.isCompletion = true ∧ Logged cfg a.status l (logRevisions.filter (fun r => r.log.logId = l.logId))
  settled : ∀ a ∈ actions, a.status.isCompletion = true → ∃ l ∈ logs, l.actionId = a.actionId
  oneLog : ∀ l ∈ logs, ∀ l' ∈ logs, l.actionId = l'.actionId → l = l'
  owned : ∀ r ∈ logRevisions, ∃ l ∈ logs, l.logId = r.log.logId

structure Ledger (cfg : ActionConfig) (db : ActionTables) : Prop where
  revisions : Revisions cfg db.actions db.revisions
  logs : Logs cfg db.actions db.logs db.logRevisions

/-- The revision that `_record_revision` appends for a row. -/
def revisionOf (cfg : ActionConfig) (x : ActionReading) (row : ActionRow) (revisions : List ActionRevision)
    (reason : String) : ActionRevision where
  revisionId := x.revisionId
  actionId := row.actionId
  subjectId := row.subjectId
  revisionNumber := ActionTables.nextNumber
    ((revisions.filter (fun r => r.actionId = row.actionId)).map ActionRevision.revisionNumber)
  status := row.status
  stateHash := cfg.actionStateHash row
  reason := reason

lemma recordRevision_ok {actionId reason : String} (h : db.recordRevision cfg x actionId reason = .ok db') :
    ∃ row, db.actions.find? actionId = some row ∧
      db' = { db with revisions := db.revisions ++ [revisionOf cfg x row db.revisions reason] } := by
  simp only [ActionTables.recordRevision, ActionTables.getRow, bind_eq_ok, orRaise_eq_ok, Except.ok.injEq] at h
  obtain ⟨row, hrow, -, -, rfl⟩ := h
  refine ⟨row, hrow, ?_⟩
  obtain ⟨-, rfl⟩ := Table.find?_eq_some.mp hrow
  rfl

/-- A history continued with the revision of the changed action. -/
lemma Revised.append {a a' : ActionRow} {revisions : List ActionRevision} {reason : String}
    (h : Revised cfg a (revisions.filter (fun r => r.actionId = a.actionId))) (hid : a'.actionId = a.actionId)
    (hs : a'.subjectId = a.subjectId) :
    Revised cfg a'
      ((revisions ++ [revisionOf cfg x a' revisions reason]).filter (fun r => r.actionId = a'.actionId)) := by
  rw [List.filter_append]
  have hnew : [revisionOf cfg x a' revisions reason].filter (fun r => r.actionId = a'.actionId) =
      [revisionOf cfg x a' revisions reason] := by
    simp [revisionOf]
  rw [hnew, hid]
  refine ⟨?_, ?_, ?_⟩
  · rw [List.map_append, h.numbers, List.length_append, List.length_singleton, List.range'_concat]
    simp only [List.map_cons, List.map_nil, revisionOf, hid, h.numbers, nextNumber_range]
    congr 2
    omega
  · intro r hr
    rcases List.mem_append.mp hr with hr | hr
    · rw [hs]
      exact h.owned r hr
    · rw [List.mem_singleton.mp hr]
      rfl
  · exact ⟨_, List.getLast?_concat, rfl, rfl⟩

lemma Revisions.update {actions : Table ActionRow.actionId} {revisions : List ActionRevision} {a a' : ActionRow}
    {reason : String} (h : Revisions cfg actions revisions) (ha : a ∈ actions) (hid : a'.actionId = a.actionId)
    (hs : a'.subjectId = a.subjectId) (hk : a'.idempotencyKey = a.idempotencyKey) :
    Revisions cfg (actions.replace a') (revisions ++ [revisionOf cfg x a' revisions reason]) := by
  have hself : a' ∈ actions.replace a' := Table.mem_replace.mpr (.inl ⟨rfl, a, ha, hid.symm⟩)
  refine ⟨?_, ?_, ?_⟩
  · intro b hb
    rcases Table.mem_replace.mp hb with ⟨rfl, -⟩ | ⟨hb, hne⟩
    · exact (h.revised a ha).append hid hs
    · rw [List.filter_append]
      have hnone : [revisionOf cfg x a' revisions reason].filter (fun r => r.actionId = b.actionId) = [] := by
        simp [revisionOf, Ne.symm hne]
      rw [hnone, List.append_nil]
      exact h.revised b hb
  · intro r hr
    rcases List.mem_append.mp hr with hr | hr
    · obtain ⟨b, hb, hbr⟩ := h.owned r hr
      by_cases hba : b.actionId = a'.actionId
      · exact ⟨a', hself, hba.symm.trans hbr⟩
      · exact ⟨b, Table.mem_replace.mpr (.inr ⟨hb, hba⟩), hbr⟩
    · rw [List.mem_singleton.mp hr]
      exact ⟨a', hself, rfl⟩
  · -- the changed row keeps its identity, so that any two rows of one identity come from one row before
    have hback : ∀ b ∈ actions.replace a', ∃ c ∈ actions, c.actionId = b.actionId ∧ c.subjectId = b.subjectId ∧
        c.idempotencyKey = b.idempotencyKey := by
      intro b hb
      rcases Table.mem_replace.mp hb with ⟨rfl, -⟩ | ⟨hb, -⟩
      · exact ⟨a, ha, hid.symm, hs.symm, hk.symm⟩
      · exact ⟨b, hb, rfl, rfl, rfl⟩
    intro b hb c hc hsubject hkey
    obtain ⟨b', hb', hbid, hbs, hbk⟩ := hback b hb
    obtain ⟨c', hc', hcid, hcs, hck⟩ := hback c hc
    have hsame : b' = c' := h.identity b' hb' c' hc' (by rw [hbs, hcs, hsubject]) (by rw [hbk, hck, hkey])
    refine Table.eq_of_key hb hc ?_
    rw [← hbid, ← hcid, hsame]

lemma Revisions.insert {actions actions' : Table ActionRow.actionId} {revisions : List ActionRevision} {a : ActionRow}
    {reason : String} (h : Revisions cfg actions revisions) (hins : actions.insert? a = some actions')
    (hfresh : ∀ b ∈ actions, b.subjectId = a.subjectId → b.idempotencyKey ≠ a.idempotencyKey) :
    Revisions cfg actions' (revisions ++ [revisionOf cfg x a revisions reason]) := by
  obtain ⟨hnew, hrows⟩ := Table.insert?_eq_some.mp hins
  have hmem : ∀ b, b ∈ actions' ↔ b ∈ actions ∨ b = a := by
    intro b
    rw [Table.mem_def, hrows, List.mem_append, List.mem_singleton]
    rfl
  have hnone : revisions.filter (fun r => r.actionId = a.actionId) = [] := by
    rw [List.filter_eq_nil_iff]
    intro r hr hra
    obtain ⟨b, hb, hbr⟩ := h.owned r hr
    exact hnew b hb (hbr.trans (by simpa using hra))
  refine ⟨?_, ?_, ?_⟩
  · intro b hb
    rw [List.filter_append]
    rcases (hmem b).mp hb with hb | rfl
    · have hother : [revisionOf cfg x a revisions reason].filter (fun r => r.actionId = b.actionId) = [] := by
        simp [revisionOf, Ne.symm (hnew b hb)]
      rw [hother, List.append_nil]
      exact h.revised b hb
    · have hself : [revisionOf cfg x b revisions reason].filter (fun r => r.actionId = b.actionId) =
          [revisionOf cfg x b revisions reason] := by
        simp [revisionOf]
      rw [hnone, hself, List.nil_append]
      refine ⟨?_, ?_, ⟨_, rfl, rfl, rfl⟩⟩
      · simp [revisionOf, hnone, ActionTables.nextNumber]
      · intro r hr
        rw [List.mem_singleton.mp hr]
        rfl
  · intro r hr
    rcases List.mem_append.mp hr with hr | hr
    · obtain ⟨b, hb, hbr⟩ := h.owned r hr
      exact ⟨b, (hmem b).mpr (.inl hb), hbr⟩
    · rw [List.mem_singleton.mp hr]
      exact ⟨a, (hmem a).mpr (.inr rfl), rfl⟩
  · intro b hb c hc hsubject hkey
    rcases (hmem b).mp hb with hb | rfl <;> rcases (hmem c).mp hc with hc | rfl
    · exact h.identity b hb c hc hsubject hkey
    · exact absurd hkey (hfresh b hb hsubject)
    · exact absurd hkey.symm (hfresh c hc hsubject.symm)
    · rfl

/-- Changing an action without an outcome to another state without one leaves the logs alone. -/
lemma Logs.update_open {actions : Table ActionRow.actionId} {logs : Table BehaviorLog.logId}
    {logRevisions : List LogRevision} {a a' : ActionRow} (h : Logs cfg actions logs logRevisions) (ha : a ∈ actions)
    (hid : a'.actionId = a.actionId) (hopen : a.status.isCompletion = false)
    (hopen' : a'.status.isCompletion = false) : Logs cfg (actions.replace a') logs logRevisions := by
  refine ⟨?_, ?_, h.oneLog, h.owned⟩
  · intro l hl
    obtain ⟨b, hb, hbl, hbs, hdone, hlog⟩ := h.logged l hl
    refine ⟨b, Table.mem_replace.mpr (.inr ⟨hb, ?_⟩), hbl, hbs, hdone, hlog⟩
    intro hba
    obtain rfl := Table.eq_of_key hb ha (hba.trans hid)
    simp [hopen] at hdone
  · intro b hb hdone
    rcases Table.mem_replace.mp hb with ⟨rfl, -⟩ | ⟨hb, -⟩
    · simp [hopen'] at hdone
    · exact h.settled b hb hdone

lemma Logs.insert {actions actions' : Table ActionRow.actionId} {logs : Table BehaviorLog.logId}
    {logRevisions : List LogRevision} {a : ActionRow} (h : Logs cfg actions logs logRevisions)
    (hins : actions.insert? a = some actions') (hopen : a.status.isCompletion = false) :
    Logs cfg actions' logs logRevisions := by
  obtain ⟨-, hrows⟩ := Table.insert?_eq_some.mp hins
  have hmem : ∀ b, b ∈ actions' ↔ b ∈ actions ∨ b = a := by
    intro b
    rw [Table.mem_def, hrows, List.mem_append, List.mem_singleton]
    rfl
  refine ⟨?_, ?_, h.oneLog, h.owned⟩
  · intro l hl
    obtain ⟨b, hb, hrest⟩ := h.logged l hl
    exact ⟨b, (hmem b).mpr (.inl hb), hrest⟩
  · intro b hb hdone
    rcases (hmem b).mp hb with hb | rfl
    · exact h.settled b hb hdone
    · simp [hopen] at hdone

/-- The first revision of a new log. -/
def firstRevision (cfg : ActionConfig) (x : ActionReading) (l : BehaviorLog) : LogRevision :=
  let state : LogState := ⟨l, 1, "initial outcome recorded"⟩
  { toLogState := state, revisionId := x.logRevisionId, stateHash := cfg.behaviorLogStateHash state }

lemma Logs.settle {actions : Table ActionRow.actionId} {logs logs' : Table BehaviorLog.logId}
    {logRevisions : List LogRevision} {a a' : ActionRow} {l : BehaviorLog} (h : Logs cfg actions logs logRevisions)
    (ha : a ∈ actions) (hid : a'.actionId = a.actionId) (hopen : a.status.isCompletion = false)
    (hdone : a'.status.isCompletion = true) (hl : logs.insert? l = some logs') (hla : l.actionId = a'.actionId)
    (hls : l.subjectId = a'.subjectId) (hstatus : l.resultStatus = a'.status) :
    Logs cfg (actions.replace a') logs' (logRevisions ++ [firstRevision cfg x l]) := by
  obtain ⟨hnew, hrows⟩ := Table.insert?_eq_some.mp hl
  have hmem : ∀ k, k ∈ logs' ↔ k ∈ logs ∨ k = l := by
    intro k
    rw [Table.mem_def, hrows, List.mem_append, List.mem_singleton]
    rfl
  have hself : a' ∈ actions.replace a' := Table.mem_replace.mpr (.inl ⟨rfl, a, ha, hid.symm⟩)
  -- no log of the action can exist, since it had no outcome
  have hfree : ∀ k ∈ logs, k.actionId ≠ a'.actionId := by
    intro k hk hka
    obtain ⟨b, hb, hbk, -, hbdone, -⟩ := h.logged k hk
    obtain rfl := Table.eq_of_key hb ha (hbk.trans (hka.trans hid))
    simp [hopen] at hbdone
  have hnone : logRevisions.filter (fun r => r.log.logId = l.logId) = [] := by
    rw [List.filter_eq_nil_iff]
    intro r hr hrl
    obtain ⟨k, hk, hkr⟩ := h.owned r hr
    exact hnew k hk (hkr.trans (by simpa using hrl))
  refine ⟨?_, ?_, ?_, ?_⟩
  · intro k hk
    rcases (hmem k).mp hk with hk | rfl
    · obtain ⟨b, hb, hbk, hbs, hbdone, hlog⟩ := h.logged k hk
      have hne : l.logId ≠ k.logId := Ne.symm (hnew k hk)
      refine ⟨b, Table.mem_replace.mpr (.inr ⟨hb, ?_⟩), hbk, hbs, hbdone, ?_⟩
      · intro hba
        exact hfree k hk (hbk.symm.trans hba)
      · rw [List.filter_append]
        have hother : [firstRevision cfg x l].filter (fun r => r.log.logId = k.logId) = [] := by
          simp [firstRevision, hne]
        rw [hother, List.append_nil]
        exact hlog
    · refine ⟨a', hself, hla.symm, hls.symm, hdone, ?_⟩
      rw [List.filter_append, hnone]
      have hfirst : [firstRevision cfg x k].filter (fun r => r.log.logId = k.logId) = [firstRevision cfg x k] := by
        simp [firstRevision]
      rw [hfirst]
      exact .initial rfl rfl rfl hstatus
  · intro b hb hbdone
    rcases Table.mem_replace.mp hb with ⟨rfl, -⟩ | ⟨hb, -⟩
    · exact ⟨l, (hmem l).mpr (.inr rfl), hla⟩
    · obtain ⟨k, hk, hkb⟩ := h.settled b hb hbdone
      exact ⟨k, (hmem k).mpr (.inl hk), hkb⟩
  · intro k hk k' hk' hkk
    rcases (hmem k).mp hk with hk | rfl <;> rcases (hmem k').mp hk' with hk' | rfl
    · exact h.oneLog k hk k' hk' hkk
    · exact absurd (hkk.trans hla) (hfree k hk)
    · exact absurd (hkk.symm.trans hla) (hfree k' hk')
    · rfl
  · intro r hr
    rcases List.mem_append.mp hr with hr | hr
    · obtain ⟨k, hk, hkr⟩ := h.owned r hr
      exact ⟨k, (hmem k).mpr (.inl hk), hkr⟩
    · rw [List.mem_singleton.mp hr]
      exact ⟨l, (hmem l).mpr (.inr rfl), rfl⟩

/-- The revision that reconciles a log. -/
def secondRevision (cfg : ActionConfig) (x : ActionReading) (l : BehaviorLog) : LogRevision :=
  let state : LogState := ⟨l, 2, "unknown outcome reconciled"⟩
  { toLogState := state, revisionId := x.logRevisionId, stateHash := cfg.behaviorLogStateHash state }

/-- An unknown outcome has a history of one revision. -/
lemma Logged.unknown_history {l : BehaviorLog} {history : List LogRevision} (h : Logged cfg .unknown l history) :
    ∃ r, history = [r] ∧ Sealed cfg r ∧ r.revisionNumber = 1 ∧ r.log = l ∧ l.resultStatus = .unknown := by
  cases h with
  | initial hsealed hnumber hlog hstatus => exact ⟨_, rfl, hsealed, hnumber, hlog, hstatus⟩
  | reconciled _ _ _ _ _ _ _ _ hne => exact absurd rfl hne

lemma Logs.reconcile {actions : Table ActionRow.actionId} {logs : Table BehaviorLog.logId}
    {logRevisions : List LogRevision} {a a' : ActionRow} {l l' : BehaviorLog}
    (h : Logs cfg actions logs logRevisions) (ha : a ∈ actions) (hid : a'.actionId = a.actionId)
    (hs : a'.subjectId = a.subjectId) (hunknown : a.status = .unknown) (hdone : a'.status.isReconciliation = true)
    (hl : l ∈ logs) (hla : l.actionId = a.actionId) (hlog : Restated l l') (hstatus : l'.resultStatus = a'.status) :
    Logs cfg (actions.replace a') logs (logRevisions ++ [secondRevision cfg x l']) := by
  have hself : a' ∈ actions.replace a' := Table.mem_replace.mpr (.inl ⟨rfl, a, ha, hid.symm⟩)
  have hcompletion : a'.status.isCompletion = true ∧ a'.status ≠ .unknown := by
    revert hdone
    cases a'.status <;> simp [ActionStatus.isReconciliation, ActionStatus.isCompletion]
  have hlid : l'.logId = l.logId := by rw [hlog]
  refine ⟨?_, ?_, h.oneLog, ?_⟩
  · intro k hk
    obtain ⟨b, hb, hbk, hbs, hbdone, hhistory⟩ := h.logged k hk
    rw [List.filter_append]
    by_cases hba : b.actionId = a'.actionId
    · obtain rfl := Table.eq_of_key hb ha (hba.trans hid)
      obtain rfl := h.oneLog k hk l hl (hbk.symm.trans hla.symm)
      rw [hunknown] at hhistory
      obtain ⟨r, hone, hsealed, hnumber, hrlog, hrunknown⟩ := hhistory.unknown_history
      have hsecond : [secondRevision cfg x l'].filter (fun r => r.log.logId = k.logId) = [secondRevision cfg x l'] := by
        simp [secondRevision, hlid]
      rw [hone, hsecond]
      refine ⟨a', hself, hid.trans hbk, hs.trans hbs, hcompletion.1, ?_⟩
      exact .reconciled hsealed rfl hnumber rfl hrlog hrunknown hlog hstatus hcompletion.2
    · have hkl : l'.logId ≠ k.logId := by
        rw [hlid]
        intro hlk
        obtain rfl := Table.eq_of_key hl hk hlk
        exact hba (hbk.trans (hla.trans hid.symm))
      have hother : [secondRevision cfg x l'].filter (fun r => r.log.logId = k.logId) = [] := by
        simp [secondRevision, hkl]
      rw [hother, List.append_nil]
      exact ⟨b, Table.mem_replace.mpr (.inr ⟨hb, hba⟩), hbk, hbs, hbdone, hhistory⟩
  · intro b hb hbdone
    rcases Table.mem_replace.mp hb with ⟨rfl, -⟩ | ⟨hb, -⟩
    · exact ⟨l, hl, hla.trans hid.symm⟩
    · exact h.settled b hb hbdone
  · intro r hr
    rcases List.mem_append.mp hr with hr | hr
    · exact h.owned r hr
    · rw [List.mem_singleton.mp hr]
      exact ⟨l, hl, hlid.symm⟩

lemma appendBehaviorLogRevision_ok {source : BehaviorLog} {occurredAt summary explanation reason : String}
    {status : ActionStatus}
    (h : db.appendBehaviorLogRevision cfg x source occurredAt status summary explanation reason = .ok db') :
    ∃ state : LogState, state.log = { source with
        occurredAt, resultStatus := status, sideEffectSummary := summary, publicExplanation := explanation } ∧
      state.revisionNumber =
        ActionTables.nextNumber ((db.logRevisionsOf source.logId).map (fun r => r.revisionNumber)) ∧
      state.reason = reason ∧
      db' = { db with
        logRevisions := db.logRevisions ++
          [{ toLogState := state, revisionId := x.logRevisionId, stateHash := cfg.behaviorLogStateHash state }] } := by
  simp only [ActionTables.appendBehaviorLogRevision, bind_eq_ok, Except.ok.injEq] at h
  obtain ⟨-, -, -, -, rfl⟩ := h
  exact ⟨_, rfl, rfl, rfl, rfl⟩

lemma insertBehaviorLog_ok {row : ActionRow} {completedAt : String} {status : ActionStatus} {p : Publication}
    (h : insertBehaviorLog cfg x db row completedAt status p = .ok db')
    (hl : Logs cfg actions db.logs db.logRevisions) :
    ∃ logs, db.logs.insert? (newLog x row completedAt status p) = some logs ∧
      db' = { db with
        logs, logRevisions := db.logRevisions ++ [firstRevision cfg x (newLog x row completedAt status p)] } := by
  simp only [insertBehaviorLog, bind_eq_ok, orRaise_eq_ok] at h
  obtain ⟨-, -, logs, hlogs, happend⟩ := h
  refine ⟨logs, hlogs, ?_⟩
  obtain ⟨state, hlog, hnumber, hreason, rfl⟩ := appendBehaviorLogRevision_ok happend
  have hnone : db.logRevisions.filter (fun r => r.log.logId = (newLog x row completedAt status p).logId) = [] := by
    rw [List.filter_eq_nil_iff]
    intro r hr hrl
    obtain ⟨k, hk, hkr⟩ := hl.owned r hr
    exact (Table.insert?_eq_some.mp hlogs).1 k hk (hkr.trans (by simpa using hrl))
  have hstate : state = ⟨newLog x row completedAt status p, 1, "initial outcome recorded"⟩ := by
    obtain ⟨slog, snumber, sreason⟩ := state
    simp only [LogState.mk.injEq]
    refine ⟨hlog, ?_, hreason⟩
    rw [show snumber = _ from hnumber]
    simp only [ActionTables.logRevisionsOf, hnone]
    rfl
  subst hstate
  rfl

section Changes

variable {row : ActionRow}

/-- The rows an operation leaves: one action with its new state, everything recorded for it, and the rest. -/
structure Changed (cfg : ActionConfig) (db db' : ActionTables) (row row' : ActionRow) : Prop where
  mem : row ∈ db.actions
  actionId : row'.actionId = row.actionId
  subjectId : row'.subjectId = row.subjectId
  key : row'.idempotencyKey = row.idempotencyKey
  actions : db'.actions = db.actions.replace row'
  ledger : Ledger cfg db'

lemma settle_changed {status : ActionStatus} {result : JsonObject} {p : Publication} {reason : String}
    (hl : Ledger cfg db) (hrow : row ∈ db.actions) (hopen : row.status.isCompletion = false)
    (hdone : status.isCompletion = true) (h : settle cfg x db row status result p reason = .ok db') :
    Changed cfg db db' row { row with status, resultJson := some result, completedAt := some x.now } := by
  simp only [settle, bind_eq_ok] at h
  obtain ⟨mid, hmid, hrev⟩ := h
  have hlogs : Logs cfg db.actions
      (db.setAction { row with status, resultJson := some result, completedAt := some x.now }).logs
      (db.setAction { row with status, resultJson := some result, completedAt := some x.now }).logRevisions := hl.logs
  obtain ⟨logs, hins, rfl⟩ := insertBehaviorLog_ok hmid hlogs
  obtain ⟨found, hfound, rfl⟩ := recordRevision_ok hrev
  have hfind : db.actions.find? row.actionId = some row := Table.find?_key hrow
  have hnew : found = { row with status, resultJson := some result, completedAt := some x.now } := by
    refine Option.some.inj (hfound.symm.trans ?_)
    exact Table.find?_replace_self hfind
  subst hnew
  refine ⟨hrow, rfl, rfl, rfl, rfl, ⟨?_, ?_⟩⟩
  · exact hl.revisions.update hrow rfl rfl rfl
  · exact hl.logs.settle hrow rfl hopen hdone hins rfl rfl rfl

lemma start_changed {actionId : String} (hl : Ledger cfg db) (h : start cfg x db actionId = .ok db') :
    ∃ row row', row.actionId = actionId ∧ row.status = .prepared ∧ row'.status = .executing ∧
      Changed cfg db db' row row' := by
  simp only [start, ActionTables.getRow, bind_eq_ok, orRaise_eq_ok, raiseIf_eq_ok, Decidable.not_not] at h
  obtain ⟨row, hrow, -, hprepared, hrev⟩ := h
  obtain ⟨hmem, hid⟩ := Table.find?_eq_some.mp hrow
  obtain ⟨found, hfound, rfl⟩ := recordRevision_ok hrev
  have hopen : row.status.isCompletion = false := by rw [hprepared]; rfl
  let row' : ActionRow := { row with
    status := .executing, retryCount := row.retryCount + 1, startedAt := some x.now, completedAt := none }
  have hnew : found = row' := by
    refine Option.some.inj (hfound.symm.trans ?_)
    subst hid
    exact Table.find?_replace_self hrow
  subst hnew
  refine ⟨row, row', hid, hprepared, rfl, ⟨hmem, rfl, rfl, rfl, rfl, ⟨?_, ?_⟩⟩⟩
  · exact hl.revisions.update hmem rfl rfl rfl
  · exact hl.logs.update_open hmem rfl hopen rfl

lemma finish_changed {actionId : String} {status : ActionStatus} {result : JsonObject} {p : Publication}
    (hl : Ledger cfg db) (h : finish cfg x db actionId status result p = .ok db') :
    ∃ row row', row.actionId = actionId ∧ row'.status.isCompletion = true ∧ Changed cfg db db' row row' := by
  simp only [finish, ActionTables.getRow, bind_eq_ok, orRaise_eq_ok, raiseIf_eq_ok, Decidable.not_not,
    Bool.not_eq_false] at h
  obtain ⟨-, hdone, row, hrow, -, hexecuting, hsettle⟩ := h
  obtain ⟨hmem, hid⟩ := Table.find?_eq_some.mp hrow
  exact ⟨row, _, hid, hdone, settle_changed hl hmem (by rw [hexecuting]; rfl) hdone hsettle⟩

lemma cancel_changed {actionId reason : String} (hl : Ledger cfg db) (h : cancel cfg x db actionId reason = .ok db') :
    ∃ row row', row.actionId = actionId ∧ row'.status.isCompletion = true ∧ Changed cfg db db' row row' := by
  simp only [cancel, ActionTables.getRow, bind_eq_ok, orRaise_eq_ok, raiseIf_eq_ok, Decidable.not_not] at h
  obtain ⟨-, -, row, hrow, -, hprepared, hsettle⟩ := h
  obtain ⟨hmem, hid⟩ := Table.find?_eq_some.mp hrow
  exact ⟨row, _, hid, rfl, settle_changed hl hmem (by rw [hprepared]; rfl) rfl hsettle⟩

lemma latestRevision_singleton (r : LogRevision) : latestRevision [r] = some r := by
  simp [latestRevision]

lemma reconcileUnknown_changed {actionId explanation : String} {status : ActionStatus} {result : JsonObject}
    {summary : Option String} (hl : Ledger cfg db)
    (h : reconcileUnknown cfg x db actionId status result explanation summary = .ok db') :
    ∃ row row', row.actionId = actionId ∧ row'.status.isCompletion = true ∧ Changed cfg db db' row row' := by
  simp only [reconcileUnknown, ActionTables.getRow, bind_eq_ok, orRaise_eq_ok, raiseIf_eq_ok, Decidable.not_not,
    Bool.not_eq_false] at h
  obtain ⟨-, hdone, row, hrow, -, hunknown, log, hlog, latest, hlatest, mid, hmid, hrev⟩ := h
  obtain ⟨hmem, hid⟩ := Table.find?_eq_some.mp hrow
  have hlogmem : log ∈ db.logs := List.mem_of_find?_eq_some hlog
  have hlogid : log.actionId = row.actionId := by
    rw [hid]
    simpa using List.find?_some hlog
  obtain ⟨b, hb, hbl, -, -, hhistory⟩ := hl.logs.logged log hlogmem
  obtain rfl := Table.eq_of_key hb hmem (hbl.trans hlogid)
  rw [hunknown] at hhistory
  obtain ⟨r, hone, -, hnumber, hrlog, -⟩ := hhistory.unknown_history
  have hof : db.logRevisionsOf log.logId = [r] := hone
  obtain rfl : latest = r := by
    rw [hof, latestRevision_singleton] at hlatest
    exact (Option.some.inj hlatest).symm
  obtain ⟨state, hstate, hstatenumber, hreason, rfl⟩ := appendBehaviorLogRevision_ok hmid
  obtain ⟨found, hfound, rfl⟩ := recordRevision_ok hrev
  have hnew : found = { b with status, resultJson := some result, completedAt := some x.now } := by
    refine Option.some.inj (hfound.symm.trans ?_)
    subst hid
    exact Table.find?_replace_self hrow
  subst hnew
  have hdone' : status.isCompletion = true := by
    revert hdone
    cases status <;> simp [ActionStatus.isReconciliation, ActionStatus.isCompletion]
  have hsecond : LogRevision.mk state x.logRevisionId (cfg.behaviorLogStateHash state) =
      secondRevision cfg x state.log := by
    obtain ⟨slog, snumber, sreason⟩ := state
    have hlogRevisions : (db.setAction
        { b with status, resultJson := some result, completedAt := some x.now }).logRevisionsOf latest.log.logId =
        [latest] := by
      rw [hrlog]
      exact hone
    simp only [hlogRevisions, List.map_cons, List.map_nil, hnumber] at hstatenumber
    simp only at hreason
    subst hreason
    obtain rfl : snumber = 2 := hstatenumber
    rfl
  refine ⟨b, { b with status, resultJson := some result, completedAt := some x.now }, hid, hdone',
    ⟨hmem, rfl, rfl, rfl, rfl, ⟨?_, ?_⟩⟩⟩
  · exact hl.revisions.update hmem rfl rfl rfl
  · have hrestated : Restated log state.log := by
      rw [hstate, hrlog]
      rfl
    have hresult : state.log.resultStatus = status := by rw [hstate]
    simp only [ActionTables.setAction]
    rw [hsecond]
    exact hl.logs.reconcile hmem rfl rfl hunknown hdone hlogmem hlogid hrestated hresult

end Changes

/-- What one transaction may do to the status of an action. -/
def Progress (s s' : ActionStatus) : Prop :=
  s' = s ∨ (s = .prepared ∧ s' = .executing) ∨ s'.isCompletion = true

lemma Progress.trans {s s' s'' : ActionStatus} (h : Progress s s') (h' : Progress s' s'') : Progress s s'' := by
  rcases h' with rfl | ⟨rfl, rfl⟩ | h'
  · exact h
  · rcases h with h | ⟨-, h⟩ | h
    · exact .inr (.inl ⟨h.symm, rfl⟩)
    · cases h
    · cases h
  · exact .inr (.inr h')

/-- Actions keep their identity and progress. -/
structure Advances (db db' : ActionTables) : Prop where
  kept : ∀ a ∈ db.actions, ∃ b ∈ db'.actions, b.actionId = a.actionId ∧ b.subjectId = a.subjectId ∧
    b.idempotencyKey = a.idempotencyKey ∧ Progress a.status b.status
  old : ∀ b ∈ db'.actions, ∃ a ∈ db.actions, a.actionId = b.actionId

lemma Advances.refl (db : ActionTables) : Advances db db :=
  ⟨fun a ha => ⟨a, ha, rfl, rfl, rfl, .inl rfl⟩, fun b hb => ⟨b, hb, rfl⟩⟩

lemma Advances.trans {db₁ db₂ db₃ : ActionTables} (h : Advances db₁ db₂) (h' : Advances db₂ db₃) :
    Advances db₁ db₃ := by
  constructor
  · intro a ha
    obtain ⟨b, hb, hid, hs, hk, hp⟩ := h.kept a ha
    obtain ⟨c, hc, hid', hs', hk', hp'⟩ := h'.kept b hb
    exact ⟨c, hc, hid'.trans hid, hs'.trans hs, hk'.trans hk, hp.trans hp'⟩
  · intro c hc
    obtain ⟨b, hb, hbc⟩ := h'.old c hc
    obtain ⟨a, ha, hab⟩ := h.old b hb
    exact ⟨a, ha, hab.trans hbc⟩

lemma Changed.advances {row row' : ActionRow} (h : Changed cfg db db' row row')
    (hp : Progress row.status row'.status) : Advances db db' := by
  constructor
  · intro a ha
    rw [h.actions]
    by_cases hid : a.actionId = row'.actionId
    · obtain rfl := Table.eq_of_key ha h.mem (hid.trans h.actionId)
      exact ⟨row', Table.mem_replace.mpr (.inl ⟨rfl, a, ha, hid⟩), h.actionId, h.subjectId, h.key, hp⟩
    · exact ⟨a, Table.mem_replace.mpr (.inr ⟨ha, hid⟩), rfl, rfl, rfl, .inl rfl⟩
  · intro b hb
    rw [h.actions] at hb
    rcases Table.mem_replace.mp hb with ⟨rfl, a, ha, hid⟩ | ⟨hb, -⟩
    · exact ⟨a, ha, hid⟩
    · exact ⟨b, hb, rfl⟩

lemma recoverActions_ok {y : Nat → ActionReading} {n : Nat} {rows : List ActionRow} (hl : Ledger cfg db)
    (hrows : ∀ r ∈ rows, r ∈ db.actions ∧ r.status = .executing) (hnodup : (rows.map ActionRow.actionId).Nodup)
    (h : recoverActions cfg y n rows db = .ok db') : Ledger cfg db' ∧ Advances db db' := by
  induction rows generalizing n db with
  | nil =>
    cases h
    exact ⟨hl, .refl _⟩
  | cons r rows ih =>
    simp only [recoverActions, bind_eq_ok] at h
    obtain ⟨mid, hmid, hrest⟩ := h
    obtain ⟨hr, hexecuting⟩ := hrows r List.mem_cons_self
    have hchanged := settle_changed hl hr (by rw [hexecuting]; rfl) rfl hmid
    rw [List.map_cons, List.nodup_cons] at hnodup
    -- the rows still to recover are not the one just changed
    have hleft : ∀ q ∈ rows, q ∈ mid.actions ∧ q.status = .executing := by
      intro q hq
      obtain ⟨hmem, hstatus⟩ := hrows q (List.mem_cons_of_mem r hq)
      refine ⟨?_, hstatus⟩
      rw [hchanged.actions]
      refine Table.mem_replace.mpr (.inr ⟨hmem, ?_⟩)
      intro hid
      exact hnodup.1 (List.mem_map.mpr ⟨q, hq, hid⟩)
    obtain ⟨hl', hadvances⟩ := ih hchanged.ledger hleft hnodup.2 hrest
    exact ⟨hl', (hchanged.advances (.inr (.inr rfl))).trans hadvances⟩

lemma recoverInterrupted_ok {y : Nat → ActionReading} {subjectId : String} (hl : Ledger cfg db)
    (h : recoverInterrupted cfg y db subjectId = .ok db') : Ledger cfg db' ∧ Advances db db' := by
  refine recoverActions_ok hl ?_ ?_ h
  · intro r hr
    rw [List.mem_mergeSort, List.mem_filter] at hr
    simp only [Bool.and_eq_true, decide_eq_true_eq] at hr
    exact ⟨hr.1, hr.2.2⟩
  · have hperm := List.mergeSort_perm
      (db.actions.rows.filter (fun a => a.subjectId = subjectId && a.status = .executing)) preparedOrder
    rw [(hperm.map ActionRow.actionId).nodup_iff]
    exact db.actions.nodup.sublist (List.filter_sublist.map _)

lemma identified_some {subjectId key : String} {a : ActionRow} (h : db.identified subjectId key = some a) :
    a ∈ db.actions ∧ a.subjectId = subjectId ∧ a.idempotencyKey = key := by
  have hp := List.find?_some h
  simp only [Bool.and_eq_true, decide_eq_true_eq] at hp
  exact ⟨List.mem_of_find?_eq_some h, hp⟩

/-- What a successful `prepare` does: it returns the action that has the key, or records a new one. -/
lemma prepare_cases {y : PrepareReading} {i : PrepareInput} {a : ActionRow}
    (h : prepare cfg y db i = .ok (a, db')) :
    (db' = db ∧ db.identified i.subjectId (i.key cfg) = some a) ∨
    (db.identified i.subjectId (i.key cfg) = none ∧ a = newAction cfg y i ∧ ∃ actions,
      db.actions.insert? a = some actions ∧
      db' = { db with
        actions, revisions := db.revisions ++ [revisionOf cfg y.toActionReading a db.revisions "prepared"] }) := by
  simp only [prepare, bind_eq_ok] at h
  obtain ⟨-, -, -, -, -, -, -, -, -, -, h⟩ := h
  split at h
  · next existing hfound =>
    simp only [replayAction, bind_eq_ok, Except.ok.injEq, Prod.mk.injEq] at h
    obtain ⟨row, ⟨-, -, rfl⟩, rfl, rfl⟩ := h
    exact .inl ⟨rfl, hfound⟩
  · next hfound =>
    unfold insertAction at h
    split at h
    · cases h
    · simp only [bind_eq_ok, orRaise_eq_ok, Except.ok.injEq, Prod.mk.injEq] at h
      obtain ⟨actions, hins, mid, hrev, rfl, rfl⟩ := h
      obtain ⟨found, hfind, rfl⟩ := recordRevision_ok hrev
      have hself : found = newAction cfg y i := by
        refine Option.some.inj (hfind.symm.trans ?_)
        refine Table.find?_eq_some.mpr ⟨?_, rfl⟩
        rw [Table.mem_def, (Table.insert?_eq_some.mp hins).2]
        simp
      subst hself
      exact .inr ⟨hfound, rfl, actions, hins, rfl⟩

/-- An action keeps its identity and progresses; a new one is prepared. -/
structure Evolves (db db' : ActionTables) : Prop where
  kept : ∀ a ∈ db.actions, ∃ b ∈ db'.actions, b.actionId = a.actionId ∧ b.subjectId = a.subjectId ∧
    b.idempotencyKey = a.idempotencyKey ∧ Progress a.status b.status
  new : ∀ b ∈ db'.actions, (∃ a ∈ db.actions, a.actionId = b.actionId) ∨ b.status = .prepared

lemma Advances.evolves (h : Advances db db') : Evolves db db' := ⟨h.kept, fun b hb => .inl (h.old b hb)⟩

lemma prepare_ok {y : PrepareReading} {i : PrepareInput} {a : ActionRow} (hl : Ledger cfg db)
    (h : prepare cfg y db i = .ok (a, db')) : Ledger cfg db' ∧ Evolves db db' := by
  rcases prepare_cases h with ⟨rfl, -⟩ | ⟨hnone, rfl, actions, hins, rfl⟩
  · exact ⟨hl, (Advances.refl _).evolves⟩
  have hrows := (Table.insert?_eq_some.mp hins).2
  have hfresh : ∀ b ∈ db.actions, b.subjectId = (newAction cfg y i).subjectId →
      b.idempotencyKey ≠ (newAction cfg y i).idempotencyKey := by
    intro b hb hs hk
    have := List.find?_eq_none.mp hnone b hb
    simp only [Bool.and_eq_true, decide_eq_true_eq, not_and] at this
    exact this hs hk
  refine ⟨⟨hl.revisions.insert hins hfresh, hl.logs.insert hins rfl⟩, ?_, ?_⟩
  · intro b hb
    refine ⟨b, ?_, rfl, rfl, rfl, .inl rfl⟩
    rw [Table.mem_def, hrows]
    exact List.mem_append_left _ hb
  · intro b hb
    rw [Table.mem_def, hrows, List.mem_append, List.mem_singleton] at hb
    rcases hb with hb | rfl
    · exact .inl ⟨b, hb, rfl⟩
    · exact .inr rfl

/-- Every transaction keeps the books and evolves the actions. -/
lemma run_ok {op : ActionOp} (hl : Ledger cfg db) (h : op.run cfg db = .ok db') : Ledger cfg db' ∧ Evolves db db' := by
  cases op with
  | prepare input reading =>
    change (prepare cfg reading db input).map Prod.snd = .ok db' at h
    cases hp : prepare cfg reading db input with
    | error e =>
      rw [hp] at h
      cases h
    | ok r =>
      rw [hp] at h
      cases h
      exact prepare_ok hl hp
  | start actionId reading =>
    obtain ⟨row, row', -, hs, hs', hchanged⟩ := start_changed hl h
    exact ⟨hchanged.ledger, (hchanged.advances (.inr (.inl ⟨hs, hs'⟩))).evolves⟩
  | finish actionId status result p reading =>
    obtain ⟨row, row', -, hdone, hchanged⟩ := finish_changed hl h
    exact ⟨hchanged.ledger, (hchanged.advances (.inr (.inr hdone))).evolves⟩
  | cancel actionId reason reading =>
    obtain ⟨row, row', -, hdone, hchanged⟩ := cancel_changed hl h
    exact ⟨hchanged.ledger, (hchanged.advances (.inr (.inr hdone))).evolves⟩
  | recoverInterrupted subjectId readings =>
    obtain ⟨hl', hadvances⟩ := recoverInterrupted_ok hl h
    exact ⟨hl', hadvances.evolves⟩
  | reconcileUnknown actionId status result explanation summary reading =>
    obtain ⟨row, row', -, hdone, hchanged⟩ := reconcileUnknown_changed hl h
    exact ⟨hchanged.ledger, (hchanged.advances (.inr (.inr hdone))).evolves⟩

lemma actionStep_ok (hl : Ledger cfg db) (op : ActionOp) :
    Ledger cfg (actionStep cfg db op) ∧ Evolves db (actionStep cfg db op) := by
  unfold actionStep
  split
  · next db' h => exact run_ok hl h
  · exact ⟨hl, (Advances.refl db).evolves⟩

lemma ledger_empty : Ledger cfg ⟨.empty, [], .empty, []⟩ := by
  refine ⟨⟨?_, ?_, ?_⟩, ⟨?_, ?_, ?_, ?_⟩⟩
  all_goals
    intro r hr
    cases hr

lemma ledger_of_reachable (h : (actionMachine cfg).Reachable db) : Ledger cfg db := by
  refine Machine.ReachableUnder.invariant ?_ ?_ h
  · rintro s rfl
    exact ledger_empty
  · intro s op hs _
    exact (actionStep_ok hs op).1

/-- Rows of another subject do not carry the key, so that selecting by the subject too changes nothing. -/
lemma filter_subject {ρ : Type} {rows : List ρ} {p q : ρ → Bool} (h : ∀ r ∈ rows.filter q, p r = true) :
    rows.filter (fun r => p r && q r) = rows.filter q := by
  apply List.filter_congr
  intro r hr
  cases hq : q r with
  | false => simp
  | true => simp [h r (List.mem_filter.mpr ⟨hr, hq⟩)]

lemma checkRevisionSequence_ok {subjectId actionId : String} {n : Nat} {history : List ActionRevision}
    (hn : history.map ActionRevision.revisionNumber = List.range' n history.length)
    (hs : ∀ r ∈ history, r.subjectId = subjectId) :
    checkRevisionSequence subjectId actionId n history = .ok () := by
  induction history generalizing n with
  | nil => rfl
  | cons r history ih =>
    rw [List.map_cons, List.length_cons, List.range'_succ, List.cons.injEq] at hn
    simp only [checkRevisionSequence]
    rw [raiseIf_neg (by simp [hn.1]), ok_bind, raiseIf_neg (by simp [hs r List.mem_cons_self]), ok_bind]
    exact ih hn.2 (fun q hq => hs q (List.mem_cons_of_mem r hq))

lemma Revised.sorted {a : ActionRow} {history : List ActionRevision} (h : Revised cfg a history) :
    history.mergeSort (fun a b => a.revisionNumber ≤ b.revisionNumber) = history := by
  apply List.mergeSort_of_pairwise
  have hpair : (history.map ActionRevision.revisionNumber).Pairwise (fun a b => decide (a ≤ b) = true) := by
    rw [h.numbers]
    refine (List.pairwise_lt_range' (s := 1)).imp ?_
    intro a b hab
    simp only [decide_eq_true_eq]
    omega
  exact List.pairwise_map.mp hpair

lemma Logged.owned {status : ActionStatus} {l : BehaviorLog} {history : List LogRevision}
    (h : Logged cfg status l history) : ∀ r ∈ history, r.log.subjectId = l.subjectId ∧ r.log.actionId = l.actionId := by
  cases h with
  | initial _ _ hlog _ =>
    intro r hr
    rw [List.mem_singleton.mp hr, hlog]
    exact ⟨rfl, rfl⟩
  | reconciled _ _ _ _ hlog _ hrestated _ _ =>
    intro r hr
    rcases List.mem_cons.mp hr with rfl | hr
    · rw [hlog]
      exact ⟨rfl, rfl⟩
    · rw [List.mem_singleton.mp hr, hrestated]
      exact ⟨rfl, rfl⟩

lemma Logged.sorted {status : ActionStatus} {l : BehaviorLog} {history : List LogRevision}
    (h : Logged cfg status l history) :
    history.mergeSort (fun a b => a.revisionNumber ≤ b.revisionNumber) = history := by
  apply List.mergeSort_of_pairwise
  cases h with
  | initial => exact List.pairwise_singleton _ _
  | reconciled _ _ h₁ h₂ => simp [h₁, h₂]

lemma checkLog_ok {a : ActionRow} {l : BehaviorLog} (hid : a.actionId = l.actionId) (hs : a.subjectId = l.subjectId)
    (h : Logged cfg a.status l (db.logRevisions.filter (fun r => r.log.logId = l.logId))) :
    checkLog cfg db a.subjectId a l = .ok () := by
  unfold checkLog
  have hfilter : db.logRevisions.filter (fun r => r.log.subjectId = a.subjectId && r.log.logId = l.logId) =
      db.logRevisions.filter (fun r => r.log.logId = l.logId) := by
    apply filter_subject
    intro r hr
    rw [decide_eq_true_eq, hs]
    exact (h.owned r hr).1
  dsimp only
  rw [hfilter, h.sorted]
  have howned := h.owned
  generalize db.logRevisions.filter (fun r => r.log.logId = l.logId) = history at h howned
  cases h with
  | initial hsealed hnumber hlog hstatus =>
    subst hlog
    unfold Sealed at hsealed
    simp [checkLogSequence, checkReconciliation, raiseIf, hnumber, hid, hs, hsealed, hstatus]
  | reconciled hsealed hsealed' hnumber hnumber' hlog hunknown hrestated hstatus hne =>
    subst hlog
    unfold Sealed at hsealed hsealed'
    unfold Restated at hrestated
    obtain ⟨hsubject, haction⟩ := howned _ (List.mem_cons_of_mem _ List.mem_cons_self)
    have hknown : ¬a.status = .unknown := hne
    have htype := congrArg BehaviorLog.actionType hrestated
    have hgoal := congrArg BehaviorLog.publicGoalReference hrestated
    have htool := congrArg BehaviorLog.tool hrestated
    have htarget := congrArg BehaviorLog.publicTarget hrestated
    have hresource := congrArg BehaviorLog.resourceSummary hrestated
    have hredaction := congrArg BehaviorLog.redactionReason hrestated
    simp only at htype hgoal htool htarget hresource hredaction
    simp [checkLogSequence, checkReconciliation, raiseIf, hnumber, hnumber', hid, hs, hsealed, hsealed', hsubject,
      haction, hunknown, hstatus, hknown, htype, hgoal, htool, htarget, hresource, hredaction]

lemma checkAction_ok {a : ActionRow} (hl : Ledger cfg db) (ha : a ∈ db.actions) :
    checkAction cfg db a.subjectId a = .ok () := by
  have hrevised := hl.revisions.revised a ha
  obtain ⟨latest, hlatest, hstatus, hhash⟩ := hrevised.latest
  have hfilter : db.revisions.filter (fun r => r.subjectId = a.subjectId && r.actionId = a.actionId) =
      db.revisions.filter (fun r => r.actionId = a.actionId) := by
    apply filter_subject
    intro r hr
    rw [decide_eq_true_eq]
    exact hrevised.owned r hr
  have hlogs : ∀ l ∈ db.logs.rows.filter (fun l => l.subjectId = a.subjectId && l.actionId = a.actionId),
      l ∈ db.logs ∧ a.actionId = l.actionId ∧ a.subjectId = l.subjectId ∧ a.status.isCompletion = true ∧
        Logged cfg a.status l (db.logRevisions.filter (fun r => r.log.logId = l.logId)) := by
    intro l hmem
    simp only [List.mem_filter, Bool.and_eq_true, decide_eq_true_eq] at hmem
    obtain ⟨b, hb, hbl, hbs, hdone, hlog⟩ := hl.logs.logged l hmem.1
    obtain rfl := Table.eq_of_key hb ha (hbl.trans hmem.2.2)
    exact ⟨hmem.1, hbl, hbs, hdone, hlog⟩
  unfold checkAction
  dsimp only
  rw [hfilter, hrevised.sorted, hlatest, orRaise_some, ok_bind,
    checkRevisionSequence_ok hrevised.numbers hrevised.owned,
    ok_bind, raiseIf_neg (by simp [hstatus, hhash]), ok_bind]
  generalize hrows : db.logs.rows.filter (fun l => l.subjectId = a.subjectId && l.actionId = a.actionId) = rows at hlogs
  cases rows with
  | nil =>
    -- an outcome would come with a log
    have hopen : a.status.isCompletion = false := by
      by_contra hdone
      obtain ⟨l, hmem, hla⟩ := hl.logs.settled a ha (by simpa using hdone)
      obtain ⟨b, hb, hbl, hbs, -, -⟩ := hl.logs.logged l hmem
      obtain rfl := Table.eq_of_key hb ha (hbl.trans hla)
      have hin : l ∈ db.logs.rows.filter (fun l => l.subjectId = b.subjectId && l.actionId = b.actionId) := by
        simp only [List.mem_filter, Bool.and_eq_true, decide_eq_true_eq]
        exact ⟨hmem, hbs.symm, hla⟩
      rw [hrows] at hin
      cases hin
    simp [raiseIf, hopen]
  | cons l rows =>
    obtain ⟨hmem, hid, hs, hdone, hlog⟩ := hlogs l List.mem_cons_self
    have hone : rows = [] := by
      cases rows with
      | nil => rfl
      | cons k rows =>
        obtain ⟨hkmem, hkid, -⟩ := hlogs k (by simp)
        have hkl : k = l := hl.logs.oneLog k hkmem l hmem (hkid.symm.trans hid)
        have hnodup := db.logs.nodup.of_map.sublist (List.filter_sublist
          (p := fun l => l.subjectId = a.subjectId && l.actionId = a.actionId))
        rw [hrows, hkl] at hnodup
        simp at hnodup
    subst hone
    rw [raiseIf_neg (by simp), ok_bind, raiseIf_neg (by simp [hdone]), ok_bind]
    exact checkLog_ok hid hs hlog

lemma Ledger.verify (hl : Ledger cfg db) (subjectId : String) :
    ∃ counts, verifyIntegrity cfg db subjectId = .ok counts := by
  unfold verifyIntegrity
  dsimp only
  have hactions : ((db.actions.rows.filter (fun a => a.subjectId = subjectId)).mergeSort preparedOrder).forM
      (checkAction cfg db subjectId) = .ok () := by
    apply forM_eq_ok
    intro a ha
    rw [List.mem_mergeSort, List.mem_filter, decide_eq_true_eq] at ha
    obtain ⟨ha, rfl⟩ := ha
    exact checkAction_ok hl ha
  have hlogs : (db.logs.rows.filter (fun l => l.subjectId = subjectId)).forM (fun log =>
      raiseIf (¬((db.actions.rows.filter (fun a => a.subjectId = subjectId)).mergeSort preparedOrder).any
        (fun a => a.actionId = log.actionId))
        (ActionError.integrityError s!"behavior log ownership mismatch: {log.actionId}")) = .ok () := by
    apply forM_eq_ok
    intro l hmem
    rw [List.mem_filter, decide_eq_true_eq] at hmem
    obtain ⟨a, ha, hal, has, -, -⟩ := hl.logs.logged l hmem.1
    apply raiseIf_neg
    simp only [List.any_eq_true, List.mem_mergeSort, List.mem_filter, decide_eq_true_eq]
    intro hmissing
    exact hmissing ⟨a, ⟨ha, has.trans hmem.2⟩, hal⟩
  rw [hactions, ok_bind, hlogs]
  exact ⟨_, rfl⟩

def statusOf (db : ActionTables) (actionId : String) : Option ActionStatus :=
  (db.actions.find? actionId).map ActionRow.status

/-- The action is executing after the transaction and was not before it. -/
def enters (cfg : ActionConfig) (db : ActionTables) (op : ActionOp) (actionId : String) : Prop :=
  statusOf db actionId ≠ some .executing ∧ statusOf (actionStep cfg db op) actionId = some .executing

instance (cfg : ActionConfig) (db : ActionTables) (op : ActionOp) (actionId : String) :
    Decidable (enters cfg db op actionId) := inferInstanceAs (Decidable (_ ∧ _))

/-- How often a run lets an action enter `executing`. -/
def executions (cfg : ActionConfig) (actionId : String) : ActionTables → List ActionOp → Nat
  | _, [] => 0
  | db, op :: ops =>
    (if enters cfg db op actionId then 1 else 0) + executions cfg actionId (actionStep cfg db op) ops

/-- How often an action in this state can still enter `executing`. -/
def entriesLeft : Option ActionStatus → Nat
  | none => 1
  | some .prepared => 1
  | some _ => 0

lemma statusOf_evolves (h : Evolves db db') (actionId : String) :
    (statusOf db actionId = none ∧ (statusOf db' actionId = none ∨ statusOf db' actionId = some .prepared)) ∨
    ∃ s s', statusOf db actionId = some s ∧ statusOf db' actionId = some s' ∧ Progress s s' := by
  unfold statusOf
  cases ha : db.actions.find? actionId with
  | none =>
    refine .inl ⟨rfl, ?_⟩
    cases hb : db'.actions.find? actionId with
    | none => exact .inl rfl
    | some b =>
      obtain ⟨hb, hid⟩ := Table.find?_eq_some.mp hb
      rcases h.new b hb with ⟨a, hmem, hab⟩ | hprepared
      · exact absurd (hab.trans hid) (Table.find?_eq_none.mp ha a hmem)
      · exact .inr (by simp [hprepared])
  | some a =>
    obtain ⟨ha, hid⟩ := Table.find?_eq_some.mp ha
    obtain ⟨b, hb, hba, -, -, hp⟩ := h.kept a ha
    refine .inr ⟨a.status, b.status, rfl, ?_, hp⟩
    rw [Table.find?_eq_some.mpr ⟨hb, hba.trans hid⟩]
    rfl

lemma entriesLeft_step (hl : Ledger cfg db) (op : ActionOp) (actionId : String) :
    (if enters cfg db op actionId then 1 else 0) + entriesLeft (statusOf (actionStep cfg db op) actionId) ≤
      entriesLeft (statusOf db actionId) := by
  have hevolves := statusOf_evolves (actionStep_ok hl op).2 actionId
  by_cases he : enters cfg db op actionId
  · rw [if_pos he]
    obtain ⟨hbefore, hafter⟩ := he
    rcases hevolves with ⟨-, hnone' | hprepared⟩ | ⟨s, s', hs, hs', hp⟩
    · simp [hafter] at hnone'
    · simp [hafter] at hprepared
    · rw [hafter, Option.some.injEq] at hs'
      subst hs'
      rcases hp with rfl | ⟨rfl, -⟩ | hdone
      · exact absurd hs hbefore
      · simp [hs, hafter, entriesLeft]
      · cases hdone
  · rw [if_neg he]
    rcases hevolves with ⟨hnone, hnone' | hprepared⟩ | ⟨s, s', hs, hs', hp⟩
    · simp [hnone, hnone']
    · simp [hnone, hprepared, entriesLeft]
    · rw [hs, hs']
      rcases hp with rfl | ⟨rfl, rfl⟩ | hdone
      · omega
      · simp [entriesLeft]
      · cases s' <;> simp [ActionStatus.isCompletion] at hdone <;> simp [entriesLeft]

lemma executions_le (hl : Ledger cfg db) (ops : List ActionOp) (actionId : String) :
    executions cfg actionId db ops ≤ entriesLeft (statusOf db actionId) := by
  induction ops generalizing db with
  | nil => exact Nat.zero_le _
  | cons op ops ih =>
    have hstep := entriesLeft_step hl op actionId
    have hrest := ih (actionStep_ok hl op).1
    simp only [executions]
    omega

lemma foldl_ok (hl : Ledger cfg db) (ops : List ActionOp) : Ledger cfg (ops.foldl (actionStep cfg) db) := by
  induction ops generalizing db with
  | nil => exact hl
  | cons op ops ih => exact ih (actionStep_ok hl op).1

/-- The identity of an action survives every later transaction. -/
lemma foldl_identity (hl : Ledger cfg db) (ops : List ActionOp) {a : ActionRow} (ha : a ∈ db.actions) :
    ∃ b ∈ (ops.foldl (actionStep cfg) db).actions, b.actionId = a.actionId ∧ b.subjectId = a.subjectId ∧
      b.idempotencyKey = a.idempotencyKey := by
  induction ops generalizing db a with
  | nil => exact ⟨a, ha, rfl, rfl, rfl⟩
  | cons op ops ih =>
    obtain ⟨hl', hevolves⟩ := actionStep_ok hl op
    obtain ⟨b, hb, hid, hs, hk, -⟩ := hevolves.kept a ha
    obtain ⟨c, hc, hid', hs', hk'⟩ := ih hl' hb
    exact ⟨c, hc, hid'.trans hid, hs'.trans hs, hk'.trans hk⟩

lemma prepare_returns {y : PrepareReading} {i : PrepareInput} {a : ActionRow} (h : prepare cfg y db i = .ok (a, db')) :
    a ∈ db'.actions ∧ a.subjectId = i.subjectId ∧ a.idempotencyKey = i.key cfg := by
  rcases prepare_cases h with ⟨rfl, hfound⟩ | ⟨-, rfl, actions, hins, rfl⟩
  · exact identified_some hfound
  · refine ⟨?_, rfl, rfl⟩
    rw [Table.mem_def, (Table.insert?_eq_some.mp hins).2]
    simp

lemma prepare_same {y z : PrepareReading} {i j : PrepareInput} {a b : ActionRow} {db'' : ActionTables}
    (hl : Ledger cfg db) (h : prepare cfg y db i = .ok (a, db')) (ops : List ActionOp)
    (hs : j.subjectId = i.subjectId) (hk : j.key cfg = i.key cfg)
    (h' : prepare cfg z (ops.foldl (actionStep cfg) db') j = .ok (b, db'')) : b.actionId = a.actionId := by
  obtain ⟨ha, has, hak⟩ := prepare_returns h
  have hl' := (prepare_ok hl h).1
  obtain ⟨c, hc, hid, hcs, hck⟩ := foldl_identity hl' ops ha
  rcases prepare_cases h' with ⟨rfl, hfound⟩ | ⟨hnone, -⟩
  · obtain ⟨hb, hbs, hbk⟩ := identified_some hfound
    have hsame : b = c := (foldl_ok hl' ops).revisions.identity b hb c hc (by rw [hbs, hcs, has, hs])
      (by rw [hbk, hck, hak, hk])
    rw [hsame, hid]
  · have := List.find?_eq_none.mp hnone c hc
    simp only [Bool.and_eq_true, decide_eq_true_eq, not_and] at this
    exact absurd (hck.trans (hak.trans hk.symm)) (this (hcs.trans (has.trans hs.symm)))

lemma Logged.numbers {status : ActionStatus} {l : BehaviorLog} {history : List LogRevision}
    (h : Logged cfg status l history) :
    ∃ n, n ≤ 2 ∧ history.map (fun r => r.revisionNumber) = List.range' 1 n ∧
      history.getLast?.map (fun r => r.log.resultStatus) = some status := by
  cases h with
  | initial _ hnumber hlog hstatus =>
    subst hlog
    exact ⟨1, by omega, by simp [hnumber], by simp [hstatus]⟩
  | reconciled _ _ hnumber hnumber' _ _ _ hstatus _ =>
    exact ⟨2, by omega, by simp [hnumber, hnumber', List.range'], by simp [hstatus]⟩

/-- In every run of the ledger an action enters `executing` at most once; in every state it reaches, a behaviour
log exists exactly for the actions with an outcome, its revisions are numbered from one and are at most two, the
last agreeing with the action; a key identifies one action for good; and the audit passes. -/
theorem actionLedger_sound (cfg : ActionConfig) :
    (∀ ops actionId, executions cfg actionId ⟨.empty, [], .empty, []⟩ ops ≤ 1) ∧
    ∀ db, (actionMachine cfg).Reachable db →
      (∀ a ∈ db.actions, a.status.isCompletion = true ↔ ∃ l ∈ db.logs, l.actionId = a.actionId) ∧
      (∀ l ∈ db.logs, ∃ a ∈ db.actions, a.actionId = l.actionId ∧ ∃ n, n ≤ 2 ∧
        (db.logRevisionsOf l.logId).map (fun r => r.revisionNumber) = List.range' 1 n ∧
        (db.logRevisionsOf l.logId).getLast?.map (fun r => r.log.resultStatus) = some a.status) ∧
      (∀ i y a db', prepare cfg y db i = .ok (a, db') →
        ∀ (ops : List ActionOp) j z b db'', j.subjectId = i.subjectId → j.key cfg = i.key cfg →
          prepare cfg z (ops.foldl (actionStep cfg) db') j = .ok (b, db'') → b.actionId = a.actionId) ∧
      ∀ subjectId, ∃ counts, verifyIntegrity cfg db subjectId = .ok counts := by
  constructor
  · intro ops actionId
    exact executions_le ledger_empty ops actionId
  · intro db hreach
    have hl := ledger_of_reachable hreach
    refine ⟨?_, ?_, ?_, hl.verify⟩
    · intro a ha
      constructor
      · exact hl.logs.settled a ha
      · rintro ⟨l, hmem, hla⟩
        obtain ⟨b, hb, hbl, -, hdone, -⟩ := hl.logs.logged l hmem
        obtain rfl := Table.eq_of_key hb ha (hbl.trans hla)
        exact hdone
    · intro l hmem
      obtain ⟨a, ha, hal, -, -, hlog⟩ := hl.logs.logged l hmem
      exact ⟨a, ha, hal, hlog.numbers⟩
    · intro i y a db' hprepare ops j z b db'' hs hk hprepare'
      exact prepare_same hl hprepare ops hs hk hprepare'

def sampleActionConfig : ActionConfig where
  inputHash payload := payload.text
  defaultKey subjectId actionType tool target payload :=
    subjectId ++ actionType ++ tool ++ target ++ payload.text
  actionStateHash row := row.actionId ++ row.status.text
  behaviorLogStateHash state := state.log.logId ++ state.log.resultStatus.text

def samplePrepare : PrepareInput where
  subjectId := "subject"
  actionType := "post"
  tool := "http"
  target := "target"
  inputPayload := ⟨"\x7b\x7d"⟩
  goalId := none
  projectId := none
  phaseId := none
  strategyId := none
  expectedOutcome := ""
  sideEffect := true
  resourceCost := ⟨"\x7b\x7d"⟩
  idempotencyKey := some "key"

def sampleActionReading (n : String) : ActionReading where
  now := "2026-01-01T00:00:00.000+00:00"
  revisionId := "arev" ++ n
  logId := "blog" ++ n
  logRevisionId := "brev" ++ n

def samplePrepareReading (n : String) : PrepareReading where
  toActionReading := sampleActionReading n
  actionId := "act" ++ n
  goalSubject := none
  projectSubject := none
  phase := none
  lifecycle := some "active"
  blocked := false
  capacity := none

/-- An action that starts, is interrupted and is reconciled. -/
def sampleOps : List ActionOp :=
  [.prepare samplePrepare (samplePrepareReading "1"), .start "act1" (sampleActionReading "2"),
    .recoverInterrupted "subject" (fun _ => sampleActionReading "3"),
    .reconcileUnknown "act1" .succeeded ⟨"\x7b\x7d"⟩ "done" none (sampleActionReading "4")]

def sampleLedger : ActionTables := sampleOps.foldl (actionStep sampleActionConfig) ⟨.empty, [], .empty, []⟩

theorem actionLedger_sound_sample :
    sampleLedger.actions.rows.map (fun a => (a.actionId, a.status)) = [("act1", .succeeded)] ∧
    executions sampleActionConfig "act1" ⟨.empty, [], .empty, []⟩ sampleOps ≤ 1 ∧
    ∃ counts, verifyIntegrity sampleActionConfig sampleLedger "subject" = .ok counts := by
  have hreach : (actionMachine sampleActionConfig).Reachable sampleLedger := Machine.reachable_foldl rfl _
  have hsound := actionLedger_sound sampleActionConfig
  exact ⟨by decide +kernel, hsound.1 sampleOps "act1", (hsound.2 sampleLedger hreach).2.2.2 "subject"⟩

end Noyra.Core.Proofs
