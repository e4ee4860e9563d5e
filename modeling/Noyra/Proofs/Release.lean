import Noyra.Proofs.FencedCalls

/-!
# Which source can be released

From every state a run reaches, a fenced source can be rolled back, as long as no epoch is acquired outside
the reservation of `run` and the policy of a fenced subject is not changed. Either of the two breaks the
promise at once.
-/

namespace Noyra.Migration.Proofs
open Noyra.Lib
open Noyra.Wallet (Id)

variable {cfg : Config} {requirePrincipal : Bool} {db db' : Db} {x : Reading}

/-! ### Releasing a source -/

/-- The executor returns the deactivation `rollback` asks for. -/
def Confirms (t : TaskRow) (x : Nat → Reading) : Prop :=
  ∀ digest, t.manifestDigest = some digest → ∀ n, (x n).cancellation = some (expectedCancellation t digest)

/-- The rollback has succeeded: the subject is free and the task rolled back. -/
structure Released (subjectId taskId : Id) (r : Except MigrationError Unit × Db) : Prop where
  returned : r.1 = .ok ()
  unfenced : r.2.activeEpoch subjectId = none
  rolledBack : ∃ t, r.2.tasks.find? taskId = some t ∧ t.status = .rolledBack

/-- A fenced source can be released: its epoch is the only active one of its subject, it is bound to a task
that is still open, and a rollback of that task succeeds. -/
structure Releasable (cfg : Config) (requirePrincipal : Bool) (db : Db) : Prop where
  single : ∀ e ∈ db.epochs, ∀ e' ∈ db.epochs, e.status = .active → e'.status = .active →
    e.subjectId = e'.subjectId → e = e'
  bound : ∀ e ∈ db.epochs, e.status = .active →
    ∃ t ∈ db.tasks, t.targetEpochId = some e.epochId ∧ t.status ∉ [TaskStatus.committed, .rolledBack, .cancelled]
  released : ∀ e ∈ db.epochs, e.status = .active → ∀ t ∈ db.tasks, t.targetEpochId = some e.epochId →
    ∀ (reason actor : String) (x : Nat → Reading), MigrationPolicy.blank reason = false →
      validateActor actor = .ok () → Confirms t x →
      Released e.subjectId t.taskId ((store cfg requirePrincipal).complete (rollback t.taskId reason actor) x db)

/-- What is written as the error of a rolled back task is not blank. -/
lemma blank_errorText {reason : String} (h : MigrationPolicy.blank reason = false) :
    MigrationPolicy.blank (errorText reason) = false := by
  have hne : strip reason ≠ "" := by simpa [MigrationPolicy.blank] using h
  obtain ⟨c, cs, hs, hc⟩ := strip_head hne
  have htext : (errorText reason).toList = c :: cs.take 255 := by
    rw [errorText, String.toList_ofList, hs]
    rfl
  have hstrip : strip (errorText reason) ≠ "" := strip_ne_empty htext hc
  simpa [MigrationPolicy.blank] using hstrip

/-- A transition along the table under the policy in force. -/
lemma transitionTask_eq {taskId : Id} {t : TaskRow} (x : Reading) (status : TaskStatus) (actor : String)
    (f : TransitionFields) (hactor : validateActor actor = .ok ()) (ht : db.tasks.find? taskId = some t)
    (hexpected : ∀ s, f.expectedStatus = some s → t.status = s) (hne : t.status ≠ status)
    (htable : status ∈ taskTransitions t.status)
    (hpolicy : ∀ p, db.policy t.subjectId = some p → p.revision = t.policyRevision) (hepoch : f.targetEpochId = none) :
    transitionTask db x taskId status actor f =
      .ok (t.moved status f x.now, { db with tasks := db.tasks.replace (t.moved status f x.now) }) := by
  have hget : db.getTask taskId = .ok t := by
    rw [Db.getTask, ht]
    rfl
  have hexp : ¬f.expectedStatus.any (fun expected => t.status ≠ expected) = true := by
    cases hs : f.expectedStatus with
    | none => simp
    | some s => simp [hexpected s hs]
  have hrev : ¬(db.policy t.subjectId).any (fun p => p.revision ≠ t.policyRevision) = true := by
    cases hp : db.policy t.subjectId with
    | none => simp
    | some p => simp [hpolicy p hp]
  rw [transitionTask, hactor, ok_bind, hget, ok_bind, raiseIf_neg hexp, ok_bind, if_neg hne,
    raiseIf_neg (by simpa using htable), ok_bind, raiseIf_neg hrev, ok_bind, hepoch]
  rfl

/-- A transition of a task whose policy has changed is refused. -/
lemma transitionTask_stale {taskId : Id} {status : TaskStatus} {t : TaskRow} {p : MigrationPolicy} (x : Reading)
    (actor : String) (f : TransitionFields) (ht : db.tasks.find? taskId = some t) (hp : db.policy t.subjectId = some p)
    (hrev : p.revision ≠ t.policyRevision) (hne : t.status ≠ status) (r : TaskRow × Db) :
    transitionTask db x taskId status actor f ≠ .ok r := by
  intro h
  obtain ⟨t₀, ht₀, -, ⟨hsame, -, -⟩ | ⟨-, hpolicy, -⟩⟩ := transitionTask_cases h
  · obtain rfl : t = t₀ := Option.some.inj (ht.symm.trans ht₀)
    exact hne hsame
  · obtain rfl : t = t₀ := Option.some.inj (ht.symm.trans ht₀)
    exact hrev (hpolicy p hp)

/-- The epoch is active and bound to the task. -/
structure Attached (db : Db) (e : EpochRow) (t : TaskRow) : Prop where
  epoch : db.epochs.find? e.epochId = some e
  active : e.status = .active
  task : db.tasks.find? t.taskId = some t
  bound : t.targetEpochId = some e.epochId

lemma Attached.epochForTask {e : EpochRow} {t : TaskRow} (h : Attached db e t) :
    Migration.epochForTask db t.taskId = some e.lease := by
  simp [Migration.epochForTask, h.task, h.bound, h.epoch, h.active]

lemma Attached.current {e : EpochRow} {t : TaskRow} (h : Attached db e t) :
    Migration.assertCurrent db e.lease = .ok e := by
  have hfind : db.epochs.find? e.lease.epochId = some e := h.epoch
  have hcurrent : ¬(e.subjectId ≠ e.lease.subjectId ∨ e.status ≠ .active ∨ e.targetId ≠ e.lease.targetId) := by
    simp [h.active, EpochRow.lease]
  rw [Migration.assertCurrent, hfind, orRaise_some, ok_bind, raiseIf_neg hcurrent, ok_bind]

/-- The task of a fenced source, as `rollback` finds it. -/
structure Bound (db : Db) (e : EpochRow) (t : TaskRow) : Prop extends Attached db e t where
  held : HeldBy db e t

/-- The policy in force is the one the task was approved under. -/
lemma HeldBy.revision_eq {e : EpochRow} {t : TaskRow} (h : HeldBy db e t) :
    ∀ p, db.policy t.subjectId = some p → p.revision = t.policyRevision := by
  obtain ⟨p, hp, hrev⟩ := h.policy
  intro q hq
  rw [h.subject, hp] at hq
  cases hq
  exact hrev

/-- The transition of `rollback` keeps the task bound. -/
lemma Bound.moved {e : EpochRow} {t : TaskRow} {status : TaskStatus} {f : TransitionFields} {now : Time}
    (h : Bound db e t) (hs : status ∈ underway) (hf : f.targetEpochId = none) :
    Bound { db with tasks := db.tasks.replace (t.moved status f now) } e (t.moved status f now) where
  epoch := h.epoch
  active := h.active
  task := Table.find?_replace_self (show db.tasks.find? (t.moved status f now).taskId = some t from h.task)
  bound := by
    change f.targetEpochId.orElse (fun _ => t.targetEpochId) = some e.epochId
    rw [hf]
    exact h.bound
  held :=
    { bound := by
        change f.targetEpochId.orElse (fun _ => t.targetEpochId) = some e.epochId
        rw [hf]
        exact h.bound
      subject := h.held.subject
      target := h.held.target
      status := hs
      policy := h.held.policy }

/-- The last transaction of a rollback, from a task that is rolling back. -/
lemma finishRollback_eq {e : EpochRow} {t : TaskRow} {reason actor : String} (h : Bound db e t)
    (hs : t.status = .rollingBack) (hreason : MigrationPolicy.blank reason = false)
    (hactor : validateActor actor = .ok ()) :
    ∃ t' db', finishRollback db x t.taskId (some e.lease) reason actor = .ok (t', db') ∧ t'.status = .rolledBack ∧
      db'.tasks.find? t.taskId = some t' ∧
      db'.epochs = db.epochs.replace { e with status := .revoked, revokedAt := some x.now } := by
  have hblank : ¬(MigrationPolicy.blank reason = true ∨ MigrationPolicy.blank actor = true) := by
    have hactor' : ¬(MigrationPolicy.blank actor = true ∨ 128 < actor.length) := by simpa [validateActor] using hactor
    rintro (hr | ha)
    · rw [hreason] at hr
      exact absurd hr (by decide)
    · exact hactor' (.inl ha)
  have hrevoke : revokeBound db x (some e.lease) reason actor =
      .ok { db with epochs := db.epochs.replace { e with status := .revoked, revokedAt := some x.now } } := by
    rw [revokeBound, revokeInTransaction, raiseIf_neg hblank, ok_bind, closeEpoch, h.current, ok_bind]
  rw [finishRollback, hrevoke, ok_bind]
  have htask : ({ db with
      epochs := db.epochs.replace { e with status := .revoked, revokedAt := some x.now } } : Db).tasks.find? t.taskId =
      some t := h.task
  have hmove := transitionTask_eq x .rolledBack actor { expectedStatus := some .rollingBack, errorCode := some reason }
    hactor htask (by simpa using hs) (by rw [hs]; decide) (by rw [hs]; decide) (h.held.revision_eq) rfl
  exact ⟨_, _, hmove, rfl, transitionTask_self hmove, rfl⟩

/-! ### A rollback on its own

`good` is what is asked of the result and the state a call ends with. -/

section
variable {α β : Type} {y : Nat → Reading} (good : Except MigrationError α × Db → Prop)

/-- One transaction. -/
lemma complete_step (tx : Tx) {f : tx.Reply → MigrationCall α} {r : tx.Reply}
    (hexec : tx.exec cfg requirePrincipal (y 0) db = .ok (r, db'))
    (h : good ((store cfg requirePrincipal).complete (f r) (fun n => y (n + 1)) db')) :
    good ((store cfg requirePrincipal).complete (perform tx >>= f) y db) := by
  rw [perform, Store.complete_ok hexec]
  exact h

/-- A transaction that raises ends the call. -/
lemma complete_raise (tx : Tx) {f : tx.Reply → MigrationCall α} {e : MigrationError}
    (hexec : tx.exec cfg requirePrincipal (y 0) db = .error e) (h : good (.error e, db)) :
    good ((store cfg requirePrincipal).complete (perform tx >>= f) y db) := by
  rw [perform, Store.complete_error hexec]
  exact h

/-- A call whose first transaction raises, followed by another. -/
lemma complete_call_raise (tx : Tx) {f : β → MigrationCall α} {g : tx.Reply → MigrationCall β} {e : MigrationError}
    (hexec : tx.exec cfg requirePrincipal (y 0) db = .error e) (h : good (.error e, db)) :
    good ((store cfg requirePrincipal).complete ((perform tx >>= g) >>= f) y db) := by
  rw [perform, Store.complete_error_bind hexec]
  exact h

/-- A call of one transaction, followed by another. -/
lemma complete_call (tx : Tx) {f : β → MigrationCall α} {g : tx.Reply → MigrationCall β} {r : tx.Reply}
    (hexec : tx.exec cfg requirePrincipal (y 0) db = .ok (r, db'))
    (h : good ((store cfg requirePrincipal).complete (g r >>= f) (fun n => y (n + 1)) db')) :
    good ((store cfg requirePrincipal).complete ((perform tx >>= g) >>= f) y db) := by
  rw [perform, Store.complete_ok_bind hexec]
  exact h

end

/-- The last transaction of a rollback releases the source. -/
lemma finish_released {e : EpochRow} {t : TaskRow} {reason actor : String} {y : Nat → Reading} (hf : Fenced db)
    (h : Bound db e t) (hs : t.status = .rollingBack) (hreason : MigrationPolicy.blank reason = false)
    (hactor : validateActor actor = .ok ()) :
    Released e.subjectId t.taskId ((store cfg requirePrincipal).complete
      (do let _ ← perform (.finishRollback t.taskId (some e.lease) reason actor); pure ()) y db) := by
  obtain ⟨t', db', heq, hstatus, hfind, hepochs⟩ := finishRollback_eq (x := y 0) h hs hreason hactor
  refine complete_step (Released e.subjectId t.taskId) (.finishRollback _ _ _ _) heq ?_
  refine ⟨rfl, activeEpoch_eq_none.mpr ?_, t', hfind, hstatus⟩
  intro id e' he' hsubject ha
  change db'.epochs.find? id = some e' at he'
  rw [hepochs] at he'
  have hself : db.epochs.find? ({ e with status := .revoked, revokedAt := some (y 0).now } : EpochRow).epochId =
      some e :=
    h.epoch
  rw [Table.find?_replace hself] at he'
  split at he'
  · cases he'
    exact absurd ha (by simp)
  · next hne => exact hne (hf.single id e.epochId e' e he' h.epoch ha h.active hsubject)

/-- The deactivation the executor returns is the one asked for. -/
lemma deactivate_complete {t : TaskRow} {y : Nat → Reading} {f : Unit → MigrationCall Unit}
    (good : Except MigrationError Unit × Db → Prop) (hy : Confirms t y)
    (hok : ∀ z, good ((store cfg requirePrincipal).complete (f ()) z db)) :
    good ((store cfg requirePrincipal).complete (deactivate t >>= f) y db) := by
  unfold deactivate
  cases hd : t.manifestDigest with
  | none => exact hok y
  | some digest =>
    have hexec : Tx.exec cfg requirePrincipal (y 0) db .deactivateTarget = .ok (expectedCancellation t digest, db) := by
      change answer db (y 0).cancellation _ = _
      rw [hy digest hd 0]
      rfl
    refine complete_call good .deactivateTarget hexec ?_
    rw [Store.complete_check (raiseIf_neg (by simp))]
    exact hok _

/-- `rollback` from a task that is rolling back already. -/
lemma resume_released {e : EpochRow} {t₀ t : TaskRow} {reason actor : String} {y : Nat → Reading} (hf : Fenced db)
    (h : Bound db e t) (hkey : t.taskId = t₀.taskId) (hs : t.status = .rollingBack)
    (hreason : MigrationPolicy.blank reason = false) (hactor : validateActor actor = .ok ()) (hy : Confirms t₀ y) :
    Released e.subjectId t₀.taskId ((store cfg requirePrincipal).complete (do
      assertBound (some e.lease)
      deactivate t₀
      let _ ← perform (.finishRollback t₀.taskId (some e.lease) reason actor)
      pure ()) y db) := by
  have hexec : Tx.exec cfg requirePrincipal (y 0) db (.assertCurrent e.lease) = .ok ((), db) := by
    change reading db ((assertCurrent db e.lease).map (fun _ => ())) = _
    rw [h.current]
    rfl
  refine complete_step (Released e.subjectId t₀.taskId) (.assertCurrent e.lease) hexec ?_
  refine deactivate_complete (Released e.subjectId t₀.taskId) (fun digest hd n => hy digest hd (n + 1)) ?_
  intro z
  rw [← hkey]
  exact finish_released hf h hs hreason hactor

lemma mem_taskTransitions_rollingBack {s : TaskStatus} (hs : s ∈ underway) (hne : s ≠ .rollingBack) :
    TaskStatus.rollingBack ∈ taskTransitions s := by
  revert hs hne
  cases s <;> decide

lemma Bound.fenced_moved {e : EpochRow} {t : TaskRow} {actor : String} (x : Reading) (reason : String)
    (h : Bound db e t) (hf : Fenced db)
    (hactor : validateActor actor = .ok ()) (hne : t.status ≠ .rollingBack) :
    ∃ t' db', transitionTask db x t.taskId .rollingBack actor { errorCode := some reason } = .ok (t', db') ∧
      Fenced db' ∧ Bound db' e t' ∧ t'.taskId = t.taskId ∧ t'.status = .rollingBack := by
  have hmove := transitionTask_eq x .rollingBack actor { errorCode := some reason } hactor h.task (by simp) hne
    (mem_taskTransitions_rollingBack h.held.status hne) h.held.revision_eq rfl
  refine ⟨_, _, hmove, ?_, h.moved (by decide) rfl, rfl, rfl⟩
  exact (transitionTask_ordinary hmove (by decide) (by simp) hf).1

/-- `rollback` of the task that holds the epoch. -/
lemma releaseTask_released {e : EpochRow} {t : TaskRow} {reason actor : String} {y : Nat → Reading} (hf : Fenced db)
    (h : Bound db e t) (hreason : MigrationPolicy.blank reason = false) (hactor : validateActor actor = .ok ())
    (hy : Confirms t y) :
    Released e.subjectId t.taskId ((store cfg requirePrincipal).complete (releaseTask t reason actor) y db) := by
  have hexec : Tx.exec cfg requirePrincipal (y 0) db (.epochForTask t.taskId) = .ok (some e.lease, db) := by
    change Except.ok (epochForTask db t.taskId, db) = _
    rw [h.epochForTask]
    rfl
  unfold releaseTask
  refine complete_step (Released e.subjectId t.taskId) (.epochForTask t.taskId) hexec ?_
  unfold beginRollback
  by_cases hs : t.status = .rollingBack
  · rw [if_neg (not_not.mpr hs)]
    exact resume_released hf h rfl hs (blank_errorText hreason) hactor (fun digest hd n => hy digest hd (n + 1))
  · rw [if_pos hs]
    obtain ⟨t', db', hmove, hf', h', hkey, hs'⟩ := h.fenced_moved (y 1) (errorText reason) hf hactor hs
    refine complete_call (Released e.subjectId t.taskId) (.transition _ _ _ _) hmove ?_
    exact resume_released hf' h' hkey hs' (blank_errorText hreason) hactor (fun digest hd n => hy digest hd (n + 2))

/-- `rollback` of a task that is open. -/
lemma rollback_complete {taskId : Id} {t : TaskRow} {reason actor : String} {y : Nat → Reading}
    (good : Except MigrationError Unit × Db → Prop) (hreason : MigrationPolicy.blank reason = false)
    (ht : db.tasks.find? taskId = some t) (hs : t.status ≠ .rolledBack) (hc : t.status ≠ .committed)
    (h : good ((store cfg requirePrincipal).complete (releaseTask t reason actor) (fun n => y (n + 1)) db)) :
    good ((store cfg requirePrincipal).complete (rollback taskId reason actor) y db) := by
  have hexec : Tx.exec cfg requirePrincipal (y 0) db (.getTask taskId) = .ok (t, db) := by
    change reading db (db.getTask taskId) = _
    rw [Db.getTask, ht]
    rfl
  rw [rollback, Store.complete_check (raiseIf_neg (by simp [hreason])), controlScope, Store.complete_exclusively]
  unfold rollbackTask
  refine complete_step good (.getTask taskId) hexec ?_
  rw [if_neg hs, if_neg hc]
  exact h

lemma underway_open {s : TaskStatus} (hs : s ∈ underway) : s ∉ [TaskStatus.committed, .rolledBack, .cancelled] := by
  revert hs
  cases s <;> decide

/-- The task an active epoch is bound to. -/
lemma Fenced.bound (hf : Fenced db) {e : EpochRow} (he : e ∈ db.epochs) (ha : e.status = .active) :
    ∃ t, Bound db e t := by
  have hfind := Table.find?_key he
  obtain ⟨taskId, t, ht, hheld⟩ := hf.held e.epochId e hfind ha
  have hkey : t.taskId = taskId := taskId_of_find? ht
  exact ⟨t, ⟨hfind, ha, hkey ▸ ht, hheld.bound⟩, hheld⟩

/-- A fenced source can be released. -/
lemma Fenced.releasable (hf : Fenced db) : Releasable cfg requirePrincipal db where
  single := by
    intro e he e' he' ha ha' hs
    have hkey := hf.single _ _ e e' (Table.find?_key he) (Table.find?_key he') ha ha' hs
    exact Table.eq_of_key he he' hkey
  bound := by
    intro e he ha
    obtain ⟨t, h⟩ := hf.bound he ha
    exact ⟨t, (Table.find?_eq_some.mp h.task).1, h.bound, underway_open h.held.status⟩
  released := by
    intro e he ha t ht hb reason actor y hreason hactor hy
    obtain ⟨t₀, h⟩ := hf.bound he ha
    have hfind := Table.find?_key ht
    have hkey : t₀.taskId = t.taskId := hf.unique _ _ t₀ t e.epochId h.task hfind h.bound hb
    obtain rfl : t₀ = t := Table.eq_of_key (Table.find?_eq_some.mp h.task).1 ht hkey
    have hopen := underway_open h.held.status
    refine rollback_complete (Released e.subjectId t₀.taskId) hreason hfind ?_ ?_ ?_
    · intro hs
      exact hopen (by simp [hs])
    · intro hs
      exact hopen (by simp [hs])
    · exact releaseTask_released hf h hreason hactor (fun digest hd n => hy digest hd (n + 1))

/-! ### What breaks the promise -/

/-- An epoch acquired in a transaction of its own is bound to no task. -/
lemma acquire_breaks {subjectId targetId : Id} {sourceEpoch actor : String} {lease : EpochLease} (hf : Fenced db)
    (h : Tx.exec cfg requirePrincipal x db (.acquire subjectId targetId sourceEpoch actor) = .ok (lease, db')) :
    ¬Releasable cfg requirePrincipal db' := by
  obtain ⟨_, -, hacquire⟩ := bind_eq_ok.mp h
  obtain ⟨-, -, epochs, hins, rfl⟩ := acquireInTransaction_cases hacquire
  intro hr
  have hfind : epochs.find? (newEpoch db x subjectId targetId).epochId = some (newEpoch db x subjectId targetId) := by
    rw [Table.find?_insert hins, if_pos rfl]
  obtain ⟨t, ht, hbound, -⟩ := hr.bound _ (Table.find?_eq_some.mp hfind).1 rfl
  obtain ⟨e, he⟩ := hf.known t.taskId t _ (Table.find?_key ht) hbound
  exact (Table.insert?_eq_some.mp hins).1 e (Table.find?_eq_some.mp he).1 (epochId_of_find? he)

/-- The policy has changed under the task that holds the epoch. -/
structure Stale (db : Db) (e : EpochRow) (t : TaskRow) (p : MigrationPolicy) : Prop extends Attached db e t where
  status : t.status ∈ underway
  policy : db.policy t.subjectId = some p
  revision : p.revision ≠ t.policyRevision

lemma error_of_refused {α : Type} {r : Except MigrationError α} (h : ∀ a, r ≠ .ok a) : ∃ e, r = .error e := by
  cases r with
  | error e => exact ⟨e, rfl⟩
  | ok a => exact absurd rfl (h a)

/-- Closing an epoch changes neither tasks nor policies. -/
lemma revokeBound_frame {lease : Option EpochLease} {reason actor : String}
    (h : revokeBound db x lease reason actor = .ok db') : db'.tasks = db.tasks ∧ db'.policies = db.policies := by
  cases lease with
  | none =>
    cases h
    exact ⟨rfl, rfl⟩
  | some l =>
    unfold revokeBound revokeInTransaction at h
    obtain ⟨_, -, h⟩ := bind_eq_ok.mp h
    obtain ⟨e, -, -, rfl⟩ := closeEpoch_cases h
    exact ⟨rfl, rfl⟩

lemma Stale.finish_refused {e : EpochRow} {t : TaskRow} {p : MigrationPolicy} (h : Stale db e t p) (x : Reading)
    (lease : Option EpochLease) (reason actor : String) (r : TaskRow × Db) :
    finishRollback db x t.taskId lease reason actor ≠ .ok r := by
  intro heq
  unfold finishRollback at heq
  obtain ⟨mid, hmid, heq⟩ := bind_eq_ok.mp heq
  obtain ⟨htasks, hpolicies⟩ := revokeBound_frame hmid
  have hne : t.status ≠ .rolledBack := by
    intro hs
    have := h.status
    rw [hs] at this
    exact absurd this (by decide)
  refine transitionTask_stale (t := t) (p := p) x _ _ ?_ ?_ h.revision hne r heq
  · rw [htasks]
    exact h.task
  · rw [Db.policy, hpolicies]
    exact h.policy

/-- No rollback of such a task succeeds. -/
lemma Stale.rollback_refused {e : EpochRow} {t : TaskRow} {p : MigrationPolicy} {reason actor : String}
    {y : Nat → Reading} (h : Stale db e t p) (hreason : MigrationPolicy.blank reason = false) (hy : Confirms t y) :
    ((store cfg requirePrincipal).complete (rollback t.taskId reason actor) y db).1 ≠ .ok () := by
  have hopen := underway_open h.status
  refine rollback_complete (fun r => r.1 ≠ .ok ()) hreason h.task ?_ ?_ ?_
  · intro hs
    exact hopen (by simp [hs])
  · intro hs
    exact hopen (by simp [hs])
  unfold releaseTask
  have hbound : Tx.exec cfg requirePrincipal (y 1) db (.epochForTask t.taskId) = .ok (some e.lease, db) := by
    change Except.ok (epochForTask db t.taskId, db) = _
    rw [h.epochForTask]
    rfl
  refine complete_step (fun r => r.1 ≠ .ok ()) (.epochForTask t.taskId) hbound ?_
  unfold beginRollback
  by_cases hs : t.status = .rollingBack
  · rw [if_neg (not_not.mpr hs)]
    have hcurrent : Tx.exec cfg requirePrincipal (y 2) db (.assertCurrent e.lease) = .ok ((), db) := by
      change reading db ((assertCurrent db e.lease).map (fun _ => ())) = _
      rw [h.current]
      rfl
    refine complete_step (fun r => r.1 ≠ .ok ()) (.assertCurrent e.lease) hcurrent ?_
    refine deactivate_complete (fun r => r.1 ≠ .ok ()) (fun digest hd n => hy digest hd (n + 3)) ?_
    intro z
    obtain ⟨err, herr⟩ := error_of_refused (h.finish_refused (z 0) (some e.lease) (errorText reason) actor)
    exact complete_raise (fun r => r.1 ≠ .ok ()) (.finishRollback _ _ _ _) herr (by simp)
  · rw [if_pos hs]
    obtain ⟨err, herr⟩ := error_of_refused (transitionTask_stale (y 2) actor
      { errorCode := some (errorText reason) } h.task h.policy h.revision hs)
    exact complete_call_raise (fun r => r.1 ≠ .ok ()) (.transition _ _ _ _) herr (by simp)

/-- A policy that is changed while its subject is fenced. -/
lemma updatePolicy_breaks {subjectId : Id} {expected : Nat} {patch : PolicyPatch} {actor : String} {p : MigrationPolicy}
    (hf : Fenced db) (h : updatePolicy db x subjectId expected patch actor = .ok (p, db'))
    (hfenced : db.activeEpoch subjectId ≠ none) : ¬Releasable cfg requirePrincipal db' := by
  intro hr
  obtain ⟨current, mid, hensure, hcurrent, hsubject, hrevision, rfl⟩ := updatePolicy_cases h
  have hframe := ensurePolicy_frame hensure
  rw [Ne, activeEpoch_eq_none] at hfenced
  push Not at hfenced
  obtain ⟨id, e, he, hes, ha⟩ := hfenced
  obtain ⟨t, hbound⟩ := hf.bound (Table.find?_eq_some.mp he).1 ha
  obtain ⟨q, hq, hqrev⟩ := hbound.held.policy
  obtain rfl : q = current := by
    have hmid := hframe.policy _ _ hq
    rw [hes, hcurrent] at hmid
    exact (Option.some.inj hmid).symm
  have hstale : Stale { mid with policies := mid.policies.replace p } e t p :=
    { epoch := hframe.epochs ▸ hbound.epoch
      active := ha
      task := hframe.tasks ▸ hbound.task
      bound := hbound.bound
      status := hbound.held.status
      policy := by
        have hkey : t.subjectId = p.subjectId := by rw [hbound.held.subject, hes, hsubject]
        have hfound : mid.policies.find? p.subjectId = some q := hsubject ▸ hcurrent
        change (mid.policies.replace p).find? t.subjectId = some p
        rw [hkey]
        exact Table.find?_replace_self hfound
      revision := by omega }
  let y : Nat → Reading := fun _ => { x with cancellation := t.manifestDigest.map (expectedCancellation t) }
  have hy : Confirms t y := by
    intro digest hd n
    simp [y, hd]
  have hreleased := hr.released e (Table.find?_eq_some.mp hstale.epoch).1 ha t (Table.find?_eq_some.mp hstale.task).1
    hstale.bound "operator request" "operator" y (by decide) (by decide) hy
  exact hstale.rollback_refused (by decide) hy hreleased.returned

/-- A step that breaks the condition breaks the promise. -/
lemma not_releasable_of_disturbed {tx : Tx} {r : tx.Reply} (hf : Fenced db)
    (h : tx.exec cfg requirePrincipal x db = .ok (r, db'))
    (hguard : ¬Undisturbed cfg requirePrincipal tx x db) : ¬Releasable cfg requirePrincipal db' := by
  cases tx with
  | acquire s tgt epoch actor => exact acquire_breaks hf h
  | updatePolicy s rev patch actor => exact updatePolicy_breaks hf h (fun hnone => hguard (.inr hnone))
  | _ => exact absurd trivial hguard

/-- A run that keeps to the condition can release its sources in every state it reaches, and its next step
keeps the promise exactly if it meets the condition too. -/
theorem releasable_exactly_when_undisturbed {s : Store.Running Db Reading Tx.Reply MigrationError}
    (h : (machine cfg requirePrincipal).ReachableUnder (Store.Guarded (Undisturbed cfg requirePrincipal)) s) :
    Releasable cfg requirePrincipal s.state ∧
      ∀ m, Releasable cfg requirePrincipal ((machine cfg requirePrincipal).step s m).state ↔
        Store.Guarded (Undisturbed cfg requirePrincipal) s m := by
  have hf := fenced_of_reachable h
  refine ⟨hf.releasable, ?_⟩
  intro m
  constructor
  · intro hr tx x hpending
    by_contra hguard
    cases hexec : tx.exec cfg requirePrincipal x s.state with
    | error e =>
      -- a transaction that raises meets the condition
      cases tx with
      | acquire _ _ _ _ => exact hguard (fun r hr => by rw [hexec] at hr; cases hr)
      | updatePolicy _ _ _ _ =>
        refine hguard (.inl ?_)
        intro r hr
        exact absurd (hexec.symm.trans hr) (by simp)
      | _ => exact hguard trivial
    | ok result =>
      have hstate : ((machine cfg requirePrincipal).step s m).state = result.2 := Store.step_state _ hpending hexec
      rw [hstate] at hr
      exact not_releasable_of_disturbed hf hexec hguard hr
  · intro hguard
    obtain ⟨ms, hrun⟩ := h
    exact (fenced_of_reachable ⟨_, .next hrun hguard⟩).releasable

/-- A host whose texts are ASCII; the target signs what it is asked to. -/
def plainConfig : Config where
  casefold := lower
  redactSecretText := id
  jsonText := fun _ => "\x7b\x7d"
  contentHash := fun _ => String.ofList (List.replicate 64 'a')
  principalBinding := fun _ => String.ofList (List.replicate 64 'b')
  verify := fun _ _ _ => true

/-- Noon of a day, with the first id of each stem and an executor that answers nothing. -/
def noon : Reading where
  now := 43200 * second
  newId := fun stem => stem ++ "-1"
  activationEvidence := false
  paymentInFlight := false
  backupVerified := false
  manifest := none
  proof := none
  receipt := none
  cancellation := none

/-- One call, run to its end or as far as its first `n` transactions. -/
def callMoves (i : Nat) (entry : Entry) (n : Nat) : List (Store.Move Entry Reading) :=
  .start entry :: List.replicate n (.advance i noon)

/-- A subject with a registered target and an approved task. -/
def approvedMoves : List (Store.Move Entry Reading) :=
  callMoves 0 (.addSubject "subject") 1 ++ callMoves 1 (.setRuntime "subject" 1) 1 ++
    callMoves 2 (.putTarget ⟨"target", "subject", .active, some 0, some "runtime-1", "key"⟩) 1 ++
    callMoves 3 (.updatePolicy "subject" 1 { enabled := some true, approvalMode := some .manual } "operator") 1 ++
    callMoves 4 (.createProposal ⟨"subject", "target", 2, "capacity", "a larger host", 86400 * second, "\x7b\x7d"⟩) 1 ++
    callMoves 5 (.approve "migrationproposal-1" ⟨"operator", none, none⟩ "key-1") 1

/-- The proof of a restored and healthy target. -/
def restoredProof : TargetProof :=
  let digest := String.ofList (List.replicate 64 'a')
  { manifestDigest := digest, artifactId := "artifact-1",
    restoreReport := ⟨"target", "artifact-1", digest, "restored", []⟩,
    healthReport := ⟨"target", "artifact-1", digest, "healthy", [("runtime", true)]⟩,
    targetSignature := "signature", manifest := none, credentialBinding := none, walletBinding := none,
    targetVolumeProof := none, recipientKeyFingerprint := none }

def idleState : Store.Running Db Reading Tx.Reply MigrationError := ⟨.empty, [], none, []⟩

lemma idleState_init : (machine plainConfig false).init idleState := ⟨rfl, rfl, rfl, rfl⟩

def strandingMoves : List (Store.Move Entry Reading) :=
  approvedMoves ++ callMoves 6 (.prepare "migrationtask-1" "operator" (some restoredProof)) 8 ++ [.crash]

/-- The process stops after `prepare` has acquired its epoch. -/
def strandedState : Store.Running Db Reading Tx.Reply MigrationError :=
  strandingMoves.foldl (machine plainConfig false).step idleState

theorem prepare_strands_source : (machine plainConfig false).Reachable strandedState ∧
    ¬Releasable plainConfig false strandedState.state := by
  refine ⟨Machine.reachable_foldl idleState_init strandingMoves, ?_⟩
  intro hr
  have hstranded : ∃ e ∈ strandedState.state.epochs.rows, e.status = .active ∧
      ∀ t ∈ strandedState.state.tasks.rows, t.targetEpochId ≠ some e.epochId := by decide
  obtain ⟨e, he, ha, hfree⟩ := hstranded
  obtain ⟨t, ht, hbound, -⟩ := hr.bound e he ha
  exact hfree t ht hbound

/-- `run` up to its reservation. -/
def reservingMoves : List (Store.Move Entry Reading) :=
  approvedMoves ++ callMoves 6 (.run "migrationtask-1" (some .externalSignerRebind) "operator") 6

def fencedState : Store.Running Db Reading Tx.Reply MigrationError :=
  reservingMoves.foldl (machine plainConfig false).step idleState

theorem releasable_after_reservation : (fencedState.state.activeEpoch "subject").isSome ∧
    Releasable plainConfig false fencedState.state := by
  have hreach : (machine plainConfig false).ReachableUnder (Store.Guarded (Undisturbed plainConfig false))
      fencedState :=
    Machine.reachableUnder_foldl idleState_init reservingMoves (by decide)
  exact ⟨by decide, (releasable_exactly_when_undisturbed hreach).1⟩

end Noyra.Migration.Proofs
