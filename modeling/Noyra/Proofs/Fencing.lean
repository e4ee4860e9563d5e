import Noyra.Proofs.MigrationEffects

/-!
# Fenced sources

A migration epoch fences its source. Every active epoch is held by one task under the policy in force; the
transactions of `run`, `commit` and `rollback` keep it so, and say what a call in progress may rely on.
-/

namespace Noyra.Migration.Proofs
open Noyra.Lib
open Noyra.Wallet (Id)

variable {cfg : Config} {db db' : Db} {x : Reading}

/-- The statuses of a task whose epoch is active. -/
def underway : List TaskStatus := [.preparing, .transferring, .restoring, .validating, .cutover, .rollingBack]

/-- The task holds the epoch and can be moved under the policy in force. -/
structure HeldBy (db : Db) (e : EpochRow) (t : TaskRow) : Prop where
  bound : t.targetEpochId = some e.epochId
  subject : t.subjectId = e.subjectId
  target : t.targetId = e.targetId
  status : t.status ∈ underway
  policy : ∃ p, db.policy e.subjectId = some p ∧ p.revision = t.policyRevision

/-- Every active epoch is held by a task, and by one only. -/
structure Fenced (db : Db) : Prop where
  single : ∀ id id' e e', db.epochs.find? id = some e → db.epochs.find? id' = some e' → e.status = .active →
    e'.status = .active → e.subjectId = e'.subjectId → id = id'
  held : ∀ id e, db.epochs.find? id = some e → e.status = .active →
    ∃ taskId t, db.tasks.find? taskId = some t ∧ HeldBy db e t
  known : ∀ taskId t id, db.tasks.find? taskId = some t → t.targetEpochId = some id → ∃ e, db.epochs.find? id = some e
  unique : ∀ taskId taskId' t t' id, db.tasks.find? taskId = some t → db.tasks.find? taskId' = some t' →
    t.targetEpochId = some id → t'.targetEpochId = some id → taskId = taskId'

lemma fenced_empty : Fenced .empty where
  single := by intro _ _ e _ h; exact absurd h (by simp [Db.empty, Table.find?])
  held := by intro _ e h; exact absurd h (by simp [Db.empty, Table.find?])
  known := by intro _ t _ h; exact absurd h (by simp [Db.empty, Table.find?])
  unique := by intro _ _ t _ _ h; exact absurd h (by simp [Db.empty, Table.find?])

/-- A quiet transaction keeps the source fenced, if the tasks of epochs that stay active stay underway. -/
lemma Fenced.quiet (hf : Fenced db) (hq : Quiet db db')
    (hunderway : ∀ taskId t t' id e', db.tasks.find? taskId = some t → db'.tasks.find? taskId = some t' →
      t.targetEpochId = some id → db'.epochs.find? id = some e' → e'.status = .active → t.status ∈ underway →
      t'.status ∈ underway) : Fenced db' where
  single := by
    intro id id' e e' he he' ha ha' hs
    obtain ⟨u, hu, hl, hua⟩ := hq.epoch_back he
    obtain ⟨u', hu', hl', hua'⟩ := hq.epoch_back he'
    have h1 : e.subjectId = u.subjectId := congrArg EpochLease.subjectId hl
    have h2 : e'.subjectId = u'.subjectId := congrArg EpochLease.subjectId hl'
    exact hf.single id id' u u' hu hu' (hua ha) (hua' ha') (h1.symm.trans (hs.trans h2))
  held := by
    intro id e' he' ha
    obtain ⟨e, he, hl, hea⟩ := hq.epoch_back he'
    obtain ⟨taskId, t, ht, hheld⟩ := hf.held id e he (hea ha)
    obtain ⟨t', ht', hs, hbound, -⟩ := hq.task taskId t ht
    have hid : e'.epochId = e.epochId := congrArg EpochLease.epochId hl
    have hsubject : e'.subjectId = e.subjectId := congrArg EpochLease.subjectId hl
    have htarget : e'.targetId = e.targetId := congrArg EpochLease.targetId hl
    have htid : t.targetEpochId = some id := by rw [hheld.bound, epochId_of_find? he]
    refine ⟨taskId, t', ht', ?_, ?_, ?_, ?_, ?_⟩
    · rw [hbound, hheld.bound, hid]
    · rw [hs.subject, hheld.subject, hsubject]
    · rw [hs.target, hheld.target, htarget]
    · exact hunderway taskId t t' id e' ht ht' htid he' ha hheld.status
    · obtain ⟨p, hp, hrev⟩ := hheld.policy
      exact ⟨p, hq.policy id e' p he' ha (hsubject ▸ hp), hrev.trans hs.revision.symm⟩
  known := by
    intro taskId t' id ht' hid
    rcases hq.task_back ht' with hnone | ⟨t, ht, -, hbound, -⟩
    · rw [hnone] at hid
      exact absurd hid (by simp)
    · obtain ⟨e, he⟩ := hf.known taskId t id ht (hbound ▸ hid)
      obtain ⟨e', he', -⟩ := hq.epoch id e he
      exact ⟨e', he'⟩
  unique := by
    intro a b t u id ht hu hti hui
    rcases hq.task_back ht with hnone | ⟨t₀, ht₀, -, hb, -⟩
    · rw [hnone] at hti
      exact absurd hti (by simp)
    · rcases hq.task_back hu with hnone | ⟨u₀, hu₀, -, hb', -⟩
      · rw [hnone] at hui
        exact absurd hui (by simp)
      · exact hf.unique a b t₀ u₀ id ht₀ hu₀ (hb ▸ hti) (hb' ▸ hui)

/-- The lease is of an epoch that, while it is active, is bound to the task. -/
def Holds (db : Db) (taskId : Id) (lease : EpochLease) : Prop :=
  ∃ e, db.epochs.find? lease.epochId = some e ∧ e.lease = lease ∧
    (e.status = .active → ∃ t, db.tasks.find? taskId = some t ∧ t.targetEpochId = some lease.epochId)

/-- The task has no active epoch. -/
def Idle (db : Db) (taskId : Id) : Prop :=
  ∀ t id e, db.tasks.find? taskId = some t → t.targetEpochId = some id → db.epochs.find? id = some e →
    e.status ≠ .active

/-- The task has been started and has no active epoch. -/
def Unbindable (db : Db) (taskId : Id) : Prop :=
  (∃ t, db.tasks.find? taskId = some t ∧ t.status ∉ early) ∧ Idle db taskId

structure Rely (db db' : Db) : Prop where
  holds : ∀ taskId lease, Holds db taskId lease → Holds db' taskId lease
  unbindable : ∀ taskId, Unbindable db taskId → Unbindable db' taskId

/-- What the call in the control scope may rely on: nobody else binds an epoch. -/
structure ScopeRely (db db' : Db) : Prop extends Rely db db' where
  idle : ∀ taskId, Idle db taskId → Idle db' taskId

lemma Quiet.idle (h : Quiet db db') {taskId : Id} (hi : Idle db taskId) : Idle db' taskId := by
  intro t' id e' ht' hid he' ha
  obtain ⟨e, he, -, hea⟩ := h.epoch_back he'
  rcases h.task_back ht' with hnone | ⟨t, ht, -, hbound, -⟩
  · rw [hnone] at hid
    exact absurd hid (by simp)
  · exact hi t id e ht (hbound ▸ hid) he (hea ha)

lemma Quiet.scopeRely (h : Quiet db db') : ScopeRely db db' where
  holds := by
    rintro taskId lease ⟨e, he, hl, hbound⟩
    obtain ⟨e', he', hl', hea⟩ := h.epoch _ e he
    refine ⟨e', he', hl'.trans hl, ?_⟩
    intro ha
    obtain ⟨t, ht, hid⟩ := hbound (hea ha)
    obtain ⟨t', ht', -, hb, -⟩ := h.task taskId t ht
    exact ⟨t', ht', hb.trans hid⟩
  unbindable := by
    rintro taskId ⟨⟨t, ht, hs⟩, hi⟩
    obtain ⟨t', ht', -, -, hearly⟩ := h.task taskId t ht
    exact ⟨⟨t', ht', hearly hs⟩, h.idle hi⟩
  idle := fun _ hi => h.idle hi

lemma epochForTask_holds {taskId : Id} {lease : EpochLease} (h : epochForTask db taskId = some lease) :
    Holds db taskId lease := by
  unfold epochForTask at h
  obtain ⟨e, he, hl⟩ := Option.bind_eq_some_iff.mp h
  obtain ⟨t, ht, hb⟩ := Option.bind_eq_some_iff.mp he
  obtain ⟨id, hid, hfind⟩ := Option.bind_eq_some_iff.mp hb
  split at hl
  · cases hl
    have hkey : e.lease.epochId = id := epochId_of_find? hfind
    exact ⟨e, hkey ▸ hfind, rfl, fun _ => ⟨t, ht, hkey ▸ hid⟩⟩
  · cases hl

lemma epochForTask_eq_none {taskId : Id} : epochForTask db taskId = none ↔ Idle db taskId := by
  constructor
  · intro h t id e ht hid he ha
    simp [epochForTask, ht, hid, he, ha] at h
  · intro h
    cases hf : epochForTask db taskId with
    | none => rfl
    | some lease =>
      unfold epochForTask at hf
      obtain ⟨e', he', hl⟩ := Option.bind_eq_some_iff.mp hf
      obtain ⟨t, ht, hb⟩ := Option.bind_eq_some_iff.mp he'
      obtain ⟨id, hid, hfind⟩ := Option.bind_eq_some_iff.mp hb
      split at hl
      · next ha => exact absurd ha (h t id e' ht hid hfind)
      · cases hl

/-- The statuses calls move a task to outside `commit` and the end of `rollback`. -/
def ordinary : List TaskStatus := [.preparing, .transferring, .validating, .rollingBack, .cancelled]

lemma underway_of_ordinary {s status : TaskStatus} (hs : s ∈ underway) (ho : status ∈ ordinary)
    (ht : status ∈ taskTransitions s) : status ∈ underway := by
  revert hs ho ht
  cases s <;> cases status <;> decide

lemma late_of_ordinary {status : TaskStatus} (ho : status ∈ ordinary) : status ∉ early := by
  revert ho
  cases status <;> decide

/-- A quiet transaction on one task that ends without an active epoch. -/
lemma Fenced.quiet_idle {taskId : Id} (hf : Fenced db) (hq : Quiet db db')
    (hother : ∀ id, id ≠ taskId → db'.tasks.find? id = db.tasks.find? id) (hidle : Idle db' taskId) : Fenced db' := by
  apply hf.quiet hq
  intro id u u' eid e' hu hu' hueid he' ha hus
  by_cases hid : id = taskId
  · subst hid
    obtain ⟨v, hv, -, hb, -⟩ := hq.task id u hu
    exact absurd ha (hidle v eid e' hv (hb.trans hueid) he')
  · rw [hother id hid, hu] at hu'
    cases hu'
    exact hus

/-- Closing the epoch a task holds leaves the task without an active one. -/
lemma closeEpoch_idle {taskId : Id} {lease : EpochLease} {status : EpochStatus}
    (h : closeEpoch db x lease status = .ok db') (hs : status ≠ .active) (hlease : Holds db taskId lease) :
    Quiet db db' ∧ db'.tasks = db.tasks ∧ Idle db' taskId := by
  obtain ⟨e, he, ha, rfl⟩ := closeEpoch_cases h
  have hkey : e.epochId = lease.epochId := epochId_of_find? he
  have hself : db.epochs.find? e.epochId = some e := hkey ▸ he
  refine ⟨.of_close hself hs, rfl, ?_⟩
  obtain ⟨e₀, he₀, -, hbound⟩ := hlease
  obtain rfl : e₀ = e := Option.some.inj (he₀.symm.trans he)
  obtain ⟨t, ht, hid⟩ := hbound ha
  intro u id e' hu hui he' ha'
  obtain rfl : t = u := Option.some.inj (ht.symm.trans hu)
  obtain rfl : lease.epochId = id := Option.some.inj (hid.symm.trans hui)
  have hself' : db.epochs.find? ({ e₀ with status, revokedAt := some x.now } : EpochRow).epochId = some e₀ := hself
  simp only [Table.find?_replace hself'] at he'
  rw [if_pos hkey.symm] at he'
  cases he'
  exact hs ha'

/-- An ordinary transition, with the epoch the task already holds or with none. -/
lemma transitionTask_ordinary {taskId : Id} {status : TaskStatus} {actor : String} {f : TransitionFields} {t' : TaskRow}
    (h : transitionTask db x taskId status actor f = .ok (t', db')) (ho : status ∈ ordinary)
    (hlease : ∀ id, f.targetEpochId = some id → ∃ lease, lease.epochId = id ∧ Holds db taskId lease) (hf : Fenced db) :
    Fenced db' ∧ ScopeRely db db' := by
  have hepoch : ∀ t id, db.tasks.find? taskId = some t → checkTargetEpoch db t (some id) = .ok () →
      f.targetEpochId = some id → t.targetEpochId = some id := by
    intro t id ht hcheck hid
    obtain ⟨lease, hl, e, he, -, hbound⟩ := hlease id hid
    unfold checkTargetEpoch at hcheck
    obtain ⟨e', he', hcheck⟩ := bind_eq_ok.mp hcheck
    obtain ⟨_, -, hcheck⟩ := bind_eq_ok.mp hcheck
    obtain ⟨_, hactive, -⟩ := bind_eq_ok.mp hcheck
    subst hl
    obtain rfl : e' = e := Option.some.inj ((by simpa using he' : db.epochs.find? _ = some e').symm.trans he)
    obtain ⟨t₀, ht₀, hid₀⟩ := hbound (by simpa using hactive)
    obtain rfl : t₀ = t := Option.some.inj (ht₀.symm.trans ht)
    exact hid₀
  have hq := transitionTask_quiet h (fun _ _ _ => late_of_ordinary ho) hepoch
  refine ⟨hf.quiet hq ?_, hq.scopeRely⟩
  intro id u u' eid e' hu hu' _ _ _ hus
  by_cases hid : id = taskId
  · subst hid
    obtain rfl : t' = u' := Option.some.inj ((transitionTask_self h).symm.trans hu')
    obtain ⟨t, ht, -, ⟨-, rfl, -⟩ | ⟨htable, -, -, rfl, -⟩⟩ := transitionTask_cases h
    · obtain rfl : u = t' := Option.some.inj (hu.symm.trans ht)
      exact hus
    · obtain rfl : u = t := Option.some.inj (hu.symm.trans ht)
      exact underway_of_ordinary hus ho htable
  · rw [transitionTask_other h hid, hu] at hu'
    cases hu'
    exact hus

/-- Revoking the epoch a task holds leaves the task without an active one. -/
lemma revokeBound_idle {taskId : Id} {lease : Option EpochLease} {reason actor : String}
    (h : revokeBound db x lease reason actor = .ok db') (hlease : ∀ l, lease = some l → Holds db taskId l)
    (hnone : lease = none → Idle db taskId) : Quiet db db' ∧ db'.tasks = db.tasks ∧ Idle db' taskId := by
  cases lease with
  | none =>
    cases h
    exact ⟨.refl _, rfl, hnone rfl⟩
  | some l =>
    unfold revokeBound revokeInTransaction at h
    obtain ⟨_, -, h⟩ := bind_eq_ok.mp h
    exact closeEpoch_idle h (by decide) (hlease l rfl)

/-- The end of a rollback: the epoch of the task is revoked, or it had none. -/
lemma finishRollback_fenced {taskId : Id} {lease : Option EpochLease} {reason actor : String} {t' : TaskRow}
    (h : finishRollback db x taskId lease reason actor = .ok (t', db'))
    (hlease : ∀ l, lease = some l → Holds db taskId l) (hnone : lease = none → Idle db taskId) (hf : Fenced db) :
    Fenced db' ∧ Rely db db' := by
  unfold finishRollback at h
  obtain ⟨mid, hmid, h⟩ := bind_eq_ok.mp h
  obtain ⟨hq, htasks, hidle⟩ := revokeBound_idle hmid hlease hnone
  have hq' : Quiet mid db' := transitionTask_quiet h (fun _ _ _ => by decide) (by simp)
  refine ⟨hf.quiet_idle (hq.trans hq') ?_ (hq'.idle hidle), (hq.trans hq').scopeRely.toRely⟩
  intro id hid
  rw [transitionTask_other h hid, htasks]

lemma writeAttestation_frame {row : AttestationRow} (h : writeAttestation db row = .ok db') :
    db'.tasks = db.tasks ∧ db'.epochs = db.epochs ∧ db'.policies = db.policies := by
  unfold writeAttestation at h
  split at h
  · split at h
    · cases h
      exact ⟨rfl, rfl, rfl⟩
    · cases h
  · obtain ⟨attestations, -, h⟩ := bind_eq_ok.mp h
    cases h
    exact ⟨rfl, rfl, rfl⟩

lemma attestCommit_frame {t : TaskRow} {receipt : MigrationExecutionReceipt} {proof : TargetProof} {actor : String}
    (h : attestCommit cfg db x t receipt proof actor = .ok db') :
    db'.tasks = db.tasks ∧ db'.epochs = db.epochs ∧ db'.policies = db.policies := by
  unfold attestCommit at h
  obtain ⟨policy, -, h⟩ := bind_eq_ok.mp h
  obtain ⟨_, -, h⟩ := bind_eq_ok.mp h
  split at h
  · unfold recordSelfAttestation at h
    obtain ⟨_, -, h⟩ := bind_eq_ok.mp h
    obtain ⟨_, -, h⟩ := bind_eq_ok.mp h
    obtain ⟨_, -, h⟩ := bind_eq_ok.mp h
    obtain ⟨_, -, h⟩ := bind_eq_ok.mp h
    exact writeAttestation_frame h
  · cases h
    exact ⟨rfl, rfl, rfl⟩

lemma enterCutover_quiet {t : TaskRow} {actor : String} (h : enterCutover db x t actor = .ok db') :
    Quiet db db' ∧ ∀ id, id ≠ t.taskId → db'.tasks.find? id = db.tasks.find? id := by
  unfold enterCutover at h
  split at h
  · obtain ⟨⟨t', mid⟩, hmove, h⟩ := bind_eq_ok.mp h
    cases h
    exact ⟨transitionTask_quiet hmove (fun _ _ _ => by decide) (by simp), fun id hid => transitionTask_other hmove hid⟩
  · cases h
    exact ⟨.refl db, fun _ _ => rfl⟩

/-- A commit completes the epoch of the task it commits. -/
lemma commitReceipt_fenced {t t' : TaskRow} {lease : EpochLease} {receipt : MigrationExecutionReceipt}
    {proof : TargetProof} {actor : String} (h : commitReceipt cfg db x t lease receipt proof actor = .ok (t', db'))
    (hlease : Holds db t.taskId lease) (hf : Fenced db) : Fenced db' ∧ Rely db db' := by
  unfold commitReceipt at h
  obtain ⟨_, -, h⟩ := bind_eq_ok.mp h
  obtain ⟨entered, henter, h⟩ := bind_eq_ok.mp h
  obtain ⟨_, -, h⟩ := bind_eq_ok.mp h
  obtain ⟨⟨t₁, moved⟩, hmove, h⟩ := bind_eq_ok.mp h
  obtain ⟨attested, hattest, h⟩ := bind_eq_ok.mp h
  obtain ⟨closed, hclose, h⟩ := bind_eq_ok.mp h
  cases h
  unfold completeInTransaction at hclose
  obtain ⟨_, -, hclose⟩ := bind_eq_ok.mp hclose
  obtain ⟨hq₁, hother₁⟩ := enterCutover_quiet henter
  have hq₂ : Quiet entered moved := transitionTask_quiet hmove (fun _ _ _ => by decide) (by simp)
  obtain ⟨htasks, hepochs, hpolicies⟩ := attestCommit_frame hattest
  have hq₃ : Quiet moved attested := (Frame.of_same htasks hepochs hpolicies).quiet
  have hquiet := (hq₁.trans hq₂).trans hq₃
  obtain ⟨hq₄, htasks', hidle⟩ := closeEpoch_idle hclose (by decide) (hquiet.scopeRely.holds _ _ hlease)
  refine ⟨hf.quiet_idle (hquiet.trans hq₄) ?_ hidle, (hquiet.trans hq₄).scopeRely.toRely⟩
  intro id hid
  rw [htasks', htasks, transitionTask_other hmove hid, hother₁ id hid]

/-! ### Acquiring an epoch -/

lemma activeEpoch_eq_none {subjectId : Id} : db.activeEpoch subjectId = none ↔
    ∀ id e, db.epochs.find? id = some e → e.subjectId = subjectId → e.status ≠ .active := by
  unfold Db.activeEpoch
  rw [List.find?_eq_none]
  constructor
  · intro h id e he hs ha
    exact h e (Table.find?_eq_some.mp he).1 (by simp [hs, ha])
  · intro h e he hsel
    obtain ⟨hs, ha⟩ : e.subjectId = subjectId ∧ e.status = .active := by simpa using hsel
    exact h e.epochId e (Table.find?_key he) hs ha

lemma acquireInTransaction_cases {subjectId targetId : Id} {sourceEpoch : String} {lease : EpochLease}
    (h : acquireInTransaction db x subjectId targetId sourceEpoch = .ok (lease, db')) :
    db.activeEpoch subjectId = none ∧ lease = (newEpoch db x subjectId targetId).lease ∧
      ∃ epochs, db.epochs.insert? (newEpoch db x subjectId targetId) = some epochs ∧ db' = { db with epochs } := by
  unfold acquireInTransaction at h
  obtain ⟨_, hactive, h⟩ := bind_eq_ok.mp h
  obtain ⟨_, -, h⟩ := bind_eq_ok.mp h
  obtain ⟨_, -, h⟩ := bind_eq_ok.mp h
  obtain ⟨epochs, hins, h⟩ := bind_eq_ok.mp h
  cases h
  exact ⟨by simpa using hactive, rfl, epochs, by simpa using hins, rfl⟩

/-- The task of a reservation is approved, and its policy is the one in force. -/
lemma reserve_cases {t t' : TaskRow} {policy : MigrationPolicy} {actor : String} {lease : EpochLease}
    (h : reserve db x t policy actor = .ok ((lease, t'), db')) :
    db.policy t.subjectId = some policy ∧ ∃ mid, acquireInTransaction db x t.subjectId t.targetId t.sourceEpoch =
      .ok (lease, mid) ∧ transitionTask mid x t.taskId .preparing actor
        { expectedStatus := some .approved, targetEpochId := some lease.epochId,
          artifactId := some ("migration-" ++ t.taskId) } = .ok (t', db') := by
  unfold reserve at h
  obtain ⟨current, hcurrent, h⟩ := bind_eq_ok.mp h
  obtain ⟨_, hpolicy, h⟩ := bind_eq_ok.mp h
  obtain ⟨_, -, h⟩ := bind_eq_ok.mp h
  obtain ⟨_, -, h⟩ := bind_eq_ok.mp h
  obtain ⟨_, -, h⟩ := bind_eq_ok.mp h
  obtain ⟨⟨lease', mid⟩, hacquire, h⟩ := bind_eq_ok.mp h
  obtain ⟨⟨t'', final⟩, hmove, h⟩ := bind_eq_ok.mp h
  cases h
  obtain rfl : current = policy := by simpa using hpolicy
  exact ⟨by simpa using hcurrent, mid, hacquire, hmove⟩

/-- What a reservation leaves behind, in terms of the database before it. -/
structure Reserved (db db' : Db) (t t' : TaskRow) (e : EpochRow) : Prop where
  task : db.tasks.find? t.taskId = some t
  approved : t.status = .approved
  moved : db'.tasks.find? t.taskId = some t'
  other : ∀ id, id ≠ t.taskId → db'.tasks.find? id = db.tasks.find? id
  terms : SameTerms t t'
  status : t'.status = .preparing
  bound : t'.targetEpochId = some e.epochId
  unfenced : db.activeEpoch e.subjectId = none
  unknown : db.epochs.find? e.epochId = none
  epochs : ∀ id, db'.epochs.find? id = if id = e.epochId then some e else db.epochs.find? id
  active : e.status = .active
  subject : e.subjectId = t.subjectId
  target : e.targetId = t.targetId
  policy : ∃ p, db.policy t.subjectId = some p ∧ p.revision = t.policyRevision
  policies : db'.policies = db.policies

lemma reserve_reserved {t₀ t' : TaskRow} {policy : MigrationPolicy} {actor : String} {lease : EpochLease}
    (h : reserve db x t₀ policy actor = .ok ((lease, t'), db')) :
    ∃ t e, t.taskId = t₀.taskId ∧ e.lease = lease ∧ Reserved db db' t t' e := by
  obtain ⟨hpolicy, mid, hacquire, hmove⟩ := reserve_cases h
  obtain ⟨hactive, rfl, epochs, hins, rfl⟩ := acquireInTransaction_cases hacquire
  have hself := transitionTask_self hmove
  have hother : ∀ id, id ≠ t₀.taskId → db'.tasks.find? id = db.tasks.find? id := by
    intro id hid
    have := transitionTask_other hmove hid
    exact this
  obtain ⟨t, ht, hexpected, ⟨hsame, -, -⟩ | ⟨-, hrev, hcheck, rfl, rfl⟩⟩ := transitionTask_cases hmove
  · exact absurd ((hexpected _ rfl).symm.trans hsame) (by decide)
  · have hkey : t.taskId = t₀.taskId := (Table.find?_eq_some.mp ht).2
    have hfind : db.tasks.find? t.taskId = some t := hkey ▸ ht
    have hepochs : ∀ id, epochs.find? id = if id = (newEpoch db x t₀.subjectId t₀.targetId).epochId then
        some (newEpoch db x t₀.subjectId t₀.targetId) else db.epochs.find? id := Table.find?_insert hins
    have hnew : db.epochs.find? (newEpoch db x t₀.subjectId t₀.targetId).epochId = none := by
      rw [Table.find?_eq_none]
      exact (Table.insert?_eq_some.mp hins).1
    unfold checkTargetEpoch at hcheck
    obtain ⟨e, he, hcheck⟩ := bind_eq_ok.mp hcheck
    obtain ⟨_, hmatch, -⟩ := bind_eq_ok.mp hcheck
    have he' : epochs.find? (newEpoch db x t₀.subjectId t₀.targetId).epochId = some e :=
      orRaise_eq_ok.mp he
    rw [hepochs, if_pos rfl] at he'
    obtain rfl : newEpoch db x t₀.subjectId t₀.targetId = e := Option.some.inj he'
    simp only [raiseIf_eq_ok, not_or, not_not] at hmatch
    have hsubject : t.subjectId = t₀.subjectId := hmatch.1.symm
    refine ⟨t, newEpoch db x t₀.subjectId t₀.targetId, hkey, rfl, ?_⟩
    exact
      { task := hfind
        approved := hexpected _ rfl
        moved := hkey ▸ hself
        other := fun id hid => hother id (hkey ▸ hid)
        terms := ⟨rfl, rfl, rfl, rfl⟩
        status := rfl
        bound := rfl
        unfenced := hactive
        unknown := hnew
        epochs := hepochs
        active := rfl
        subject := hmatch.1
        target := hmatch.2
        policy := ⟨policy, hsubject ▸ hpolicy, hrev policy (hsubject ▸ hpolicy)⟩
        policies := rfl }

namespace Reserved

variable {t t' : TaskRow} {e : EpochRow}

/-- The epoch of a task that was bound before the reservation is an old one. -/
lemma old_epoch (h : Reserved db db' t t' e) (hf : Fenced db) {taskId : Id} {u : TaskRow} {id : Id}
    (hu : db.tasks.find? taskId = some u) (hid : u.targetEpochId = some id) : id ≠ e.epochId := by
  rintro rfl
  obtain ⟨e₀, he₀⟩ := hf.known taskId u _ hu hid
  rw [h.unknown] at he₀
  exact absurd he₀ (by simp)

/-- The approved task had no active epoch. -/
lemma idle (h : Reserved db db' t t' e) (hf : Fenced db) : Idle db t.taskId := by
  intro u id e₀ hu hid he₀ ha
  obtain rfl : t = u := Option.some.inj (h.task.symm.trans hu)
  obtain ⟨taskId, v, hv, hheld⟩ := hf.held id e₀ he₀ ha
  have hvid : v.targetEpochId = some id := by rw [hheld.bound, epochId_of_find? he₀]
  obtain rfl : taskId = t.taskId := hf.unique _ _ v t id hv h.task hvid hid
  obtain rfl : v = t := Option.some.inj (hv.symm.trans h.task)
  have := hheld.status
  rw [h.approved] at this
  exact absurd this (by decide)

lemma fenced (h : Reserved db db' t t' e) (hf : Fenced db) : Fenced db' where
  single := by
    intro id id' a b ha hb haa hba hs
    rw [h.epochs] at ha hb
    by_cases hid : id = e.epochId
    · by_cases hid' : id' = e.epochId
      · rw [hid, hid']
      · rw [if_pos hid] at ha
        rw [if_neg hid'] at hb
        cases ha
        exact absurd hba (activeEpoch_eq_none.mp h.unfenced id' b hb hs.symm)
    · by_cases hid' : id' = e.epochId
      · rw [if_neg hid] at ha
        rw [if_pos hid'] at hb
        cases hb
        exact absurd haa (activeEpoch_eq_none.mp h.unfenced id a ha hs)
      · rw [if_neg hid] at ha
        rw [if_neg hid'] at hb
        exact hf.single id id' a b ha hb haa hba hs
  held := by
    intro id a ha haa
    rw [h.epochs] at ha
    by_cases hid : id = e.epochId
    · rw [if_pos hid] at ha
      cases ha
      obtain ⟨p, hp, hrev⟩ := h.policy
      refine ⟨t.taskId, t', h.moved, h.bound, ?_, ?_, ?_, p, ?_, hrev.trans h.terms.revision.symm⟩
      · rw [h.terms.subject, h.subject]
      · rw [h.terms.target, h.target]
      · rw [h.status]
        decide
      · rw [h.subject, Db.policy, h.policies]
        exact hp
    · rw [if_neg hid] at ha
      obtain ⟨taskId, u, hu, hheld⟩ := hf.held id a ha haa
      have hne : taskId ≠ t.taskId := by
        rintro rfl
        exact h.idle hf u id a hu (by rw [hheld.bound, epochId_of_find? ha]) ha haa
      obtain ⟨p, hp, hrev⟩ := hheld.policy
      refine ⟨taskId, u, by rw [h.other taskId hne, hu], hheld.bound, hheld.subject, hheld.target, hheld.status,
        p, ?_, hrev⟩
      rw [Db.policy, h.policies]
      exact hp
  known := by
    intro taskId u id hu hid
    by_cases htask : taskId = t.taskId
    · rw [htask, h.moved] at hu
      cases hu
      obtain rfl : e.epochId = id := Option.some.inj (h.bound.symm.trans hid)
      exact ⟨e, by rw [h.epochs, if_pos rfl]⟩
    · rw [h.other taskId htask] at hu
      obtain ⟨a, ha⟩ := hf.known taskId u id hu hid
      exact ⟨a, by rw [h.epochs, if_neg (h.old_epoch hf hu hid), ha]⟩
  unique := by
    intro a b u v id hu hv hui hvi
    by_cases ha : a = t.taskId
    · by_cases hb : b = t.taskId
      · rw [ha, hb]
      · rw [ha, h.moved] at hu
        cases hu
        rw [h.other b hb] at hv
        exact absurd (Option.some.inj (hui.symm.trans h.bound)) (h.old_epoch hf hv hvi)
    · rw [h.other a ha] at hu
      by_cases hb : b = t.taskId
      · rw [hb, h.moved] at hv
        cases hv
        exact absurd (Option.some.inj (hvi.symm.trans h.bound)) (h.old_epoch hf hu hui)
      · rw [h.other b hb] at hv
        exact hf.unique a b u v id hu hv hui hvi

lemma rely (h : Reserved db db' t t' e) (hf : Fenced db) : Rely db db' where
  holds := by
    rintro taskId lease ⟨a, ha, hl, hbound⟩
    have hne : lease.epochId ≠ e.epochId := by
      intro heq
      rw [heq, h.unknown] at ha
      exact absurd ha (by simp)
    refine ⟨a, by rw [h.epochs, if_neg hne, ha], hl, ?_⟩
    intro haa
    obtain ⟨u, hu, hid⟩ := hbound haa
    have htask : taskId ≠ t.taskId := by
      rintro rfl
      exact h.idle hf u lease.epochId a hu hid ha haa
    exact ⟨u, by rw [h.other taskId htask, hu], hid⟩
  unbindable := by
    rintro taskId ⟨⟨u, hu, hlate⟩, hidle⟩
    have htask : taskId ≠ t.taskId := by
      rintro rfl
      obtain rfl : t = u := Option.some.inj (h.task.symm.trans hu)
      exact hlate (by rw [h.approved]; decide)
    refine ⟨⟨u, by rw [h.other taskId htask, hu], hlate⟩, ?_⟩
    intro v id a hv hid ha
    rw [h.other taskId htask] at hv
    rw [h.epochs, if_neg (h.old_epoch hf hv hid)] at ha
    exact hidle v id a hv hid ha

lemma holds (h : Reserved db db' t t' e) : Holds db' t.taskId e.lease :=
  ⟨e, by rw [h.epochs]; exact if_pos rfl, rfl, fun _ => ⟨t', h.moved, h.bound⟩⟩

end Reserved

/-! ### Changing the policy -/

lemma withUpdates_cases {p updated : MigrationPolicy} {patch : PolicyPatch} {now : Time}
    (h : p.withUpdates patch now = .ok updated) :
    updated.subjectId = p.subjectId ∧ updated.revision = p.revision + 1 := by
  unfold MigrationPolicy.withUpdates at h
  obtain ⟨_, -, h⟩ := bind_eq_ok.mp h
  cases h
  exact ⟨rfl, rfl⟩

/-- A committed update raises the revision and writes nothing else. -/
lemma updatePolicy_cases {subjectId : Id} {expected : Nat} {patch : PolicyPatch} {actor : String} {p : MigrationPolicy}
    (h : updatePolicy db x subjectId expected patch actor = .ok (p, db')) :
    ∃ current mid, ensurePolicy db x subjectId = .ok mid ∧ mid.policy subjectId = some current ∧
      p.subjectId = subjectId ∧ p.revision = current.revision + 1 ∧
      db' = { mid with policies := mid.policies.replace p } := by
  unfold updatePolicy at h
  obtain ⟨_, -, h⟩ := bind_eq_ok.mp h
  obtain ⟨_, -, h⟩ := bind_eq_ok.mp h
  obtain ⟨_, -, h⟩ := bind_eq_ok.mp h
  obtain ⟨⟨current, mid⟩, hread, h⟩ := bind_eq_ok.mp h
  obtain ⟨_, -, h⟩ := bind_eq_ok.mp h
  obtain ⟨updated, hupdate, h⟩ := bind_eq_ok.mp h
  obtain ⟨_, -, h⟩ := bind_eq_ok.mp h
  cases h
  obtain ⟨hensure, hpolicy⟩ := readPolicy_cases hread
  obtain ⟨hsubject, hrevision⟩ := withUpdates_cases hupdate
  have hkey : current.subjectId = subjectId := (Table.find?_eq_some.mp hpolicy).2
  exact ⟨current, mid, hensure, hpolicy, hsubject.trans hkey, hrevision, rfl⟩

lemma updatePolicy_quiet {subjectId : Id} {expected : Nat} {patch : PolicyPatch} {actor : String} {p : MigrationPolicy}
    (h : updatePolicy db x subjectId expected patch actor = .ok (p, db')) (hnone : db.activeEpoch subjectId = none) :
    Quiet db db' := by
  obtain ⟨current, mid, hensure, hpolicy, hsubject, -, rfl⟩ := updatePolicy_cases h
  have hq := (ensurePolicy_frame hensure).quiet
  refine hq.trans ?_
  refine ⟨fun _ t ht => ⟨t, ht, .refl t, rfl, id⟩, fun _ _ h h' => by simp [h] at h',
    fun _ e he => ⟨e, he, rfl, id⟩, fun _ h => h, ?_⟩
  intro id e q he ha hp
  have hne : e.subjectId ≠ p.subjectId := by
    rw [hsubject]
    obtain ⟨e₀, he₀, hl, hea⟩ := hq.epoch_back he
    have hsame : e.subjectId = e₀.subjectId := congrArg EpochLease.subjectId hl
    rw [hsame]
    exact fun heq => activeEpoch_eq_none.mp hnone id e₀ he₀ heq (hea ha)
  simp only [Db.policy] at hp ⊢
  rw [Table.find?_replace_ne hne]
  exact hp

end Noyra.Migration.Proofs
