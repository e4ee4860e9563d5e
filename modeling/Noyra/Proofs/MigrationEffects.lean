import Mathlib.Tactic.Lemma
import Noyra.Migration.System

/-!
# What migration transactions write

Most transactions are quiet: they bind no epoch, move tasks forward under their terms and at most close an
epoch. Acquiring an epoch and reserving a task are not.
-/

namespace Noyra.Migration.Proofs
open Noyra.Lib
open Noyra.Wallet (Id)

variable {cfg : Config} {requirePrincipal : Bool} {db db' db'' : Db} {x : Reading}

/-! ### What the transactions write -/

lemma reading_cases {α : Type} {r : Except MigrationError α} {a : α} (h : reading db r = .ok (a, db')) : db' = db := by
  cases r with
  | error e => cases h
  | ok b =>
    cases h
    rfl

lemma reading_value {α : Type} {r : Except MigrationError α} {a : α} (h : reading db r = .ok (a, db')) : r = .ok a := by
  cases r with
  | error e => cases h
  | ok b =>
    cases h
    rfl

/-- A successful transition leaves an equal status alone, or moves the task along the table. -/
lemma transitionTask_cases {taskId : Id} {status : TaskStatus} {actor : String} {f : TransitionFields} {t' : TaskRow}
    (h : transitionTask db x taskId status actor f = .ok (t', db')) :
    ∃ t, db.tasks.find? taskId = some t ∧ (∀ s, f.expectedStatus = some s → t.status = s) ∧
      ((t.status = status ∧ t' = t ∧ db' = db) ∨
        (status ∈ taskTransitions t.status ∧ (∀ p, db.policy t.subjectId = some p → p.revision = t.policyRevision) ∧
          checkTargetEpoch db t f.targetEpochId = .ok () ∧ t' = t.moved status f x.now ∧
          db' = { db with tasks := db.tasks.replace (t.moved status f x.now) })) := by
  unfold transitionTask at h
  obtain ⟨_, -, h⟩ := bind_eq_ok.mp h
  obtain ⟨t, ht, h⟩ := bind_eq_ok.mp h
  obtain ⟨_, hexp, h⟩ := bind_eq_ok.mp h
  have hfind : db.tasks.find? taskId = some t := by simpa [Db.getTask] using ht
  have hexpected : ∀ s, f.expectedStatus = some s → t.status = s := by
    intro s hs
    simpa [hs] using hexp
  refine ⟨t, hfind, hexpected, ?_⟩
  split at h
  · next hsame =>
    cases h
    exact .inl ⟨hsame, rfl, rfl⟩
  · obtain ⟨_, htable, h⟩ := bind_eq_ok.mp h
    obtain ⟨_, hrev, h⟩ := bind_eq_ok.mp h
    obtain ⟨u, hcheck, h⟩ := bind_eq_ok.mp h
    cases h
    refine .inr ⟨by simpa using htable, ?_, hcheck, rfl, rfl⟩
    intro p hp
    simpa [hp] using hrev

lemma epochId_of_find? {id : Id} {e : EpochRow} (h : db.epochs.find? id = some e) : e.epochId = id :=
  (Table.find?_eq_some.mp h).2

lemma taskId_of_find? {id : Id} {t : TaskRow} (h : db.tasks.find? id = some t) : t.taskId = id :=
  (Table.find?_eq_some.mp h).2

lemma transitionTask_self {taskId : Id} {status : TaskStatus} {actor : String} {f : TransitionFields} {t' : TaskRow}
    (h : transitionTask db x taskId status actor f = .ok (t', db')) : db'.tasks.find? taskId = some t' := by
  obtain ⟨t, ht, -, ⟨-, rfl, rfl⟩ | ⟨-, -, -, rfl, rfl⟩⟩ := transitionTask_cases h
  · exact ht
  · have hkey : db.tasks.find? (t.moved status f x.now).taskId = some t := by
      rw [← ht, ← taskId_of_find? ht]
      rfl
    have hmoved : (t.moved status f x.now).taskId = t.taskId := rfl
    have hself := Table.find?_replace_self hkey
    rwa [hmoved, taskId_of_find? ht] at hself

lemma transitionTask_other {taskId id : Id} {status : TaskStatus} {actor : String} {f : TransitionFields}
    {t' : TaskRow} (h : transitionTask db x taskId status actor f = .ok (t', db')) (hid : id ≠ taskId) :
    db'.tasks.find? id = db.tasks.find? id := by
  obtain ⟨t, ht, -, ⟨-, -, rfl⟩ | ⟨-, -, -, -, rfl⟩⟩ := transitionTask_cases h
  · rfl
  · have hmoved : (t.moved status f x.now).taskId = t.taskId := rfl
    apply Table.find?_replace_ne
    rw [hmoved, taskId_of_find? ht]
    exact hid

/-- The columns a transition may not change. -/
structure SameTerms (t t' : TaskRow) : Prop where
  key : t'.taskId = t.taskId
  subject : t'.subjectId = t.subjectId
  target : t'.targetId = t.targetId
  revision : t'.policyRevision = t.policyRevision

lemma SameTerms.refl (t : TaskRow) : SameTerms t t := ⟨rfl, rfl, rfl, rfl⟩

lemma SameTerms.trans {t t' t'' : TaskRow} (h : SameTerms t t') (h' : SameTerms t' t'') : SameTerms t t'' :=
  ⟨h'.key.trans h.key, h'.subject.trans h.subject, h'.target.trans h.target, h'.revision.trans h.revision⟩

lemma sameTerms_moved (t : TaskRow) (status : TaskStatus) (f : TransitionFields) (now : Time) :
    SameTerms t (t.moved status f now) := ⟨rfl, rfl, rfl, rfl⟩

/-- The statuses before a task is started. -/
def early : List TaskStatus := [.planned, .preflight, .awaitingApproval, .approved]

/-- A transaction that binds no epoch: tasks keep their terms and their epoch and do not return to an early
status, epochs are at most closed, and the policy of a subject that stays fenced is kept. -/
structure Quiet (db db' : Db) : Prop where
  task : ∀ id t, db.tasks.find? id = some t → ∃ t', db'.tasks.find? id = some t' ∧ SameTerms t t' ∧
    t'.targetEpochId = t.targetEpochId ∧ (t.status ∉ early → t'.status ∉ early)
  fresh : ∀ id t', db.tasks.find? id = none → db'.tasks.find? id = some t' → t'.targetEpochId = none
  epoch : ∀ id e, db.epochs.find? id = some e → ∃ e', db'.epochs.find? id = some e' ∧ e'.lease = e.lease ∧
    (e'.status = .active → e.status = .active)
  noEpoch : ∀ id, db.epochs.find? id = none → db'.epochs.find? id = none
  policy : ∀ id e' p, db'.epochs.find? id = some e' → e'.status = .active → db.policy e'.subjectId = some p →
    db'.policy e'.subjectId = some p

namespace Quiet

/-- An epoch after a quiet transaction was there before it. -/
lemma epoch_back (h : Quiet db db') {id : Id} {e' : EpochRow} (he : db'.epochs.find? id = some e') :
    ∃ e, db.epochs.find? id = some e ∧ e'.lease = e.lease ∧ (e'.status = .active → e.status = .active) := by
  cases hf : db.epochs.find? id with
  | none => simp [h.noEpoch id hf] at he
  | some e =>
    obtain ⟨e'', he'', hl, ha⟩ := h.epoch id e hf
    obtain rfl : e'' = e' := Option.some.inj (he''.symm.trans he)
    exact ⟨e, rfl, hl, ha⟩

/-- A task after a quiet transaction was there before it, or has no epoch. -/
lemma task_back (h : Quiet db db') {id : Id} {t' : TaskRow} (ht : db'.tasks.find? id = some t') :
    t'.targetEpochId = none ∨ ∃ t, db.tasks.find? id = some t ∧ SameTerms t t' ∧
      t'.targetEpochId = t.targetEpochId ∧ (t.status ∉ early → t'.status ∉ early) := by
  cases hf : db.tasks.find? id with
  | none => exact .inl (h.fresh id t' hf ht)
  | some t =>
    obtain ⟨t'', ht'', hk⟩ := h.task id t hf
    obtain rfl : t'' = t' := Option.some.inj (ht''.symm.trans ht)
    exact .inr ⟨t, rfl, hk⟩

lemma refl (db : Db) : Quiet db db where
  task := fun _ t ht => ⟨t, ht, .refl t, rfl, id⟩
  fresh := fun _ _ h h' => by simp [h] at h'
  epoch := fun _ e he => ⟨e, he, rfl, id⟩
  noEpoch := fun _ h => h
  policy := fun _ _ _ _ _ h => h

lemma trans (h : Quiet db db') (h' : Quiet db' db'') : Quiet db db'' where
  task := by
    intro id t ht
    obtain ⟨t', ht', hs, he, hearly⟩ := h.task id t ht
    obtain ⟨t'', ht'', hs', he', hearly'⟩ := h'.task id t' ht'
    exact ⟨t'', ht'', hs.trans hs', he'.trans he, fun hn => hearly' (hearly hn)⟩
  fresh := by
    intro id t'' hnone ht''
    rcases h'.task_back ht'' with hnew | ⟨t', ht', -, he, -⟩
    · exact hnew
    · exact he.trans (h.fresh id t' hnone ht')
  epoch := by
    intro id e he
    obtain ⟨e', he', hl, ha⟩ := h.epoch id e he
    obtain ⟨e'', he'', hl', ha'⟩ := h'.epoch id e' he'
    exact ⟨e'', he'', hl'.trans hl, fun hn => ha (ha' hn)⟩
  noEpoch := fun id hn => h'.noEpoch id (h.noEpoch id hn)
  policy := by
    intro id e'' p he'' hactive hp
    obtain ⟨e', he', hl, ha⟩ := h'.epoch_back he''
    have hsubject : e''.subjectId = e'.subjectId := congrArg EpochLease.subjectId hl
    rw [hsubject] at hp ⊢
    have hmid := h.policy id e' p he' (ha hactive) hp
    have := h'.policy id e'' p he'' hactive (hsubject ▸ hmid)
    rwa [hsubject] at this

/-- A task overwritten under its terms and its epoch. -/
lemma of_replace {t t' : TaskRow} (ht : db.tasks.find? t.taskId = some t) (hs : SameTerms t t')
    (he : t'.targetEpochId = t.targetEpochId) (hearly : t.status ∉ early → t'.status ∉ early) :
    Quiet db { db with tasks := db.tasks.replace t' } where
  task := by
    have hfind : db.tasks.find? t'.taskId = some t := hs.key ▸ ht
    intro id u hu
    simp only [Table.find?_replace hfind]
    by_cases hid : id = t'.taskId
    · obtain rfl : u = t := Option.some.inj (hu.symm.trans (hid ▸ hfind))
      exact ⟨t', if_pos hid, hs, he, hearly⟩
    · exact ⟨u, (if_neg hid).trans hu, .refl u, rfl, fun hn => hn⟩
  fresh := by
    have hfind : db.tasks.find? t'.taskId = some t := hs.key ▸ ht
    intro id u hnone hu
    simp only [Table.find?_replace hfind] at hu
    by_cases hid : id = t'.taskId
    · rw [hid, hfind] at hnone
      exact absurd hnone (by simp)
    · rw [if_neg hid, hnone] at hu
      exact absurd hu (by simp)
  epoch := fun _ e he => ⟨e, he, rfl, id⟩
  noEpoch := fun _ h => h
  policy := fun _ _ _ _ _ h => h

/-- A task added without an epoch. -/
lemma of_insert {t : TaskRow} {tasks : Table TaskRow.taskId} (hins : db.tasks.insert? t = some tasks)
    (he : t.targetEpochId = none) : Quiet db { db with tasks } where
  task := by
    intro id u hu
    have hne : id ≠ t.taskId := by
      rintro rfl
      exact (Table.insert?_eq_some.mp hins).1 u (Table.find?_eq_some.mp hu).1 (Table.find?_eq_some.mp hu).2
    exact ⟨u, by simp [Table.find?_insert hins, hne, hu], .refl u, rfl, fun hn => hn⟩
  fresh := by
    intro id u hnone hu
    simp only [Table.find?_insert hins] at hu
    by_cases hid : id = t.taskId
    · rw [if_pos hid] at hu
      obtain rfl : t = u := Option.some.inj hu
      exact he
    · rw [if_neg hid, hnone] at hu
      exact absurd hu (by simp)
  epoch := fun _ e he => ⟨e, he, rfl, id⟩
  noEpoch := fun _ h => h
  policy := fun _ _ _ _ _ h => h

/-- An epoch closed. -/
lemma of_close {e : EpochRow} {status : EpochStatus} {closedAt : Option Time} (he : db.epochs.find? e.epochId = some e)
    (hs : status ≠ .active) :
    Quiet db { db with epochs := db.epochs.replace { e with status, revokedAt := closedAt } } where
  task := fun _ t ht => ⟨t, ht, .refl t, rfl, id⟩
  fresh := fun _ _ h h' => by simp [h] at h'
  epoch := by
    have hfind : db.epochs.find? ({ e with status, revokedAt := closedAt } : EpochRow).epochId = some e := he
    intro id u hu
    simp only [Table.find?_replace hfind]
    by_cases hid : id = e.epochId
    · obtain rfl : u = e := Option.some.inj (hu.symm.trans (hid ▸ he))
      exact ⟨_, if_pos hid, rfl, fun ha => absurd ha hs⟩
    · exact ⟨u, (if_neg hid).trans hu, rfl, fun ha => ha⟩
  noEpoch := by
    have hfind : db.epochs.find? ({ e with status, revokedAt := closedAt } : EpochRow).epochId = some e := he
    intro id hnone
    simp only [Table.find?_replace hfind]
    by_cases hid : id = e.epochId
    · rw [hid, he] at hnone
      exact absurd hnone (by simp)
    · exact (if_neg hid).trans hnone
  policy := fun _ _ _ _ _ h => h

end Quiet

/-- A transaction that leaves tasks and epochs alone and only adds policies. -/
structure Frame (db db' : Db) : Prop where
  tasks : db'.tasks = db.tasks
  epochs : db'.epochs = db.epochs
  policy : ∀ s p, db.policy s = some p → db'.policy s = some p

namespace Frame

lemma of_same (htasks : db'.tasks = db.tasks) (hepochs : db'.epochs = db.epochs)
    (hpolicies : db'.policies = db.policies) : Frame db db' :=
  ⟨htasks, hepochs, fun s p hp => by rw [Db.policy, hpolicies]; exact hp⟩

lemma refl (db : Db) : Frame db db := of_same rfl rfl rfl

lemma trans (h : Frame db db') (h' : Frame db' db'') : Frame db db'' :=
  ⟨h'.tasks.trans h.tasks, h'.epochs.trans h.epochs, fun s p hp => h'.policy s p (h.policy s p hp)⟩

lemma quiet (h : Frame db db') : Quiet db db' where
  task := fun _ t ht => ⟨t, h.tasks ▸ ht, .refl t, rfl, id⟩
  fresh := fun _ _ hn hn' => by simp [h.tasks, hn] at hn'
  epoch := fun _ e he => ⟨e, h.epochs ▸ he, rfl, id⟩
  noEpoch := fun _ hn => h.epochs ▸ hn
  policy := fun _ e' p _ _ hp => h.policy e'.subjectId p hp

end Frame

/-! ### The quiet transactions -/

lemma ensurePolicy_frame {subjectId : Id} (h : ensurePolicy db x subjectId = .ok db') : Frame db db' := by
  unfold ensurePolicy at h
  obtain ⟨_, -, h⟩ := bind_eq_ok.mp h
  split at h
  · next policies hins =>
    cases h
    refine ⟨rfl, rfl, ?_⟩
    intro s p hp
    have hne : s ≠ subjectId := by
      rintro rfl
      exact (Table.insert?_eq_some.mp hins).1 p (Table.find?_eq_some.mp hp).1 (Table.find?_eq_some.mp hp).2
    have hkey : s ≠ (MigrationPolicy.default subjectId x.now).subjectId := hne
    simp only [Db.policy, Table.find?_insert hins, if_neg hkey]
    exact hp
  · cases h
    exact .refl db

lemma readPolicy_cases {subjectId : Id} {p : MigrationPolicy} (h : readPolicy db x subjectId = .ok (p, db')) :
    ensurePolicy db x subjectId = .ok db' ∧ db'.policy subjectId = some p := by
  unfold readPolicy at h
  obtain ⟨mid, hmid, h⟩ := bind_eq_ok.mp h
  obtain ⟨q, hq, h⟩ := bind_eq_ok.mp h
  obtain ⟨_, -, h⟩ := bind_eq_ok.mp h
  cases h
  exact ⟨hmid, by simpa using hq⟩

lemma readPolicy_frame {subjectId : Id} {p : MigrationPolicy} (h : readPolicy db x subjectId = .ok (p, db')) :
    Frame db db' :=
  ensurePolicy_frame (readPolicy_cases h).1

lemma createProposal_frame {input : ProposalInput} {p : ProposalRow}
    (h : createProposal cfg db x input = .ok (p, db')) :
    Frame db db' := by
  unfold createProposal at h
  obtain ⟨_, -, h⟩ := bind_eq_ok.mp h
  obtain ⟨_, -, h⟩ := bind_eq_ok.mp h
  obtain ⟨_, -, h⟩ := bind_eq_ok.mp h
  obtain ⟨⟨policy, mid⟩, hread, h⟩ := bind_eq_ok.mp h
  obtain ⟨_, -, h⟩ := bind_eq_ok.mp h
  obtain ⟨_, -, h⟩ := bind_eq_ok.mp h
  obtain ⟨_, -, h⟩ := bind_eq_ok.mp h
  obtain ⟨_, -, h⟩ := bind_eq_ok.mp h
  obtain ⟨proposals, -, h⟩ := bind_eq_ok.mp h
  cases h
  exact (readPolicy_frame hread).trans (.of_same rfl rfl rfl)

lemma reject_frame {proposalId : Id} {actor reason : String} {p : ProposalRow}
    (h : reject db x proposalId actor reason = .ok (p, db')) : Frame db db' := by
  unfold reject at h
  obtain ⟨_, -, h⟩ := bind_eq_ok.mp h
  obtain ⟨_, -, h⟩ := bind_eq_ok.mp h
  obtain ⟨row, -, h⟩ := bind_eq_ok.mp h
  split at h
  · cases h
    exact .refl db
  · obtain ⟨_, -, h⟩ := bind_eq_ok.mp h
    obtain ⟨rejections, -, h⟩ := bind_eq_ok.mp h
    cases h
    exact .of_same rfl rfl rfl

/-- A transition that gives no new epoch is quiet, unless it goes back to an early status. -/
lemma transitionTask_quiet {taskId : Id} {status : TaskStatus} {actor : String} {f : TransitionFields} {t' : TaskRow}
    (h : transitionTask db x taskId status actor f = .ok (t', db'))
    (hstatus : ∀ t, db.tasks.find? taskId = some t → t.status ∉ early → status ∉ early)
    (hepoch : ∀ t id, db.tasks.find? taskId = some t → checkTargetEpoch db t (some id) = .ok () →
      f.targetEpochId = some id → t.targetEpochId = some id) : Quiet db db' := by
  obtain ⟨t, ht, -, ⟨-, -, rfl⟩ | ⟨-, -, hcheck, -, rfl⟩⟩ := transitionTask_cases h
  · exact .refl _
  · have hkey : t.taskId = taskId := (Table.find?_eq_some.mp ht).2
    apply Quiet.of_replace (hkey ▸ ht) (sameTerms_moved t status f x.now) _ (hstatus t ht)
    cases hf : f.targetEpochId with
    | none => simp [TaskRow.moved, hf]
    | some id => simp [TaskRow.moved, hf, hepoch t id ht (hf ▸ hcheck) hf]

lemma recordApproval_frame {p : ProposalRow} {actor : String} {binding : Option String}
    (h : recordApproval db x p actor binding = .ok db') : Frame db db' := by
  unfold recordApproval at h
  split at h
  · cases h
    exact .refl db
  · obtain ⟨approvals, -, h⟩ := bind_eq_ok.mp h
    cases h
    exact .of_same rfl rfl rfl

lemma insertTask_quiet {t : TaskRow} (h : insertTask db t = .ok db') (he : t.targetEpochId = none) : Quiet db db' := by
  unfold insertTask at h
  obtain ⟨_, -, h⟩ := bind_eq_ok.mp h
  obtain ⟨tasks, hins, h⟩ := bind_eq_ok.mp h
  cases h
  exact .of_insert (by simpa using hins) he

lemma settleTask_quiet {p : ProposalRow} {actor key : String} {enough : Bool} {t : TaskRow}
    (h : settleTask db x p actor key enough = .ok (t, db')) : Quiet db db' := by
  unfold settleTask at h
  split at h
  · obtain ⟨mid, hmid, h⟩ := bind_eq_ok.mp h
    cases h
    exact insertTask_quiet hmid rfl
  · next t₀ hfirst =>
    split at h
    · next hcond =>
      apply transitionTask_quiet h
      · intro u hu hnot
        have hmem : t₀ ∈ db.tasks := List.mem_of_find?_eq_some hfirst
        obtain rfl : u = t₀ := Option.some.inj (hu.symm.trans (Table.find?_key hmem))
        exact absurd (by simp [hcond.1, early]) hnot
      · intro _ _ _ _ hnone
        exact absurd hnone (by simp)
    · cases h
      exact .refl db

lemma setProposalStatus_frame {p : ProposalRow} {status : ProposalStatus} {reason : String} :
    Frame db (setProposalStatus db x p status reason) := .of_same rfl rfl rfl

lemma settleProposal_frame {p : ProposalRow} {actor : String} {enough : Bool} :
    Frame db (settleProposal db x p actor enough) := by
  unfold settleProposal
  split
  · exact setProposalStatus_frame
  · exact .refl db

lemma approve_quiet {proposalId : Id} {r : Reviewer} {key : String} {result : Except MigrationError TaskRow}
    (h : approve cfg requirePrincipal db x proposalId r key = .ok (result, db')) : Quiet db db' := by
  unfold approve at h
  obtain ⟨_, -, h⟩ := bind_eq_ok.mp h
  obtain ⟨binding, -, h⟩ := bind_eq_ok.mp h
  obtain ⟨_, -, h⟩ := bind_eq_ok.mp h
  obtain ⟨p, -, h⟩ := bind_eq_ok.mp h
  obtain ⟨_, -, h⟩ := bind_eq_ok.mp h
  split at h
  · cases h
    exact .refl db
  · obtain ⟨_, -, h⟩ := bind_eq_ok.mp h
    split at h
    · cases h
      exact setProposalStatus_frame.quiet
    · obtain ⟨⟨t, mid⟩, hpending, h⟩ := bind_eq_ok.mp h
      cases h
      unfold approvePending at hpending
      obtain ⟨_, -, hpending⟩ := bind_eq_ok.mp hpending
      obtain ⟨_, -, hpending⟩ := bind_eq_ok.mp hpending
      obtain ⟨_, -, hpending⟩ := bind_eq_ok.mp hpending
      obtain ⟨recorded, hrecord, hpending⟩ := bind_eq_ok.mp hpending
      obtain ⟨⟨t', settled⟩, hsettle, hpending⟩ := bind_eq_ok.mp hpending
      cases hpending
      exact ((recordApproval_frame hrecord).quiet.trans (settleTask_quiet hsettle)).trans settleProposal_frame.quiet

lemma recoverTask_quiet {request : RecoveryRequest} {policy : MigrationPolicy} {served : Option TaskRow}
    (h : recoverTask cfg db x request policy = .ok (served, db')) : Quiet db db' := by
  unfold recoverTask at h
  obtain ⟨epoch, -, h⟩ := bind_eq_ok.mp h
  obtain ⟨_, -, h⟩ := bind_eq_ok.mp h
  split at h
  · cases h
    exact .refl db
  · obtain ⟨_, -, h⟩ := bind_eq_ok.mp h
    obtain ⟨mid, hmid, h⟩ := bind_eq_ok.mp h
    cases h
    unfold ensureRecovery at hmid
    split at hmid
    · unfold createRecovery at hmid
      obtain ⟨proposals, -, hmid⟩ := bind_eq_ok.mp hmid
      have hframe : Frame db { db with proposals } := .of_same rfl rfl rfl
      exact hframe.quiet.trans (insertTask_quiet hmid rfl)
    · cases hmid
      exact Quiet.refl _

lemma markTaskFailed_quiet {taskId : Id} {code : String} : Quiet db (markTaskFailed db x taskId code) := by
  unfold markTaskFailed
  split
  · next t ht =>
    obtain ⟨hfind, hstatus⟩ := Option.filter_eq_some_iff.mp ht
    have hkey : t.taskId = taskId := (Table.find?_eq_some.mp hfind).2
    have hself : db.tasks.find? t.taskId = some t := hkey.symm ▸ hfind
    exact .of_replace hself ⟨rfl, rfl, rfl, rfl⟩ rfl (fun _ => by simp [early])
  · exact .refl db

/-- Closing an epoch takes an active one. -/
lemma closeEpoch_cases {lease : EpochLease} {status : EpochStatus} (h : closeEpoch db x lease status = .ok db') :
    ∃ e, db.epochs.find? lease.epochId = some e ∧ e.status = .active ∧
      db' = { db with epochs := db.epochs.replace { e with status, revokedAt := some x.now } } := by
  unfold closeEpoch at h
  obtain ⟨e, he, h⟩ := bind_eq_ok.mp h
  cases h
  unfold assertCurrent at he
  obtain ⟨e', hfind, he⟩ := bind_eq_ok.mp he
  obtain ⟨_, hcurrent, he⟩ := bind_eq_ok.mp he
  cases he
  refine ⟨e, by simpa using hfind, ?_, rfl⟩
  simp only [raiseIf_eq_ok, not_or, not_not] at hcurrent
  exact hcurrent.2.1

end Noyra.Migration.Proofs
