import Noyra.Migration.Chain
import Noyra.Proofs.Standing

/-!
# Who owns a subject along a chain of migrations

Completed epochs are never taken back, so a host that has been left is refused for good. The same rows travel
with the copy: the guards of the new host look at every epoch of the subject, and refuse it as soon as one of
an earlier hop is among them.
-/

namespace Noyra.Migration.Proofs
open Noyra.Lib
open Noyra.Wallet (Id)

variable {cfg : Config} {requirePrincipal : Bool} {db db' db'' : Db} {x : Reading}

/-- Completed epochs are kept. -/
def KeepsCompleted (db db' : Db) : Prop :=
  ∀ id e, db.epochs.find? id = some e → e.status = .completed → db'.epochs.find? id = some e

namespace KeepsCompleted

lemma of_epochs (h : db'.epochs = db.epochs) : KeepsCompleted db db' := fun _ _ he _ => h ▸ he

lemma refl (db : Db) : KeepsCompleted db db := of_epochs rfl

lemma trans (h : KeepsCompleted db db') (h' : KeepsCompleted db' db'') : KeepsCompleted db db'' :=
  fun id e he hs => h' id e (h id e he hs) hs

end KeepsCompleted

lemma transitionTask_epochs {taskId : Id} {status : TaskStatus} {actor : String} {f : TransitionFields} {t' : TaskRow}
    (h : transitionTask db x taskId status actor f = .ok (t', db')) : db'.epochs = db.epochs := by
  obtain ⟨t, -, -, ⟨-, -, rfl⟩ | ⟨-, -, -, -, rfl⟩⟩ := transitionTask_cases h <;> rfl

lemma closeEpoch_keeps {lease : EpochLease} {status : EpochStatus} (h : closeEpoch db x lease status = .ok db') :
    KeepsCompleted db db' := by
  obtain ⟨e, he, ha, rfl⟩ := closeEpoch_cases h
  intro id e' he' hs
  have hself : db.epochs.find? ({ e with status, revokedAt := some x.now } : EpochRow).epochId = some e := by
    change db.epochs.find? e.epochId = some e
    rw [epochId_of_find? he]
    exact he
  simp only [Table.find?_replace hself]
  have hne : id ≠ e.epochId := by
    rintro rfl
    obtain rfl : e' = e := Option.some.inj (he'.symm.trans hself)
    rw [hs] at ha
    exact absurd ha (by decide)
  rw [if_neg hne]
  exact he'

lemma acquireInTransaction_keeps {subjectId targetId : Id} {sourceEpoch : String} {lease : EpochLease}
    (h : acquireInTransaction db x subjectId targetId sourceEpoch = .ok (lease, db')) : KeepsCompleted db db' := by
  obtain ⟨-, -, epochs, hins, rfl⟩ := acquireInTransaction_cases h
  intro id e he _
  have hnew : db.epochs.find? (newEpoch db x subjectId targetId).epochId = none := by
    rw [Table.find?_eq_none]
    exact (Table.insert?_eq_some.mp hins).1
  have hne : id ≠ (newEpoch db x subjectId targetId).epochId := by
    rintro rfl
    rw [hnew] at he
    exact absurd he (by simp)
  change epochs.find? id = some e
  rw [Table.find?_insert hins, if_neg hne]
  exact he

lemma reserve_keeps {t t' : TaskRow} {policy : MigrationPolicy} {actor : String} {lease : EpochLease}
    (h : reserve db x t policy actor = .ok ((lease, t'), db')) : KeepsCompleted db db' := by
  obtain ⟨-, mid, hacquire, hmove⟩ := reserve_cases h
  exact (acquireInTransaction_keeps hacquire).trans (.of_epochs (transitionTask_epochs hmove))

lemma revokeBound_keeps {lease : Option EpochLease} {reason actor : String}
    (h : revokeBound db x lease reason actor = .ok db') : KeepsCompleted db db' := by
  cases lease with
  | none =>
    cases h
    exact .refl _
  | some l =>
    unfold revokeBound revokeInTransaction at h
    obtain ⟨_, -, h⟩ := bind_eq_ok.mp h
    exact closeEpoch_keeps h

/-- The parts of a committed receipt. -/
lemma commitReceipt_cases {t t' : TaskRow} {lease : EpochLease} {receipt : MigrationExecutionReceipt}
    {proof : TargetProof} {actor : String} (h : commitReceipt cfg db x t lease receipt proof actor = .ok (t', db')) :
    ∃ mid, mid.epochs = db.epochs ∧ closeEpoch mid x lease .completed = .ok db' := by
  unfold commitReceipt at h
  obtain ⟨_, -, h⟩ := bind_eq_ok.mp h
  obtain ⟨entered, henter, h⟩ := bind_eq_ok.mp h
  obtain ⟨_, -, h⟩ := bind_eq_ok.mp h
  obtain ⟨⟨t₁, moved⟩, hmove, h⟩ := bind_eq_ok.mp h
  obtain ⟨attested, hattest, h⟩ := bind_eq_ok.mp h
  obtain ⟨closed, hclose, h⟩ := bind_eq_ok.mp h
  cases h
  unfold completeInTransaction at hclose
  obtain ⟨_, -, hclose⟩ := bind_eq_ok.mp hclose
  refine ⟨attested, ?_, hclose⟩
  rw [(attestCommit_frame hattest).2.1, transitionTask_epochs hmove]
  unfold enterCutover at henter
  split at henter
  · obtain ⟨⟨t₂, mid⟩, hcut, henter⟩ := bind_eq_ok.mp henter
    cases henter
    exact transitionTask_epochs hcut
  · cases henter
    rfl

lemma insertTask_epochs {t : TaskRow} (h : insertTask db t = .ok db') : db'.epochs = db.epochs := by
  unfold insertTask at h
  obtain ⟨_, -, h⟩ := bind_eq_ok.mp h
  obtain ⟨tasks, -, h⟩ := bind_eq_ok.mp h
  cases h
  rfl

lemma approve_epochs {proposalId : Id} {r : Reviewer} {key : String} {result : Except MigrationError TaskRow}
    (h : approve cfg requirePrincipal db x proposalId r key = .ok (result, db')) : db'.epochs = db.epochs := by
  obtain ⟨p, -, rfl | ⟨-, -, rfl | ⟨binding, recorded, t, settled, hrecord, hsettle, rfl⟩⟩⟩ := approve_cases h
  · rfl
  · rfl
  · rw [settleProposal_frame.epochs, ← (recordApproval_frame hrecord).epochs]
    unfold settleTask at hsettle
    split at hsettle
    · obtain ⟨mid, hmid, hsettle⟩ := bind_eq_ok.mp hsettle
      cases hsettle
      exact insertTask_epochs hmid
    · split at hsettle
      · exact transitionTask_epochs hsettle
      · cases hsettle
        rfl

lemma recoverTask_epochs {request : RecoveryRequest} {policy : MigrationPolicy} {served : Option TaskRow}
    (h : recoverTask cfg db x request policy = .ok (served, db')) : db'.epochs = db.epochs := by
  obtain rfl | ⟨epoch, proposals, -, hmid⟩ := recoverTask_cases h
  · rfl
  · have hsame := insertTask_epochs hmid
    exact hsame

/-- Every transaction keeps completed epochs. -/
lemma exec_keeps {tx : Tx} {r : tx.Reply} (h : tx.exec cfg requirePrincipal x db = .ok (r, db')) :
    KeepsCompleted db db' := by
  have hread : ∀ {α : Type} {r : Except MigrationError α} {a : α}, reading db r = .ok (a, db') →
      KeepsCompleted db db' := by
    intro α r a hr
    rw [reading_cases hr]
    exact .refl db
  cases tx with
  | addSubject s => cases h; exact .of_epochs rfl
  | setRuntime s v => cases h; exact .of_epochs rfl
  | putTarget row => cases h; exact .of_epochs rfl
  | clock => cases h; exact .refl _
  | readPolicy s => exact .of_epochs (readPolicy_frame h).epochs
  | automationAllowed p => exact hread h
  | updatePolicy s rev patch actor =>
    obtain ⟨current, mid, hensure, -, -, -, rfl⟩ := updatePolicy_cases h
    exact .of_epochs (ensurePolicy_frame hensure).epochs
  | createProposal input => exact .of_epochs (createProposal_frame h).epochs
  | approve proposalId reviewer key => exact .of_epochs (approve_epochs h)
  | reject proposalId actor reason => exact .of_epochs (reject_frame h).epochs
  | getTask id => exact hread h
  | transition id status actor f => exact .of_epochs (transitionTask_epochs h)
  | reserve t p actor => exact reserve_keeps h
  | verifyProof t proof => exact hread h
  | epochForTask id => cases h; exact .refl _
  | checkAcquire s tgt proof => exact hread h
  | acquire s tgt epoch actor =>
    obtain ⟨_, -, h⟩ := bind_eq_ok.mp h
    exact acquireInTransaction_keeps h
  | recordProof s id proof => cases h; exact .of_epochs rfl
  | proofForTask id => exact hread h
  | assertCurrent l => exact hread h
  | commitReceipt t l receipt proof actor =>
    obtain ⟨mid, hepochs, hclose⟩ := commitReceipt_cases h
    exact KeepsCompleted.trans (.of_epochs hepochs) (closeEpoch_keeps hclose)
  | finishRollback id l reason actor =>
    obtain ⟨mid, hmid, h⟩ := bind_eq_ok.mp h
    exact (revokeBound_keeps hmid).trans (.of_epochs (transitionTask_epochs h))
  | verifyBackup => exact hread h
  | recoverTask request p => exact .of_epochs (recoverTask_epochs h)
  | bindRecovery id eid =>
    change writing (bindRecovery db x id eid) = _ at h
    cases hb : bindRecovery db x id eid with
    | error e =>
      rw [hb] at h
      cases h
    | ok mid =>
      rw [hb] at h
      cases h
      unfold bindRecovery at hb
      obtain ⟨t, -, hb⟩ := bind_eq_ok.mp hb
      obtain ⟨_, -, hb⟩ := bind_eq_ok.mp hb
      obtain ⟨_, -, hb⟩ := bind_eq_ok.mp hb
      cases hb
      exact .of_epochs rfl
  | markTaskFailed id code =>
    cases h
    unfold markTaskFailed
    split <;> exact .of_epochs rfl
  | buildArtifact => exact hread h
  | verifyTarget => exact hread h
  | activateTarget => exact hread h
  | deactivateTarget => exact hread h

lemma activity_keeps (h : Activity cfg requirePrincipal db db') : KeepsCompleted db db' := by
  induction h with
  | refl => exact .refl _
  | tail _ hstep ih =>
    obtain ⟨tx, y, r, hexec⟩ := hstep
    exact ih.trans (exec_keeps hexec)

/-- An epoch of the subject that has been completed for the target. -/
def CompletedFor (db : Db) (subjectId targetId : Id) : Prop :=
  ∃ id e, db.epochs.find? id = some e ∧ e.status = .completed ∧ e.subjectId = subjectId ∧ e.targetId = targetId

lemma KeepsCompleted.completedFor {subjectId targetId : Id} (h : KeepsCompleted db db')
    (hc : CompletedFor db subjectId targetId) : CompletedFor db' subjectId targetId := by
  obtain ⟨id, e, he, hs, hsubject, htarget⟩ := hc
  exact ⟨id, e, h id e he hs, hs, hsubject, htarget⟩

/-- Closing an epoch closes the row of its lease. -/
lemma closeEpoch_completes {lease : EpochLease} (h : closeEpoch db x lease .completed = .ok db') :
    CompletedFor db' lease.subjectId lease.targetId := by
  unfold closeEpoch at h
  obtain ⟨e, he, h⟩ := bind_eq_ok.mp h
  cases h
  unfold assertCurrent at he
  obtain ⟨e', hfind, he⟩ := bind_eq_ok.mp he
  obtain ⟨_, hcurrent, he⟩ := bind_eq_ok.mp he
  cases he
  simp only [raiseIf_eq_ok, not_or, not_not] at hcurrent
  have hfind' : db.epochs.find? lease.epochId = some e := orRaise_eq_ok.mp hfind
  have hself : db.epochs.find? ({ e with status := .completed, revokedAt := some x.now } : EpochRow).epochId =
      some e := by
    change db.epochs.find? e.epochId = some e
    rw [epochId_of_find? hfind']
    exact hfind'
  exact ⟨_, _, Table.find?_replace_self hself, rfl, hcurrent.1, hcurrent.2.2⟩

section
variable {subjectId targetId : Id} {source target : Db}

/-- The lease of a reservation is for the task's subject and target. -/
lemma reserve_lease {t t' : TaskRow} {policy : MigrationPolicy} {actor : String} {lease : EpochLease}
    (h : reserve db x t policy actor = .ok ((lease, t'), db')) :
    lease.subjectId = t.subjectId ∧ lease.targetId = t.targetId := by
  obtain ⟨-, mid, hacquire, -⟩ := reserve_cases h
  obtain ⟨-, rfl, -⟩ := acquireInTransaction_cases hacquire
  exact ⟨rfl, rfl⟩

/-- A run that returns has committed its receipt. -/
lemma executeReserved_commits {task : TaskRow} {lease : EpochLease} {actor : String} {y : Nat → Reading}
    (h : (store cfg requirePrincipal).complete (executeReserved cfg task lease actor) y db = (.ok (), db')) :
    CompletedFor db' lease.subjectId lease.targetId := by
  unfold executeReserved at h
  obtain ⟨manifest, db₁, y₁, -, h⟩ := Store.complete_bind h
  obtain ⟨_, db₂, y₂, -, h⟩ := Store.complete_bind h
  obtain ⟨proof, db₃, y₃, -, h⟩ := Store.complete_bind h
  obtain ⟨_, db₄, y₄, -, h⟩ := Store.complete_bind h
  obtain ⟨receipt, db₅, y₅, -, h⟩ := Store.complete_bind h
  obtain ⟨current, db₆, y₆, -, h⟩ := Store.complete_bind h
  obtain ⟨proof', db₇, y₇, -, h⟩ := Store.complete_bind h
  obtain ⟨t, db₈, y₈, hcommit, h⟩ := Store.complete_bind h
  cases h
  obtain ⟨mid, -, hclose⟩ := commitReceipt_cases (Store.complete_command hcommit)
  exact closeEpoch_completes hclose

/-- The source of a hop has a completed epoch for the target. -/
lemma hop_completes (h : Hop cfg requirePrincipal subjectId targetId db source target) :
    CompletedFor source subjectId targetId := by
  have hcommitted := executeReserved_commits h.committed
  rw [(reserve_lease h.reserved).1, (reserve_lease h.reserved).2, h.subject, h.toTarget] at hcommitted
  exact hcommitted

/-- What the new host starts from, in terms of the database before the hop. -/
structure Handed (db target : Db) (subjectId targetId : Id) (t : TaskRow) (e : EpochRow) : Prop where
  task : db.tasks.find? t.taskId = some t
  approved : t.status = .approved
  committed : ∃ t', target.tasks.find? t.taskId = some t' ∧ t'.status = .committed
  other : ∀ id, id ≠ t.taskId → target.tasks.find? id = db.tasks.find? id
  unknown : db.epochs.find? e.epochId = none
  epochs : ∀ id, target.epochs.find? id = if id = e.epochId then some e else db.epochs.find? id
  status : e.status = .completed
  subject : e.subjectId = subjectId
  target : e.targetId = targetId

/-- The moves of a finalization, from the task `t` of the copy. -/
lemma finalize_cases {request : FinalizeRequest} (h : finalizeTargetDatabase db x request = .ok db') :
    ∃ t mid e t', db.tasks.find? request.taskId = some t ∧ mid.epochs = db.epochs ∧
      (∀ id, id ≠ request.taskId → mid.tasks.find? id = db.tasks.find? id) ∧
      mid.tasks.find? request.taskId = some t' ∧ t'.status = .committed ∧
      t.targetEpochId = some e.epochId ∧ db.epochs.find? e.epochId = some e ∧ e.targetId = request.targetId ∧
      closeEpoch mid x e.lease .completed = .ok db' := by
  unfold finalizeTargetDatabase at h
  obtain ⟨t, ht, h⟩ := bind_eq_ok.mp h
  obtain ⟨_, -, h⟩ := bind_eq_ok.mp h
  obtain ⟨valid, hvalid, h⟩ := bind_eq_ok.mp h
  obtain ⟨cut, hcut, h⟩ := bind_eq_ok.mp h
  obtain ⟨⟨t', mid⟩, hmove, h⟩ := bind_eq_ok.mp h
  obtain ⟨e, he, h⟩ := bind_eq_ok.mp h
  obtain ⟨_, htarget, h⟩ := bind_eq_ok.mp h
  unfold completeInTransaction at h
  obtain ⟨_, -, hclose⟩ := bind_eq_ok.mp h
  have hfirst : valid.epochs = db.epochs ∧ ∀ id, id ≠ request.taskId → valid.tasks.find? id = db.tasks.find? id := by
    unfold enterValidating at hvalid
    split at hvalid
    · obtain ⟨⟨u, v⟩, hv, hvalid⟩ := bind_eq_ok.mp hvalid
      cases hvalid
      exact ⟨transitionTask_epochs hv, fun id hid => transitionTask_other hv hid⟩
    · cases hvalid
      exact ⟨rfl, fun _ _ => rfl⟩
  have hsecond : cut.epochs = valid.epochs ∧ ∀ id, id ≠ request.taskId → cut.tasks.find? id = valid.tasks.find? id := by
    unfold enterTargetCutover at hcut
    split at hcut
    · obtain ⟨⟨u, v⟩, hv, hcut⟩ := bind_eq_ok.mp hcut
      cases hcut
      exact ⟨transitionTask_epochs hv, fun id hid => transitionTask_other hv hid⟩
    · cases hcut
      exact ⟨rfl, fun _ _ => rfl⟩
  have hepochs : mid.epochs = db.epochs := by rw [transitionTask_epochs hmove, hsecond.1, hfirst.1]
  obtain ⟨hfind, -⟩ := Option.filter_eq_some_iff.mp (orRaise_eq_ok.mp he)
  obtain ⟨eid, heid, hfind⟩ := Option.bind_eq_some_iff.mp hfind
  rw [hepochs] at hfind
  have hkey : e.epochId = eid := epochId_of_find? hfind
  refine ⟨t, mid, e, t', orRaise_eq_ok.mp ht, hepochs, ?_, transitionTask_self hmove, ?_, ?_, ?_, ?_, hclose⟩
  · intro id hid
    rw [transitionTask_other hmove hid, hsecond.2 id hid, hfirst.2 id hid]
  · obtain ⟨u, -, -, ⟨hsame, rfl, -⟩ | ⟨-, -, -, rfl, -⟩⟩ := transitionTask_cases hmove
    · exact hsame
    · rfl
  · rw [hkey]
    exact heid
  · rw [hkey]
    exact hfind
  · simpa using htarget

/-- The copy is the old database with the new epoch completed and its task committed. -/
lemma hop_handed (h : Hop cfg requirePrincipal subjectId targetId db source target) :
    ∃ t e, Handed db target subjectId targetId t e := by
  obtain ⟨t, e, hkey, hlease, hres⟩ := reserve_reserved h.reserved
  obtain ⟨u, mid, e', t', hu, hepochs, hother, hself, hstatus, hbound, hfind, htarget, hclose⟩ :=
    finalize_cases h.finalized
  have htask : h.request.taskId = t.taskId := h.requested.1.trans hkey.symm
  rw [htask] at hu hother hself
  obtain rfl : u = h.started := Option.some.inj (hu.symm.trans hres.moved)
  have heid : e'.epochId = e.epochId := Option.some.inj (hbound.symm.trans hres.bound)
  have hnew : h.snapshot.epochs.find? e.epochId = some e := by
    rw [hres.epochs]
    exact if_pos rfl
  obtain rfl : e' = e := by
    rw [heid] at hfind
    exact Option.some.inj (hfind.symm.trans hnew)
  obtain ⟨e₀, he₀, -, htgt⟩ := closeEpoch_cases hclose
  obtain rfl : e₀ = e' := by
    rw [hepochs] at he₀
    exact Option.some.inj (he₀.symm.trans hnew)
  have hsubject : e₀.subjectId = subjectId := by
    have hs : e₀.lease.subjectId = h.task.subjectId := hlease ▸ (reserve_lease h.reserved).1
    exact hs.trans h.subject
  refine ⟨t, { e₀ with status := .completed, revokedAt := some h.finalizing.now }, ?_⟩
  exact
    { task := hres.task
      approved := hres.approved
      committed := ⟨t', by rw [htgt]; exact hself, hstatus⟩
      other := by
        intro id hid
        rw [htgt]
        exact (hother id hid).trans (hres.other id hid)
      unknown := hres.unknown
      epochs := by
        intro id
        have hmid : mid.epochs.find?
            ({ e₀ with status := .completed, revokedAt := some h.finalizing.now } : EpochRow).epochId =
            some e₀ := by
          rw [hepochs]
          exact hnew
        rw [congrArg Db.epochs htgt]
        simp only [Table.find?_replace hmid]
        by_cases hid : id = e₀.epochId
        · rw [if_pos hid, if_pos hid]
        · rw [if_neg hid, if_neg hid, hepochs, hres.epochs, if_neg hid]
      status := rfl
      subject := hsubject
      target := htarget.trans h.requested.2 }

lemma fencedEpoch_iff {own : Option Id} : fencedEpoch db subjectId own = true ↔
    ∃ id e, db.epochs.find? id = some e ∧ e.subjectId = subjectId ∧ e.status ∈ [EpochStatus.active, .completed] ∧
      foreign own e.targetId = true := by
  unfold fencedEpoch
  rw [List.any_eq_true]
  constructor
  · rintro ⟨e, he, hsel⟩
    exact ⟨e.epochId, e, Table.find?_key he, by simpa using hsel⟩
  · rintro ⟨id, e, he, hsel⟩
    exact ⟨e, (Table.find?_eq_some.mp he).1, by simpa using hsel⟩

lemma revokedRollback_iff {own : Option Id} : revokedRollback db subjectId own = true ↔
    ∃ id t eid e, db.tasks.find? id = some t ∧ t.subjectId = subjectId ∧ t.status = .rollingBack ∧
      t.targetEpochId = some eid ∧ db.epochs.find? eid = some e ∧ e.status = .revoked ∧
      foreign own e.targetId = true := by
  unfold revokedRollback
  rw [List.any_eq_true]
  constructor
  · rintro ⟨t, ht, hsel⟩
    obtain ⟨hsubject, hstatus, hepoch⟩ : t.subjectId = subjectId ∧ t.status = .rollingBack ∧
        (t.targetEpochId.bind db.epochs.find?).any (fun e => e.status = .revoked ∧ foreign own e.targetId) = true := by
      simpa using hsel
    cases he : t.targetEpochId.bind db.epochs.find? with
    | none => simp [he] at hepoch
    | some e =>
      obtain ⟨eid, heid, hfind⟩ := Option.bind_eq_some_iff.mp he
      have hrev : e.status = .revoked ∧ foreign own e.targetId = true := by simpa [he] using hepoch
      exact ⟨t.taskId, t, eid, e, Table.find?_key ht, hsubject, hstatus, heid, hfind, hrev.1, hrev.2⟩
  · rintro ⟨id, t, eid, e, ht, hsubject, hstatus, heid, hfind, hrev, hforeign⟩
    refine ⟨t, (Table.find?_eq_some.mp ht).1, ?_⟩
    simp [hsubject, hstatus, heid, hfind, hrev, hforeign]

/-- The new host sees the foreign epochs of the old database and no others. -/
lemma Handed.fencedEpoch_eq {t : TaskRow} {e : EpochRow} (h : Handed db target subjectId targetId t e) :
    fencedEpoch target subjectId (some targetId) = fencedEpoch db subjectId (some targetId) := by
  rw [Bool.eq_iff_iff, fencedEpoch_iff, fencedEpoch_iff]
  constructor
  · rintro ⟨id, e', he', hs, hstatus, hforeign⟩
    rw [h.epochs] at he'
    split at he'
    · cases he'
      rw [h.target] at hforeign
      exact absurd hforeign (by simp [foreign])
    · exact ⟨id, e', he', hs, hstatus, hforeign⟩
  · rintro ⟨id, e', he', hrest⟩
    have hne : id ≠ e.epochId := by
      rintro rfl
      rw [h.unknown] at he'
      exact absurd he' (by simp)
    refine ⟨id, e', ?_, hrest⟩
    rw [h.epochs, if_neg hne]
    exact he'

lemma Handed.revokedRollback_eq {t : TaskRow} {e : EpochRow} (h : Handed db target subjectId targetId t e) :
    revokedRollback target subjectId (some targetId) = revokedRollback db subjectId (some targetId) := by
  rw [Bool.eq_iff_iff, revokedRollback_iff, revokedRollback_iff]
  constructor
  · rintro ⟨id, u, eid, e', hu, hsubject, hstatus, heid, he', hrev, hforeign⟩
    have hid : id ≠ t.taskId := by
      rintro rfl
      obtain ⟨t', ht', hcommitted⟩ := h.committed
      obtain rfl : t' = u := Option.some.inj (ht'.symm.trans hu)
      rw [hcommitted] at hstatus
      exact absurd hstatus (by decide)
    rw [h.other id hid] at hu
    rw [h.epochs] at he'
    split at he'
    · cases he'
      rw [h.status] at hrev
      exact absurd hrev (by decide)
    · exact ⟨id, u, eid, e', hu, hsubject, hstatus, heid, he', hrev, hforeign⟩
  · rintro ⟨id, u, eid, e', hu, hsubject, hstatus, heid, he', hrev, hforeign⟩
    have hid : id ≠ t.taskId := by
      rintro rfl
      obtain rfl : t = u := Option.some.inj (h.task.symm.trans hu)
      rw [h.approved] at hstatus
      exact absurd hstatus (by decide)
    have hne : eid ≠ e.epochId := by
      rintro rfl
      rw [h.unknown] at he'
      exact absurd he' (by simp)
    refine ⟨id, u, eid, e', ?_, hsubject, hstatus, heid, ?_, hrev, hforeign⟩
    · rw [h.other id hid]
      exact hu
    · rw [h.epochs, if_neg hne]
      exact he'

lemma Handed.noActive_eq {t : TaskRow} {e : EpochRow} {root : FenceRoot} (h : Handed db target subjectId targetId t e) :
    noActiveMigrationEpoch target subjectId root (some targetId) =
      noActiveMigrationEpoch db subjectId root (some targetId) := by
  unfold noActiveMigrationEpoch
  rw [h.fencedEpoch_eq, h.revokedRollback_eq]

/-- A completed epoch of another host closes both guards. -/
lemma CompletedFor.fenced {own : Option Id} (h : CompletedFor db subjectId targetId) (hown : own ≠ some targetId) :
    fencedEpoch db subjectId own = true := by
  obtain ⟨id, e, he, hs, hsubject, htarget⟩ := h
  refine fencedEpoch_iff.mpr ⟨id, e, he, hsubject, by simp [hs], ?_⟩
  cases own with
  | none => rfl
  | some o =>
    have hne : targetId ≠ o := fun heq => hown (heq ▸ rfl)
    simpa [foreign, htarget] using hne

lemma rejected_of_fenced {h : Host} (hf : fencedEpoch h.db subjectId h.own = true) : h.rejected subjectId := by
  constructor
  · simp [noActiveMigrationEpoch, hf]
  · simp [migrationEpochGuard, hf]

/-- The first guard is the stricter one. -/
lemma admitted_iff {h : Host} :
    h.admitted subjectId ↔ noActiveMigrationEpoch h.db subjectId h.root h.own = true := by
  constructor
  · exact And.left
  · intro hno
    refine ⟨hno, ?_⟩
    simp only [noActiveMigrationEpoch, Bool.and_eq_true] at hno
    simp only [migrationEpochGuard, Bool.and_eq_true]
    exact ⟨hno.1.1, hno.2⟩

/-- The host has handed the subject to another one. -/
def LeftBehind (subjectId : Id) (h : Host) : Prop :=
  ∃ targetId, CompletedFor h.db subjectId targetId ∧ h.own ≠ some targetId

lemma LeftBehind.rejected {h : Host} (hl : LeftBehind subjectId h) : h.rejected subjectId := by
  obtain ⟨targetId, hc, hown⟩ := hl
  exact rejected_of_fenced (hc.fenced hown)

lemma LeftBehind.follows {h h' : Host} (hl : LeftBehind subjectId h) (hf : Follows cfg requirePrincipal h h') :
    LeftBehind subjectId h' := by
  obtain ⟨targetId, hc, hown⟩ := hl
  exact ⟨targetId, (activity_keeps hf.activity).completedFor hc, hf.own ▸ hown⟩

lemma leftBehind_follows {earlier earlier' : List Host}
    (hf : List.Forall₂ (Follows cfg requirePrincipal) earlier earlier')
    (hl : ∀ e ∈ earlier, LeftBehind subjectId e) : ∀ e ∈ earlier', LeftBehind subjectId e := by
  induction hf with
  | nil => exact hl
  | cons h _ ih =>
    intro e he
    rcases List.mem_cons.mp he with rfl | he
    · exact (hl _ List.mem_cons_self).follows h
    · exact ih (fun e he => hl e (List.mem_cons_of_mem _ he)) e he

lemma Handed.completedFor {t : TaskRow} {e : EpochRow} (h : Handed db target subjectId targetId t e) :
    CompletedFor target subjectId targetId :=
  ⟨e.epochId, e, by rw [h.epochs]; exact if_pos rfl, h.status, h.subject, h.target⟩

/-- Along a chain every earlier host is left behind, and the last one has the epoch of its own hop. -/
lemma chain_leftBehind {n : Nat} {earlier : List Host} {h : Host}
    (hc : Chain cfg requirePrincipal subjectId n earlier h) :
    (∀ e ∈ earlier, LeftBehind subjectId e) ∧
      (n ≠ 0 → ∃ targetId, h.own = some targetId ∧ CompletedFor h.db subjectId targetId) := by
  induction hc with
  | origin => exact ⟨by simp, fun h => absurd rfl h⟩
  | hop hchain hf ha hhop hdistinct ih =>
    refine ⟨?_, fun _ => ?_⟩
    · intro e he
      rcases List.mem_append.mp he with he | he
      · exact leftBehind_follows hf ih.1 e he
      · rw [List.mem_singleton.mp he]
        have hown := hdistinct _ List.mem_cons_self
        exact ⟨_, hop_completes hhop, hown⟩
    · obtain ⟨t, e, hh⟩ := hop_handed hhop
      exact ⟨_, rfl, hh.completedFor⟩

/-- After a hop the new host owns the subject alone exactly if it is the first hop of the chain, and the database
it was handed holds nothing that another host owns. -/
theorem soleOwner_iff_firstHop {n : Nat} {earlier earlier' : List Host} {h : Host} {root root' : FenceRoot}
    (hc : Chain cfg requirePrincipal subjectId n earlier h)
    (hf : List.Forall₂ (Follows cfg requirePrincipal) earlier earlier') (ha : Activity cfg requirePrincipal h.db db)
    (hhop : Hop cfg requirePrincipal subjectId targetId db source target)
    (hd : ∀ e ∈ h :: earlier, e.own ≠ some targetId) :
    SoleOwner subjectId (earlier' ++ [⟨source, h.own, root⟩]) ⟨target, some targetId, root'⟩ ↔
      n = 0 ∧ noActiveMigrationEpoch db subjectId root' (some targetId) = true := by
  have hnext : Chain cfg requirePrincipal subjectId (n + 1) (earlier' ++ [⟨source, h.own, root⟩])
      ⟨target, some targetId, root'⟩ := .hop hc hf ha hhop hd
  have hchain := (chain_leftBehind hnext).1
  obtain ⟨t, e, hh⟩ := hop_handed hhop
  have hlast := (chain_leftBehind hc).2
  constructor
  · rintro ⟨hadmitted, -⟩
    have hno := admitted_iff.mp hadmitted
    change noActiveMigrationEpoch target subjectId root' (some targetId) = true at hno
    rw [hh.noActive_eq] at hno
    refine ⟨?_, hno⟩
    by_contra hn
    -- the epoch that brought the subject to the old host is in the copy
    obtain ⟨own, hown, hcompleted⟩ := hlast hn
    have hne : some targetId ≠ some own := fun heq => hd h List.mem_cons_self (hown.trans heq.symm)
    have hfenced := ((activity_keeps ha).completedFor hcompleted).fenced hne
    simp [noActiveMigrationEpoch, hfenced] at hno
  · rintro ⟨-, hno⟩
    refine ⟨admitted_iff.mpr ?_, fun e he => (hchain e he).rejected⟩
    change noActiveMigrationEpoch target subjectId root' (some targetId) = true
    rw [hh.noActive_eq]
    exact hno

end

/-- What was returned, or `d`. -/
def okOr {α : Type} (r : Except MigrationError α) (d : α) : α :=
  match r with
  | .ok a => a
  | .error _ => d

lemma eq_ok_okOr {α : Type} {r : Except MigrationError α} {d : α} (h : r.toBool = true) : r = .ok (okOr r d) := by
  cases r with
  | ok a => rfl
  | error e => cases h

/-- The inputs of one hop. -/
structure HopInput where
  db : Db
  task : TaskRow
  policy : MigrationPolicy
  reading : Reading
  request : FinalizeRequest

namespace HopInput

def reserved (i : HopInput) : (EpochLease × TaskRow) × Db :=
  okOr (reserve i.db i.reading i.task i.policy "operator") ((⟨"", "", "", 0⟩, i.task), i.db)

def executed (i : HopInput) : Except MigrationError Unit × Db :=
  (store plainConfig false).complete (executeReserved plainConfig i.reserved.1.2 i.reserved.1.1 "operator")
    (fun _ => i.reading) i.reserved.2

def target (i : HopInput) : Db := okOr (finalizeTargetDatabase i.reserved.2 i.reading i.request) i.db

/-- Every part of the hop returns. -/
def succeeds (i : HopInput) : Bool :=
  (checkRun i.task i.policy (some i.policy.walletMode) i.reading.now).toBool &&
    (reserve i.db i.reading i.task i.policy "operator").toBool && i.executed.1.toBool &&
    (finalizeTargetDatabase i.reserved.2 i.reading i.request).toBool &&
    decide (i.request.taskId = i.task.taskId) && decide (i.request.targetId = i.task.targetId)

def hop (i : HopInput) (h : i.succeeds = true) :
    Hop plainConfig false i.task.subjectId i.task.targetId i.db i.executed.2 i.target := by
  simp only [succeeds, Bool.and_eq_true, decide_eq_true_eq] at h
  obtain ⟨⟨⟨⟨⟨hcheck, hreserve⟩, hexecute⟩, hfinalize⟩, htask⟩, htarget⟩ := h
  have hexecuted : i.executed = (.ok (), i.executed.2) := Prod.ext (eq_ok_okOr (d := ()) hexecute) rfl
  exact
    { task := i.task
      subject := rfl
      toTarget := rfl
      policy := i.policy
      walletMode := some i.policy.walletMode
      actor := "operator"
      clock := i.reading.now
      checked := eq_ok_okOr (d := ()) hcheck
      reserving := i.reading
      lease := i.reserved.1.1
      started := i.reserved.1.2
      snapshot := i.reserved.2
      reserved := eq_ok_okOr hreserve
      executing := fun _ => i.reading
      committed := hexecuted
      request := i.request
      requested := ⟨htask, htarget⟩
      finalizing := i.reading
      finalized := eq_ok_okOr hfinalize }

end HopInput

/-- Transactions one after the other. -/
def runTxs (db : Db) : List (Tx × Reading) → Except MigrationError Db
  | [] => .ok db
  | (tx, x) :: rest => do
    let (_, db) ← tx.exec plainConfig false x db
    runTxs db rest

lemma activity_of_runTxs {txs : List (Tx × Reading)} (h : runTxs db txs = .ok db') :
    Activity plainConfig false db db' := by
  induction txs generalizing db with
  | nil =>
    cases h
    exact .refl
  | cons tx rest ih =>
    obtain ⟨⟨r, mid⟩, hexec, h⟩ := bind_eq_ok.mp h
    exact .head ⟨tx.1, tx.2, r, hexec⟩ (ih h)

/-- The answers of a target that restores, proves its health and activates. -/
def activating (targetId taskId suffix : String) : Reading :=
  let digest := String.ofList (List.replicate 64 'a')
  let artifactId := "migration-" ++ taskId
  let binding (mode : Option String) : Binding :=
    ⟨["target_id"], some targetId, some "host", some "verified", mode, true⟩
  { noon with
    newId := fun stem => stem ++ suffix
    manifest := some ⟨artifactId, "files"⟩
    proof := some
      { manifestDigest := digest, artifactId,
        restoreReport := ⟨targetId, artifactId, digest, "restored", []⟩,
        healthReport := ⟨targetId, artifactId, digest, "healthy", [("runtime", true)]⟩,
        targetSignature := "signature", manifest := none, credentialBinding := some (binding none),
        walletBinding := some (binding (some "external_signer_rebind")), targetVolumeProof := some (binding none),
        recipientKeyFingerprint := some digest }
    receipt := some
      { taskId, subjectId := "subject", targetId, sourceEpoch := "runtime-1", manifestDigest := digest, artifactId,
        restoreReportDigest := digest, healthReportDigest := digest, sourceFenceDigest := digest,
        targetActivationDigest := digest, recipientKeyFingerprint := some digest, targetVolumeProofDigest :=
          some digest,
        credentialBindingDigest := some digest, signerBindingDigest := some digest,
        walletMode := some "external_signer_rebind", walletProofDigest := some digest } }

/-- The policy after the update of the run. -/
def manualPolicy : MigrationPolicy :=
  { MigrationPolicy.default "subject" noon.now with enabled := true, approvalMode := .manual, revision := 2 }

/-- The first host, with its approved task. -/
def originDb : Db := (approvedMoves.foldl (machine plainConfig false).step idleState).state

def firstInput : HopInput :=
  ⟨originDb, approvedTask, manualPolicy, activating "target" "migrationtask-1" "-1",
    ⟨"migrationtask-1", "target", String.ofList (List.replicate 64 'a'), "migration-migrationtask-1"⟩⟩

/-- The work of the second host before its own hop. -/
def secondTxs : List (Tx × Reading) :=
  let x := activating "next" "migrationtask-2" "-2"
  [(.putTarget ⟨"next", "subject", .active, some 0, some "runtime-1", "key"⟩, x),
    (.createProposal ⟨"subject", "next", 2, "capacity", "a larger host", 86400 * second, "\x7b\x7d"⟩, x),
    (.approve "migrationproposal-2" ⟨"operator", none, none⟩ "key-2", x)]

def secondDb : Db := okOr (runTxs firstInput.target secondTxs) firstInput.target

def secondInput : HopInput :=
  ⟨secondDb, { approvedTask with
      taskId := "migrationtask-2", proposalId := "migrationproposal-2", targetId := "next", idempotencyKey := "key-2" },
    manualPolicy, activating "next" "migrationtask-2" "-2",
    ⟨"migrationtask-2", "next", String.ofList (List.replicate 64 'a'), "migration-migrationtask-2"⟩⟩

def firstSource : Host := ⟨firstInput.executed.2, none, .absent⟩

def secondSource : Host := ⟨secondInput.executed.2, some "target", .absent⟩

def lastHost : Host := ⟨secondInput.target, some "next", .absent⟩

theorem soleOwner_of_firstHop :
    SoleOwner "subject" [firstSource] ⟨firstInput.target, some "target", .absent⟩ := by
  have hhop := firstInput.hop (by decide +kernel)
  refine (soleOwner_iff_firstHop (.origin (h := ⟨originDb, none, .absent⟩)) .nil .refl hhop ?_).mpr ⟨rfl, by decide⟩
  intro e he
  rw [List.mem_singleton.mp he]
  exact nofun

/-- Two hops, after which no host may work for the subject. -/
theorem second_hop_leaves_no_owner : Chain plainConfig false "subject" 2 [firstSource, secondSource] lastHost ∧
    ¬SoleOwner "subject" [firstSource, secondSource] lastHost := by
  have hfirst := firstInput.hop (by decide +kernel)
  have hsecond := secondInput.hop (by decide +kernel)
  have horigin : Chain plainConfig false "subject" 0 [] ⟨originDb, none, .absent⟩ := .origin
  have hone : Chain plainConfig false "subject" 1 [firstSource] ⟨firstInput.target, some "target", .absent⟩ := by
    refine .hop horigin .nil .refl hfirst ?_
    intro e he
    rw [List.mem_singleton.mp he]
    exact nofun
  have hwork : Activity plainConfig false firstInput.target secondDb :=
    activity_of_runTxs (eq_ok_okOr (by decide))
  refine ⟨?_, ?_⟩
  · refine .hop hone (.cons ⟨.refl, rfl⟩ .nil) hwork hsecond ?_
    intro e he
    rcases List.mem_cons.mp he with rfl | he
    · exact fun h => absurd h (by decide)
    · rw [List.mem_singleton.mp he]
      exact nofun
  · rintro ⟨hadmitted, -⟩
    have hrefused : noActiveMigrationEpoch lastHost.db "subject" lastHost.root lastHost.own = false := by decide
    exact absurd (hrefused.symm.trans hadmitted.1) (by decide)

end Noyra.Migration.Proofs
