import Mathlib.Data.List.Dedup
import Noyra.Proofs.Fencing

/-!
# Approvals behind a migration

Every approved task is backed by the approvals of its proposal: their number, their revision and the policy are
an invariant of all runs. Rejection and expiry are not: they are written to the proposal, and the task that
leaves `approved` is not looked up there.
-/

namespace Noyra.Migration.Proofs
open Noyra.Lib
open Noyra.Wallet (Id)

variable {cfg : Config} {requirePrincipal : Bool} {db db' db'' : Db} {x : Reading}

/-- A transition of the calls goes to an ordinary status. -/
def Disciplined : Tx → Prop
  | .transition _ status _ _ => status ∈ ordinary
  | _ => True

section
open Call

lemma perform_all {tx : Tx} (h : Disciplined tx) : (perform tx).All Disciplined := all_command h

lemma then_all {α : Type} {tx : Tx} {f : tx.Reply → MigrationCall α} (h : Disciplined tx)
    (hf : ∀ r, (f r).All Disciplined) : (perform tx >>= f).All Disciplined := (all_command h).bind hf

lemma move_all {taskId : Id} {status : TaskStatus} {actor : String} {f : TransitionFields} (h : status ∈ ordinary) :
    (perform (.transition taskId status actor f)).All Disciplined := all_command h

lemma check_all {α : Type} {r : Except MigrationError α} : (Call.check r : MigrationCall α).All Disciplined := trivial

lemma acquire_all {subjectId targetId : Id} {sourceEpoch actor : String} {proof : ValidationProof} :
    (acquire subjectId targetId sourceEpoch proof actor).All Disciplined :=
  then_all trivial (fun _ => perform_all trivial)

lemma prepare_all {taskId : Id} {actor : String} {proof : Option TargetProof} :
    (prepare taskId actor proof).All Disciplined := by
  have hepoch : ∀ task verified bound, (prepareEpoch task verified actor bound).All Disciplined := by
    intro task verified bound
    cases bound with
    | none => exact acquire_all
    | some lease => trivial
  have hbegin : ∀ task proof, (beginPrepare task proof actor).All Disciplined := by
    intro task proof
    exact all_ite (move_all (by decide)) (all_ite trivial (all_ite trivial trivial))
  have hbind : ∀ task lease, (bindPrepared task lease actor).All Disciplined := by
    intro task lease
    exact all_ite (move_all (by decide)) (perform_all trivial)
  refine then_all trivial (fun task => then_all trivial (fun policy => ?_))
  refine then_all trivial (fun _ => check_all.bind (fun proof => then_all trivial (fun verified => ?_)))
  refine (hbegin _ _).bind (fun task => then_all trivial (fun bound => ?_))
  exact (hepoch _ _ _).bind (fun lease => (hbind _ _).bind (fun task => perform_all trivial))

lemma run_all {taskId : Id} {walletMode : Option WalletMode} {actor : String} :
    (run cfg taskId walletMode actor).All Disciplined := by
  have hreserved : ∀ task lease, (executeReserved cfg task lease actor).All Disciplined := by
    intro task lease
    refine then_all trivial (fun manifest => (move_all (by decide)).bind (fun _ => ?_))
    refine then_all trivial (fun proof => prepare_all.bind (fun _ => then_all trivial (fun receipt => ?_)))
    refine then_all trivial (fun current => then_all trivial (fun proof => ?_))
    exact then_all trivial (fun _ => trivial)
  refine then_all trivial (fun task => all_ite trivial ?_)
  refine then_all trivial (fun policy => then_all trivial (fun _ => ?_))
  refine then_all trivial (fun now => check_all.bind (fun _ => All.exclusively ?_))
  exact then_all trivial (fun reserved => hreserved _ _)

lemma commit_all {taskId : Id} {actor : String} : (commit taskId actor).All Disciplined := by
  have hbound : ∀ task lease, (executeBound task lease actor).All Disciplined := by
    intro task lease
    refine then_all trivial (fun _ => then_all trivial (fun proof => ?_))
    exact then_all trivial (fun receipt => then_all trivial (fun _ => trivial))
  refine then_all trivial (fun task => all_ite trivial ?_)
  refine then_all trivial (fun policy => then_all trivial (fun _ => check_all.bind (fun _ => ?_)))
  exact then_all trivial (fun bound => check_all.bind (fun lease => (hbound _ _).exclusively))

lemma rollback_all {taskId : Id} {reason actor : String} : (rollback taskId reason actor).All Disciplined := by
  have hassert : ∀ bound, (assertBound bound).All Disciplined := by
    intro bound
    cases bound with
    | none => trivial
    | some lease => exact perform_all trivial
  have hdeactivate : ∀ task, (deactivate task).All Disciplined := by
    intro task
    unfold deactivate
    cases task.manifestDigest with
    | none => trivial
    | some digest => exact then_all trivial (fun _ => check_all)
  refine check_all.bind (fun _ => All.exclusively (then_all trivial (fun task => all_ite trivial (all_ite trivial ?_))))
  refine then_all trivial (fun bound => All.bind ?_ (fun _ => ?_))
  · exact all_ite ((move_all (by decide)).bind (fun _ => trivial)) trivial
  · refine (hassert bound).bind (fun _ => (hdeactivate task).bind (fun _ => ?_))
    exact then_all trivial (fun _ => trivial)

lemma restoreStandby_all {request : RecoveryRequest} {policy : MigrationPolicy} :
    (restoreStandby cfg request policy).All Disciplined := by
  refine check_all.bind (fun _ => then_all trivial (fun _ => then_all trivial (fun served => ?_)))
  cases served with
  | some t => trivial
  | none =>
    refine then_all trivial (fun task => All.bind ?_ (fun lease => perform_all trivial))
    exact acquire_all.onRaise (perform_all trivial)

lemma cancel_all {taskId : Id} {actor reason : String} : (cancel cfg taskId actor reason).All Disciplined := by
  refine check_all.bind
    (fun _ => check_all.bind (fun _ => then_all trivial (fun task => check_all.bind (fun pending => ?_))))
  cases pending with
  | none => trivial
  | some u => exact (move_all (by decide)).bind (fun _ => trivial)

lemma entry_all (p : Entry) : (p.call cfg).All Disciplined := by
  cases p with
  | addSubject s => exact perform_all trivial
  | setRuntime s v => exact perform_all trivial
  | putTarget row => exact perform_all trivial
  | updatePolicy s rev patch actor => exact then_all trivial (fun _ => trivial)
  | createProposal input => exact then_all trivial (fun _ => trivial)
  | approve proposalId reviewer key => exact then_all trivial (fun _ => check_all.bind (fun _ => trivial))
  | reject proposalId actor reason => exact then_all trivial (fun _ => trivial)
  | cancel taskId actor reason => exact cancel_all
  | run taskId walletMode actor => exact run_all
  | prepare taskId actor proof => exact prepare_all
  | commit taskId actor => exact commit_all
  | rollback taskId reason actor => exact rollback_all
  | restoreStandby request policy => exact restoreStandby_all

end

/-- The task was created for the proposal. -/
structure Linked (t : TaskRow) (p : ProposalRow) : Prop where
  proposal : t.proposalId = p.proposalId
  subject : t.subjectId = p.subjectId
  revision : t.policyRevision = p.policyRevision
  expiry : t.expiresAt = p.expiresAt

/-- The proposal has the approvals of enough distinct reviewers. -/
def Enough (db : Db) (p : ProposalRow) : Prop :=
  requiredApprovals p.approvalMode ≤ (identities p.approvalMode (db.approvalsOf p.proposalId)).length

/-- Every task has its proposal, and an approved one has the approvals it needs, each under the revision of
the proposal. -/
structure Accounted (db : Db) : Prop where
  approval : ∀ a ∈ db.approvals, ∃ p, db.proposals.find? a.proposalId = some p ∧ a.policyRevision = p.policyRevision
  linked : ∀ t ∈ db.tasks, ∃ p ∈ db.proposals, Linked t p
  approved : ∀ t ∈ db.tasks, t.status = .approved → ∀ p ∈ db.proposals, p.proposalId = t.proposalId → Enough db p
  governed : ∀ t ∈ db.tasks, t.status = .approved → ∃ policy, db.policy t.subjectId = some policy

lemma accounted_empty : Accounted .empty := by
  constructor <;> intro _ h <;> exact absurd h (by simp [Db.empty, Table.mem_def])

/-- The task has been moved without being approved. -/
structure Carries (t t' : TaskRow) : Prop where
  key : t'.taskId = t.taskId
  proposal : t'.proposalId = t.proposalId
  subject : t'.subjectId = t.subjectId
  revision : t'.policyRevision = t.policyRevision
  expiry : t'.expiresAt = t.expiresAt
  approved : t'.status = .approved → t.status = .approved

lemma Carries.refl (t : TaskRow) : Carries t t := ⟨rfl, rfl, rfl, rfl, rfl, id⟩

lemma Carries.trans {t t' t'' : TaskRow} (h : Carries t t') (h' : Carries t' t'') : Carries t t'' :=
  ⟨h'.key.trans h.key, h'.proposal.trans h.proposal, h'.subject.trans h.subject, h'.revision.trans h.revision,
    h'.expiry.trans h.expiry, fun hs => h.approved (h'.approved hs)⟩

lemma Carries.linked {t t' : TaskRow} {p : ProposalRow} (h : Carries t t') (hl : Linked t p) : Linked t' p :=
  ⟨h.proposal.trans hl.proposal, h.subject.trans hl.subject, h.revision.trans hl.revision, h.expiry.trans hl.expiry⟩

/-- The policy of the subject, if there is one, is the one the task was approved under. -/
def InForce (db : Db) (t : TaskRow) : Prop := ∀ p, db.policy t.subjectId = some p → p.revision = t.policyRevision

/-- A transaction that leaves proposals, approvals and policies alone and approves no task. A task it starts
is under the policy in force. -/
structure Carried (db db' : Db) : Prop where
  proposals : db'.proposals = db.proposals
  approvals : db'.approvals = db.approvals
  policies : db'.policies = db.policies
  task : ∀ t' ∈ db'.tasks, ∃ t ∈ db.tasks, Carries t t' ∧
    (t'.status = .preparing → t.status = .preparing ∨ InForce db t)

namespace Carried

lemma of_same (htasks : db'.tasks = db.tasks) (hproposals : db'.proposals = db.proposals)
    (happrovals : db'.approvals = db.approvals) (hpolicies : db'.policies = db.policies) : Carried db db' :=
  ⟨hproposals, happrovals, hpolicies, fun t ht => ⟨t, htasks ▸ ht, .refl t, .inl⟩⟩

lemma refl (db : Db) : Carried db db := of_same rfl rfl rfl rfl

lemma trans (h : Carried db db') (h' : Carried db' db'') : Carried db db'' where
  proposals := h'.proposals.trans h.proposals
  approvals := h'.approvals.trans h.approvals
  policies := h'.policies.trans h.policies
  task := by
    intro t'' ht''
    obtain ⟨t', ht', hc', hstart'⟩ := h'.task t'' ht''
    obtain ⟨t, ht, hc, hstart⟩ := h.task t' ht'
    refine ⟨t, ht, hc.trans hc', ?_⟩
    intro hs
    rcases hstart' hs with hprep | hforce
    · exact hstart hprep
    · refine .inr ?_
      intro p hp
      have hp' : db'.policy t'.subjectId = some p := by
        rw [Db.policy, h.policies, hc.subject]
        exact hp
      rw [hforce p hp', hc.revision]

/-- Replacing the row of one task. -/
lemma of_replace {t t' : TaskRow} (ht : db.tasks.find? t'.taskId = some t) (hc : Carries t t')
    (hstart : t'.status = .preparing → t.status = .preparing ∨ InForce db t) :
    Carried db { db with tasks := db.tasks.replace t' } := by
  refine ⟨rfl, rfl, rfl, ?_⟩
  intro u hu
  rcases Table.mem_replace.mp hu with ⟨rfl, -⟩ | ⟨hu, -⟩
  · exact ⟨t, (Table.find?_eq_some.mp ht).1, hc, hstart⟩
  · exact ⟨u, hu, .refl u, .inl⟩

lemma accounted (h : Carried db db') (ha : Accounted db) : Accounted db' where
  approval := by
    rw [h.approvals, h.proposals]
    exact ha.approval
  linked := by
    intro t' ht'
    obtain ⟨t, ht, hc, -⟩ := h.task t' ht'
    obtain ⟨p, hp, hl⟩ := ha.linked t ht
    exact ⟨p, h.proposals ▸ hp, hc.linked hl⟩
  approved := by
    intro t' ht' hs p hp hid
    obtain ⟨t, ht, hc, -⟩ := h.task t' ht'
    have henough := ha.approved t ht (hc.approved hs) p (h.proposals ▸ hp) (hid.trans hc.proposal)
    rw [Enough, Db.approvalsOf, h.approvals]
    exact henough
  governed := by
    intro t' ht' hs
    obtain ⟨t, ht, hc, -⟩ := h.task t' ht'
    obtain ⟨policy, hp⟩ := ha.governed t ht (hc.approved hs)
    refine ⟨policy, ?_⟩
    rw [Db.policy, h.policies, hc.subject]
    exact hp

end Carried

lemma transitionTask_carried {taskId : Id} {status : TaskStatus} {actor : String} {f : TransitionFields} {t' : TaskRow}
    (h : transitionTask db x taskId status actor f = .ok (t', db')) (hs : status ≠ .approved) : Carried db db' := by
  obtain ⟨t, ht, -, ⟨-, -, rfl⟩ | ⟨-, hforce, -, -, rfl⟩⟩ := transitionTask_cases h
  · exact .refl _
  · have hkey : db.tasks.find? (t.moved status f x.now).taskId = some t := by
      have hmoved : (t.moved status f x.now).taskId = t.taskId := rfl
      rw [hmoved, taskId_of_find? ht]
      exact ht
    exact .of_replace hkey ⟨rfl, rfl, rfl, rfl, rfl, fun h => absurd h hs⟩ (fun _ => .inr hforce)

lemma closeEpoch_carried {lease : EpochLease} {status : EpochStatus} (h : closeEpoch db x lease status = .ok db') :
    Carried db db' := by
  obtain ⟨e, -, -, rfl⟩ := closeEpoch_cases h
  exact .of_same rfl rfl rfl rfl

lemma acquireInTransaction_carried {subjectId targetId : Id} {sourceEpoch : String} {lease : EpochLease}
    (h : acquireInTransaction db x subjectId targetId sourceEpoch = .ok (lease, db')) : Carried db db' := by
  obtain ⟨-, -, epochs, -, rfl⟩ := acquireInTransaction_cases h
  exact .of_same rfl rfl rfl rfl

lemma reserve_carried {t t' : TaskRow} {policy : MigrationPolicy} {actor : String} {lease : EpochLease}
    (h : reserve db x t policy actor = .ok ((lease, t'), db')) : Carried db db' := by
  obtain ⟨-, mid, hacquire, hmove⟩ := reserve_cases h
  exact (acquireInTransaction_carried hacquire).trans (transitionTask_carried hmove (by decide))

lemma revokeBound_carried {lease : Option EpochLease} {reason actor : String}
    (h : revokeBound db x lease reason actor = .ok db') : Carried db db' := by
  cases lease with
  | none =>
    cases h
    exact .refl _
  | some l =>
    unfold revokeBound revokeInTransaction at h
    obtain ⟨_, -, h⟩ := bind_eq_ok.mp h
    exact closeEpoch_carried h

lemma finishRollback_carried {taskId : Id} {lease : Option EpochLease} {reason actor : String} {t' : TaskRow}
    (h : finishRollback db x taskId lease reason actor = .ok (t', db')) : Carried db db' := by
  unfold finishRollback at h
  obtain ⟨mid, hmid, h⟩ := bind_eq_ok.mp h
  exact (revokeBound_carried hmid).trans (transitionTask_carried h (by decide))

lemma writeAttestation_carried {row : AttestationRow} (h : writeAttestation db row = .ok db') : Carried db db' := by
  unfold writeAttestation at h
  split at h
  · split at h
    · cases h
      exact .refl _
    · cases h
  · obtain ⟨attestations, -, h⟩ := bind_eq_ok.mp h
    cases h
    exact .of_same rfl rfl rfl rfl

lemma attestCommit_carried {t : TaskRow} {receipt : MigrationExecutionReceipt} {proof : TargetProof} {actor : String}
    (h : attestCommit cfg db x t receipt proof actor = .ok db') : Carried db db' := by
  unfold attestCommit at h
  obtain ⟨policy, -, h⟩ := bind_eq_ok.mp h
  obtain ⟨_, -, h⟩ := bind_eq_ok.mp h
  split at h
  · unfold recordSelfAttestation at h
    obtain ⟨_, -, h⟩ := bind_eq_ok.mp h
    obtain ⟨_, -, h⟩ := bind_eq_ok.mp h
    obtain ⟨_, -, h⟩ := bind_eq_ok.mp h
    obtain ⟨_, -, h⟩ := bind_eq_ok.mp h
    exact writeAttestation_carried h
  · cases h
    exact .refl _

lemma enterCutover_carried {t : TaskRow} {actor : String} (h : enterCutover db x t actor = .ok db') :
    Carried db db' := by
  unfold enterCutover at h
  split at h
  · obtain ⟨⟨t', mid⟩, hmove, h⟩ := bind_eq_ok.mp h
    cases h
    exact transitionTask_carried hmove (by decide)
  · cases h
    exact .refl _

lemma commitReceipt_carried {t t' : TaskRow} {lease : EpochLease} {receipt : MigrationExecutionReceipt}
    {proof : TargetProof} {actor : String} (h : commitReceipt cfg db x t lease receipt proof actor = .ok (t', db')) :
    Carried db db' := by
  unfold commitReceipt at h
  obtain ⟨_, -, h⟩ := bind_eq_ok.mp h
  obtain ⟨entered, henter, h⟩ := bind_eq_ok.mp h
  obtain ⟨_, -, h⟩ := bind_eq_ok.mp h
  obtain ⟨⟨t₁, moved⟩, hmove, h⟩ := bind_eq_ok.mp h
  obtain ⟨attested, hattest, h⟩ := bind_eq_ok.mp h
  obtain ⟨closed, hclose, h⟩ := bind_eq_ok.mp h
  cases h
  unfold completeInTransaction at hclose
  obtain ⟨_, -, hclose⟩ := bind_eq_ok.mp hclose
  exact (((enterCutover_carried henter).trans (transitionTask_carried hmove (by decide))).trans
    (attestCommit_carried hattest)).trans (closeEpoch_carried hclose)

lemma bindRecovery_carried {taskId epochId : Id} (h : bindRecovery db x taskId epochId = .ok db') : Carried db db' := by
  unfold bindRecovery at h
  obtain ⟨t, ht, h⟩ := bind_eq_ok.mp h
  obtain ⟨_, -, h⟩ := bind_eq_ok.mp h
  obtain ⟨_, -, h⟩ := bind_eq_ok.mp h
  cases h
  have hfind : db.tasks.find? taskId = some t := orRaise_eq_ok.mp ht
  refine .of_replace (t := t) ?_ ⟨rfl, rfl, rfl, rfl, rfl, id⟩ .inl
  change db.tasks.find? t.taskId = some t
  rw [taskId_of_find? hfind]
  exact hfind

lemma markTaskFailed_carried {taskId : Id} {code : String} : Carried db (markTaskFailed db x taskId code) := by
  unfold markTaskFailed
  split
  · next t ht =>
    have hfind : db.tasks.find? taskId = some t := (Option.filter_eq_some_iff.mp ht).1
    refine .of_replace (t := t) ?_ ⟨rfl, rfl, rfl, rfl, rfl, fun h => by simp at h⟩ (fun h => by simp at h)
    change db.tasks.find? t.taskId = some t
    rw [taskId_of_find? hfind]
    exact hfind
  · exact .refl _

/-- New approvals never take an identity away. -/
lemma identities_mono {mode : ApprovalMode} {rows rows' : List ApprovalRow} (h : rows ⊆ rows') :
    (identities mode rows).length ≤ (identities mode rows').length := by
  apply List.Subperm.length_le
  apply List.subperm_of_subset (List.nodup_dedup _)
  intro i hi
  rw [List.mem_dedup, List.mem_filterMap] at hi
  obtain ⟨a, ha, hai⟩ := hi
  exact List.mem_dedup.mpr (List.mem_filterMap.mpr ⟨a, h ha, hai⟩)

/-- The tables the invariant reads are kept, and no policy is lost. -/
lemma Accounted.of_policies (ha : Accounted db) (htasks : db'.tasks = db.tasks)
    (hproposals : db'.proposals = db.proposals)
    (happrovals : db'.approvals = db.approvals) (hpolicy : ∀ s p, db.policy s = some p → ∃ p', db'.policy s = some p') :
    Accounted db' where
  approval := by
    rw [happrovals, hproposals]
    exact ha.approval
  linked := by
    rw [htasks, hproposals]
    exact ha.linked
  approved := by
    intro t ht hs p hp hid
    rw [Enough, Db.approvalsOf, happrovals]
    exact ha.approved t (htasks ▸ ht) hs p (hproposals ▸ hp) hid
  governed := by
    intro t ht hs
    obtain ⟨policy, hp⟩ := ha.governed t (htasks ▸ ht) hs
    exact hpolicy _ _ hp

lemma ensurePolicy_same {subjectId : Id} (h : ensurePolicy db x subjectId = .ok db') :
    db'.tasks = db.tasks ∧ db'.proposals = db.proposals ∧ db'.approvals = db.approvals := by
  unfold ensurePolicy at h
  obtain ⟨_, -, h⟩ := bind_eq_ok.mp h
  split at h <;> cases h <;> exact ⟨rfl, rfl, rfl⟩

lemma ensurePolicy_accounted {subjectId : Id} (h : ensurePolicy db x subjectId = .ok db') (ha : Accounted db) :
    Accounted db' := by
  obtain ⟨htasks, hproposals, happrovals⟩ := ensurePolicy_same h
  exact ha.of_policies htasks hproposals happrovals (fun s p hp => ⟨p, (ensurePolicy_frame h).policy s p hp⟩)

lemma updatePolicy_same {subjectId : Id} {expected : Nat} {patch : PolicyPatch} {actor : String} {p : MigrationPolicy}
    (h : updatePolicy db x subjectId expected patch actor = .ok (p, db')) :
    db'.tasks = db.tasks ∧ db'.proposals = db.proposals ∧ db'.approvals = db.approvals := by
  obtain ⟨current, mid, hensure, -, -, -, rfl⟩ := updatePolicy_cases h
  have hsame := ensurePolicy_same hensure
  exact hsame

lemma updatePolicy_accounted {subjectId : Id} {expected : Nat} {patch : PolicyPatch} {actor : String}
    {p : MigrationPolicy} (h : updatePolicy db x subjectId expected patch actor = .ok (p, db')) (ha : Accounted db) :
    Accounted db' := by
  obtain ⟨htasks, hproposals, happrovals⟩ := updatePolicy_same h
  refine ha.of_policies htasks hproposals happrovals ?_
  obtain ⟨current, mid, hensure, hcurrent, hsubject, -, rfl⟩ := updatePolicy_cases h
  intro s q hq
  have hmid := (ensurePolicy_frame hensure).policy s q hq
  by_cases hs : s = p.subjectId
  · refine ⟨p, ?_⟩
    have hfound : mid.policies.find? p.subjectId = some current := hsubject ▸ hcurrent
    rw [hs]
    exact Table.find?_replace_self hfound
  · refine ⟨q, ?_⟩
    change (mid.policies.replace p).find? s = some q
    rw [Table.find?_replace_ne hs]
    exact hmid

/-- A new proposal. -/
lemma Accounted.insertProposal {p : ProposalRow} {proposals : Table ProposalRow.proposalId} (ha : Accounted db)
    (hins : db.proposals.insert? p = some proposals) : Accounted { db with proposals } := by
  have hnew : db.proposals.find? p.proposalId = none := by
    rw [Table.find?_eq_none]
    exact (Table.insert?_eq_some.mp hins).1
  have hkept : ∀ id q, db.proposals.find? id = some q → proposals.find? id = some q := by
    intro id q hq
    rw [Table.find?_insert hins]
    have hne : id ≠ p.proposalId := by
      rintro rfl
      rw [hnew] at hq
      exact absurd hq (by simp)
    rw [if_neg hne]
    exact hq
  refine ⟨?_, ?_, ?_, ha.governed⟩
  · intro a haa
    obtain ⟨q, hq, hrev⟩ := ha.approval a haa
    exact ⟨q, hkept _ q hq, hrev⟩
  · intro t ht
    obtain ⟨q, hq, hl⟩ := ha.linked t ht
    exact ⟨q, (Table.find?_eq_some.mp (hkept _ q (Table.find?_key hq))).1, hl⟩
  · intro t ht hs q hq hid
    obtain ⟨q₀, hq₀, hl⟩ := ha.linked t ht
    have hfind := hkept _ q₀ (Table.find?_key hq₀)
    obtain rfl : q = q₀ := Table.eq_of_key hq (Table.find?_eq_some.mp hfind).1 (hid.trans hl.proposal)
    exact ha.approved t ht hs q hq₀ hid

/-- A decision on a proposal. -/
lemma Accounted.decided {p : ProposalRow} {status : ProposalStatus} {reason : String} (ha : Accounted db)
    (hp : db.proposals.find? p.proposalId = some p) : Accounted (setProposalStatus db x p status reason) := by
  have hfind : db.proposals.find? (p.decided status reason x.now).proposalId = some p := hp
  have hmem : p.decided status reason x.now ∈ db.proposals.replace (p.decided status reason x.now) :=
    (Table.find?_eq_some.mp (Table.find?_replace_self hfind)).1
  refine ⟨?_, ?_, ?_, ha.governed⟩
  · intro a haa
    obtain ⟨q, hq, hrev⟩ := ha.approval a haa
    by_cases hid : a.proposalId = p.proposalId
    · obtain rfl : q = p := Option.some.inj (hq.symm.trans (hid ▸ hp))
      refine ⟨q.decided status reason x.now, ?_, hrev⟩
      rw [hid]
      exact Table.find?_replace_self hfind
    · refine ⟨q, ?_, hrev⟩
      have hne : a.proposalId ≠ (p.decided status reason x.now).proposalId := hid
      change (db.proposals.replace (p.decided status reason x.now)).find? a.proposalId = some q
      rw [Table.find?_replace_ne hne]
      exact hq
  · intro t ht
    obtain ⟨q, hq, hl⟩ := ha.linked t ht
    by_cases hid : q.proposalId = p.proposalId
    · obtain rfl : q = p := Table.eq_of_key hq (Table.find?_eq_some.mp hp).1 hid
      exact ⟨_, hmem, ⟨hl.proposal, hl.subject, hl.revision, hl.expiry⟩⟩
    · exact ⟨q, Table.mem_replace.mpr (.inr ⟨hq, hid⟩), hl⟩
  · intro t ht hs q hq hid
    rcases Table.mem_replace.mp hq with ⟨rfl, -⟩ | ⟨hq, -⟩
    · exact ha.approved t ht hs p (Table.find?_eq_some.mp hp).1 hid
    · exact ha.approved t ht hs q hq hid

/-- A new task. -/
lemma insertTask_accounted {t : TaskRow} {p : ProposalRow} (h : insertTask db t = .ok db') (ha : Accounted db)
    (hp : p ∈ db.proposals) (hl : Linked t p) (henough : t.status = .approved → Enough db p)
    (hpolicy : t.status = .approved → ∃ policy, db.policy t.subjectId = some policy) : Accounted db' := by
  unfold insertTask at h
  obtain ⟨_, -, h⟩ := bind_eq_ok.mp h
  obtain ⟨tasks, hins, h⟩ := bind_eq_ok.mp h
  cases h
  have hmem : ∀ u ∈ tasks, u ∈ db.tasks ∨ u = t := by
    intro u hu
    have hrows := (Table.insert?_eq_some.mp (orRaise_eq_ok.mp hins)).2
    rw [Table.mem_def, hrows] at hu
    simpa [Table.mem_def] using hu
  refine ⟨ha.approval, ?_, ?_, ?_⟩
  · intro u hu
    rcases hmem u hu with hu | rfl
    · exact ha.linked u hu
    · exact ⟨p, hp, hl⟩
  · intro u hu hs q hq hid
    rcases hmem u hu with hu | rfl
    · exact ha.approved u hu hs q hq hid
    · obtain rfl : q = p := Table.eq_of_key hq hp (hid.trans hl.proposal)
      exact henough hs
  · intro u hu hs
    rcases hmem u hu with hu | rfl
    · exact ha.governed u hu hs
    · exact hpolicy hs

/-! ### An approval -/

lemma recordApproval_cases {p : ProposalRow} {actor : String} {binding : Option String}
    (h : recordApproval db x p actor binding = .ok db') :
    db' = db ∨ ∃ a approvals, a.proposalId = p.proposalId ∧ a.policyRevision = p.policyRevision ∧
      db.approvals.insert? a = some approvals ∧ db' = { db with approvals } := by
  unfold recordApproval at h
  split at h
  · cases h
    exact .inl rfl
  · obtain ⟨approvals, hins, h⟩ := bind_eq_ok.mp h
    cases h
    exact .inr ⟨_, approvals, rfl, rfl, orRaise_eq_ok.mp hins, rfl⟩

lemma recordApproval_accounted {p : ProposalRow} {actor : String} {binding : Option String}
    (h : recordApproval db x p actor binding = .ok db') (ha : Accounted db)
    (hp : db.proposals.find? p.proposalId = some p) : Accounted db' := by
  obtain rfl | ⟨a, approvals, hid, hrev, hins, rfl⟩ := recordApproval_cases h
  · exact ha
  · have hrows : approvals.rows = db.approvals.rows ++ [a] := by
      have := (Table.insert?_eq_some.mp hins).2
      simpa using this
    refine ⟨?_, ha.linked, ?_, ha.governed⟩
    · intro b hb
      rw [Table.mem_def, hrows, List.mem_append, List.mem_singleton] at hb
      rcases hb with hb | rfl
      · exact ha.approval b hb
      · exact ⟨p, hid ▸ hp, hrev⟩
    · intro t ht hs q hq hqid
      refine le_trans (ha.approved t ht hs q hq hqid) (identities_mono ?_)
      intro b hb
      rw [Db.approvalsOf, List.mem_filter] at hb ⊢
      exact ⟨hrows ▸ List.mem_append_left _ hb.1, hb.2⟩

/-- The proposal has enough approvals, as `approve` counts them. -/
def enough (db : Db) (p : ProposalRow) : Bool :=
  decide (requiredApprovals p.approvalMode ≤ (identities p.approvalMode (db.approvalsOf p.proposalId)).length)

lemma settleTask_accounted {p : ProposalRow} {actor key : String} {t : TaskRow}
    (h : settleTask db x p actor key (enough db p) = .ok (t, db')) (ha : Accounted db)
    (hp : p ∈ db.proposals) (hpolicy : ∃ policy, db.policy p.subjectId = some policy) : Accounted db' := by
  have henough : enough db p = true → Enough db p := of_decide_eq_true
  unfold settleTask at h
  split at h
  · obtain ⟨mid, hmid, h⟩ := bind_eq_ok.mp h
    cases h
    refine insertTask_accounted hmid ha hp ⟨rfl, rfl, rfl, rfl⟩ ?_ (fun _ => hpolicy)
    intro hs
    apply henough
    by_contra hne
    simp [newTask, hne] at hs
  · next t₀ hfirst =>
    have ht₀ : t₀ ∈ db.tasks := List.mem_of_find?_eq_some hfirst
    have hproposal : t₀.proposalId = p.proposalId := by simpa using List.find?_some hfirst
    split at h
    · next hcond =>
      obtain ⟨u, hu, -, ⟨hsame, -, -⟩ | ⟨-, -, -, -, rfl⟩⟩ := transitionTask_cases h
      · obtain rfl : t₀ = u := Option.some.inj ((Table.find?_key ht₀).symm.trans hu)
        rw [hcond.1] at hsame
        exact absurd hsame (by decide)
      · obtain rfl : t₀ = u := Option.some.inj ((Table.find?_key ht₀).symm.trans hu)
        obtain ⟨q, hq, hl⟩ := ha.linked t₀ ht₀
        obtain rfl : q = p := Table.eq_of_key hq hp (hl.proposal.symm.trans hproposal)
        refine ⟨ha.approval, ?_, ?_, ?_⟩
        · intro v hv
          rcases Table.mem_replace.mp hv with ⟨rfl, -⟩ | ⟨hv, -⟩
          · exact ⟨q, hq, hl.proposal, hl.subject, hl.revision, hl.expiry⟩
          · exact ha.linked v hv
        · intro v hv hs r hr hid
          rcases Table.mem_replace.mp hv with ⟨rfl, -⟩ | ⟨hv, -⟩
          · obtain rfl : r = q := Table.eq_of_key hr hq (hid.trans hproposal)
            exact henough hcond.2
          · exact ha.approved v hv hs r hr hid
        · intro v hv hs
          rcases Table.mem_replace.mp hv with ⟨rfl, -⟩ | ⟨hv, -⟩
          · obtain ⟨policy, hpol⟩ := hpolicy
            exact ⟨policy, by rw [← hpol, ← hl.subject]; rfl⟩
          · exact ha.governed v hv hs
    · cases h
      exact ha

/-- What an approval does. -/
lemma approve_cases {proposalId : Id} {r : Reviewer} {key : String} {result : Except MigrationError TaskRow}
    (h : approve cfg requirePrincipal db x proposalId r key = .ok (result, db')) :
    ∃ p, db.proposals.find? proposalId = some p ∧ (db' = db ∨
      (p.status ∈ proposalActive ∧ (∃ policy, db.policy p.subjectId = some policy) ∧
        (db' = setProposalStatus db x p .expired "proposal expired" ∨
          ∃ binding recorded t settled, recordApproval db x p r.actor binding = .ok recorded ∧
            settleTask recorded x p r.actor key (enough recorded p) = .ok (t, settled) ∧
            db' = settleProposal settled x p r.actor (enough recorded p)))) := by
  unfold approve at h
  obtain ⟨_, -, h⟩ := bind_eq_ok.mp h
  obtain ⟨binding, -, h⟩ := bind_eq_ok.mp h
  obtain ⟨_, -, h⟩ := bind_eq_ok.mp h
  obtain ⟨p, hp, h⟩ := bind_eq_ok.mp h
  obtain ⟨_, -, h⟩ := bind_eq_ok.mp h
  refine ⟨p, orRaise_eq_ok.mp hp, ?_⟩
  split at h
  · cases h
    exact .inl rfl
  · obtain ⟨_, hpending, h⟩ := bind_eq_ok.mp h
    have hstanding : p.status ∈ proposalActive ∧ ∃ policy, db.policy p.subjectId = some policy := by
      unfold checkPending at hpending
      obtain ⟨_, hactive, hpending⟩ := bind_eq_ok.mp hpending
      obtain ⟨policy, hpolicy, -⟩ := bind_eq_ok.mp hpending
      exact ⟨by simpa using hactive, policy, orRaise_eq_ok.mp hpolicy⟩
    refine .inr ⟨hstanding.1, hstanding.2, ?_⟩
    split at h
    · cases h
      exact .inl rfl
    · obtain ⟨⟨t, mid⟩, hsettled, h⟩ := bind_eq_ok.mp h
      cases h
      unfold approvePending at hsettled
      obtain ⟨_, -, hsettled⟩ := bind_eq_ok.mp hsettled
      obtain ⟨_, -, hsettled⟩ := bind_eq_ok.mp hsettled
      obtain ⟨_, -, hsettled⟩ := bind_eq_ok.mp hsettled
      obtain ⟨recorded, hrecord, hsettled⟩ := bind_eq_ok.mp hsettled
      obtain ⟨⟨t', settled⟩, hsettle, hsettled⟩ := bind_eq_ok.mp hsettled
      cases hsettled
      exact .inr ⟨binding, recorded, t, settled, hrecord, hsettle, rfl⟩

lemma recordApproval_proposals {p : ProposalRow} {actor : String} {binding : Option String}
    (h : recordApproval db x p actor binding = .ok db') :
    db'.proposals = db.proposals ∧ db'.policies = db.policies := by
  obtain rfl | ⟨a, approvals, -, -, -, rfl⟩ := recordApproval_cases h <;> exact ⟨rfl, rfl⟩

lemma insertTask_proposals {t : TaskRow} (h : insertTask db t = .ok db') : db'.proposals = db.proposals := by
  unfold insertTask at h
  obtain ⟨_, -, h⟩ := bind_eq_ok.mp h
  obtain ⟨tasks, -, h⟩ := bind_eq_ok.mp h
  cases h
  rfl

lemma settleTask_proposals {p : ProposalRow} {actor key : String} {b : Bool} {t : TaskRow}
    (h : settleTask db x p actor key b = .ok (t, db')) : db'.proposals = db.proposals := by
  unfold settleTask at h
  split at h
  · obtain ⟨mid, hmid, h⟩ := bind_eq_ok.mp h
    cases h
    exact insertTask_proposals hmid
  · split at h
    · obtain ⟨u, -, -, ⟨-, -, rfl⟩ | ⟨-, -, -, -, rfl⟩⟩ := transitionTask_cases h <;> rfl
    · cases h
      rfl

lemma settleProposal_accounted {p : ProposalRow} {actor : String} {b : Bool} (ha : Accounted db)
    (hp : db.proposals.find? p.proposalId = some p) : Accounted (settleProposal db x p actor b) := by
  unfold settleProposal
  split
  · exact ha.decided hp
  · exact ha

lemma approve_accounted {proposalId : Id} {r : Reviewer} {key : String} {result : Except MigrationError TaskRow}
    (h : approve cfg requirePrincipal db x proposalId r key = .ok (result, db')) (ha : Accounted db) :
    Accounted db' := by
  obtain ⟨p, hp, rfl | ⟨-, hpolicy, rfl | ⟨binding, recorded, t, settled, hrecord, hsettle, rfl⟩⟩⟩ := approve_cases h
  · exact ha
  · have hkey : p.proposalId = proposalId := (Table.find?_eq_some.mp hp).2
    exact ha.decided (hkey ▸ hp)
  · have hkey : p.proposalId = proposalId := (Table.find?_eq_some.mp hp).2
    have hfind : db.proposals.find? p.proposalId = some p := hkey ▸ hp
    obtain ⟨hproposals, hpolicies⟩ := recordApproval_proposals hrecord
    have hrecorded : recorded.proposals.find? p.proposalId = some p := hproposals ▸ hfind
    obtain ⟨policy, hpol⟩ := hpolicy
    have hpol' : recorded.policy p.subjectId = some policy := by
      rw [Db.policy, hpolicies]
      exact hpol
    have hsettled := settleTask_accounted hsettle (recordApproval_accounted hrecord ha hfind)
      (Table.find?_eq_some.mp hrecorded).1 ⟨policy, hpol'⟩
    refine settleProposal_accounted hsettled ?_
    rw [settleTask_proposals hsettle]
    exact hrecorded

lemma recoverTask_cases {request : RecoveryRequest} {policy : MigrationPolicy} {served : Option TaskRow}
    (h : recoverTask cfg db x request policy = .ok (served, db')) :
    db' = db ∨ ∃ epoch proposals, db.proposals.insert? (recoveryProposal cfg x request policy) = some proposals ∧
      insertTask { db with proposals } (recoveryTask x request policy epoch) = .ok db' := by
  unfold recoverTask at h
  obtain ⟨epoch, -, h⟩ := bind_eq_ok.mp h
  obtain ⟨_, -, h⟩ := bind_eq_ok.mp h
  split at h
  · cases h
    exact .inl rfl
  · obtain ⟨_, -, h⟩ := bind_eq_ok.mp h
    obtain ⟨mid, hmid, h⟩ := bind_eq_ok.mp h
    cases h
    unfold ensureRecovery at hmid
    split at hmid
    · unfold createRecovery at hmid
      obtain ⟨proposals, hins, hmid⟩ := bind_eq_ok.mp hmid
      exact .inr ⟨epoch, proposals, orRaise_eq_ok.mp hins, hmid⟩
    · cases hmid
      exact .inl rfl

lemma recoverTask_accounted {request : RecoveryRequest} {policy : MigrationPolicy} {served : Option TaskRow}
    (h : recoverTask cfg db x request policy = .ok (served, db')) (ha : Accounted db) : Accounted db' := by
  obtain rfl | ⟨epoch, proposals, hins, hmid⟩ := recoverTask_cases h
  · exact ha
  · have hfind : proposals.find? (recoveryProposal cfg x request policy).proposalId =
        some (recoveryProposal cfg x request policy) := by
      rw [Table.find?_insert hins, if_pos rfl]
    refine insertTask_accounted hmid (ha.insertProposal hins) (Table.find?_eq_some.mp hfind).1 ⟨rfl, rfl, rfl, rfl⟩ ?_
      ?_
    · intro hs
      exact absurd hs (by simp [recoveryTask])
    · intro hs
      exact absurd hs (by simp [recoveryTask])

lemma createProposal_cases {input : ProposalInput} {p : ProposalRow}
    (h : createProposal cfg db x input = .ok (p, db')) :
    ∃ mid proposals, ensurePolicy db x input.subjectId = .ok mid ∧ p.status = .awaitingApproval ∧
      mid.proposals.insert? p = some proposals ∧ db' = { mid with proposals } := by
  unfold createProposal at h
  obtain ⟨_, -, h⟩ := bind_eq_ok.mp h
  obtain ⟨_, -, h⟩ := bind_eq_ok.mp h
  obtain ⟨_, -, h⟩ := bind_eq_ok.mp h
  obtain ⟨⟨policy, mid⟩, hread, h⟩ := bind_eq_ok.mp h
  obtain ⟨_, -, h⟩ := bind_eq_ok.mp h
  obtain ⟨_, -, h⟩ := bind_eq_ok.mp h
  obtain ⟨_, -, h⟩ := bind_eq_ok.mp h
  obtain ⟨_, -, h⟩ := bind_eq_ok.mp h
  obtain ⟨proposals, hins, h⟩ := bind_eq_ok.mp h
  cases h
  exact ⟨mid, proposals, (readPolicy_cases hread).1, rfl, orRaise_eq_ok.mp hins, rfl⟩

lemma reject_cases {proposalId : Id} {actor reason : String} {p : ProposalRow}
    (h : reject db x proposalId actor reason = .ok (p, db')) :
    ∃ row, db.proposals.find? proposalId = some row ∧ ((row.status = .rejected ∧ db' = db) ∨
      ∃ rejections, db' = { setProposalStatus db x row .rejected (strip reason) with rejections }) := by
  unfold reject at h
  obtain ⟨_, -, h⟩ := bind_eq_ok.mp h
  obtain ⟨_, -, h⟩ := bind_eq_ok.mp h
  obtain ⟨row, hrow, h⟩ := bind_eq_ok.mp h
  refine ⟨row, orRaise_eq_ok.mp hrow, ?_⟩
  split at h
  · next hs =>
    cases h
    exact .inl ⟨hs, rfl⟩
  · obtain ⟨_, -, h⟩ := bind_eq_ok.mp h
    obtain ⟨rejections, -, h⟩ := bind_eq_ok.mp h
    cases h
    exact .inr ⟨rejections, rfl⟩

/-! ### Every transaction -/

/-- The transactions that write neither policies nor proposals nor approvals. -/
def tasksOnly : Tx → Bool
  | .readPolicy _ | .updatePolicy .. | .createProposal _ | .approve .. | .reject .. | .recoverTask .. => false
  | _ => true

lemma exec_carried {tx : Tx} {r : tx.Reply} (h : tx.exec cfg requirePrincipal x db = .ok (r, db'))
    (hd : Disciplined tx) (hk : tasksOnly tx = true) : Carried db db' := by
  have hread : ∀ {α : Type} {r : Except MigrationError α} {a : α}, reading db r = .ok (a, db') → Carried db db' := by
    intro α r a hr
    rw [reading_cases hr]
    exact .refl db
  cases tx with
  | addSubject s => cases h; exact .of_same rfl rfl rfl rfl
  | setRuntime s v => cases h; exact .of_same rfl rfl rfl rfl
  | putTarget row => cases h; exact .of_same rfl rfl rfl rfl
  | clock => cases h; exact .refl _
  | readPolicy s => cases hk
  | automationAllowed p => exact hread h
  | updatePolicy s rev patch actor => cases hk
  | createProposal input => cases hk
  | approve proposalId reviewer key => cases hk
  | reject proposalId actor reason => cases hk
  | getTask id => exact hread h
  | transition id status actor f =>
    refine transitionTask_carried h ?_
    rintro rfl
    exact absurd hd (by simp [Disciplined, ordinary])
  | reserve t p actor => exact reserve_carried h
  | verifyProof t proof => exact hread h
  | epochForTask id => cases h; exact .refl _
  | checkAcquire s tgt proof => exact hread h
  | acquire s tgt epoch actor =>
    obtain ⟨_, -, h⟩ := bind_eq_ok.mp h
    exact acquireInTransaction_carried h
  | recordProof s id proof => cases h; exact .of_same rfl rfl rfl rfl
  | proofForTask id => exact hread h
  | assertCurrent l => exact hread h
  | commitReceipt t l receipt proof actor => exact commitReceipt_carried h
  | finishRollback id l reason actor => exact finishRollback_carried h
  | verifyBackup => exact hread h
  | recoverTask request p => cases hk
  | bindRecovery id eid =>
    cases hb : bindRecovery db x id eid with
    | error e =>
      change writing (bindRecovery db x id eid) = _ at h
      rw [hb] at h
      cases h
    | ok mid =>
      change writing (bindRecovery db x id eid) = _ at h
      rw [hb] at h
      cases h
      exact bindRecovery_carried hb
  | markTaskFailed id code => cases h; exact markTaskFailed_carried
  | buildArtifact => exact hread h
  | verifyTarget => exact hread h
  | activateTarget => exact hread h
  | deactivateTarget => exact hread h

lemma exec_accounted {tx : Tx} {r : tx.Reply} (h : tx.exec cfg requirePrincipal x db = .ok (r, db'))
    (hd : Disciplined tx) (ha : Accounted db) : Accounted db' := by
  cases tx with
  | readPolicy s => exact ensurePolicy_accounted (readPolicy_cases h).1 ha
  | updatePolicy s rev patch actor => exact updatePolicy_accounted h ha
  | createProposal input =>
    obtain ⟨mid, proposals, hensure, -, hins, rfl⟩ := createProposal_cases h
    exact (ensurePolicy_accounted hensure ha).insertProposal hins
  | approve proposalId reviewer key => exact approve_accounted h ha
  | reject proposalId actor reason =>
    obtain ⟨row, hrow, ⟨-, rfl⟩ | ⟨rejections, rfl⟩⟩ := reject_cases h
    · exact ha
    · have hkey : row.proposalId = proposalId := (Table.find?_eq_some.mp hrow).2
      exact (ha.decided (hkey ▸ hrow)).of_policies rfl rfl rfl (fun s p hp => ⟨p, hp⟩)
  | recoverTask request p => exact recoverTask_accounted h ha
  | _ => exact (exec_carried h hd rfl).accounted ha

end Noyra.Migration.Proofs
