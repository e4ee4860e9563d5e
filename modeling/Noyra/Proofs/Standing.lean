import Noyra.Proofs.Approvals
import Noyra.Proofs.Release

/-!
# Which approvals still stand

A task that leaves `approved` has the approvals it needs under the policy in force, in every run. That its
proposal has been neither rejected nor expired is checked by no transaction: it holds exactly if the proposal
happens to be so at that moment.
-/

namespace Noyra.Migration.Proofs
open Noyra.Lib
open Noyra.Wallet (Id)

variable {cfg : Config} {requirePrincipal : Bool} {db db' : Db} {x : Reading}

/-- The proposal is rejected. -/
def RejectedIn (db : Db) (proposalId : Id) : Prop :=
  ∃ p, db.proposals.find? proposalId = some p ∧ p.status = .rejected

/-- A rejection of the proposal has been committed. -/
def RejectedBefore (past : List (Tx × Reading)) (proposalId : Id) : Prop :=
  ∃ actor reason y, (Tx.reject proposalId actor reason, y) ∈ past

lemma rejectedIn_of_proposals (h : db'.proposals = db.proposals) (id : Id) : RejectedIn db' id ↔ RejectedIn db id := by
  rw [RejectedIn, RejectedIn, h]

lemma rejectedIn_insert {p : ProposalRow} {proposals : Table ProposalRow.proposalId}
    (hins : db.proposals.insert? p = some proposals) (hp : p.status ≠ .rejected) (hdb : db'.proposals = proposals)
    (id : Id) :
    RejectedIn db' id ↔ RejectedIn db id := by
  have hnew : db.proposals.find? p.proposalId = none := by
    rw [Table.find?_eq_none]
    exact (Table.insert?_eq_some.mp hins).1
  rw [RejectedIn, RejectedIn, hdb, Table.find?_insert hins]
  by_cases hid : id = p.proposalId
  · rw [if_pos hid, hid, hnew]
    simp [hp]
  · rw [if_neg hid]

lemma rejectedIn_decided {p : ProposalRow} (hp : db.proposals.find? p.proposalId = some p) (x : Reading)
    (status : ProposalStatus) (reason : String) (id : Id) :
    RejectedIn (setProposalStatus db x p status reason) id ↔
      (id = p.proposalId ∧ status = .rejected) ∨ (id ≠ p.proposalId ∧ RejectedIn db id) := by
  have hfind : db.proposals.find? (p.decided status reason x.now).proposalId = some p := hp
  have hkey : (p.decided status reason x.now).proposalId = p.proposalId := rfl
  change (∃ q, (db.proposals.replace (p.decided status reason x.now)).find? id = some q ∧ q.status = .rejected) ↔ _
  rw [Table.find?_replace hfind]
  by_cases hid : id = p.proposalId
  · rw [if_pos (hkey ▸ hid)]
    simp [hid, ProposalRow.decided]
  · rw [if_neg (hkey ▸ hid)]
    simp [hid, RejectedIn]

/-- A decision that is not a rejection, on a proposal that is not rejected. -/
lemma rejectedIn_decided_iff {p : ProposalRow} {status : ProposalStatus} {reason : String}
    (hp : db.proposals.find? p.proposalId = some p) (hs : status ≠ .rejected) (hactive : p.status ∈ proposalActive)
    (id : Id) :
    RejectedIn (setProposalStatus db x p status reason) id ↔ RejectedIn db id := by
  rw [rejectedIn_decided hp x status reason id]
  by_cases hid : id = p.proposalId
  · subst hid
    have hno : ¬RejectedIn db p.proposalId := by
      rintro ⟨q, hq, hrej⟩
      obtain rfl : q = p := Option.some.inj (hq.symm.trans hp)
      rw [hrej] at hactive
      exact absurd hactive (by decide)
    simp [hs, hno]
  · simp [hid]

/-- A transaction other than a rejection rejects nothing, and takes no rejection back. -/
lemma exec_rejectedIn {tx : Tx} {r : tx.Reply} (h : tx.exec cfg requirePrincipal x db = .ok (r, db'))
    (hd : Disciplined tx) (htx : ∀ pid actor reason, tx ≠ .reject pid actor reason) (id : Id) :
    RejectedIn db' id ↔ RejectedIn db id := by
  cases tx with
  | readPolicy s => exact rejectedIn_of_proposals (ensurePolicy_same (readPolicy_cases h).1).2.1 id
  | updatePolicy s rev patch actor => exact rejectedIn_of_proposals (updatePolicy_same h).2.1 id
  | createProposal input =>
    obtain ⟨mid, proposals, hensure, hstatus, hins, rfl⟩ := createProposal_cases h
    rw [← rejectedIn_of_proposals (ensurePolicy_same hensure).2.1 id]
    exact rejectedIn_insert hins (by rw [hstatus]; decide) rfl id
  | approve proposalId reviewer key =>
    obtain ⟨p, hp, rfl | ⟨hactive, -, rfl | ⟨binding, recorded, t, settled, hrecord, hsettle, rfl⟩⟩⟩ := approve_cases h
    · exact Iff.rfl
    · have hkey : p.proposalId = proposalId := (Table.find?_eq_some.mp hp).2
      exact rejectedIn_decided_iff (hkey ▸ hp) (by decide) hactive id
    · have hkey : p.proposalId = proposalId := (Table.find?_eq_some.mp hp).2
      have hsame : settled.proposals = db.proposals :=
        (settleTask_proposals hsettle).trans (recordApproval_proposals hrecord).1
      have hfind : settled.proposals.find? p.proposalId = some p := by
        rw [hsame]
        exact hkey ▸ hp
      rw [← rejectedIn_of_proposals hsame id]
      unfold settleProposal
      split
      · exact rejectedIn_decided_iff hfind (by decide) hactive id
      · exact Iff.rfl
  | reject proposalId actor reason => exact absurd rfl (htx proposalId actor reason)
  | recoverTask request p =>
    obtain rfl | ⟨epoch, proposals, hins, hmid⟩ := recoverTask_cases h
    · exact Iff.rfl
    · exact rejectedIn_insert hins (by simp [recoveryProposal]) (insertTask_proposals hmid) id
  | _ => exact rejectedIn_of_proposals (exec_carried h hd rfl).proposals id

/-- A proposal is rejected exactly if a rejection of it has been committed. -/
def Judged (db : Db) (past : List (Tx × Reading)) : Prop := ∀ id, RejectedIn db id ↔ RejectedBefore past id

lemma exec_judged {tx : Tx} {r : tx.Reply} {past : List (Tx × Reading)}
    (h : tx.exec cfg requirePrincipal x db = .ok (r, db')) (hd : Disciplined tx) (hj : Judged db past) :
    Judged db' (past ++ [(tx, x)]) := by
  intro id
  by_cases hreject : ∃ pid actor reason, tx = .reject pid actor reason
  · obtain ⟨pid, actor, reason, rfl⟩ := hreject
    have hafter : RejectedIn db' id ↔ id = pid ∨ RejectedIn db id := by
      obtain ⟨row, hrow, ⟨hs, rfl⟩ | ⟨rejections, rfl⟩⟩ := reject_cases h
      · constructor
        · exact .inr
        · rintro (rfl | hr)
          · exact ⟨row, hrow, hs⟩
          · exact hr
      · have hkey : row.proposalId = pid := (Table.find?_eq_some.mp hrow).2
        have hdecided := rejectedIn_decided (hkey ▸ hrow) x .rejected (strip reason) id
        rw [hkey] at hdecided
        change RejectedIn (setProposalStatus db x row .rejected (strip reason)) id ↔ _
        by_cases hid : id = pid
        · simp only [hid, true_or, iff_true]
          rw [hid] at hdecided
          exact hdecided.mpr (.inl ⟨rfl, rfl⟩)
        · simpa [hid] using hdecided
    rw [hafter, hj id]
    constructor
    · rintro (rfl | ⟨a, b, y, hmem⟩)
      · exact ⟨actor, reason, x, by simp⟩
      · exact ⟨a, b, y, List.mem_append_left _ hmem⟩
    · rintro ⟨a, b, y, hmem⟩
      rcases List.mem_append.mp hmem with hmem | hnew
      · exact .inr ⟨a, b, y, hmem⟩
      · have heq := List.mem_singleton.mp hnew
        cases heq
        exact .inl rfl
  · have htx : ∀ pid actor reason, tx ≠ .reject pid actor reason := by
      intro pid actor reason he
      exact hreject ⟨pid, actor, reason, he⟩
    rw [exec_rejectedIn h hd htx id, hj id]
    constructor
    · rintro ⟨a, b, y, hmem⟩
      exact ⟨a, b, y, List.mem_append_left _ hmem⟩
    · rintro ⟨a, b, y, hmem⟩
      rcases List.mem_append.mp hmem with hmem | hnew
      · exact ⟨a, b, y, hmem⟩
      · have heq := List.mem_singleton.mp hnew
        exact absurd (congrArg Prod.fst heq).symm (htx id a b)

lemma insertTask_mem {t u : TaskRow} (h : insertTask db t = .ok db') (hu : u ∈ db'.tasks) : u ∈ db.tasks ∨ u = t := by
  unfold insertTask at h
  obtain ⟨_, -, h⟩ := bind_eq_ok.mp h
  obtain ⟨tasks, hins, h⟩ := bind_eq_ok.mp h
  cases h
  have hrows := (Table.insert?_eq_some.mp (orRaise_eq_ok.mp hins)).2
  rw [Table.mem_def, hrows] at hu
  simpa [Table.mem_def] using hu

/-- An approval starts no task. -/
lemma settleTask_preparing {p : ProposalRow} {actor key : String} {b : Bool} {t u : TaskRow}
    (h : settleTask db x p actor key b = .ok (t, db')) (hu : u ∈ db'.tasks) (hs : u.status = .preparing) :
    u ∈ db.tasks := by
  unfold settleTask at h
  split at h
  · obtain ⟨mid, hmid, h⟩ := bind_eq_ok.mp h
    cases h
    rcases insertTask_mem hmid hu with hu | rfl
    · exact hu
    · cases b <;> simp [newTask] at hs
  · split at h
    · obtain ⟨v, -, -, ⟨-, -, rfl⟩ | ⟨-, -, -, -, rfl⟩⟩ := transitionTask_cases h
      · exact hu
      · rcases Table.mem_replace.mp hu with ⟨rfl, -⟩ | ⟨hu, -⟩
        · exact absurd hs (by simp [TaskRow.moved])
        · exact hu
    · cases h
      exact hu

/-- The other transactions start no task either. -/
lemma exec_preparing {tx : Tx} {r : tx.Reply} {u : TaskRow} (h : tx.exec cfg requirePrincipal x db = .ok (r, db'))
    (hk : tasksOnly tx = false) (hu : u ∈ db'.tasks) (hs : u.status = .preparing) : u ∈ db.tasks := by
  cases tx with
  | readPolicy s => exact (ensurePolicy_same (readPolicy_cases h).1).1 ▸ hu
  | updatePolicy s rev patch actor => exact (updatePolicy_same h).1 ▸ hu
  | createProposal input =>
    obtain ⟨mid, proposals, hensure, -, -, rfl⟩ := createProposal_cases h
    exact (ensurePolicy_same hensure).1 ▸ hu
  | approve proposalId reviewer key =>
    obtain ⟨p, -, rfl | ⟨-, -, rfl | ⟨binding, recorded, t, settled, hrecord, hsettle, rfl⟩⟩⟩ := approve_cases h
    · exact hu
    · exact hu
    · rw [settleProposal_frame.tasks] at hu
      exact (recordApproval_frame hrecord).tasks ▸ settleTask_preparing hsettle hu hs
  | reject proposalId actor reason =>
    obtain ⟨row, -, ⟨-, rfl⟩ | ⟨rejections, rfl⟩⟩ := reject_cases h
    · exact hu
    · exact hu
  | recoverTask request p =>
    obtain rfl | ⟨epoch, proposals, -, hmid⟩ := recoverTask_cases h
    · exact hu
    · rcases insertTask_mem hmid hu with hu | rfl
      · exact hu
      · exact absurd hs (by simp [recoveryTask])
  | _ => cases hk

/-- A task that leaves `approved` does so under the policy in force. -/
lemma departure_inForce {tx : Tx} {r : tx.Reply} {t t' : TaskRow} (h : tx.exec cfg requirePrincipal x db = .ok (r, db'))
    (hd : Disciplined tx) (ht : db.tasks.find? t.taskId = some t) (hs : t.status = .approved)
    (ht' : db'.tasks.find? t.taskId = some t') (hs' : t'.status = .preparing) : InForce db t := by
  have hkey : t'.taskId = t.taskId := taskId_of_find? ht'
  cases hk : tasksOnly tx with
  | true =>
    obtain ⟨u, hu, hc, hstart⟩ := (exec_carried h hd hk).task t' (Table.find?_eq_some.mp ht').1
    obtain rfl : u = t := Table.eq_of_key hu (Table.find?_eq_some.mp ht).1 (hc.key.symm.trans hkey)
    rcases hstart hs' with hprep | hforce
    · rw [hs] at hprep
      exact absurd hprep (by decide)
    · exact hforce
  | false =>
    have hold := exec_preparing h hk (Table.find?_eq_some.mp ht').1 hs'
    obtain rfl : t' = t := Table.eq_of_key hold (Table.find?_eq_some.mp ht).1 hkey
    rw [hs] at hs'
    exact absurd hs' (by decide)

/-- The approval of the task stands: enough distinct reviewers have approved its proposal under the revision in
force, no rejection of it has been committed, and it has not expired. -/
def StandingApproval (db : Db) (past : List (Tx × Reading)) (now : Time) (t : TaskRow) : Prop :=
  ∃ p policy, db.proposals.find? t.proposalId = some p ∧ db.policy t.subjectId = some policy ∧
    requiredApprovals p.approvalMode ≤ (identities p.approvalMode
      ((db.approvalsOf p.proposalId).filter (fun a => a.policyRevision = policy.revision))).length ∧
    (∀ actor reason y, (Tx.reject p.proposalId actor reason, y) ∉ past) ∧ now < p.expiresAt

lemma judged_of_reachable {s : Store.Running Db Reading Tx.Reply MigrationError}
    (h : (machine cfg requirePrincipal).Reachable s) : Accounted s.state ∧ Judged s.state s.history := by
  refine Store.history_of_reachable (J := fun db past => Accounted db ∧ Judged db past) entry_all ?_ ?_ h
  · rintro db rfl
    refine ⟨accounted_empty, fun id => ⟨?_, ?_⟩⟩
    · rintro ⟨p, hp, -⟩
      exact absurd hp (by simp [Db.empty, Table.find?])
    · rintro ⟨a, b, y, hmem⟩
      exact absurd hmem (by simp)
  · intro tx y db r db' past hd hj hexec
    exact ⟨exec_accounted hexec hd hj.1, exec_judged hexec hd hj.2⟩

/-- When a task leaves `approved`, its approval stands exactly if its proposal is not rejected and has not
expired: the transactions check nothing of the two. -/
theorem standingApproval_iff {s : Store.Running Db Reading Tx.Reply MigrationError} {i : Nat} {t t' : TaskRow}
    (h : (machine cfg requirePrincipal).Reachable s) (ht : s.state.tasks.find? t.taskId = some t)
    (hs : t.status = .approved)
    (ht' : ((machine cfg requirePrincipal).step s (.advance i x)).state.tasks.find? t.taskId = some t')
    (hs' : t'.status = .preparing) :
    StandingApproval s.state s.history x.now t ↔
      (∀ p, s.state.proposals.find? t.proposalId = some p → p.status ≠ .rejected) ∧ x.now < t.expiresAt := by
  obtain ⟨ha, hj⟩ := judged_of_reachable h
  have hmem : t ∈ s.state.tasks := (Table.find?_eq_some.mp ht).1
  obtain ⟨p, hp, hl⟩ := ha.linked t hmem
  have hfind : s.state.proposals.find? t.proposalId = some p := hl.proposal ▸ Table.find?_key hp
  constructor
  · rintro ⟨q, policy, hq, -, -, hpast, hexpiry⟩
    obtain rfl : q = p := Option.some.inj (hq.symm.trans hfind)
    refine ⟨?_, hl.expiry ▸ hexpiry⟩
    intro r hr hrejected
    obtain ⟨actor, reason, y, hcommitted⟩ := (hj t.proposalId).mp ⟨r, hr, hrejected⟩
    exact hpast actor reason y (hl.proposal ▸ hcommitted)
  · rintro ⟨hrejected, hexpiry⟩
    -- the step commits, so the policy in force is the one of the task
    have hforce : InForce s.state t := by
      have hcases := Store.step_cases (store cfg requirePrincipal) (Entry.call cfg) s (.advance i x)
      rcases hcases with ⟨hsame, -⟩ | ⟨tx', y, r, hp', hexec, -⟩
      · have hstate : ((machine cfg requirePrincipal).step s (.advance i x)).state = s.state := hsame
        rw [hstate, ht] at ht'
        cases ht'
        rw [hs] at hs'
        exact absurd hs' (by decide)
      · exact departure_inForce hexec (Store.pending_all entry_all h hp') ht hs ht' hs'
    obtain ⟨policy, hpolicy⟩ := ha.governed t hmem hs
    have hrev : policy.revision = p.policyRevision := (hforce policy hpolicy).trans hl.revision
    have hall : (s.state.approvalsOf p.proposalId).filter (fun a => a.policyRevision = policy.revision) =
        s.state.approvalsOf p.proposalId := by
      rw [List.filter_eq_self]
      intro a hmem
      rw [Db.approvalsOf, List.mem_filter] at hmem
      have hid : a.proposalId = p.proposalId := by simpa using hmem.2
      obtain ⟨q, hq, hqrev⟩ := ha.approval a hmem.1
      rw [hid, Table.find?_key hp] at hq
      cases hq
      simp [hqrev, hrev]
    refine ⟨p, policy, hfind, hpolicy, ?_, ?_, hl.expiry ▸ hexpiry⟩
    · rw [hall]
      exact ha.approved t hmem hs p hp hl.proposal.symm
    · intro actor reason y hcommitted
      obtain ⟨q, hq, hqs⟩ := (hj p.proposalId).mpr ⟨actor, reason, y, hcommitted⟩
      exact hrejected q (hl.proposal ▸ hq) hqs

/-- `run` before its reservation. -/
def runMoves : List (Store.Move Entry Reading) :=
  approvedMoves ++ callMoves 6 (.run "migrationtask-1" (some .externalSignerRebind) "operator") 5

def runState : Store.Running Db Reading Tx.Reply MigrationError :=
  runMoves.foldl (machine plainConfig false).step idleState

/-- The task of the proposal. -/
def approvedTask : TaskRow where
  taskId := "migrationtask-1"
  proposalId := "migrationproposal-1"
  subjectId := "subject"
  targetId := "target"
  idempotencyKey := "key-1"
  sourceEpoch := "runtime-1"
  policyRevision := 2
  status := .approved
  manifestDigest := none
  artifactId := none
  errorCode := none
  targetEpochId := none
  expiresAt := 86400 * second
  createdAt := noon.now
  updatedAt := noon.now

theorem standingApproval_of_reservation :
    StandingApproval runState.state runState.history noon.now approvedTask := by
  have hreach : (machine plainConfig false).Reachable runState := Machine.reachable_foldl idleState_init runMoves
  have hafter : ((machine plainConfig false).step runState (.advance 6 noon)).state.tasks.find? approvedTask.taskId =
      some (approvedTask.moved .preparing
        { targetEpochId := some "migrationepoch-1", artifactId := some "migration-migrationtask-1" } noon.now) := by
    decide
  refine (standingApproval_iff hreach (by decide) rfl hafter rfl).mpr ⟨?_, by decide⟩
  have hnone : (runState.state.proposals.find? approvedTask.proposalId).all (fun p => p.status ≠ .rejected) = true := by
    decide
  intro p hp
  rw [hp] at hnone
  simpa using hnone

/-- The proposal is rejected, then `prepare` goes on with its task up to the transition. -/
def rejectedMoves : List (Store.Move Entry Reading) :=
  approvedMoves ++ callMoves 6 (.reject "migrationproposal-1" "operator" "not now") 1 ++
    callMoves 7 (.prepare "migrationtask-1" "operator" (some restoredProof)) 4

def rejectedState : Store.Running Db Reading Tx.Reply MigrationError :=
  rejectedMoves.foldl (machine plainConfig false).step idleState

theorem rejected_proposal_migrates : (machine plainConfig false).Reachable rejectedState ∧
    rejectedState.state.tasks.find? approvedTask.taskId = some approvedTask ∧
    (((machine plainConfig false).step rejectedState (.advance 7 noon)).state.tasks.find? approvedTask.taskId).map
      TaskRow.status = some .preparing ∧
    ¬StandingApproval rejectedState.state rejectedState.history noon.now approvedTask := by
  have hreach : (machine plainConfig false).Reachable rejectedState :=
    Machine.reachable_foldl idleState_init rejectedMoves
  refine ⟨hreach, by decide, by decide, ?_⟩
  rintro ⟨p, policy, hp, -, -, hpast, -⟩
  have hstatus : (rejectedState.state.proposals.find? approvedTask.proposalId).all (fun p => p.status = .rejected) =
      true := by
    decide
  rw [hp] at hstatus
  have hrejected : RejectedIn rejectedState.state approvedTask.proposalId := ⟨p, hp, by simpa using hstatus⟩
  obtain ⟨actor, reason, y, hcommitted⟩ := ((judged_of_reachable hreach).2 approvedTask.proposalId).mp hrejected
  have hkey : p.proposalId = approvedTask.proposalId := (Table.find?_eq_some.mp hp).2
  exact hpast actor reason y (hkey ▸ hcommitted)

end Noyra.Migration.Proofs
