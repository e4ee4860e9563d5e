import Noyra.Migration.Types

/-!
# Policy store and migration manager

`MigrationStore` and `MigrationManager`: each definition is one transaction, a function from the database to
its result and the new database, or the exception that rolls it back.
-/

namespace Noyra.Migration
open Noyra.Lib
open Noyra.Wallet (Id)

def Db.policy (db : Db) (subjectId : Id) : Option MigrationPolicy := db.policies.find? subjectId

/-- `_ensure_policy`: `INSERT OR IGNORE` of the default policy. -/
def ensurePolicy (db : Db) (x : Reading) (subjectId : Id) : Except MigrationError Db := do
  raiseIf (subjectId ∉ db.subjects) (.notFoundError ("subject not found: " ++ subjectId))
  match db.policies.insert? (.default subjectId x.now) with
  | some policies => .ok { db with policies }
  | none => .ok db

/-- `assert_automation_allowed`. -/
def assertAutomationAllowed (x : Reading) (policy : MigrationPolicy) : Except MigrationError Unit :=
  raiseIf (policy.enabled ∧ policy.approvalMode = .policyAuto ∧ ¬x.activationEvidence) .activationEvidenceError

/-- `read_policy`. -/
def readPolicy (db : Db) (x : Reading) (subjectId : Id) : Except MigrationError (MigrationPolicy × Db) := do
  let db ← ensurePolicy db x subjectId
  let policy ← orRaise (db.policy subjectId) (.notFoundError ("migration policy not found: " ++ subjectId))
  policy.validate
  .ok (policy, db)

/-- `update_policy`. -/
def updatePolicy (db : Db) (x : Reading) (subjectId : Id) (expectedRevision : Nat) (patch : PolicyPatch)
    (actor : String) : Except MigrationError (MigrationPolicy × Db) := do
  raiseIf (expectedRevision < 1) (.valueError "expected migration policy revision must be positive")
  raiseIf (patch = {}) (.valueError "migration policy patch is invalid")
  raiseIf (MigrationPolicy.blank actor ∨ 128 < actor.length) (.valueError "migration policy actor is invalid")
  let (current, db) ← readPolicy db x subjectId
  raiseIf (current.revision ≠ expectedRevision) (.policyConflictError "migration policy revision changed")
  let updated ← current.withUpdates patch x.now
  assertAutomationAllowed x updated
  .ok (updated, { db with policies := db.policies.replace updated })

/-- `_validate_actor`. -/
def validateActor (actor : String) : Except MigrationError Unit :=
  raiseIf (MigrationPolicy.blank actor ∨ 128 < actor.length) (.valueError "migration actor is invalid")

/-- `_ensure_target`. -/
def ensureTarget (db : Db) (subjectId targetId : Id) : Except MigrationError TargetRow := do
  raiseIf (subjectId ∉ db.subjects) (.notFoundError ("subject not found: " ++ subjectId))
  let target ← orRaise (db.targets.find? targetId) (.notFoundError ("migration target not found: " ++ targetId))
  raiseIf (target.subjectId ≠ subjectId) (.notFoundError ("migration target not found: " ++ targetId))
  raiseIf (target.status ≠ .active ∨ target.attestedAt = none)
    (.valueError "migration target has not completed trust attestation")
  .ok target

/-- `cooldown_until`: the latest cooldown of the target, if it is still running. -/
def cooldownUntil (db : Db) (now : Time) (subjectId targetId : Id) : Option Time :=
  let rows := db.rejections.rows.filter (fun r => r.subjectId = subjectId ∧ r.targetId = targetId)
  ((rows.map RejectionRow.cooldownUntil).max?).filter (fun cooldown => now < cooldown)

/-- `re.fullmatch(r"[a-z][a-z0-9_]{0,63}", code)`. -/
def isReasonCode (code : String) : Bool :=
  match code.toList with
  | [] => false
  | c :: cs => c.isLower && cs.all (fun c => c.isLower || c.isDigit || c == '_') && cs.length ≤ 63

/-- The proposal row with a new decision, as `_set_proposal_status` writes it. -/
def ProposalRow.decided (p : ProposalRow) (status : ProposalStatus) (reason : String) (now : Time) :
    ProposalRow :=
  { p with status, decidedAt := some now, decisionReason := some (String.ofList (reason.toList.take 512)) }

/-- `_set_proposal_status`. -/
def setProposalStatus (db : Db) (x : Reading) (p : ProposalRow) (status : ProposalStatus) (reason : String) :
    Db :=
  { db with proposals := db.proposals.replace (p.decided status reason x.now) }

/-- The arguments of `create_proposal`; the evidence is the text of its redacted object, within its bounds, and
the scores are left out. -/
structure ProposalInput where
  subjectId : Id
  targetId : Id
  policyRevision : Nat
  reasonCode : String
  reason : String
  expiresAt : Time
  evidenceJson : String

/-- `create_proposal`. -/
def createProposal (cfg : Config) (db : Db) (x : Reading) (input : ProposalInput) :
    Except MigrationError (ProposalRow × Db) := do
  raiseIf (MigrationPolicy.blank input.reason ∨ 2048 < input.reason.length)
    (.valueError "migration proposal reason is invalid")
  raiseIf (isReasonCode (strip input.reasonCode) = false) (.valueError "migration proposal reason code is invalid")
  raiseIf (input.policyRevision < 1) (.valueError "migration policy revision is invalid")
  let (policy, db) ← readPolicy db x input.subjectId
  raiseIf (¬policy.enabled ∨ policy.approvalMode = .disabled) (.valueError "migration is disabled")
  raiseIf (policy.revision ≠ input.policyRevision) (.valueError "migration policy revision is stale")
  let _ ← ensureTarget db input.subjectId input.targetId
  raiseIf (cooldownUntil db x.now input.subjectId input.targetId ≠ none)
    (.valueError "migration rejection cooldown is active")
  let row : ProposalRow :=
    { proposalId := x.newId "migrationproposal", subjectId := input.subjectId, targetId := input.targetId,
      policyRevision := input.policyRevision, approvalMode := policy.approvalMode, status := .awaitingApproval,
      reasonCode := strip input.reasonCode, reason := cfg.redactSecretText (strip input.reason),
      evidenceJson := input.evidenceJson, expiresAt := input.expiresAt, createdAt := x.now, decidedAt := none,
      decisionReason := none }
  let proposals ← orRaise (db.proposals.insert? row)
    (.sqliteIntegrityError "UNIQUE constraint failed: migration_proposals.proposal_id")
  .ok (row, { db with proposals })

/-- `reject`: the proposal and its cooldown are written, its task is not touched. -/
def reject (db : Db) (x : Reading) (proposalId : Id) (actor reason : String) :
    Except MigrationError (ProposalRow × Db) := do
  validateActor actor
  raiseIf (MigrationPolicy.blank reason ∨ 512 < reason.length) (.valueError "rejection reason is required")
  let row ← orRaise (db.proposals.find? proposalId) (.notFoundError ("migration proposal not found: " ++ proposalId))
  if row.status = .rejected then .ok (row, db)
  else do
    raiseIf (row.status ∉ proposalActive) (.valueError "migration proposal is not awaiting approval")
    let cooldown := ((db.policy row.subjectId).map MigrationPolicy.rejectionCooldownSeconds).getD 604800
    let rejection : RejectionRow :=
      { rejectionId := x.newId "migrationrejection", subjectId := row.subjectId, proposalId,
        targetId := row.targetId, reasonCode := row.reasonCode, reason := strip reason,
        cooldownUntil := toMillis (x.now + cooldown * second), policyRevision := row.policyRevision,
        actor := strip actor, createdAt := toMillis x.now }
    let rejections ← orRaise (db.rejections.insert? rejection)
      (.sqliteIntegrityError "UNIQUE constraint failed: migration_rejections.rejection_id")
    .ok (row.decided .rejected (strip reason) x.now,
      { setProposalStatus db x row .rejected (strip reason) with rejections })

/-- `get_task`. -/
def Db.getTask (db : Db) (taskId : Id) : Except MigrationError TaskRow :=
  orRaise (db.tasks.find? taskId) (.notFoundError ("migration task not found: " ++ taskId))

/-- The optional arguments of a transition. -/
structure TransitionFields where
  expectedStatus : Option TaskStatus := none
  manifestDigest : Option String := none
  artifactId : Option String := none
  errorCode : Option String := none
  targetEpochId : Option Id := none
  deriving DecidableEq

/-- The row a transition writes: a column that is not given is kept. -/
def TaskRow.moved (t : TaskRow) (status : TaskStatus) (f : TransitionFields) (now : Time) : TaskRow :=
  { t with
    status
    manifestDigest := f.manifestDigest.orElse (fun _ => t.manifestDigest)
    artifactId := f.artifactId.orElse (fun _ => t.artifactId)
    errorCode := f.errorCode.orElse (fun _ => t.errorCode)
    targetEpochId := f.targetEpochId.orElse (fun _ => t.targetEpochId)
    updatedAt := now }

/-- An epoch given to a transition belongs to the task and is active. -/
def checkTargetEpoch (db : Db) (t : TaskRow) : Option Id → Except MigrationError Unit
  | none => .ok ()
  | some epochId => do
    let epoch ← orRaise (db.epochs.find? epochId) (.valueError "migration target epoch not found")
    raiseIf (epoch.subjectId ≠ t.subjectId ∨ epoch.targetId ≠ t.targetId)
      (.valueError "migration target epoch does not match task")
    raiseIf (epoch.status ≠ .active) (.valueError "migration target epoch is not active")
    -- uq_migration_tasks_target_epoch
    raiseIf (db.tasks.rows.any (fun o => o.taskId ≠ t.taskId ∧ o.targetEpochId = some epochId))
      (.sqliteIntegrityError "UNIQUE constraint failed: migration_tasks.target_epoch_id")

/-- `transition_task_in_transaction`. -/
def transitionTask (db : Db) (x : Reading) (taskId : Id) (status : TaskStatus) (actor : String)
    (f : TransitionFields) : Except MigrationError (TaskRow × Db) := do
  validateActor actor
  let t ← db.getTask taskId
  raiseIf (f.expectedStatus.any (fun expected => t.status ≠ expected)) (.valueError "migration task status changed")
  if t.status = status then .ok (t, db)
  else do
    raiseIf (status ∉ taskTransitions t.status) (.valueError "migration task transition is invalid")
    raiseIf ((db.policy t.subjectId).any (fun p => p.revision ≠ t.policyRevision))
      (.valueError "migration policy revision is stale")
    checkTargetEpoch db t f.targetEpochId
    .ok (t.moved status f x.now, { db with tasks := db.tasks.replace (t.moved status f x.now) })

/-- The statuses from which `cancel` raises without looking at the transition table. -/
def uncancellable : List TaskStatus := [.committed, .rolledBack, .failed]

/-- The checks of `cancel` on the task it read; `none` when there is nothing to do. -/
def checkCancel (t : TaskRow) : Except MigrationError (Option Unit) := do
  if t.status = .cancelled then .ok none
  else do
    raiseIf (t.status ∈ uncancellable) (.valueError "migration task cannot be cancelled")
    raiseIf (TaskStatus.cancelled ∉ taskTransitions t.status)
      (.valueError "migration task cannot be cancelled after transfer begins")
    .ok (some ())

/-- A reviewer of a proposal as given to `approve`. -/
structure Reviewer where
  actor : String
  identityBinding : Option String := none
  reviewerPrincipal : Option String := none

/-- `re.fullmatch(r"[0-9a-f]{64}", s)`. -/
def isDigest (s : String) : Bool :=
  s.toList.length == 64 && s.toList.all (fun c => c.isDigit || ('a' ≤ c && c ≤ 'f'))

/-- A letter or digit, then at most 127 letters, digits or characters of a path or an address. -/
def isPrincipal (s : String) : Bool :=
  match s.toList with
  | [] => false
  | c :: cs => c.isAlphanum && cs.length ≤ 127 &&
    cs.all (fun c => c.isAlphanum || c ∈ ['.', '_', ':', '@', '/', '-'])

section
variable (cfg : Config) (requirePrincipal : Bool)

/-- The identity a reviewer approves under. -/
def reviewerBinding (r : Reviewer) : Except MigrationError (Option String) := do
  raiseIf (r.identityBinding.any (fun b => isDigest b = false)) (.valueError "migration identity binding is invalid")
  raiseIf (r.reviewerPrincipal.any (fun p => isPrincipal (strip p) = false))
    (.valueError "migration reviewer principal is invalid")
  match r.reviewerPrincipal with
  | none => .ok r.identityBinding
  | some principal => do
    let binding := cfg.principalBinding (strip principal)
    raiseIf (r.identityBinding.any (fun b => b ≠ binding)) (.approvalError "migration_identity_binding_mismatch")
    .ok (some binding)

/-- The number of distinct identities a proposal needs. -/
def requiredApprovals (mode : ApprovalMode) : Nat := if mode = .dualReview then 2 else 1

/-- The identity an approval counts under. -/
def ApprovalRow.identity (mode : ApprovalMode) (a : ApprovalRow) : Option String :=
  if mode = .dualReview then a.identityBinding
  else some (a.identityBinding.getD ("actor:" ++ a.actor))

/-- The distinct identities among the approvals. -/
def identities (mode : ApprovalMode) (rows : List ApprovalRow) : List String :=
  (rows.filterMap (ApprovalRow.identity mode)).dedup

def Db.approvalsOf (db : Db) (proposalId : Id) : List ApprovalRow :=
  db.approvals.rows.filter (fun a => a.proposalId = proposalId)

/-- The reviewer has already approved. -/
def sameReviewer (actor : String) (binding : Option String) (a : ApprovalRow) : Bool :=
  match binding with
  | some b => a.identityBinding = some b
  | none => a.identityBinding = none ∧ a.actor = strip actor

/-- The approvals table with this reviewer's approval in it. -/
def recordApproval (db : Db) (x : Reading) (p : ProposalRow) (actor : String) (binding : Option String) :
    Except MigrationError Db := do
  if (db.approvalsOf p.proposalId).any (sameReviewer actor binding) then .ok db
  else do
    let approvals ← orRaise
      (db.approvals.insert? ⟨x.newId "migrationapproval", p.proposalId, p.subjectId, strip actor, binding,
        p.policyRevision, x.now⟩)
      (.sqliteIntegrityError "UNIQUE constraint failed: migration_proposal_approvals.approval_id")
    .ok { db with approvals }

/-- The first task of a proposal. -/
def Db.taskOf (db : Db) (proposalId : Id) : Option TaskRow := db.tasks.rows.find? (fun t => t.proposalId = proposalId)

def runtimeEpoch (version : Nat) : String := "runtime-" ++ toString version

/-- The task `approve` creates. -/
def newTask (db : Db) (x : Reading) (p : ProposalRow) (key : String) (status : TaskStatus) : TaskRow :=
  { taskId := x.newId "migrationtask", proposalId := p.proposalId, subjectId := p.subjectId,
    targetId := p.targetId, idempotencyKey := strip key,
    sourceEpoch := ((db.runtime p.subjectId).map runtimeEpoch).getD "source-epoch-1",
    policyRevision := p.policyRevision, status, manifestDigest := none, artifactId := none, errorCode := none,
    targetEpochId := none, expiresAt := p.expiresAt, createdAt := x.now, updatedAt := x.now }

/-- `INSERT INTO migration_tasks` under its two unique keys. -/
def insertTask (db : Db) (t : TaskRow) : Except MigrationError Db := do
  raiseIf (db.tasks.rows.any (fun o => o.subjectId = t.subjectId ∧ o.idempotencyKey = t.idempotencyKey))
    (.sqliteIntegrityError "UNIQUE constraint failed: migration_tasks.subject_id, migration_tasks.idempotency_key")
  let tasks ← orRaise (db.tasks.insert? t) (.sqliteIntegrityError "UNIQUE constraint failed: migration_tasks.task_id")
  .ok { db with tasks }

/-- The task after an approval: created, promoted or left as it is. -/
def settleTask (db : Db) (x : Reading) (p : ProposalRow) (actor key : String) (enough : Bool) :
    Except MigrationError (TaskRow × Db) :=
  match db.taskOf p.proposalId with
  | none => do
    let t := newTask db x p key (if enough then .approved else .awaitingApproval)
    let db ← insertTask db t
    .ok (t, db)
  | some t =>
    if t.status = .awaitingApproval ∧ enough then
      transitionTask db x t.taskId .approved actor { expectedStatus := some .awaitingApproval }
    else .ok (t, db)

/-- The proposal after an approval: approved once there are enough. -/
def settleProposal (db : Db) (x : Reading) (p : ProposalRow) (actor : String) (enough : Bool) : Db :=
  if enough ∧ p.status ≠ .approved then setProposalStatus db x p .approved (strip actor) else db

/-- The part of `approve` behind the expiry check. -/
def approvePending (db : Db) (x : Reading) (p : ProposalRow) (r : Reviewer) (binding : Option String) (key : String) :
    Except MigrationError (TaskRow × Db) := do
  let _ ← ensureTarget db p.subjectId p.targetId
  raiseIf (cooldownUntil db x.now p.subjectId p.targetId ≠ none) (.approvalError "migration_cooldown_active")
  raiseIf (p.approvalMode = .dualReview ∧ (binding = none ∨ (requirePrincipal ∧ r.reviewerPrincipal = none)))
    (.approvalError (if requirePrincipal then "migration_reviewer_principal_required"
      else "migration_dual_review_identity_required"))
  let db ← recordApproval db x p r.actor binding
  let enough := decide (requiredApprovals p.approvalMode ≤
    (identities p.approvalMode (db.approvalsOf p.proposalId)).length)
  let (t, db) ← settleTask db x p r.actor key enough
  .ok (t, settleProposal db x p r.actor enough)

/-- The proposal is pending under the policy in force. -/
def checkPending (db : Db) (p : ProposalRow) : Except MigrationError Unit := do
  raiseIf (p.status ∉ proposalActive) (.approvalError "migration_proposal_not_pending")
  let policy ← orRaise (db.policy p.subjectId) (.approvalError "migration_policy_unavailable")
  policy.validate
  raiseIf (¬policy.enabled ∨ policy.revision ≠ p.policyRevision ∨ policy.approvalMode ≠ p.approvalMode)
    (.approvalError "migration_policy_stale")

/-- `approve`. An expired proposal is marked before the exception, which is raised after the commit. -/
def approve (db : Db) (x : Reading) (proposalId : Id) (r : Reviewer) (key : String) :
    Except MigrationError (Except MigrationError TaskRow × Db) := do
  validateActor r.actor
  let binding ← reviewerBinding cfg r
  raiseIf (MigrationPolicy.blank key ∨ 256 < key.length) (.valueError "idempotency key is invalid")
  let p ← orRaise (db.proposals.find? proposalId) (.notFoundError ("migration proposal not found: " ++ proposalId))
  raiseIf (db.tasks.rows.any (fun t => t.subjectId = p.subjectId ∧ t.idempotencyKey = key ∧ t.proposalId ≠ proposalId))
    (.approvalError "migration_idempotency_conflict")
  match (db.taskOf proposalId).filter (fun t => t.status = .approved) with
  | some t => .ok (.ok t, db)
  | none => do
    checkPending db p
    if p.expiresAt ≤ x.now then
      .ok (.error (.approvalError "migration_proposal_expired"), setProposalStatus db x p .expired "proposal expired")
    else do
      let (t, db) ← approvePending requirePrincipal db x p r binding key
      .ok (.ok t, db)

end

end Noyra.Migration
