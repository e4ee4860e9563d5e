import Noyra.Migration.Cutover

/-!
# Migration calls over one database

The public calls of the manager, the coordinators and the policy store as sequences of transactions. Between
two transactions anything may happen: other calls, a crash of the process, an answer of the target that never
arrives. Rows of other subsystems (subjects, runtime versions, registered targets) change by steps of their own.
-/

namespace Noyra.Migration
open Noyra.Lib
open Noyra.Wallet (Id)

/-- One transaction, one read, or one exchange with the target or another subsystem. -/
inductive Tx
  | addSubject (subjectId : Id)
  | setRuntime (subjectId : Id) (version : Nat)
  | putTarget (row : TargetRow)
  | clock
  | readPolicy (subjectId : Id)
  | automationAllowed (policy : MigrationPolicy)
  | updatePolicy (subjectId : Id) (expectedRevision : Nat) (patch : PolicyPatch) (actor : String)
  | createProposal (input : ProposalInput)
  | approve (proposalId : Id) (reviewer : Reviewer) (key : String)
  | reject (proposalId : Id) (actor reason : String)
  | getTask (taskId : Id)
  | transition (taskId : Id) (status : TaskStatus) (actor : String) (fields : TransitionFields)
  | reserve (task : TaskRow) (policy : MigrationPolicy) (actor : String)
  | verifyProof (task : TaskRow) (proof : TargetProof)
  | epochForTask (taskId : Id)
  | checkAcquire (subjectId targetId : Id) (proof : ValidationProof)
  | acquire (subjectId targetId : Id) (expectedSourceEpoch actor : String)
  | recordProof (subjectId taskId : Id) (proof : TargetProof)
  | proofForTask (taskId : Id)
  | assertCurrent (lease : EpochLease)
  | commitReceipt (task : TaskRow) (lease : EpochLease) (receipt : MigrationExecutionReceipt)
      (proof : TargetProof) (actor : String)
  | finishRollback (taskId : Id) (lease : Option EpochLease) (reason actor : String)
  | verifyBackup
  | recoverTask (request : RecoveryRequest) (policy : MigrationPolicy)
  | bindRecovery (taskId epochId : Id)
  | markTaskFailed (taskId : Id) (errorCode : String)
  | buildArtifact
  | verifyTarget
  | activateTarget
  | deactivateTarget

/-- What a transaction returns. -/
def Tx.Reply : Tx → Type
  | .clock => Time
  | .readPolicy _ => MigrationPolicy
  | .updatePolicy .. => MigrationPolicy
  | .createProposal _ => ProposalRow
  | .approve .. => Except MigrationError TaskRow
  | .reject .. => ProposalRow
  | .getTask _ => TaskRow
  | .transition .. => TaskRow
  | .reserve .. => EpochLease × TaskRow
  | .verifyProof .. => ValidationProof
  | .epochForTask _ => Option EpochLease
  | .acquire .. => EpochLease
  | .proofForTask _ => TargetProof
  | .commitReceipt .. => TaskRow
  | .finishRollback .. => TaskRow
  | .recoverTask .. => Option TaskRow
  | .buildArtifact => Manifest
  | .verifyTarget => TargetProof
  | .activateTarget => MigrationExecutionReceipt
  | .deactivateTarget => Cancellation
  | _ => Unit

/-- A read leaves the database as it is. -/
def reading {α : Type} (db : Db) (r : Except MigrationError α) : Except MigrationError (α × Db) :=
  r.map (fun a => (a, db))

/-- A write that returns nothing. -/
def writing (r : Except MigrationError Db) : Except MigrationError (Unit × Db) := r.map (fun db => ((), db))

/-- An answer that never came is an exception. -/
def answer {α : Type} (db : Db) (a : Option α) (code : String) : Except MigrationError (α × Db) :=
  reading db (orRaise a (.executionError code))

section
variable (cfg : Config) (requirePrincipal : Bool)

def Tx.exec (x : Reading) (db : Db) : (tx : Tx) → Except MigrationError (tx.Reply × Db)
  | .addSubject subjectId => .ok ((), { db with subjects := subjectId :: db.subjects })
  | .setRuntime subjectId version =>
    .ok ((), { db with runtime := Function.update db.runtime subjectId (some version) })
  | .putTarget row => .ok ((), { db with targets := db.targets.upsert row })
  | .clock => .ok (x.now, db)
  | .readPolicy subjectId => Migration.readPolicy db x subjectId
  | .automationAllowed policy => reading db (assertAutomationAllowed x policy)
  | .updatePolicy subjectId expectedRevision patch actor =>
    Migration.updatePolicy db x subjectId expectedRevision patch actor
  | .createProposal input => Migration.createProposal cfg db x input
  | .approve proposalId reviewer key => Migration.approve cfg requirePrincipal db x proposalId reviewer key
  | .reject proposalId actor reason => Migration.reject db x proposalId actor reason
  | .getTask taskId => reading db (db.getTask taskId)
  | .transition taskId status actor fields => transitionTask db x taskId status actor fields
  | .reserve task policy actor => Migration.reserve db x task policy actor
  | .verifyProof task proof => reading db (verifyTargetProof cfg db task proof)
  | .epochForTask taskId => .ok (Migration.epochForTask db taskId, db)
  | .checkAcquire subjectId targetId proof => reading db (Migration.checkAcquire db subjectId targetId proof)
  | .acquire subjectId targetId expectedSourceEpoch actor => do
    raiseIf (MigrationPolicy.blank actor) (.valueError "epoch acquisition actor is required")
    acquireInTransaction db x subjectId targetId expectedSourceEpoch
  | .recordProof subjectId taskId proof =>
    .ok ((), { db with proofEvents := db.proofEvents ++ [⟨subjectId, taskId, proof⟩] })
  | .proofForTask taskId => reading db (Migration.proofForTask db taskId)
  | .assertCurrent lease => reading db ((Migration.assertCurrent db lease).map (fun _ => ()))
  | .commitReceipt task lease receipt proof actor => Migration.commitReceipt cfg db x task lease receipt proof actor
  | .finishRollback taskId lease reason actor => Migration.finishRollback db x taskId lease reason actor
  | .verifyBackup => reading db (raiseIf (x.backupVerified = false) (.valueError "verified backup is not registered"))
  | .recoverTask request policy => Migration.recoverTask cfg db x request policy
  | .bindRecovery taskId epochId => writing (Migration.bindRecovery db x taskId epochId)
  | .markTaskFailed taskId errorCode => .ok ((), Migration.markTaskFailed db x taskId errorCode)
  | .buildArtifact => answer db x.manifest "artifact_unavailable"
  | .verifyTarget => answer db x.proof "target_health_proof_invalid"
  | .activateTarget => answer db x.receipt "target_http_unavailable"
  | .deactivateTarget => answer db x.cancellation "target_deactivation_unavailable"

/-- The migration database as a store of transactions. -/
def store : Store Db Reading Tx.Reply MigrationError where
  exec tx x db := tx.exec cfg requirePrincipal x db

abbrev MigrationCall := Call Tx.Reply MigrationError

open Call (command check)

def perform (tx : Tx) : MigrationCall tx.Reply := command tx

/-- `migration_control_scope`: one control at a time. -/
def controlScope {α : Type} (body : MigrationCall α) : MigrationCall α :=
  body.exclusively (.operationInvalidated "migration control is already active")

/-- `EpochLease.acquire`: the proof is checked in one connection, the epoch inserted in a transaction of its own. -/
def acquire (subjectId targetId : Id) (sourceEpoch : String) (proof : ValidationProof) (actor : String) :
    MigrationCall EpochLease := do
  let _ ← perform (.checkAcquire subjectId targetId proof)
  perform (.acquire subjectId targetId sourceEpoch actor)

/-- The statuses from which `prepare` goes on with a task that has left `approved`. -/
def preparable : List TaskStatus := [.preparing, .transferring, .restoring, .validating]

/-- The task `prepare` works on: an approved task is moved to `preparing` first. -/
def beginPrepare (task : TaskRow) (proof : TargetProof) (actor : String) : MigrationCall TaskRow :=
  if task.status = .approved then
    perform (.transition task.taskId .preparing actor
      { manifestDigest := some proof.manifestDigest, artifactId := some proof.artifactId })
  else if task.status ∉ preparable then
    Call.raise (.valueError "migration task is not ready for target validation")
  else if task.manifestDigest ≠ some proof.manifestDigest then
    Call.raise (.valueError "verified target proof manifest binding is invalid")
  else pure task

/-- The epoch of `prepare`: the one bound to the task, or a new one. -/
def prepareEpoch (task : TaskRow) (verified : ValidationProof) (actor : String) :
    Option EpochLease → MigrationCall EpochLease
  | some lease => pure lease
  | none => acquire task.subjectId task.targetId task.sourceEpoch verified actor

/-- A task that is already validating is only read again: its epoch is not bound. -/
def bindPrepared (task : TaskRow) (lease : EpochLease) (actor : String) : MigrationCall TaskRow :=
  if task.status ≠ .validating then
    perform (.transition task.taskId .validating actor { targetEpochId := some lease.epochId })
  else perform (.getTask task.taskId)

def prepare (taskId : Id) (actor : String) (proof : Option TargetProof) : MigrationCall Unit := do
  let task : TaskRow ← perform (.getTask taskId)
  let policy : MigrationPolicy ← perform (.readPolicy task.subjectId)
  let _ ← perform (.automationAllowed policy)
  let proof ← check (orRaise proof (.valueError "verified target restore and health proof is required"))
  let verified : ValidationProof ← perform (.verifyProof task proof)
  let task ← beginPrepare task proof actor
  let bound : Option EpochLease ← perform (.epochForTask taskId)
  let lease ← prepareEpoch task verified actor bound
  let task ← bindPrepared task lease actor
  perform (.recordProof task.subjectId taskId proof)

/-- `run` after its reservation: the executor's exchange with the target, with its two callbacks. -/
def executeReserved (task : TaskRow) (lease : EpochLease) (actor : String) : MigrationCall Unit := do
  let manifest : Manifest ← perform .buildArtifact
  let _ ← perform (.transition task.taskId .transferring actor
    { expectedStatus := some .preparing, manifestDigest := some (cfg.contentHash manifest.json),
      artifactId := some manifest.artifactId })
  let proof : TargetProof ← perform .verifyTarget
  prepare task.taskId actor (some proof)
  let receipt : MigrationExecutionReceipt ← perform .activateTarget
  let current : TaskRow ← perform (.getTask task.taskId)
  let proof : TargetProof ← perform (.proofForTask task.taskId)
  let _ ← perform (.commitReceipt current lease receipt proof actor)
  pure ()

/-- The part of `run` in the control scope. -/
def runReserved (task : TaskRow) (policy : MigrationPolicy) (actor : String) : MigrationCall Unit := do
  let reserved : EpochLease × TaskRow ← perform (.reserve task policy actor)
  executeReserved cfg reserved.2 reserved.1 actor

def run (taskId : Id) (walletMode : Option WalletMode) (actor : String) : MigrationCall Unit := do
  let task : TaskRow ← perform (.getTask taskId)
  if task.status = .committed then pure ()
  else do
    let policy : MigrationPolicy ← perform (.readPolicy task.subjectId)
    let _ ← perform (.automationAllowed policy)
    let now : Time ← perform .clock
    check (checkRun task policy walletMode now)
    controlScope (runReserved cfg task policy actor)

/-- The part of `commit` in the control scope. -/
def executeBound (task : TaskRow) (lease : EpochLease) (actor : String) : MigrationCall Unit := do
  let _ ← perform (.assertCurrent lease)
  let proof : TargetProof ← perform (.proofForTask task.taskId)
  let receipt : MigrationExecutionReceipt ← perform .activateTarget
  let _ ← perform (.commitReceipt task lease receipt proof actor)
  pure ()

def commit (taskId : Id) (actor : String) : MigrationCall Unit := do
  let task : TaskRow ← perform (.getTask taskId)
  if task.status = .committed then pure ()
  else do
    let policy : MigrationPolicy ← perform (.readPolicy task.subjectId)
    let _ ← perform (.automationAllowed policy)
    check (raiseIf (task.status ∉ [TaskStatus.validating, .cutover])
      (.valueError "verified target restore and health proof is required before commit"))
    let bound : Option EpochLease ← perform (.epochForTask taskId)
    let lease ← check (orRaise bound (.valueError "migration target epoch is missing"))
    controlScope (executeBound task lease actor)

/-- `reason.strip()[:256]`. -/
def errorText (reason : String) : String := String.ofList ((strip reason).toList.take 256)

/-- The statuses in which `rollback` has nothing to move. -/
def beginRollback (task : TaskRow) (reason actor : String) : MigrationCall Unit :=
  if task.status ≠ .rollingBack then do
    let _ ← perform (.transition task.taskId .rollingBack actor { errorCode := some (errorText reason) })
    pure ()
  else pure ()

def assertBound : Option EpochLease → MigrationCall Unit
  | some lease => perform (.assertCurrent lease)
  | none => pure ()

/-- The deactivation a task with a manifest needs. -/
def deactivate (task : TaskRow) : MigrationCall Unit :=
  match task.manifestDigest with
  | none => pure ()
  | some digest => do
    let cancellation : Cancellation ← perform .deactivateTarget
    check (raiseIf (cancellation ≠ expectedCancellation task digest)
      (.executionError "target_deactivation_proof_invalid"))

/-- A task that is to be rolled back: its epoch is revoked only after the target has given up. -/
def releaseTask (task : TaskRow) (reason actor : String) : MigrationCall Unit := do
  let bound : Option EpochLease ← perform (.epochForTask task.taskId)
  beginRollback task reason actor
  assertBound bound
  deactivate task
  let _ ← perform (.finishRollback task.taskId bound (errorText reason) actor)
  pure ()

/-- The part of `rollback` in the control scope. -/
def rollbackTask (taskId : Id) (reason actor : String) : MigrationCall Unit := do
  let task : TaskRow ← perform (.getTask taskId)
  if task.status = .rolledBack then pure ()
  else if task.status = .committed then Call.raise (.valueError "migration task cannot be rolled back")
  else releaseTask task reason actor

def rollback (taskId : Id) (reason actor : String) : MigrationCall Unit := do
  check (raiseIf (MigrationPolicy.blank reason) (.valueError "rollback reason is required"))
  controlScope (rollbackTask taskId reason actor)

/-- What a recovery request proves. -/
def RecoveryRequest.proof (request : RecoveryRequest) (subjectId : Id) : ValidationProof :=
  ⟨request.taskId, subjectId, request.standbyTargetId, request.manifestDigest, request.restoreReportDigest,
    request.healthReportDigest, request.targetSignature⟩

/-- `_restore_pinned_standby` after its first transaction. -/
def bindStandby (request : RecoveryRequest) (policy : MigrationPolicy) : MigrationCall Unit := do
  let task : TaskRow ← perform (.getTask request.taskId)
  let lease ← (acquire policy.subjectId request.standbyTargetId task.sourceEpoch
    (request.proof policy.subjectId) "operator").onRaise
      (perform (.markTaskFailed request.taskId "recovery_epoch_acquisition_failed"))
  perform (.bindRecovery request.taskId lease.epochId)

def restoreStandby (request : RecoveryRequest) (policy : MigrationPolicy) : MigrationCall Unit := do
  check (checkRestore cfg request policy)
  let _ ← perform .verifyBackup
  let served : Option TaskRow ← perform (.recoverTask request policy)
  match served with
  | some _ => pure ()
  | none => bindStandby request policy

def cancel (taskId : Id) (actor reason : String) : MigrationCall Unit := do
  check (validateActor actor)
  check (raiseIf (MigrationPolicy.blank reason ∨ 512 < reason.length)
    (.valueError "migration cancellation reason is required"))
  let task : TaskRow ← perform (.getTask taskId)
  let pending ← check (checkCancel task)
  match pending with
  | none => pure ()
  | some () => do
    let safeReason := String.ofList ((cfg.redactSecretText (strip reason)).toList.take 256)
    let _ ← perform (.transition taskId .cancelled actor { errorCode := some safeReason })
    pure ()

def approveCall (proposalId : Id) (reviewer : Reviewer) (key : String) : MigrationCall Unit := do
  let result : Except MigrationError TaskRow ← perform (.approve proposalId reviewer key)
  let _ ← check result
  pure ()

/-- The entry points, and the steps of the subsystems around them. -/
inductive Entry
  | addSubject (subjectId : Id)
  | setRuntime (subjectId : Id) (version : Nat)
  | putTarget (row : TargetRow)
  | updatePolicy (subjectId : Id) (expectedRevision : Nat) (patch : PolicyPatch) (actor : String)
  | createProposal (input : ProposalInput)
  | approve (proposalId : Id) (reviewer : Reviewer) (key : String)
  | reject (proposalId : Id) (actor reason : String)
  | cancel (taskId : Id) (actor reason : String)
  | run (taskId : Id) (walletMode : Option WalletMode) (actor : String)
  | prepare (taskId : Id) (actor : String) (proof : Option TargetProof)
  | commit (taskId : Id) (actor : String)
  | rollback (taskId : Id) (reason actor : String)
  | restoreStandby (request : RecoveryRequest) (policy : MigrationPolicy)

def Entry.call : Entry → MigrationCall Unit
  | .addSubject subjectId => perform (.addSubject subjectId)
  | .setRuntime subjectId version => perform (.setRuntime subjectId version)
  | .putTarget row => perform (.putTarget row)
  | .updatePolicy subjectId expectedRevision patch actor => do
    let _ ← perform (.updatePolicy subjectId expectedRevision patch actor)
    pure ()
  | .createProposal input => do
    let _ ← perform (.createProposal input)
    pure ()
  | .approve proposalId reviewer key => approveCall proposalId reviewer key
  | .reject proposalId actor reason => do
    let _ ← perform (.reject proposalId actor reason)
    pure ()
  | .cancel taskId actor reason => Migration.cancel cfg taskId actor reason
  | .run taskId walletMode actor => Migration.run cfg taskId walletMode actor
  | .prepare taskId actor proof => Migration.prepare taskId actor proof
  | .commit taskId actor => Migration.commit taskId actor
  | .rollback taskId reason actor => Migration.rollback taskId reason actor
  | .restoreStandby request policy => Migration.restoreStandby cfg request policy

/-- The migration calls of one host, from a database without migration rows. -/
def machine : Machine (Store.Running Db Reading Tx.Reply MigrationError) (Store.Move Entry Reading) :=
  (store cfg requirePrincipal).machine (fun db => db = .empty) (Entry.call cfg)

end

end Noyra.Migration
