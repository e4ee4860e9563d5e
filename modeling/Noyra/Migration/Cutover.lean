import Mathlib.Data.List.Infix
import Noyra.Lib.Calls
import Noyra.Migration.Manager

/-!
# Epoch leases, cutover and recovery

`EpochLease`, the transactions of `CutoverCoordinator` and `RecoveryCoordinator`, and the ownership guards of
`core/runtime.py`. The coordinator has an executor; the admission gate is modelled apart.
-/

namespace Noyra.Migration
open Noyra.Lib
open Noyra.Wallet (Id Json)

/-- The epoch of the subject that is active, if any. -/
def Db.activeEpoch (db : Db) (subjectId : Id) : Option EpochRow :=
  db.epochs.rows.find? (fun e => e.subjectId = subjectId ∧ e.status = .active)

def Db.latestEpoch (db : Db) (subjectId : Id) : Nat :=
  (((db.epochs.rows.filter (fun e => e.subjectId = subjectId)).map EpochRow.epochNumber).max?).getD 0

/-- The epoch names a version of the runtime. -/
def isRuntimeEpoch (epoch : String) : Bool := "runtime-".toList.isPrefixOf epoch.toList

def EpochRow.lease (e : EpochRow) : EpochLease := ⟨e.subjectId, e.targetId, e.epochId, e.epochNumber⟩

/-- The row an acquisition inserts. -/
def newEpoch (db : Db) (x : Reading) (subjectId targetId : Id) : EpochRow :=
  ⟨x.newId "migrationepoch", subjectId, targetId, db.latestEpoch subjectId + 1, .active, x.now, none⟩

/-- `_acquire_in_transaction`. -/
def acquireInTransaction (db : Db) (x : Reading) (subjectId targetId : Id) (expectedSourceEpoch : String) :
    Except MigrationError (EpochLease × Db) := do
  raiseIf ((db.activeEpoch subjectId).isSome) (.valueError "subject already has an active migration epoch")
  raiseIf (MigrationPolicy.blank expectedSourceEpoch) (.valueError "expected source epoch is invalid")
  raiseIf (isRuntimeEpoch expectedSourceEpoch ∧ (db.runtime subjectId).map runtimeEpoch ≠ some expectedSourceEpoch)
    (.valueError "source runtime epoch is stale")
  let epochs ← orRaise (db.epochs.insert? (newEpoch db x subjectId targetId))
    (.sqliteIntegrityError "UNIQUE constraint failed: migration_epochs.epoch_id")
  .ok ((newEpoch db x subjectId targetId).lease, { db with epochs })

/-- `assert_current_in_transaction`: the row of the lease, when it is still current. -/
def assertCurrent (db : Db) (lease : EpochLease) : Except MigrationError EpochRow := do
  let row ← orRaise (db.epochs.find? lease.epochId) (.valueError "migration epoch is stale")
  raiseIf (row.subjectId ≠ lease.subjectId ∨ row.status ≠ .active ∨ row.targetId ≠ lease.targetId)
    (.valueError "migration epoch is stale")
  .ok row

/-- The write `revoke_in_transaction` and `complete_in_transaction` share. -/
def closeEpoch (db : Db) (x : Reading) (lease : EpochLease) (status : EpochStatus) : Except MigrationError Db := do
  let row ← assertCurrent db lease
  .ok { db with epochs := db.epochs.replace { row with status, revokedAt := some x.now } }

/-- `revoke_in_transaction`. -/
def revokeInTransaction (db : Db) (x : Reading) (lease : EpochLease) (reason actor : String) :
    Except MigrationError Db := do
  raiseIf (MigrationPolicy.blank reason ∨ MigrationPolicy.blank actor) (.valueError "epoch revoke metadata is required")
  closeEpoch db x lease .revoked

/-- `complete_in_transaction`. -/
def completeInTransaction (db : Db) (x : Reading) (lease : EpochLease) (actor : String) : Except MigrationError Db := do
  raiseIf (MigrationPolicy.blank actor) (.valueError "epoch completion actor is required")
  closeEpoch db x lease .completed

/-- `_epoch_for_task`: the active epoch bound to the task. -/
def epochForTask (db : Db) (taskId : Id) : Option EpochLease :=
  ((db.tasks.find? taskId).bind (fun t => t.targetEpochId.bind db.epochs.find?)).bind
    (fun e => if e.status = .active then some e.lease else none)

/-- The statuses in which a target proof may acquire an epoch. -/
def provable : List TaskStatus := [.preparing, .transferring, .restoring, .validating, .cutover]

/-- The checks of `EpochLease.acquire` before its transaction. -/
def checkAcquire (db : Db) (subjectId targetId : Id) (proof : ValidationProof) : Except MigrationError Unit := do
  raiseIf ([proof.taskId, proof.subjectId, proof.targetId, proof.manifestDigest, proof.restoreReportDigest,
      proof.healthReportDigest, proof.targetSignature].any MigrationPolicy.blank)
    (.valueError "verified target restore and health proof is invalid")
  raiseIf (strip proof.subjectId ≠ subjectId ∨ strip proof.targetId ≠ targetId)
    (.valueError "verified target proof does not match subject or target")
  let t ← orRaise (db.tasks.find? (strip proof.taskId)) (.valueError "verified target proof task binding is invalid")
  raiseIf (t.subjectId ≠ subjectId ∨ t.targetId ≠ targetId)
    (.valueError "verified target proof task binding is invalid")
  raiseIf (t.status ∉ provable) (.valueError "verified target proof task is not in cutover state")
  raiseIf (t.manifestDigest ≠ some (strip proof.manifestDigest))
    (.valueError "verified target proof manifest binding is invalid")

def Report.json (r : Report) : Json :=
  .obj [("target_id", .str r.targetId), ("artifact_id", .str r.artifactId),
    ("manifest_digest", .str r.manifestDigest), ("status", .str r.status),
    ("checks", .obj (r.checks.map (fun c => (c.1, .bool c.2))))]

def Manifest.json (m : Manifest) : Json := .obj [("artifact_id", .str m.artifactId), ("content", .str m.content)]

def Binding.json (b : Binding) : Json :=
  .obj [("names", .strs b.names), ("target_id", .opt .str b.targetId),
    ("target_identity", .opt .str b.targetIdentity), ("status", .opt .str b.status),
    ("mode", .opt .str b.mode), ("encrypted", .bool b.encrypted)]

/-- `re.fullmatch(r"[A-Za-z0-9][A-Za-z0-9_.-]{0,127}", s)`. -/
def isArtifactId (s : String) : Bool :=
  match s.toList with
  | [] => false
  | c :: cs => c.isAlphanum && cs.length ≤ 127 && cs.all (fun c => c.isAlphanum || c ∈ ['_', '.', '-'])

/-- `token in text`. -/
def contains (text token : String) : Bool := decide (token.toList <:+: text.toList)

section
variable (cfg : Config)

/-- A binding names a secret. -/
def Binding.hasSecret (b : Binding) : Bool :=
  b.names.any (fun name =>
    ["secret", "token", "password", "private", "api_key"].any (contains (cfg.casefold name)))

/-- The report is about this artifact on the task's target. -/
def Report.describes (r : Report) (t : TaskRow) (proof : TargetProof) (status : String) : Prop :=
  r.targetId = t.targetId ∧ r.artifactId = proof.artifactId ∧ r.manifestDigest = proof.manifestDigest ∧
    r.status = status

instance (r : Report) (t : TaskRow) (proof : TargetProof) (status : String) :
    Decidable (r.describes t proof status) := by unfold Report.describes; infer_instance

/-- The part of `_verify_target_proof` that looks at the proof alone. -/
def checkProof (t : TaskRow) (proof : TargetProof) : Except MigrationError Unit := do
  raiseIf (isDigest proof.manifestDigest = false ∨ isArtifactId proof.artifactId = false)
    (.valueError "verified target restore and health proof is invalid")
  raiseIf (proof.manifest.any (fun m => cfg.contentHash m.json ≠ proof.manifestDigest))
    (.valueError "verified migration artifact manifest is invalid")
  raiseIf (proof.manifest.any (fun m => m.artifactId ≠ proof.artifactId))
    (.valueError "verified migration artifact manifest binding is invalid")
  raiseIf ((proof.credentialBinding.toList ++ proof.walletBinding.toList).any (Binding.hasSecret cfg))
    (.valueError "verified migration binding request contains a secret")
  raiseIf (¬(proof.restoreReport.describes t proof "restored" ∧ proof.healthReport.describes t proof "healthy"))
    (.valueError "verified target restore and health proof is invalid")
  raiseIf (proof.healthReport.checks = [] ∨ ¬proof.healthReport.checks.all Prod.snd)
    (.valueError "target health proof is not healthy")

/-- The payload the target signs. -/
def signingPayload (t : TaskRow) (proof : TargetProof) : Json :=
  .obj [("task_id", .str t.taskId), ("subject_id", .str t.subjectId), ("target_id", .str t.targetId),
    ("source_epoch", .str t.sourceEpoch), ("manifest_digest", .str proof.manifestDigest),
    ("artifact_id", .str proof.artifactId),
    ("restore_report_digest", .str (cfg.contentHash proof.restoreReport.json)),
    ("health_report_digest", .str (cfg.contentHash proof.healthReport.json))]

/-- `_verify_target_proof`. -/
def verifyTargetProof (db : Db) (t : TaskRow) (proof : TargetProof) : Except MigrationError ValidationProof := do
  checkProof cfg t proof
  let target ← orRaise (db.targets.find? t.targetId) (.valueError "migration target is not active")
  raiseIf (target.subjectId ≠ t.subjectId ∨ target.status ≠ .active) (.valueError "migration target is not active")
  raiseIf (target.attestationEpoch ≠ some t.sourceEpoch) (.valueError "migration target attestation is stale")
  raiseIf (cfg.verify target.publicKey (signingPayload cfg t proof) proof.targetSignature = false)
    (.valueError "verified target proof signature is invalid")
  .ok ⟨t.taskId, t.subjectId, t.targetId, proof.manifestDigest, cfg.contentHash proof.restoreReport.json,
    cfg.contentHash proof.healthReport.json, proof.targetSignature⟩

/-- The digest of a binding within its task. -/
def bindingDigest (taskId manifestDigest : String) (field : String) (b : Binding) : String :=
  cfg.contentHash (.obj [("task_id", .str taskId), ("manifest_digest", .str manifestDigest), (field, b.json)])

/-- The fields of a receipt that must repeat the task and the proof. -/
def MigrationExecutionReceipt.mismatch (r : MigrationExecutionReceipt) (t : TaskRow) (proof : TargetProof) :
    Option String :=
  ([("task_id", r.taskId, t.taskId), ("subject_id", r.subjectId, t.subjectId),
    ("target_id", r.targetId, t.targetId), ("source_epoch", r.sourceEpoch, t.sourceEpoch),
    ("manifest_digest", r.manifestDigest, proof.manifestDigest),
    ("artifact_id", r.artifactId, proof.artifactId)].find? (fun f => f.2.1 ≠ f.2.2)).map Prod.fst

/-- The digest of a receipt that is not 64 characters long. -/
def MigrationExecutionReceipt.malformed (r : MigrationExecutionReceipt) : Option String :=
  ([("restore_report_digest", r.restoreReportDigest), ("health_report_digest", r.healthReportDigest),
    ("source_fence_digest", r.sourceFenceDigest), ("target_activation_digest", r.targetActivationDigest)].find?
      (fun f => f.2.length ≠ 64)).map Prod.fst

/-- The optional digest of a receipt that is not a digest. -/
def MigrationExecutionReceipt.invalid (r : MigrationExecutionReceipt) : Option String :=
  ([("recipient_key_fingerprint", r.recipientKeyFingerprint),
    ("target_volume_proof_digest", r.targetVolumeProofDigest),
    ("credential_binding_digest", r.credentialBindingDigest),
    ("signer_binding_digest", r.signerBindingDigest), ("wallet_proof_digest", r.walletProofDigest)].find?
      (fun f => f.2.any (fun d => isDigest d = false))).map Prod.fst

def walletModes : List String := ["external_signer_rebind", "local_wallet_transfer", "disabled"]

/-- The bindings of the proof that the receipt must digest. -/
def MigrationExecutionReceipt.checkBindings (r : MigrationExecutionReceipt) (t : TaskRow) (proof : TargetProof) :
    Except MigrationError Unit := do
  let volume ← orRaise proof.targetVolumeProof (.executionError "execution_receipt_target_volume_proof_digest_required")
  let credential ← orRaise proof.credentialBinding
    (.executionError "execution_receipt_credential_binding_digest_required")
  let mode ← orRaise r.walletMode (.executionError "execution_receipt_wallet_mode_required")
  raiseIf (r.targetVolumeProofDigest ≠ some (bindingDigest cfg t.taskId r.manifestDigest "proof" volume))
    (.executionError "execution_receipt_target_volume_proof_mismatch")
  raiseIf (r.credentialBindingDigest ≠ some (bindingDigest cfg t.taskId r.manifestDigest "binding" credential))
    (.executionError "execution_receipt_credential_binding_mismatch")
  let wallet ← orRaise proof.walletBinding (.executionError "execution_receipt_wallet_binding_required")
  raiseIf (wallet.mode ≠ some mode) (.executionError "execution_receipt_wallet_mode_mismatch")
  let expected :=
    if mode ≠ "disabled" then some (bindingDigest cfg t.taskId r.manifestDigest "binding" wallet) else none
  raiseIf (r.walletProofDigest ≠ expected) (.executionError "execution_receipt_wallet_proof_mismatch")
  raiseIf (r.signerBindingDigest ≠ if mode = "external_signer_rebind" then expected else none)
    (.executionError "execution_receipt_signer_binding_mismatch")

/-- `validate`. -/
def MigrationExecutionReceipt.validate (r : MigrationExecutionReceipt) (t : TaskRow) (proof : TargetProof) :
    Except MigrationError Unit := do
  raiseIf ((r.mismatch t proof).isSome)
    (.executionError ("execution_receipt_" ++ (r.mismatch t proof).getD "" ++ "_mismatch"))
  raiseIf (r.malformed.isSome) (.executionError ("execution_receipt_" ++ r.malformed.getD "" ++ "_invalid"))
  raiseIf (r.invalid.isSome) (.executionError ("execution_receipt_" ++ r.invalid.getD "" ++ "_invalid"))
  raiseIf (r.walletMode.any (fun mode => mode ∉ walletModes)) (.executionError "execution_receipt_wallet_mode_invalid")
  raiseIf (r.recipientKeyFingerprint = none)
    (.executionError "execution_receipt_recipient_key_fingerprint_required")
  raiseIf (proof.recipientKeyFingerprint ≠ r.recipientKeyFingerprint)
    (.executionError "execution_receipt_recipient_key_fingerprint_mismatch")
  r.checkBindings cfg t proof

/-- The report is the one the receipt digests. -/
def Report.attested (r : Report) (t : TaskRow) (receipt : MigrationExecutionReceipt) (status digest : String) : Prop :=
  r.status = status ∧ r.targetId = t.targetId ∧ r.manifestDigest = receipt.manifestDigest ∧
    r.artifactId = receipt.artifactId ∧ cfg.contentHash r.json = digest

instance (r : Report) (t : TaskRow) (receipt : MigrationExecutionReceipt) (status digest : String) :
    Decidable (r.attested cfg t receipt status digest) := by unfold Report.attested; infer_instance

/-- The gates of `_record_self_attestation`, all of which must hold. -/
def attestationGates (t : TaskRow) (receipt : MigrationExecutionReceipt) (proof : TargetProof)
    (credential wallet volume : Binding) : Prop :=
  -- manifest_verified, backup_restored and target_health
  (proof.manifestDigest = receipt.manifestDigest ∧ some receipt.manifestDigest = t.manifestDigest) ∧
  proof.restoreReport.attested cfg t receipt "restored" receipt.restoreReportDigest ∧
  (proof.healthReport.attested cfg t receipt "healthy" receipt.healthReportDigest ∧
    proof.healthReport.checks ≠ [] ∧ proof.healthReport.checks.all Prod.snd) ∧
  -- target_identity
  (credential.targetIdentity.any (fun i => MigrationPolicy.blank i = false) ∧
    wallet.targetIdentity = credential.targetIdentity ∧ volume.targetIdentity = credential.targetIdentity ∧
    credential.targetId = some t.targetId ∧ wallet.targetId = some t.targetId ∧ volume.targetId = some t.targetId) ∧
  -- credentials, wallet and encrypted_volume
  (credential.status = some "verified" ∧ receipt.credentialBindingDigest ≠ none) ∧
  (wallet.status ∈ [some "verified", some "committed"] ∧ wallet.mode = receipt.walletMode ∧
    (receipt.walletMode = some "disabled" ∨ receipt.walletProofDigest ≠ none)) ∧
  (volume.status = some "verified" ∧ volume.encrypted ∧ receipt.targetVolumeProofDigest ≠ none) ∧
  -- target_signature, source_fence and target_activation
  MigrationPolicy.blank proof.targetSignature = false ∧ receipt.sourceFenceDigest ≠ "" ∧
  receipt.targetActivationDigest ≠ ""

instance (t : TaskRow) (receipt : MigrationExecutionReceipt) (proof : TargetProof)
    (credential wallet volume : Binding) :
    Decidable (attestationGates cfg t receipt proof credential wallet volume) := by
  unfold attestationGates; infer_instance

/-- An attestation is written once. -/
def writeAttestation (db : Db) (row : AttestationRow) : Except MigrationError Db :=
  match db.attestations.find? row.taskId with
  | some existing =>
    if existing = row then .ok db else .error (.executionError "self_attestation_conflict")
  | none => do
    let attestations ← orRaise (db.attestations.insert? row)
      (.sqliteIntegrityError "UNIQUE constraint failed: migration_self_attestations.task_id")
    .ok { db with attestations }

/-- `_record_self_attestation`. -/
def recordSelfAttestation (db : Db) (x : Reading) (t : TaskRow) (receipt : MigrationExecutionReceipt)
    (proof : TargetProof) (actor : String) : Except MigrationError Db := do
  let credential ← orRaise proof.credentialBinding (.executionError "self_attestation_binding_missing")
  let wallet ← orRaise proof.walletBinding (.executionError "self_attestation_binding_missing")
  let volume ← orRaise proof.targetVolumeProof (.executionError "self_attestation_binding_missing")
  raiseIf (¬attestationGates cfg t receipt proof credential wallet volume)
    (.executionError "self_attestation_gate_failed")
  writeAttestation db ⟨t.taskId, t.subjectId, strip actor, t.targetId, receipt.manifestDigest, x.now⟩

/-- The checks of `run` on the task and the policy it has read, at the clock `now`. -/
def checkRun (t : TaskRow) (policy : MigrationPolicy) (walletMode : Option WalletMode) (now : Time) :
    Except MigrationError Unit := do
  raiseIf (¬policy.enabled ∨ policy.revision ≠ t.policyRevision)
    (.valueError "migration policy is disabled or stale")
  raiseIf (t.status ≠ .approved) (.valueError "migration task requires rollback or reconciliation")
  raiseIf (t.expiresAt ≤ now) (.valueError "migration task is expired")
  raiseIf (policy.allowedTargetIds ≠ [] ∧ t.targetId ∉ policy.allowedTargetIds)
    (.valueError "migration target is not allowed")
  raiseIf (walletMode ≠ some policy.walletMode) (.valueError "wallet migration policy binding mismatch")
  let minute := now / (60 * second) % 1440
  raiseIf (policy.maintenanceWindowDurationMinutes ≤
      (minute + 1440 - policy.maintenanceWindowStartMinute) % 1440)
    (.valueError "migration maintenance window is closed")

/-- The reservation of `run`: the epoch is acquired and bound in one transaction. -/
def reserve (db : Db) (x : Reading) (t : TaskRow) (policy : MigrationPolicy) (actor : String) :
    Except MigrationError ((EpochLease × TaskRow) × Db) := do
  let current ← orRaise (db.policy t.subjectId) (.valueError "migration policy changed before fencing")
  raiseIf (current ≠ policy) (.valueError "migration policy changed before fencing")
  raiseIf (x.paymentInFlight) (.valueError "migration blocked by unresolved wallet payments")
  let _ ← ensureTarget db t.subjectId t.targetId
  raiseIf (cooldownUntil db x.now t.subjectId t.targetId ≠ none)
    (.valueError "migration rejection cooldown is active")
  let (lease, db) ← acquireInTransaction db x t.subjectId t.targetId t.sourceEpoch
  let (t, db) ← transitionTask db x t.taskId .preparing actor
    { expectedStatus := some .approved, targetEpochId := some lease.epochId,
      artifactId := some ("migration-" ++ t.taskId) }
  .ok ((lease, t), db)

/-- The task in `cutover`, which a validating task enters first. -/
def enterCutover (db : Db) (x : Reading) (t : TaskRow) (actor : String) : Except MigrationError Db :=
  if t.status = .validating then do
    let (_, db) ← transitionTask db x t.taskId .cutover actor { expectedStatus := some .validating }
    .ok db
  else .ok db

/-- The attestation a self attested policy asks for. -/
def attestCommit (db : Db) (x : Reading) (t : TaskRow) (receipt : MigrationExecutionReceipt) (proof : TargetProof)
    (actor : String) : Except MigrationError Db := do
  let policy ← orRaise (db.policy t.subjectId) (.valueError "migration policy is missing")
  policy.validate
  if policy.approvalMode = .selfAttested then recordSelfAttestation cfg db x t receipt proof actor else .ok db

/-- `_commit_receipt`: commit, attestation and completion of the epoch are one transaction. -/
def commitReceipt (db : Db) (x : Reading) (t : TaskRow) (lease : EpochLease) (receipt : MigrationExecutionReceipt)
    (proof : TargetProof) (actor : String) : Except MigrationError (TaskRow × Db) := do
  receipt.validate cfg t proof
  let db ← enterCutover db x t actor
  let _ ← assertCurrent db lease
  let (t, db) ← transitionTask db x t.taskId .committed actor { expectedStatus := some .cutover }
  let db ← attestCommit cfg db x t receipt proof actor
  let db ← completeInTransaction db x lease actor
  .ok (t, db)

/-- `_proof_for_task`: the latest recorded proof of the task, among the last 32 of its subject. -/
def proofForTask (db : Db) (taskId : Id) : Except MigrationError TargetProof := do
  let t ← db.getTask taskId
  let events := ((db.proofEvents.filter (fun e => e.subjectId = t.subjectId)).reverse).take 32
  let event ← orRaise (events.find? (fun e => e.taskId = taskId)) (.valueError "migration execution proof is missing")
  .ok event.proof

def revokeBound (db : Db) (x : Reading) (lease : Option EpochLease) (reason actor : String) :
    Except MigrationError Db :=
  match lease with
  | some lease => revokeInTransaction db x lease reason actor
  | none => .ok db

/-- The last transaction of `rollback`: the epoch is revoked with the task rolled back. -/
def finishRollback (db : Db) (x : Reading) (taskId : Id) (lease : Option EpochLease) (reason actor : String) :
    Except MigrationError (TaskRow × Db) := do
  let db ← revokeBound db x lease reason actor
  transitionTask db x taskId .rolledBack actor { expectedStatus := some .rollingBack, errorCode := some reason }

/-- The proof of deactivation `rollback` asks for. -/
def expectedCancellation (t : TaskRow) (manifestDigest : String) : Cancellation :=
  ⟨t.taskId, t.targetId, t.sourceEpoch, manifestDigest, "deactivated", true⟩

/-- `_ID`: a letter or digit, then 2 to 127 letters, digits or punctuation of an id. -/
def isRecoveryId (s : String) : Bool :=
  match s.toList with
  | [] => false
  | c :: cs => c.isAlphanum && 2 ≤ cs.length && cs.length ≤ 127 &&
    cs.all (fun c => c.isAlphanum || c ∈ ['_', '.', ':', '-'])

/-- `_SIGNATURE`: 80 to 100 characters of base64, then at most two signs of padding. -/
def isSignature (s : String) : Bool :=
  let body := s.toList.takeWhile (fun c => c.isAlphanum || c ∈ ['_', '-'])
  let padding := s.toList.drop body.length
  80 ≤ body.length && body.length ≤ 100 && padding.length ≤ 2 && padding.all (· == '=')

/-- The checks of `restore_standby` on its arguments. -/
def checkRestore (request : RecoveryRequest) (policy : MigrationPolicy) : Except MigrationError Unit := do
  raiseIf (¬policy.enabled ∨ ¬policy.emergencyRecoveryEnabled) (.valueError "emergency recovery is disabled")
  raiseIf (policy.approvalMode ≠ .emergencyRecovery)
    (.valueError "emergency recovery requires its dedicated approval mode")
  raiseIf (request.standbyTargetId ∉ policy.allowedTargetIds) (.valueError "standby target is not allowlisted")
  raiseIf (isRecoveryId request.taskId = false ∨ isRecoveryId request.standbyTargetId = false)
    (.valueError "recovery task or target id is invalid")
  raiseIf (isRecoveryId request.verifiedBackupId = false) (.valueError "verified backup id is invalid")
  raiseIf (request.sourceFailureEvidence = "" ∨ 4096 < request.sourceFailureEvidence.length)
    (.valueError "source failure evidence is required")
  raiseIf (["api_key", "private_key", "password", "bearer", "token"].any
      (contains (cfg.casefold request.sourceFailureEvidence)))
    (.valueError "source failure evidence contains secret material")
  raiseIf (isDigest request.manifestDigest = false) (.valueError "manifest_digest is invalid")
  raiseIf (isDigest request.restoreReportDigest = false) (.valueError "restore_report_digest is invalid")
  raiseIf (isDigest request.healthReportDigest = false) (.valueError "health_report_digest is invalid")
  raiseIf (isSignature request.targetSignature = false) (.valueError "target recovery signature is invalid")

/-- `proof_payload`. -/
def recoveryPayload (request : RecoveryRequest) : Json :=
  .obj [("kind", .str "noyra-recovery-proof-v1"), ("task_id", .str request.taskId),
    ("target_id", .str request.standbyTargetId), ("backup_id", .str request.verifiedBackupId),
    ("manifest_digest", .str request.manifestDigest),
    ("restore_report_digest", .str request.restoreReportDigest),
    ("health_report_digest", .str request.healthReportDigest),
    ("source_failure_evidence_hash", .str (cfg.contentHash (.str request.sourceFailureEvidence)))]

/-- The evidence a recovery proposal keeps. -/
def recoveryEvidence (request : RecoveryRequest) : Json :=
  .obj [("source_failure_evidence_hash", .str (cfg.contentHash (.str request.sourceFailureEvidence))),
    ("backup_id", .str request.verifiedBackupId), ("manifest_digest", .str request.manifestDigest),
    ("restore_report_digest", .str request.restoreReportDigest),
    ("health_report_digest", .str request.healthReportDigest)]

def recoveryExpiry : Time := 253402300799 * second

/-- The proposal of a recovery. -/
def recoveryProposal (x : Reading) (request : RecoveryRequest) (policy : MigrationPolicy) : ProposalRow :=
  { proposalId := x.newId "migrationproposal", subjectId := policy.subjectId,
    targetId := request.standbyTargetId, policyRevision := policy.revision, approvalMode := .manual,
    status := .approved, reasonCode := "emergency_recovery", reason := "verified standby recovery",
    evidenceJson := cfg.jsonText (recoveryEvidence cfg request), expiresAt := recoveryExpiry, createdAt := x.now,
    decidedAt := some x.now, decisionReason := some "verified emergency recovery proof" }

/-- The task of a recovery: it starts validating, without an epoch. -/
def recoveryTask (x : Reading) (request : RecoveryRequest) (policy : MigrationPolicy) (sourceEpoch : String) :
    TaskRow :=
  { taskId := request.taskId, proposalId := x.newId "migrationproposal", subjectId := policy.subjectId,
    targetId := request.standbyTargetId, idempotencyKey := "recovery:" ++ request.taskId, sourceEpoch,
    policyRevision := policy.revision, status := .validating, manifestDigest := some request.manifestDigest,
    artifactId := some request.verifiedBackupId, errorCode := none, targetEpochId := none,
    expiresAt := recoveryExpiry, createdAt := x.now, updatedAt := x.now }

/-- `_matches_existing_request`. -/
def matchesRequest (t : TaskRow) (p : ProposalRow) (request : RecoveryRequest) (subjectId : Id) : Bool :=
  t.subjectId = subjectId ∧ t.targetId = request.standbyTargetId ∧
    t.manifestDigest = some request.manifestDigest ∧ t.artifactId = some request.verifiedBackupId ∧
    p.evidenceJson = cfg.jsonText (recoveryEvidence cfg request)

/-- A task joined with its proposal. -/
def Db.taskWithProposal (db : Db) (taskId : Id) : Option (TaskRow × ProposalRow) :=
  (db.tasks.find? taskId).bind (fun t => (db.proposals.find? t.proposalId).map (fun p => (t, p)))

/-- The target, its attestation and the signature of a recovery request; the version of the runtime. -/
def checkStandby (db : Db) (x : Reading) (request : RecoveryRequest) (subjectId : Id) :
    Except MigrationError String := do
  let target ← orRaise (db.targets.find? request.standbyTargetId) (.valueError "standby target is not attested")
  raiseIf (target.subjectId ≠ subjectId ∨ target.status ≠ .active ∨ target.attestedAt = none)
    (.valueError "standby target is not attested")
  raiseIf (x.backupVerified = false) (.valueError "verified backup is not registered")
  let version ← orRaise (db.runtime subjectId) (.valueError "current source runtime epoch is unavailable")
  raiseIf (target.attestationEpoch ≠ some (runtimeEpoch version)) (.valueError "standby target attestation is stale")
  raiseIf (cfg.verify target.publicKey (recoveryPayload cfg request) request.targetSignature = false)
    (.valueError "target recovery signature verification failed")
  .ok (runtimeEpoch version)

/-- A new recovery task with its proposal. -/
def createRecovery (db : Db) (x : Reading) (request : RecoveryRequest) (policy : MigrationPolicy)
    (sourceEpoch : String) : Except MigrationError Db := do
  let proposals ← orRaise (db.proposals.insert? (recoveryProposal cfg x request policy))
    (.sqliteIntegrityError "UNIQUE constraint failed: migration_proposals.proposal_id")
  insertTask { db with proposals } (recoveryTask x request policy sourceEpoch)

/-- The recovery task, created unless the request is repeated. -/
def ensureRecovery (db : Db) (x : Reading) (request : RecoveryRequest) (policy : MigrationPolicy)
    (sourceEpoch : String) : Except MigrationError Db :=
  if db.taskWithProposal request.taskId = none then createRecovery cfg db x request policy sourceEpoch else .ok db

/-- The first transaction of `_restore_pinned_standby`; `some` task is a request that was already served. -/
def recoverTask (db : Db) (x : Reading) (request : RecoveryRequest) (policy : MigrationPolicy) :
    Except MigrationError (Option TaskRow × Db) := do
  let sourceEpoch ← checkStandby cfg db x request policy.subjectId
  let existing := db.taskWithProposal request.taskId
  raiseIf (existing.any (fun tp => matchesRequest cfg tp.1 tp.2 request policy.subjectId = false))
    (.valueError "recovery task identity is already used")
  match existing.filter (fun tp => tp.1.targetEpochId ≠ none ∨ tp.1.status ≠ .validating) with
  | some tp => .ok (some tp.1, db)
  | none => do
    raiseIf ((db.activeEpoch policy.subjectId).isSome) (.valueError "subject already has an active migration epoch")
    let db ← ensureRecovery cfg db x request policy sourceEpoch
    .ok (none, db)

/-- The last transaction of `_restore_pinned_standby`: it binds the epoch, and only to a validating task. -/
def bindRecovery (db : Db) (x : Reading) (taskId epochId : Id) : Except MigrationError Db := do
  let t ← orRaise (db.tasks.find? taskId) (.valueError "recovery task disappeared")
  raiseIf (t.status ≠ .validating) (.valueError "recovery task state changed")
  raiseIf (db.tasks.rows.any (fun o => o.taskId ≠ t.taskId ∧ o.targetEpochId = some epochId))
    (.sqliteIntegrityError "UNIQUE constraint failed: migration_tasks.target_epoch_id")
  .ok { db with tasks := db.tasks.replace { t with targetEpochId := some epochId, updatedAt := x.now } }

/-- `_mark_task_failed`. -/
def markTaskFailed (db : Db) (x : Reading) (taskId : Id) (errorCode : String) : Db :=
  match (db.tasks.find? taskId).filter (fun t => t.status = .validating) with
  | some t =>
    { db with tasks := db.tasks.replace { t with status := .failed, errorCode := some errorCode, updatedAt := x.now } }
  | none => db

end

/-- What the marker files of the fence directory say. -/
inductive Marker
  | unreadable
  | record (status subjectId : Option String)
  deriving DecidableEq

inductive FenceRoot
  | absent
  | unreadable
  | markers (files : List Marker)
  deriving DecidableEq

/-- `_migration_fence_active`. -/
def fenceActive (root : FenceRoot) (subjectId : Id) : Bool :=
  match root with
  | .absent => false
  | .unreadable => true
  | .markers files => files.any (fun
    | .unreadable => true
    | .record status subject => status = some "active" ∧ subject = some subjectId)

/-- The epoch belongs to another host than the one with this target id. -/
def foreign (own : Option Id) (targetId : Id) : Bool := own.all (fun id => targetId ≠ id)

/-- The query both guards share: an epoch of the subject that another host holds or has taken over. -/
def fencedEpoch (db : Db) (subjectId : Id) (own : Option Id) : Bool :=
  db.epochs.rows.any (fun e => e.subjectId = subjectId ∧ e.status ∈ [EpochStatus.active, .completed] ∧
    foreign own e.targetId)

/-- `_migration_epoch_guard`. -/
def migrationEpochGuard (db : Db) (subjectId : Id) (root : FenceRoot) (own : Option Id) : Bool :=
  !fencedEpoch db subjectId own && !fenceActive root subjectId

/-- A task being rolled back whose epoch is already revoked. -/
def revokedRollback (db : Db) (subjectId : Id) (own : Option Id) : Bool :=
  db.tasks.rows.any (fun t => t.subjectId = subjectId ∧ t.status = .rollingBack ∧
    (t.targetEpochId.bind db.epochs.find?).any (fun e => e.status = .revoked ∧ foreign own e.targetId))

/-- `_no_active_migration_epoch`. -/
def noActiveMigrationEpoch (db : Db) (subjectId : Id) (root : FenceRoot) (own : Option Id) : Bool :=
  !fencedEpoch db subjectId own && !revokedRollback db subjectId own && !fenceActive root subjectId

end Noyra.Migration
