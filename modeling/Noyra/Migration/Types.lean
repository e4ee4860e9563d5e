import Noyra.Lib.Outcome
import Noyra.Lib.Table
import Noyra.Lib.Text
import Noyra.Wallet.Types

/-!
# Migration vocabulary

Statuses, policy and rows of the migration tables (`migration/policy.py`, `migration/manager.py`,
`migration/fencing.py`, `migration/executor.py`). Every write stores the content hash of the row it writes
and every read compares it; rows are written no other way, so the hash columns are left out. Instants are
microseconds since 1970.
-/

namespace Noyra.Migration
open Noyra.Lib
open Noyra.Wallet (Id Json)

abbrev Time := Nat

def second : Time := 1000000

/-- `isoformat(timespec="milliseconds")` keeps whole milliseconds. -/
def toMillis (t : Time) : Time := t / 1000 * 1000

inductive MigrationError
  | valueError (message : String)
  | notFoundError (message : String)
  | approvalError (code : String)
  | executionError (code : String)
  | policyConflictError (message : String)
  | sqliteIntegrityError (message : String)
  | operationInvalidated (message : String)
  | activationEvidenceError
  | targetActivationError (code : String)
  deriving DecidableEq, Repr

inductive ApprovalMode
  | disabled | manual | selfAttested | dualReview | policyAuto | emergencyRecovery
  deriving DecidableEq, Repr

inductive WalletMode
  | externalSignerRebind | localWalletTransfer | disabled
  deriving DecidableEq, Repr

inductive TaskStatus
  | planned | preflight | awaitingApproval | approved | preparing | transferring | restoring | validating
  | cutover | committed | rollingBack | rolledBack | cancelled | failed
  deriving DecidableEq, Repr

/-- `_TASK_TRANSITIONS`. A task waiting for approval may not become rejected or expired: no task has
such a status. -/
def taskTransitions : TaskStatus → List TaskStatus
  | .planned => [.preflight, .awaitingApproval, .cancelled, .failed]
  | .preflight => [.awaitingApproval, .approved, .cancelled, .failed]
  | .awaitingApproval => [.approved, .cancelled]
  | .approved => [.preparing, .rollingBack, .cancelled, .failed]
  | .preparing => [.transferring, .restoring, .validating, .cutover, .committed, .rollingBack, .failed]
  | .transferring => [.restoring, .validating, .rollingBack, .failed]
  | .restoring => [.validating, .rollingBack, .failed]
  | .validating => [.cutover, .committed, .rollingBack, .failed]
  | .cutover => [.committed, .rollingBack, .failed]
  | .committed => []
  | .rollingBack => [.rolledBack, .failed]
  | .rolledBack => []
  | .cancelled => []
  | .failed => [.preflight, .rollingBack, .cancelled]

inductive ProposalStatus
  | planned | awaitingApproval | approved | rejected | expired | cancelled | executing
  deriving DecidableEq, Repr

/-- `_PROPOSAL_ACTIVE`. -/
def proposalActive : List ProposalStatus := [.planned, .awaitingApproval, .approved]

inductive EpochStatus
  | active | revoked | completed
  deriving DecidableEq, Repr

inductive TargetStatus
  | pending | active | revoked | quarantined
  deriving DecidableEq, Repr

structure MigrationPolicy where
  subjectId : Id
  enabled : Bool
  approvalMode : ApprovalMode
  emergencyRecoveryEnabled : Bool
  localWalletTransferEnabled : Bool
  walletMode : WalletMode
  allowedTargetIds : List Id
  allowedRegions : List String
  minFreeBytes : Nat
  maxCostMicrousd : Nat
  maxDowntimeSeconds : Nat
  maintenanceWindowStartMinute : Nat
  maintenanceWindowDurationMinutes : Nat
  trustLevel : Nat
  rejectionCooldownSeconds : Nat
  proposalExpirySeconds : Nat
  revision : Nat
  updatedAt : Time
  deriving DecidableEq, Repr

namespace MigrationPolicy

/-- `default`. -/
def default (subjectId : Id) (now : Time) : MigrationPolicy :=
  { subjectId, enabled := false, approvalMode := .disabled, emergencyRecoveryEnabled := false,
    localWalletTransferEnabled := false, walletMode := .externalSignerRebind, allowedTargetIds := [],
    allowedRegions := [], minFreeBytes := 0, maxCostMicrousd := 0, maxDowntimeSeconds := 3600,
    maintenanceWindowStartMinute := 0, maintenanceWindowDurationMinutes := 1440, trustLevel := 3,
    rejectionCooldownSeconds := 604800, proposalExpirySeconds := 86400, revision := 1, updatedAt := now }

/-- One row of the `bounds` table of `validate`. -/
def bounded (name : String) (value lower upper : Nat) : Except MigrationError Unit :=
  raiseIf (¬(lower ≤ value ∧ value ≤ upper)) (.valueError (name ++ " is outside its safety bounds"))

def blank (s : String) : Bool := strip s == ""

def validate (p : MigrationPolicy) : Except MigrationError Unit := do
  raiseIf (¬p.enabled ∧ p.approvalMode ∉ [ApprovalMode.disabled, .manual, .selfAttested, .dualReview])
    (.valueError "disabled migration cannot use automatic approval")
  raiseIf (p.enabled ∧ p.approvalMode = .disabled) (.valueError "enabled migration requires an approval mode")
  raiseIf (p.approvalMode = .policyAuto ∧ p.allowedTargetIds = [])
    (.valueError "policy_auto requires a non-empty target allowlist")
  raiseIf (p.approvalMode = .emergencyRecovery ∧ ¬p.emergencyRecoveryEnabled)
    (.valueError "emergency recovery approval requires explicit enablement")
  raiseIf (p.walletMode = .localWalletTransfer ∧ ¬p.localWalletTransferEnabled)
    (.valueError "local wallet transfer requires explicit local wallet opt-in")
  raiseIf (256 < p.allowedTargetIds.length ∨ p.allowedTargetIds.any blank)
    (.valueError "target allowlist is invalid")
  raiseIf (64 < p.allowedRegions.length ∨ p.allowedRegions.any blank)
    (.valueError "migration regions are invalid")
  bounded "min_free_bytes" p.minFreeBytes 0 (10 ^ 15)
  bounded "max_cost_microusd" p.maxCostMicrousd 0 (10 ^ 12)
  bounded "max_downtime_seconds" p.maxDowntimeSeconds 0 604800
  bounded "maintenance_window_start_minute" p.maintenanceWindowStartMinute 0 1439
  bounded "maintenance_window_duration_minutes" p.maintenanceWindowDurationMinutes 1 1440
  bounded "trust_level" p.trustLevel 1 5
  bounded "rejection_cooldown_seconds" p.rejectionCooldownSeconds 0 31536000
  bounded "proposal_expiry_seconds" p.proposalExpirySeconds 300 604800
  bounded "revision" p.revision 1 (2 ^ 63 - 1)

end MigrationPolicy

/-- The fields an operator may change. -/
structure PolicyPatch where
  enabled : Option Bool := none
  approvalMode : Option ApprovalMode := none
  emergencyRecoveryEnabled : Option Bool := none
  localWalletTransferEnabled : Option Bool := none
  walletMode : Option WalletMode := none
  allowedTargetIds : Option (List Id) := none
  allowedRegions : Option (List String) := none
  minFreeBytes : Option Nat := none
  maxCostMicrousd : Option Nat := none
  maxDowntimeSeconds : Option Nat := none
  maintenanceWindowStartMinute : Option Nat := none
  maintenanceWindowDurationMinutes : Option Nat := none
  trustLevel : Option Nat := none
  rejectionCooldownSeconds : Option Nat := none
  proposalExpirySeconds : Option Nat := none
  deriving DecidableEq

/-- Enabling without a mode means self attestation, disabling without a mode means no approval. -/
def PolicyPatch.approvalModeFor (patch : PolicyPatch) (p : MigrationPolicy) : ApprovalMode :=
  match patch.approvalMode, patch.enabled with
  | some mode, _ => mode
  | none, some true => if p.approvalMode = .disabled then .selfAttested else p.approvalMode
  | none, some false => .disabled
  | none, none => p.approvalMode

/-- `tuple(dict.fromkeys(str(item).strip() for item in raw))`. -/
def distinctStripped (items : List String) : List String :=
  (items.map strip).foldl (fun seen item => if item ∈ seen then seen else seen ++ [item]) []

/-- `with_updates`. -/
def MigrationPolicy.withUpdates (p : MigrationPolicy) (patch : PolicyPatch) (now : Time) :
    Except MigrationError MigrationPolicy := do
  let updated : MigrationPolicy :=
    { subjectId := p.subjectId
      enabled := patch.enabled.getD p.enabled
      approvalMode := patch.approvalModeFor p
      emergencyRecoveryEnabled := patch.emergencyRecoveryEnabled.getD p.emergencyRecoveryEnabled
      localWalletTransferEnabled := patch.localWalletTransferEnabled.getD p.localWalletTransferEnabled
      walletMode := patch.walletMode.getD p.walletMode
      allowedTargetIds := (patch.allowedTargetIds.map distinctStripped).getD p.allowedTargetIds
      allowedRegions := (patch.allowedRegions.map distinctStripped).getD p.allowedRegions
      minFreeBytes := patch.minFreeBytes.getD p.minFreeBytes
      maxCostMicrousd := patch.maxCostMicrousd.getD p.maxCostMicrousd
      maxDowntimeSeconds := patch.maxDowntimeSeconds.getD p.maxDowntimeSeconds
      maintenanceWindowStartMinute := patch.maintenanceWindowStartMinute.getD p.maintenanceWindowStartMinute
      maintenanceWindowDurationMinutes :=
        patch.maintenanceWindowDurationMinutes.getD p.maintenanceWindowDurationMinutes
      trustLevel := patch.trustLevel.getD p.trustLevel
      rejectionCooldownSeconds := patch.rejectionCooldownSeconds.getD p.rejectionCooldownSeconds
      proposalExpirySeconds := patch.proposalExpirySeconds.getD p.proposalExpirySeconds
      revision := p.revision + 1
      updatedAt := now }
  updated.validate
  .ok updated

/-- `migration_targets`: what the migration code reads of a registered target. -/
structure TargetRow where
  targetId : Id
  subjectId : Id
  status : TargetStatus
  attestedAt : Option Time
  attestationEpoch : Option String
  publicKey : String
  deriving DecidableEq

structure ProposalRow where
  proposalId : Id
  subjectId : Id
  targetId : Id
  policyRevision : Nat
  approvalMode : ApprovalMode
  status : ProposalStatus
  reasonCode : String
  reason : String
  evidenceJson : String
  expiresAt : Time
  createdAt : Time
  decidedAt : Option Time
  decisionReason : Option String
  deriving DecidableEq

structure ApprovalRow where
  approvalId : Id
  proposalId : Id
  subjectId : Id
  actor : String
  identityBinding : Option String
  policyRevision : Nat
  createdAt : Time
  deriving DecidableEq

structure RejectionRow where
  rejectionId : Id
  subjectId : Id
  proposalId : Id
  targetId : Id
  reasonCode : String
  reason : String
  cooldownUntil : Time
  policyRevision : Nat
  actor : String
  createdAt : Time
  deriving DecidableEq

/-- `migration_tasks`, the row behind a `MigrationTask`. -/
structure TaskRow where
  taskId : Id
  proposalId : Id
  subjectId : Id
  targetId : Id
  idempotencyKey : String
  sourceEpoch : String
  policyRevision : Nat
  status : TaskStatus
  manifestDigest : Option String
  artifactId : Option String
  errorCode : Option String
  targetEpochId : Option Id
  expiresAt : Time
  createdAt : Time
  updatedAt : Time
  deriving DecidableEq

structure EpochRow where
  epochId : Id
  subjectId : Id
  targetId : Id
  epochNumber : Nat
  status : EpochStatus
  acquiredAt : Time
  revokedAt : Option Time
  deriving DecidableEq

/-- A restore or health report of the target. -/
structure Report where
  targetId : String
  artifactId : String
  manifestDigest : String
  status : String
  checks : List (String × Bool)
  deriving DecidableEq

/-- A credential, wallet or volume binding; `names` are its keys. -/
structure Binding where
  names : List String
  targetId : Option String
  targetIdentity : Option String
  status : Option String
  mode : Option String
  encrypted : Bool
  deriving DecidableEq

structure Manifest where
  artifactId : String
  content : String
  deriving DecidableEq

/-- The proof given to `prepare`. -/
structure TargetProof where
  manifestDigest : String
  artifactId : String
  restoreReport : Report
  healthReport : Report
  targetSignature : String
  manifest : Option Manifest
  credentialBinding : Option Binding
  walletBinding : Option Binding
  targetVolumeProof : Option Binding
  recipientKeyFingerprint : Option String
  deriving DecidableEq

/-- What `_verify_target_proof` returns and `EpochLease.acquire` checks. -/
structure ValidationProof where
  taskId : String
  subjectId : String
  targetId : String
  manifestDigest : String
  restoreReportDigest : String
  healthReportDigest : String
  targetSignature : String
  deriving DecidableEq

structure MigrationExecutionReceipt where
  taskId : String
  subjectId : String
  targetId : String
  sourceEpoch : String
  manifestDigest : String
  artifactId : String
  restoreReportDigest : String
  healthReportDigest : String
  sourceFenceDigest : String
  targetActivationDigest : String
  recipientKeyFingerprint : Option String
  targetVolumeProofDigest : Option String
  credentialBindingDigest : Option String
  signerBindingDigest : Option String
  walletMode : Option String
  walletProofDigest : Option String
  deriving DecidableEq

/-- The signed answer of a target that has revoked an activation. -/
structure Cancellation where
  taskId : String
  targetId : String
  sourceEpoch : String
  manifestDigest : String
  status : String
  activationRevoked : Bool
  deriving DecidableEq

structure RecoveryRequest where
  taskId : String
  standbyTargetId : String
  verifiedBackupId : String
  sourceFailureEvidence : String
  manifestDigest : String
  restoreReportDigest : String
  healthReportDigest : String
  targetSignature : String
  deriving DecidableEq

/-- `EpochLease`, without its database. -/
structure EpochLease where
  subjectId : Id
  targetId : Id
  epochId : Id
  epochNumber : Nat
  deriving DecidableEq

/-- `migration_self_attestations`: who attested the task and the digest of what was attested. -/
structure AttestationRow where
  taskId : Id
  subjectId : Id
  actor : String
  targetId : Id
  manifestDigest : String
  completedAt : Time
  deriving DecidableEq

/-- A `migration_target_proof_verified` audit event. -/
structure ProofEvent where
  subjectId : Id
  taskId : Id
  proof : TargetProof
  deriving DecidableEq

/-- The migration tables, and what the migration code reads of the core tables: the subjects and the
version of each runtime. -/
structure Db where
  subjects : List Id
  runtime : Id → Option Nat
  policies : Table MigrationPolicy.subjectId
  targets : Table TargetRow.targetId
  proposals : Table ProposalRow.proposalId
  approvals : Table ApprovalRow.approvalId
  rejections : Table RejectionRow.rejectionId
  tasks : Table TaskRow.taskId
  epochs : Table EpochRow.epochId
  attestations : Table AttestationRow.taskId
  proofEvents : List ProofEvent

def Db.empty : Db := ⟨[], fun _ => none, .empty, .empty, .empty, .empty, .empty, .empty, .empty, .empty, []⟩

/-- What a transaction reads from outside: the clock, the ids of `new_id` by their stem, and what other
subsystems and the target answer. -/
structure Reading where
  now : Time
  newId : String → Id
  activationEvidence : Bool
  paymentInFlight : Bool
  backupVerified : Bool
  manifest : Option Manifest
  proof : Option TargetProof
  receipt : Option MigrationExecutionReceipt
  cancellation : Option Cancellation

/-- The hash, the signature scheme and what is done to texts. -/
structure Config where
  casefold : String → String
  /-- `redact_secret_text`. -/
  redactSecretText : String → String
  /-- `json.dumps` with sorted keys. -/
  jsonText : Json → String
  contentHash : Json → String
  /-- `sha256("noyra-reviewer-principal:" + principal)`. -/
  principalBinding : String → String
  /-- Ed25519 verification of a canonical payload under a registered key. -/
  verify : String → Json → String → Bool

end Noyra.Migration
