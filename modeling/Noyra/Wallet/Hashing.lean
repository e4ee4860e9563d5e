import Noyra.Wallet.Database

/-!
# State hashes

Each mutable row stores the hash of its own columns. Writers compute the new hash from the row they
read and the values they are about to write; auditors recompute it from the stored row.
-/

namespace Noyra.Wallet
open Noyra.Lib

namespace Json

/-- A canonical decimal amount. -/
def amount (n : Nat) : Json := .str (toString n)

def time (t : Time) : Json := .nat t

end Json

variable (cfg : Config)

/-- `wallet_payment_policy_state_hash`. -/
def policyStateHash (p : PolicyRow) : String :=
  cfg.contentHash (.obj [("subject_id", .str p.subjectId), ("mode", .str p.terms.mode.text),
    ("allowed_network_ids_json", .strs p.terms.allowedNetworkIds),
    ("allowed_asset_ids_json", .strs p.terms.allowedAssetIds),
    ("per_order_limit", .amount p.terms.perOrderLimit), ("daily_limit", .amount p.terms.dailyLimit),
    ("monthly_limit", .amount p.terms.monthlyLimit), ("daily_order_limit", .nat p.terms.dailyOrderLimit),
    ("monthly_order_limit", .nat p.terms.monthlyOrderLimit),
    ("min_balance", .amount p.terms.minBalance),
    ("max_observation_age_seconds", .nat p.terms.maxObservationAgeSeconds),
    ("automatic_max_amount", .amount p.terms.automaticMaxAmount),
    ("anomaly_block", .bool p.terms.anomalyBlock), ("emergency_paused", .bool p.terms.emergencyPaused),
    ("automation_enabled", .bool p.automationEnabled),
    ("recipient_allowlist_enabled", .bool p.terms.recipientAllowlistEnabled),
    ("allowed_recipient_addresses_json", .strs p.terms.allowedRecipientAddresses),
    ("policy_version", .nat p.policyVersion), ("updated_at", .time p.updatedAt)])

/-- `_bounty_state_hash_row`. -/
def bountyStateHashRow (b : BountyRow) (status : BountyStatus) : String :=
  cfg.contentHash (.obj [("bounty_id", .str b.bountyId), ("subject_id", .str b.subjectId),
    ("project_id", .opt .str b.projectId), ("goal_id", .opt .str b.goalId),
    ("idempotency_key", .str b.idempotencyKey), ("title", .str b.title),
    ("description", .str b.description), ("acceptance_criteria_json", .strs b.acceptanceCriteria),
    ("network_id", .str b.networkId), ("asset_id", .str b.assetId),
    ("reward_amount", .amount b.rewardAmount), ("opens_at", .time b.opensAt),
    ("expires_at", .time b.expiresAt), ("max_submissions", .nat b.maxSubmissions),
    ("reward_slots", .nat b.rewardSlots), ("status", .str status.text)])

/-- `_submission_state_hash_row`. -/
def submissionStateHashRow (s : SubmissionRow) (status : SubmissionStatus) (reason : Option String) :
    String :=
  cfg.contentHash (.obj [("submission_id", .str s.submissionId), ("bounty_id", .str s.bountyId),
    ("subject_id", .str s.subjectId), ("counterparty", .str s.counterparty),
    ("content", .str s.content), ("evidence_json", .strs s.evidence),
    ("recipient_address", .str s.recipientAddress), ("idempotency_key", .str s.idempotencyKey),
    ("consent_version", .nat s.consentVersion), ("status", .str status.text),
    ("decision_reason", .opt .str reason)])

/-- `_order_temporal_hash`, with the identity columns read from a row. -/
def orderTemporalHash (o : OrderRow) (status : OrderStatus) (authorizedAt : Option Time)
    (updatedAt : Time) : String :=
  cfg.contentHash (.obj [("order_id", .str o.orderId), ("subject_id", .str o.subjectId),
    ("bounty_id", .str o.bountyId), ("submission_id", .str o.submissionId),
    ("network_id", .str o.networkId), ("asset_id", .str o.assetId),
    ("recipient_address", .str o.recipientAddress), ("amount", .amount o.amount),
    ("payment_mode", .str o.paymentMode.text), ("policy_version", .nat o.policyVersion),
    ("idempotency_key", .str o.idempotencyKey), ("status", .str status.text),
    ("created_at", .time o.createdAt), ("authorized_at", .opt .time authorizedAt),
    ("updated_at", .time updatedAt)])

/-- `_order_state_hash_row`: an omitted argument stands for the stored column. -/
def orderStateHashRow (o : OrderRow) (status : OrderStatus) (authorizedAt updatedAt : Option Time) :
    String :=
  orderTemporalHash cfg o status (authorizedAt.or o.authorizedAt) (updatedAt.getD o.updatedAt)

/-- `wallet_journal_hash`. -/
def walletJournalHash (j : JournalRow) : String :=
  cfg.contentHash (.obj [("journal_id", .str j.journalId), ("subject_id", .str j.subjectId),
    ("order_id", .str j.orderId), ("network_id", .str j.networkId), ("asset_id", .str j.assetId),
    ("journal_type", .str j.journalType.text), ("amount", .amount j.amount),
    ("created_at", .time j.createdAt)])

/-- `wallet_entry_hash`. -/
def walletEntryHash (e : EntryRow) : String :=
  cfg.contentHash (.obj [("entry_id", .str e.entryId), ("journal_id", .str e.journalId),
    ("subject_id", .str e.subjectId), ("order_id", .str e.orderId),
    ("account", .str e.account.text), ("direction", .str e.direction.text),
    ("amount", .amount e.amount), ("created_at", .time e.createdAt)])

/-- `_execution_hash_values_from_row`. -/
def executionHashValuesFromRow (e : ExecutionRow) (status : ExecutionStatus) (txHash : Option String)
    (errorCode : Option String) (receipt : ReceiptColumns) (attemptCount : Nat) (updatedAt : Time) :
    String :=
  cfg.contentHash (.obj [("execution_id", .str e.executionId), ("subject_id", .str e.subjectId),
    ("order_id", .str e.orderId), ("network_id", .str e.networkId), ("asset_id", .str e.assetId),
    ("source_address", .str e.sourceAddress), ("recipient_address", .str e.recipientAddress),
    ("asset_type", .str e.assetType.text), ("contract_address", .opt .str e.contractAddress),
    ("amount", .amount e.amount), ("chain_id", .nat e.chainId), ("nonce", .nat e.nonce),
    ("gas_limit", .nat e.gasLimit), ("max_fee_per_gas", .amount e.maxFeePerGas),
    ("request_id", .str e.requestId), ("request_hash", .str e.requestHash),
    ("signer_id", .str e.signerId), ("status", .str status.text), ("tx_hash", .opt .str txHash),
    ("error_code", .opt .str errorCode), ("receipt_status", .opt .nat receipt.status),
    ("receipt_block_number", .opt .nat receipt.blockNumber),
    ("receipt_block_hash", .opt .str receipt.blockHash),
    ("receipt_confirmations", .opt .nat receipt.confirmations),
    ("receipt_effect_hash", .opt .str receipt.effectHash), ("attempt_count", .nat attemptCount),
    ("created_at", .time e.createdAt), ("updated_at", .time updatedAt)])

/-- `_execution_hash`. -/
def executionHash (e : ExecutionRow) : String :=
  executionHashValuesFromRow cfg e e.status e.txHash e.errorCode e.receipt e.attemptCount e.updatedAt

/-- `_attempt_hash_values`, with the identity columns read from a row. -/
def attemptHashValues (a : AttemptRow) (status : ExecutionStatus) (txHash errorCode : Option String)
    (completedAt : Option Time) : String :=
  cfg.contentHash (.obj [("attempt_id", .str a.attemptId), ("execution_id", .str a.executionId),
    ("subject_id", .str a.subjectId), ("attempt_number", .nat a.attemptNumber),
    ("request_id", .str a.requestId), ("status", .str status.text), ("tx_hash", .opt .str txHash),
    ("error_code", .opt .str errorCode), ("started_at", .time a.startedAt),
    ("completed_at", .opt .time completedAt)])

/-- `_attempt_hash`. -/
def attemptHash (a : AttemptRow) : String :=
  attemptHashValues cfg a a.status a.txHash a.errorCode a.completedAt

def PolicyRow.Sealed (p : PolicyRow) : Prop := p.stateHash = policyStateHash cfg p
def BountyRow.Sealed (b : BountyRow) : Prop := b.stateHash = bountyStateHashRow cfg b b.status
def SubmissionRow.Sealed (s : SubmissionRow) : Prop :=
  s.stateHash = submissionStateHashRow cfg s s.status s.decisionReason
def OrderRow.Sealed (o : OrderRow) : Prop := o.stateHash = orderStateHashRow cfg o o.status none none
def JournalRow.Sealed (j : JournalRow) : Prop := j.stateHash = walletJournalHash cfg j
def EntryRow.Sealed (e : EntryRow) : Prop := e.stateHash = walletEntryHash cfg e
def ExecutionRow.Sealed (e : ExecutionRow) : Prop := e.stateHash = executionHash cfg e
def AttemptRow.Sealed (a : AttemptRow) : Prop := a.stateHash = attemptHash cfg a

mutual

/-- A checksum of a JSON value. -/
def Json.code : Json → Nat
  | .null => 1
  | .int n => 2 + 3 * (if 0 ≤ n then 2 * n.natAbs else 2 * n.natAbs + 1)
  | .str s => (bytes s).foldl (fun h b => (h * 1099511628211 + b.toNat) % 2 ^ 64) 3
  | .arr items => Json.codes items
  | .obj fields => Json.fieldCodes fields

def Json.codes : List Json → Nat
  | [] => 4
  | item :: items => (Json.code item * 1000003 + Json.codes items * 7919) % 2 ^ 64

def Json.fieldCodes : List (String × Json) → Nat
  | [] => 5
  | (name, value) :: fields => (name.length + Json.code value * 1000003 + Json.fieldCodes fields * 7919) % 2 ^ 64

end

/-- A wallet that hashes with the checksum and waits for one confirmation. -/
def Config.sample : Config where
  contentHash j := hexWord j.code
  signerId := "mock-signer"
  maxFeePerGas := 1
  minConfirmations := 1
  confirmationTimeoutSeconds := 900
  maxFeePerGas_pos := by decide
  minConfirmations_pos := by decide

end Noyra.Wallet
