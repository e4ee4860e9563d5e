import Noyra.Lib.Table
import Noyra.Wallet.Types

/-!
# Wallet tables

The durable rows of the wallet subsystem and the writes the schema admits
(`core/schema/migrations_v053_v054.py` to `migrations_v070_v107.py`). A refused write is an
exception, which rolls the surrounding transaction back.
-/

namespace Noyra.Wallet
open Noyra.Lib

structure NetworkRow where
  networkId : Id
  subjectId : Id
  chainId : Nat
  status : RegistryStatus
  deriving DecidableEq

structure AssetRow where
  assetId : Id
  subjectId : Id
  networkId : Id
  assetType : AssetType
  contractAddress : Option String
  status : RegistryStatus
  deriving DecidableEq

structure AddressRow where
  addressId : Id
  subjectId : Id
  networkId : Id
  address : String
  purpose : AddressPurpose
  status : RegistryStatus
  createdAt : Time
  deriving DecidableEq

structure SnapshotRow where
  snapshotId : Id
  subjectId : Id
  networkId : Id
  assetId : Id
  addressId : Id
  balance : Nat
  observedAt : Time
  deriving DecidableEq

/-- The columns of a payment policy that a proposal sets. -/
structure PolicyTerms where
  mode : PaymentMode
  allowedNetworkIds : List Id
  allowedAssetIds : List Id
  perOrderLimit : Nat
  dailyLimit : Nat
  monthlyLimit : Nat
  dailyOrderLimit : Nat
  monthlyOrderLimit : Nat
  minBalance : Nat
  maxObservationAgeSeconds : Nat
  automaticMaxAmount : Nat
  anomalyBlock : Bool
  emergencyPaused : Bool
  recipientAllowlistEnabled : Bool
  allowedRecipientAddresses : List String
  deriving DecidableEq

/-- What `PaymentPolicyInput.model_validate` accepts. -/
def PolicyTerms.isValid (t : PolicyTerms) : Bool :=
  let ids (l : List Id) : Bool := decide (l.length ≤ 256) && l.all isIdentifier && decide l.Nodup
  ids t.allowedNetworkIds && ids t.allowedAssetIds &&
    [t.perOrderLimit, t.dailyLimit, t.monthlyLimit, t.minBalance, t.automaticMaxAmount].all
      (fun n => decide (n ≤ sqliteInt64Max)) &&
    decide (t.dailyOrderLimit ≤ 1000000) && decide (t.monthlyOrderLimit ≤ 1000000) &&
    decide (t.maxObservationAgeSeconds ≤ 2592000) &&
    decide (t.allowedRecipientAddresses.length ≤ 256) &&
    t.allowedRecipientAddresses.all isCanonicalAddress && decide t.allowedRecipientAddresses.Nodup

structure PolicyRow where
  subjectId : Id
  terms : PolicyTerms
  automationEnabled : Bool
  policyVersion : Nat
  updatedAt : Time
  stateHash : String
  deriving DecidableEq

structure BountyRow where
  bountyId : Id
  subjectId : Id
  projectId : Option Id
  goalId : Option Id
  idempotencyKey : String
  title : String
  description : String
  acceptanceCriteria : List String
  networkId : Id
  assetId : Id
  rewardAmount : Nat
  opensAt : Time
  expiresAt : Time
  maxSubmissions : Nat
  rewardSlots : Nat
  status : BountyStatus
  stateHash : String
  createdAt : Time
  updatedAt : Time
  deriving DecidableEq

structure SubmissionRow where
  submissionId : Id
  bountyId : Id
  subjectId : Id
  counterparty : String
  content : String
  evidence : List String
  recipientAddress : String
  idempotencyKey : String
  consentVersion : Nat
  status : SubmissionStatus
  decisionReason : Option String
  createdAt : Time
  decidedAt : Option Time
  stateHash : String
  deriving DecidableEq

structure OrderRow where
  orderId : Id
  subjectId : Id
  bountyId : Id
  submissionId : Id
  networkId : Id
  assetId : Id
  recipientAddress : String
  amount : Nat
  paymentMode : PaymentMode
  policyVersion : Nat
  idempotencyKey : String
  authorizedAt : Option Time
  status : OrderStatus
  stateHash : String
  createdAt : Time
  updatedAt : Time
  deriving DecidableEq

structure JournalRow where
  journalId : Id
  subjectId : Id
  orderId : Id
  networkId : Id
  assetId : Id
  journalType : JournalType
  amount : Nat
  createdAt : Time
  stateHash : String
  deriving DecidableEq

structure EntryRow where
  entryId : Id
  journalId : Id
  subjectId : Id
  orderId : Id
  account : Account
  direction : Direction
  amount : Nat
  createdAt : Time
  stateHash : String
  deriving DecidableEq

/-- The five receipt columns of an execution. -/
structure ReceiptColumns where
  status : Option Nat
  blockNumber : Option Nat
  blockHash : Option String
  confirmations : Option Nat
  effectHash : Option String
  deriving DecidableEq

/-- All receipt columns `NULL`. -/
def ReceiptColumns.null : ReceiptColumns := ⟨none, none, none, none, none⟩

structure ExecutionRow where
  executionId : Id
  subjectId : Id
  orderId : Id
  networkId : Id
  assetId : Id
  sourceAddress : String
  recipientAddress : String
  assetType : AssetType
  contractAddress : Option String
  amount : Nat
  chainId : Nat
  nonce : Nat
  gasLimit : Nat
  maxFeePerGas : Nat
  requestId : String
  requestHash : String
  signerId : String
  status : ExecutionStatus
  txHash : Option String
  errorCode : Option String
  receipt : ReceiptColumns
  attemptCount : Nat
  stateHash : String
  createdAt : Time
  updatedAt : Time
  deriving DecidableEq

structure AttemptRow where
  attemptId : Id
  executionId : Id
  subjectId : Id
  attemptNumber : Nat
  requestId : String
  status : ExecutionStatus
  txHash : Option String
  errorCode : Option String
  startedAt : Time
  completedAt : Option Time
  stateHash : String
  deriving DecidableEq

structure ReconciliationEvent where
  eventId : Id
  subjectId : Id
  orderId : Id
  executionId : Id
  previousStatus : ExecutionStatus
  reason : String
  txHash : Option String
  createdAt : Time
  stateHash : String
  deriving DecidableEq

structure AuditRecord where
  auditId : Id
  subjectId : Id
  action : String
  actor : String
  payload : Json
  occurredAt : Time

structure DB where
  networks : Table NetworkRow.networkId
  assets : Table AssetRow.assetId
  addresses : Table AddressRow.addressId
  snapshots : Table SnapshotRow.snapshotId
  policies : Table PolicyRow.subjectId
  bounties : Table BountyRow.bountyId
  submissions : Table SubmissionRow.submissionId
  orders : Table OrderRow.orderId
  journals : Table JournalRow.journalId
  entries : Table EntryRow.entryId
  executions : Table ExecutionRow.executionId
  attempts : Table AttemptRow.attemptId
  events : Table ReconciliationEvent.eventId
  audits : List AuditRecord

def DB.empty : DB :=
  ⟨.empty, .empty, .empty, .empty, .empty, .empty, .empty, .empty, .empty, .empty, .empty, .empty,
    .empty, []⟩

/-- `_ORDER_TRANSITIONS`, which the order trigger repeats. -/
def orderTransitions : OrderStatus → List OrderStatus
  | .pendingPolicy => [.awaitingConfirmation, .reserved, .rejected, .cancelled, .expired]
  | .awaitingConfirmation => [.reserved, .rejected, .cancelled, .expired]
  | .reserved => [.cancelled, .expired, .signing]
  | .cancelled => []
  | .expired => []
  | .rejected => []
  | .signing => [.broadcast, .unknown, .failed]
  | .broadcast => [.unknown, .confirmed, .failed]
  | .unknown => [.signing, .broadcast, .confirmed, .failed, .refunded]
  | .confirmed => [.unknown]
  | .failed => [.refunded]
  | .refunded => []

/-- `validate_wallet_execution_transition`. -/
def executionTransitions : ExecutionStatus → List ExecutionStatus
  | .signing => [.broadcast, .unknown, .failed]
  | .broadcast => [.unknown, .confirmed, .failed]
  | .unknown => [.signing, .broadcast, .confirmed, .failed]
  | .confirmed => [.unknown]
  | .failed => []

/-- `validate_wallet_execution_attempt_transition`. -/
def attemptTransitions : ExecutionStatus → List ExecutionStatus
  | .signing => [.broadcast, .unknown, .failed]
  | .broadcast => [.unknown, .confirmed, .failed]
  | .unknown => [.broadcast, .confirmed, .failed]
  | .confirmed => [.unknown]
  | .failed => []

/-- `_BOUNTY_TRANSITIONS`, which the bounty trigger repeats. -/
def bountyTransitions : BountyStatus → List BountyStatus
  | .draft => [.published, .cancelled, .expired]
  | .published => [.closed, .cancelled, .expired]
  | .closed => [.expired]
  | .cancelled => []
  | .expired => []

/-- `_SUBMISSION_TRANSITIONS`, which the submission trigger repeats. -/
def submissionTransitions : SubmissionStatus → List SubmissionStatus
  | .submitted => [.accepted, .rejected, .withdrawn, .expired]
  | _ => []

/-- The rows covered by the partial index `uq_wallet_payment_execution_nonce`. -/
def ExecutionRow.ownsNonce (e : ExecutionRow) : Bool :=
  e.status != .failed || e.txHash.isSome

namespace DB

def insertBounty (db : DB) (row : BountyRow) : Except PyError DB := do
  raiseIf (∃ b ∈ db.bounties.rows, b.subjectId = row.subjectId ∧ b.idempotencyKey = row.idempotencyKey)
    (.sqliteIntegrityError "UNIQUE constraint failed: wallet_bounties")
  let bounties ← orRaise (db.bounties.insert? row) (.sqliteIntegrityError "wallet_bounties.bounty_id")
  .ok { db with bounties }

def updateBounty (db : DB) (row : BountyRow) : Except PyError DB := do
  raiseIf (∃ old ∈ db.bounties.find? row.bountyId, row.status ∉ bountyTransitions old.status)
    (.sqliteIntegrityError "wallet bounty transition is invalid")
  .ok { db with bounties := db.bounties.replace row }

def insertSubmission (db : DB) (row : SubmissionRow) : Except PyError DB := do
  raiseIf (∃ s ∈ db.submissions.rows, s.subjectId = row.subjectId ∧ s.bountyId = row.bountyId ∧
      s.idempotencyKey = row.idempotencyKey)
    (.sqliteIntegrityError "UNIQUE constraint failed: wallet_bounty_submissions")
  let submissions ← orRaise (db.submissions.insert? row)
    (.sqliteIntegrityError "wallet_bounty_submissions.submission_id")
  .ok { db with submissions }

def updateSubmission (db : DB) (row : SubmissionRow) : Except PyError DB := do
  raiseIf (∃ old ∈ db.submissions.find? row.submissionId, row.status ∉ submissionTransitions old.status)
    (.sqliteIntegrityError "wallet submission transition is invalid")
  .ok { db with submissions := db.submissions.replace row }

/-- `INSERT OR REPLACE INTO wallet_payment_policies`. -/
def upsertPolicy (db : DB) (row : PolicyRow) : DB :=
  match db.policies.insert? row with
  | some policies => { db with policies }
  | none => { db with policies := db.policies.replace row }

def insertOrder (db : DB) (row : OrderRow) : Except PyError DB := do
  raiseIf (∃ o ∈ db.orders.rows, o.subjectId = row.subjectId ∧
      (o.submissionId = row.submissionId ∨ o.idempotencyKey = row.idempotencyKey))
    (.sqliteIntegrityError "UNIQUE constraint failed: wallet_payment_orders")
  let orders ← orRaise (db.orders.insert? row) (.sqliteIntegrityError "wallet_payment_orders.order_id")
  .ok { db with orders }

def updateOrder (db : DB) (row : OrderRow) : Except PyError DB := do
  raiseIf (∃ old ∈ db.orders.find? row.orderId, row.status ∉ orderTransitions old.status)
    (.sqliteIntegrityError "wallet payment order transition is invalid")
  .ok { db with orders := db.orders.replace row }

def insertJournal (db : DB) (row : JournalRow) : Except PyError DB := do
  raiseIf (∃ j ∈ db.journals.rows, j.orderId = row.orderId ∧ j.journalType = row.journalType)
    (.sqliteIntegrityError "UNIQUE constraint failed: wallet_ledger_journals")
  let journals ← orRaise (db.journals.insert? row)
    (.sqliteIntegrityError "wallet_ledger_journals.journal_id")
  .ok { db with journals }

def insertEntry (db : DB) (row : EntryRow) : Except PyError DB := do
  raiseIf (∃ e ∈ db.entries.rows, e.journalId = row.journalId ∧ e.account = row.account ∧
      e.direction = row.direction)
    (.sqliteIntegrityError "UNIQUE constraint failed: wallet_ledger_entries")
  let entries ← orRaise (db.entries.insert? row) (.sqliteIntegrityError "wallet_ledger_entries.entry_id")
  .ok { db with entries }

/-- Two rows that the nonce index or the transaction hash index would not keep apart. -/
def indexConflict (e row : ExecutionRow) : Bool :=
  e.subjectId == row.subjectId && e.networkId == row.networkId &&
    ((e.sourceAddress == row.sourceAddress && e.nonce == row.nonce && e.ownsNonce && row.ownsNonce) ||
      (e.txHash.isSome && e.txHash == row.txHash))

def insertExecution (db : DB) (row : ExecutionRow) : Except PyError DB := do
  raiseIf (¬∃ o ∈ db.orders.rows, o.orderId = row.orderId ∧ o.subjectId = row.subjectId ∧
      o.networkId = row.networkId ∧ o.assetId = row.assetId ∧
      o.recipientAddress = row.recipientAddress ∧ o.amount = row.amount ∧ o.status = .signing)
    (.sqliteIntegrityError "wallet payment execution reference mismatch")
  raiseIf (∃ e ∈ db.executions.rows, e.orderId = row.orderId ∨
      (e.subjectId = row.subjectId ∧ e.requestId = row.requestId) ∨ indexConflict e row)
    (.sqliteIntegrityError "UNIQUE constraint failed: wallet_payment_executions")
  let executions ← orRaise (db.executions.insert? row)
    (.sqliteIntegrityError "wallet_payment_executions.execution_id")
  .ok { db with executions }

def updateExecution (db : DB) (row : ExecutionRow) : Except PyError DB := do
  raiseIf (∃ old ∈ db.executions.find? row.executionId, row.status ∉ executionTransitions old.status)
    (.sqliteIntegrityError "wallet payment execution transition is invalid")
  raiseIf (∃ e ∈ db.executions.rows, e.executionId ≠ row.executionId ∧ indexConflict e row)
    (.sqliteIntegrityError "UNIQUE constraint failed: wallet_payment_executions")
  .ok { db with executions := db.executions.replace row }

def insertAttempt (db : DB) (row : AttemptRow) : Except PyError DB := do
  raiseIf (¬∃ e ∈ db.executions.rows, e.executionId = row.executionId ∧ e.subjectId = row.subjectId ∧
      e.status = .signing ∧ e.attemptCount = row.attemptNumber)
    (.sqliteIntegrityError "wallet payment execution attempt reference mismatch")
  raiseIf (∃ a ∈ db.attempts.rows,
      (a.executionId = row.executionId ∧ a.attemptNumber = row.attemptNumber) ∨
        (a.subjectId = row.subjectId ∧ a.requestId = row.requestId))
    (.sqliteIntegrityError "UNIQUE constraint failed: wallet_payment_execution_attempts")
  let attempts ← orRaise (db.attempts.insert? row)
    (.sqliteIntegrityError "wallet_payment_execution_attempts.attempt_id")
  .ok { db with attempts }

def updateAttempt (db : DB) (row : AttemptRow) : Except PyError DB := do
  raiseIf (∃ old ∈ db.attempts.find? row.attemptId, row.status ∉ attemptTransitions old.status)
    (.sqliteIntegrityError "wallet payment execution attempt transition is invalid")
  .ok { db with attempts := db.attempts.replace row }

def insertEvent (db : DB) (row : ReconciliationEvent) : Except PyError DB := do
  let events ← orRaise (db.events.insert? row)
    (.sqliteIntegrityError "wallet_payment_reconciliation_events.event_id")
  .ok { db with events }

def insertSnapshot (db : DB) (row : SnapshotRow) : Except PyError DB := do
  let snapshots ← orRaise (db.snapshots.insert? row)
    (.sqliteIntegrityError "wallet_balance_snapshots.snapshot_id")
  .ok { db with snapshots }

/-- `_policy_row`. -/
def policyRow (db : DB) (subjectId : Id) : Option PolicyRow := db.policies.find? subjectId

/-- `_order_row`. -/
def orderRow (db : DB) (orderId subjectId : Id) : Except PyError OrderRow :=
  orRaise ((db.orders.find? orderId).filter (fun o => o.subjectId = subjectId))
    (.notFoundError "wallet payment order not found")

/-- `SELECT * FROM wallet_payment_executions WHERE execution_id=? AND subject_id=?`. -/
def executionRow (db : DB) (executionId subjectId : Id) : Except PyError ExecutionRow :=
  orRaise ((db.executions.find? executionId).filter (fun e => e.subjectId = subjectId))
    (.notFoundError "wallet payment execution not found")

/-- `_order_execution`. -/
def orderExecution (db : DB) (orderId subjectId : Id) : Option ExecutionRow :=
  db.executions.rows.find? (fun e => e.orderId = orderId ∧ e.subjectId = subjectId)

/-- `_network_row`. -/
def networkRow (db : DB) (networkId subjectId : Id) : Except PyError NetworkRow := do
  raiseIf (strip networkId = "" ∨ longerThan 128 networkId) (.valueError "wallet network identifier is invalid")
  orRaise ((db.networks.find? networkId).filter (fun n => n.subjectId = subjectId))
    (.notFoundError ("wallet network not found: " ++ networkId))

/-- `_asset_row`. -/
def assetRow (db : DB) (assetId subjectId : Id) : Except PyError AssetRow := do
  raiseIf (strip assetId = "" ∨ longerThan 128 assetId) (.valueError "wallet asset identifier is invalid")
  orRaise ((db.assets.find? assetId).filter (fun a => a.subjectId = subjectId))
    (.notFoundError ("wallet asset not found: " ++ assetId))

end DB

end Noyra.Wallet
