import Noyra.Wallet.Transfer

/-!
# Payment execution

`WalletPaymentExecutionEngine`: preparing an attempt, marking its outcome, looking receipts up and
recovering after a restart. What the signer and the chain say is an argument of each step.
-/

namespace Noyra.Wallet
open Noyra.Lib

structure WalletBroadcastResult where
  txHash : String
  chainId : Int
  nonce : Int
  acceptedAt : String
  deriving DecidableEq

/-- How a call of `signer.sign_and_broadcast` ends. Whatever is returned that is not a well-typed
`WalletBroadcastResult` is `returned none`. -/
inductive SignerAnswer
  | returned (result : Option WalletBroadcastResult)
  | operationInvalidated
  | dispatchDenied
  | broadcastUnknown (txHash : Option String)
  | signerError (reasonCode : String)
  | exception
  | baseException
  deriving DecidableEq

structure WalletReceipt where
  txHash : String
  chainId : Nat
  status : Nat
  blockNumber : Option Nat
  blockHash : Option String
  confirmations : Nat
  effectHash : Option String
  deriving DecidableEq

/-- How a call of `signer.get_receipt` ends. -/
inductive ReceiptReply
  | pending
  | receipt (receipt : WalletReceipt)
  | rpcError (reasonCode : String)
  | signerError (reasonCode : String)
  | executionError (message : String)
  | exception
  deriving DecidableEq

/-- How a call of `signer.get_fee_quote` ends; a fee that is no canonical text is `none`. -/
inductive FeeReply
  | missing
  | executionError (message : String)
  | exception
  | quote (gasLimit : Int) (maxFeePerGas : Option Nat)
  deriving DecidableEq

def walletSignerReasonCodes : List String :=
  ["signer_rejected", "insufficient_balance", "gas_too_high", "nonce_conflict", "rpc_unavailable"]

/-- `_signer_error_code`. -/
def signerErrorCode (reasonCode : String) : String :=
  if reasonCode ∈ walletSignerReasonCodes then reasonCode else "signer_rejected"

/-- The reason code a `WalletRPCError` keeps. -/
def rpcReasonCode (reasonCode : String) : String :=
  if reasonCode ∈ ["insufficient_balance", "gas_too_high", "nonce_conflict", "rpc_unavailable"] then reasonCode
  else "rpc_unavailable"

/-- `_valid_broadcast_result`. -/
def validBroadcastResult (result : WalletBroadcastResult) (t : WalletUnsignedTransfer) : Bool :=
  decide (result.chainId = t.chainId) && decide (result.nonce = t.nonce) && isHex 64 result.txHash &&
    decide (strip result.acceptedAt ≠ "") && !longerThan 128 (strip result.acceptedAt)

/-- `WalletExecutionRecord`: the columns of the row without its hash. -/
def ExecutionRow.record (e : ExecutionRow) : ExecutionRow := { e with stateHash := "" }

def requestIdOf (orderId : Id) (attemptNumber : Nat) : String :=
  orderId ++ ":attempt:" ++ toString attemptNumber

section
variable (cfg : Config)

/-- `_expected_effect_hash`, for the transaction `tx`. -/
def expectedEffectHash (e : ExecutionRow) (tx : String) : String :=
  "0x" ++ cfg.contentHash (.obj [("tx_hash", .str (lower tx)), ("chain_id", .nat e.chainId),
    ("asset_type", .str e.assetType.text), ("contract_address", .opt .str e.contractAddress),
    ("recipient_address", .str e.recipientAddress), ("amount", .amount e.amount)])

/-- `_valid_receipt`, for the transaction `tx` of the execution. -/
def validReceipt (receipt : WalletReceipt) (e : ExecutionRow) (tx : String) : Bool :=
  isHex 64 receipt.txHash && lower receipt.txHash == lower tx && receipt.chainId == e.chainId &&
    (receipt.status == 0 || receipt.status == 1) &&
    receipt.blockNumber.any (fun n => decide (n ≤ sqliteInt64Max)) &&
    receipt.blockHash.any (isHex 64) && decide (cfg.minConfirmations ≤ receipt.confirmations) &&
    decide (receipt.confirmations ≤ sqliteInt64Max) &&
    (e.assetType != .token || receipt.status == 0 ||
      receipt.effectHash.any (fun h => isHex 64 h && lower h == expectedEffectHash cfg e tx))

/-- `_check_observed_fee_budget`. -/
def checkObservedFeeBudget (db : DB) (clock : Time) (subjectId networkId : Id) (assetType : AssetType)
    (sourceAddressId : Id) (minBalance gasLimit maxFeePerGas maxObservationAgeSeconds : Nat)
    (excludeExecutionId : Option Id) : Except PyError Unit := do
  requireResolvedLegacyPayments db subjectId networkId
  let nativeAsset ← orRaise (db.assets.rows.find? (fun a => a.subjectId = subjectId ∧
      a.networkId = networkId ∧ a.assetType = .native ∧ a.status = .active))
    (.walletExecutionError "wallet native fee asset is not registered")
  match latestBalance db subjectId networkId nativeAsset.assetId sourceAddressId with
  | none => raiseIf (assetType = .token) (.walletExecutionError "wallet native fee balance is unavailable")
  | some observation => do
    let ageLimit := if maxObservationAgeSeconds = 0 then 86400 else min maxObservationAgeSeconds 86400
    raiseIf (assetType = .token ∧
        ¬(observation.observedAt ≤ clock ∧ clock - observation.observedAt ≤ ageLimit * 1000))
      (.walletExecutionError "wallet native fee balance is not current")
    let source ← orRaise ((db.addresses.find? sourceAddressId).filter (fun a => a.subjectId = subjectId))
      (.integrityError "wallet spending address is missing")
    raiseIf (∃ e ∈ db.executions.rows, e.subjectId = subjectId ∧ e.networkId = networkId ∧
        e.sourceAddress = source.address ∧ e.status ∈ [ExecutionStatus.confirmed, .failed] ∧
        e.txHash.isSome ∧ observation.observedAt ≤ e.updatedAt)
      (.walletExecutionError "wallet native fee balance predates settlement")
    let pendingFee : Nat := ((db.executions.rows.filter (fun e => e.subjectId = subjectId ∧
      e.networkId = networkId ∧ e.sourceAddress = source.address ∧
      e.status ∈ [ExecutionStatus.signing, .broadcast, .unknown] ∧
      excludeExecutionId ≠ some e.executionId)).map (fun e => e.gasLimit * e.maxFeePerGas)).sum
    let reservedAmount : Nat := ((db.orders.rows.filter (fun o => o.subjectId = subjectId ∧
      o.networkId = networkId ∧ o.assetId = nativeAsset.assetId ∧
      o.status ∈ unresolvedStatus)).map OrderRow.amount).sum
    let nativeMinimum := if assetType = .native then minBalance else 0
    raiseIf ((observation.balance : Int) - reservedAmount - pendingFee <
        ((maxFeePerGas * gasLimit + nativeMinimum : Nat) : Int))
      (.walletExecutionError "observed native balance cannot cover wallet fees")

/-- The state of an attempt that is being signed. -/
structure Prepared where
  execution : ExecutionRow
  transfer : WalletUnsignedTransfer
  requestId : String
  deriving DecidableEq

def newAttempt (e : ExecutionRow) (attemptId : Id) (now : Time) : AttemptRow :=
  let a : AttemptRow :=
    { attemptId, executionId := e.executionId, subjectId := e.subjectId,
      attemptNumber := e.attemptCount, requestId := requestIdOf e.orderId e.attemptCount,
      status := .signing, txHash := none, errorCode := none, startedAt := now, completedAt := none,
      stateHash := "" }
  { a with stateHash := attemptHashValues cfg a .signing none none none }

/-- The policy test shared by both branches of `_prepare`. -/
def requirePolicy (db : DB) (r : Reading) (order : OrderRow) (message : String) :
    Except PyError PolicyRow := do
  let policy ← orRaise ((db.policyRow order.subjectId).filter (fun p =>
      !p.terms.emergencyPaused && p.terms.mode != .disabled))
    (.valueError "wallet payment execution is emergency paused or disabled")
  raiseIf (policyAllows db r order (some policy) (some order.orderId) = false) (.valueError message)
  .ok policy

def minBalanceFor (order : OrderRow) (policy : PolicyRow) : Nat :=
  if order.paymentMode = .automatic then 0 else policy.terms.minBalance

/-- The row a retry writes. -/
def restartedExecution (e : ExecutionRow) (now : Time) : ExecutionRow :=
  { e with
    status := .signing, errorCode := none, receipt := .null, attemptCount := e.attemptCount + 1,
    updatedAt := now,
    stateHash := executionHashValuesFromRow cfg e .signing e.txHash none .null (e.attemptCount + 1) now }

/-- `_prepare` with `retry_unknown=True`. -/
def prepareRetry (db : DB) (r : Readings) (orderId subjectId : Id) (actor reason : String) :
    Except PyError (Prepared × DB) := do
  validateSubjectId subjectId
  let order ← db.orderRow orderId subjectId
  raiseIf (order.status ≠ .unknown) (.invalidTransitionError "only unknown orders can be retried")
  let policy ← requirePolicy db (r 0) order "wallet payment policy no longer authorizes retry"
  let execution ← orRaise (db.orderExecution orderId subjectId)
    (.integrityError "unknown order execution is missing")
  raiseIf (execution.signerId ≠ cfg.signerId) (.valueError "unknown execution signer identity changed")
  raiseIf (execution.attemptCount + 1 > 32) (.valueError "wallet execution retry limit reached")
  let transfer ← buildTransfer execution.intent
  let source ← orRaise ((spendingAddress db subjectId execution.networkId).filter
      (fun a => a.address = execution.sourceAddress))
    (.walletExecutionError "wallet retry spending address changed")
  checkObservedFeeBudget db (r 1).clock subjectId execution.networkId execution.assetType
    source.addressId (minBalanceFor order policy) execution.gasLimit execution.maxFeePerGas
    policy.terms.maxObservationAgeSeconds (some execution.executionId)
  let db := audit db (r 2) subjectId "wallet_payment_execution_retry" actor
    (.obj [("order_id", .str orderId), ("attempt_number", .nat (execution.attemptCount + 1)),
      ("reason", .str reason)])
  let db ← transitionOrder cfg db (r.drop 3) order .signing actor reason
  let restarted := restartedExecution cfg execution (r 5).utc
  let db ← db.updateExecution restarted
  let db ← db.insertAttempt (newAttempt cfg restarted (newId "wallet_attempt" (r 6)) (r 5).utc)
  .ok (⟨restarted, transfer, requestIdOf orderId restarted.attemptCount⟩, db)

/-- What an operator may override, and what the signer says about nonce and fees. -/
structure FirstAttempt where
  gasLimit : Option Nat
  maxFeePerGas : Option Nat
  nonce : Option Nat
  nonceReply : Option Int
  feeReply : FeeReply
  deriving DecidableEq

/-- The greatest nonce the local history still owns. -/
def localActiveNonce (db : DB) (subjectId networkId : Id) (source : String) : Option Nat :=
  ((db.executions.rows.filter (fun e => e.subjectId = subjectId ∧ e.networkId = networkId ∧
    e.sourceAddress = source ∧ e.ownsNonce)).map ExecutionRow.nonce).max?

/-- The nonce of a first attempt. -/
def chooseNonce (db : DB) (subjectId networkId : Id) (source : String) (q : FirstAttempt) :
    Except PyError Nat :=
  match q.nonce with
  | some nonce => .ok nonce
  | none => do
    let value ← orRaise q.nonceReply (.walletExecutionError "wallet nonce authority unavailable")
    raiseIf (value < 0 ∨ (sqliteInt64Max : Int) < value)
      (.walletExecutionError "wallet nonce authority returned invalid nonce")
    raiseIf (∃ n ∈ localActiveNonce db subjectId networkId source, value.toNat ≤ n)
      (.walletExecutionError "wallet nonce authority is behind local history")
    .ok value.toNat

/-- The gas limit and fee after the signer's quote. -/
def chooseFees (q : FirstAttempt) (gas fee : Nat) : Except PyError (Nat × Nat) :=
  if q.gasLimit.isSome ∧ q.maxFeePerGas.isSome then .ok (gas, fee)
  else
    match q.feeReply with
    | .missing => .error (.walletExecutionError "wallet fee authority unavailable")
    | .executionError message => .error (.walletExecutionError message)
    | .exception => .error (.walletExecutionError "wallet fee quote unavailable")
    | .quote quotedGas quotedFee => do
      raiseIf (quotedGas < 21000 ∨ (maxGasLimit : Int) < quotedGas)
        (.walletExecutionError "wallet fee quote gas limit is invalid")
      let quotedFee ← orRaise (quotedFee.filter (fun f => 0 < f ∧ f ≤ maxUint256))
        (.walletExecutionError "wallet fee quote unavailable")
      .ok (q.gasLimit.getD quotedGas.toNat, q.maxFeePerGas.getD quotedFee)

/-- The row a first attempt inserts. -/
def firstExecution (executionId : Id) (order : OrderRow) (asset : AssetRow) (network : NetworkRow)
    (source : AddressRow) (nonce gas fee : Nat) (transfer : WalletUnsignedTransfer) (now : Time) :
    ExecutionRow :=
  let e : ExecutionRow :=
    { executionId, subjectId := order.subjectId, orderId := order.orderId, networkId := order.networkId,
      assetId := order.assetId, sourceAddress := source.address,
      recipientAddress := order.recipientAddress, assetType := asset.assetType,
      contractAddress := asset.contractAddress, amount := order.amount, chainId := network.chainId,
      nonce, gasLimit := gas, maxFeePerGas := fee, requestId := requestIdOf order.orderId 1,
      requestHash := cfg.contentHash transfer.dump, signerId := cfg.signerId, status := .signing,
      txHash := none, errorCode := none, receipt := .null, attemptCount := 1, stateHash := "",
      createdAt := now, updatedAt := now }
  { e with stateHash := executionHash cfg e }

/-- `build_transfer` inside `_prepare`. -/
def firstTransfer (order : OrderRow) (asset : AssetRow) (network : NetworkRow) (source : AddressRow)
    (nonce gas fee : Nat) : Except PyError WalletUnsignedTransfer :=
  buildTransfer
    { orderId := order.orderId, subjectId := order.subjectId, networkId := order.networkId,
      assetId := order.assetId, assetType := asset.assetType, contractAddress := asset.contractAddress,
      sourceAddress := source.address, recipientAddress := order.recipientAddress,
      amount := order.amount, chainId := network.chainId, nonce, gasLimit := gas, maxFeePerGas := fee }

/-- `_prepare` with `retry_unknown=False`. -/
def prepareFirst (db : DB) (r : Readings) (orderId subjectId : Id) (actor : String) (q : FirstAttempt) :
    Except PyError (Prepared × DB) := do
  validateSubjectId subjectId
  raiseIf (∃ g ∈ q.gasLimit, g < 21000 ∨ maxGasLimit < g) (.valueError "wallet gas limit is invalid")
  raiseIf (∃ f ∈ q.maxFeePerGas, f = 0 ∨ maxUint256 < f) (.valueError "max fee per gas is out of range")
  raiseIf (∃ n ∈ q.nonce, sqliteInt64Max < n) (.valueError "wallet nonce is invalid")
  let order ← db.orderRow orderId subjectId
  raiseIf (order.status ≠ .reserved) (.invalidTransitionError "only reserved orders can execute")
  let policy ← requirePolicy db (r 0) order "wallet payment execution is no longer authorized"
  let asset ← db.assetRow order.assetId subjectId
  let network ← db.networkRow order.networkId subjectId
  raiseIf (asset.status ≠ .active ∨ network.status ≠ .active ∨ asset.networkId ≠ network.networkId)
    (.valueError "wallet execution references are not active")
  let source ← orRaise (spendingAddress db subjectId order.networkId)
    (.valueError "wallet spending address must have exactly one active address")
  raiseIf (source.address = order.recipientAddress) (.valueError "wallet source and recipient must differ")
  let nonce ← chooseNonce db subjectId order.networkId source.address q
  let gas := q.gasLimit.getD (if asset.assetType = .native then 21000 else 100000)
  let fee := q.maxFeePerGas.getD cfg.maxFeePerGas
  let _ ← firstTransfer order asset network source nonce gas fee
  let (gas, fee) ← chooseFees q gas fee
  let transfer ← firstTransfer order asset network source nonce gas fee
  checkObservedFeeBudget db (r 1).clock subjectId order.networkId asset.assetType source.addressId
    (minBalanceFor order policy) gas fee policy.terms.maxObservationAgeSeconds none
  let execution := firstExecution cfg (newId "wallet_exec" (r 2)) order asset network source nonce gas fee
    transfer (r 2).utc
  let db := audit db (r 3) subjectId "wallet_payment_execution_signing" actor
    (.obj [("order_id", .str orderId), ("request_id", .str execution.requestId),
      ("signer_id", .str cfg.signerId)])
  let db ← transitionOrder cfg db (r.drop 4) order .signing actor "execution started"
  let db ← db.insertExecution execution
  let db ← db.insertAttempt (newAttempt cfg execution (newId "wallet_attempt" (r 6)) (r 2).utc)
  .ok (⟨execution, transfer, requestIdOf orderId 1⟩, db)

/-- The row `_finish_attempt` writes. -/
def finishedAttempt (a : AttemptRow) (status : ExecutionStatus) (txHash errorCode : Option String)
    (completedAt : Time) : AttemptRow :=
  { a with
    status, txHash, errorCode, completedAt := some completedAt,
    stateHash := attemptHashValues cfg a status txHash errorCode (some completedAt) }

/-- `_finish_attempt`. -/
def finishAttempt (db : DB) (execution : ExecutionRow) (status : ExecutionStatus)
    (txHash errorCode : Option String) (completedAt : Time) : Except PyError DB := do
  let attempt ← orRaise (db.attempts.rows.find? (fun a => a.executionId = execution.executionId ∧
      a.attemptNumber = execution.attemptCount))
    (.integrityError "wallet execution attempt is missing")
  db.updateAttempt (finishedAttempt cfg attempt status txHash errorCode completedAt)

/-- `_mark_broadcast`. -/
def markBroadcast (db : DB) (r : Readings) (executionId subjectId : Id) (actor : String)
    (result : WalletBroadcastResult) : Except PyError (ExecutionRow × DB) := do
  let execution ← db.executionRow executionId subjectId
  let order ← db.orderRow execution.orderId subjectId
  if order.status ≠ .signing then .ok (execution, db)
  else do
    let tx ← orRaise (txHash result.txHash) (.valueError "wallet transaction hash is invalid")
    raiseIf (result.chainId ≠ execution.chainId ∨ result.nonce ≠ execution.nonce)
      (.walletExecutionError "signer response does not match fixed chain or nonce")
    raiseIf (∃ e ∈ db.executions.rows, e.subjectId = subjectId ∧ e.networkId = execution.networkId ∧
        e.txHash = some tx ∧ e.executionId ≠ executionId)
      (.walletExecutionError "signer reused a transaction hash")
    let db := audit db (r 0) subjectId "wallet_payment_broadcast" actor
      (.obj [("order_id", .str execution.orderId), ("tx_hash", .str tx), ("nonce", .int result.nonce)])
    let db ← transitionOrder cfg db (r.drop 1) order .broadcast actor "signer broadcast accepted"
    let now := (r 3).utc
    let marked := { execution with
      status := .broadcast, txHash := some tx, updatedAt := now,
      stateHash := executionHashValuesFromRow cfg execution .broadcast (some tx) none .null
        execution.attemptCount now }
    let db ← db.updateExecution marked
    let db ← finishAttempt cfg db execution .broadcast (some tx) none now
    .ok (marked, db)

/-- The hash and code `_mark_unknown` stores. -/
def unknownHash (execution : ExecutionRow) (tx : Option String) (code : String) : Option String × String :=
  match tx with
  | none => (execution.txHash, code)
  | some value =>
    match txHash value with
    | some tx => (some tx, code)
    | none => (execution.txHash, "broadcast_unknown_invalid_hash")

/-- `_mark_unknown`. -/
def markUnknown (db : DB) (r : Readings) (executionId subjectId : Id) (actor : String)
    (tx : Option String) (code : String) : Except PyError (ExecutionRow × DB) := do
  let execution ← db.executionRow executionId subjectId
  let order ← db.orderRow execution.orderId subjectId
  if order.status ∉ [OrderStatus.signing, .broadcast] then .ok (execution, db)
  else do
    let (tx, code) := unknownHash execution tx code
    let db := audit db (r 0) subjectId "wallet_payment_unknown" actor
      (.obj [("order_id", .str execution.orderId), ("tx_hash", .opt .str tx), ("error_code", .str code)])
    let db ← transitionOrder cfg db (r.drop 1) order .unknown actor code
    let now := (r 3).utc
    let marked := { execution with
      status := .unknown, txHash := tx, errorCode := some code, updatedAt := now,
      stateHash := executionHashValuesFromRow cfg execution .unknown tx (some code) .null
        execution.attemptCount now }
    let db ← db.updateExecution marked
    let db ← finishAttempt cfg db execution .unknown tx (some code) now
    .ok (marked, db)

/-- The receipt columns `_mark_failed` is given. -/
def failureReceipt : Option WalletReceipt → ReceiptColumns
  | none => .null
  | some receipt =>
    ⟨some 0, receipt.blockNumber, receipt.blockHash, some receipt.confirmations, receipt.effectHash⟩

/-- The hash a failure is recorded under: the receipt's, else the stored one. -/
def failureHash (execution : ExecutionRow) : Option WalletReceipt → Except PyError (Option String)
  | none => .ok execution.txHash
  | some receipt => do
    let tx ← orRaise (txHash receipt.txHash) (.valueError "wallet transaction hash is invalid")
    .ok (some tx)

/-- `_mark_failed`, with or without the receipt that proves the failure. -/
def markFailed (db : DB) (r : Readings) (executionId subjectId : Id) (actor code : String)
    (receipt : Option WalletReceipt) : Except PyError (ExecutionRow × DB) := do
  let execution ← db.executionRow executionId subjectId
  let order ← db.orderRow execution.orderId subjectId
  if order.status ∉ [OrderStatus.signing, .broadcast, .unknown] then .ok (execution, db)
  else do
    let tx ← failureHash execution receipt
    let db := audit db (r 0) subjectId "wallet_payment_failed" actor
      (.obj [("order_id", .str execution.orderId), ("error_code", .str code)])
    let db ← transitionOrder cfg db (r.drop 1) order .failed actor code
    let now := (r 3).utc
    let marked := { execution with
      status := .failed, txHash := tx, errorCode := some code, receipt := failureReceipt receipt,
      updatedAt := now,
      stateHash := executionHashValuesFromRow cfg execution .failed tx (some code)
        (failureReceipt receipt) execution.attemptCount now }
    let db ← db.updateExecution marked
    let db ← finishAttempt cfg db execution .failed tx (some code) now
    .ok (marked, db)

/-- The receipt columns `_mark_confirmed` writes. -/
def confirmedReceipt (receipt : WalletReceipt) : ReceiptColumns :=
  ⟨some 1, receipt.blockNumber, receipt.blockHash, some receipt.confirmations, receipt.effectHash⟩

/-- `_mark_confirmed`. The settlement journal is posted whether or not one exists. -/
def markConfirmed (db : DB) (r : Readings) (executionId subjectId : Id) (actor : String)
    (receipt : WalletReceipt) : Except PyError (ExecutionRow × DB) := do
  let execution ← db.executionRow executionId subjectId
  let order ← db.orderRow execution.orderId subjectId
  if order.status = .confirmed then .ok (execution, db)
  else do
    raiseIf (order.status ∉ [OrderStatus.broadcast, .unknown])
      (.invalidTransitionError "order is not awaiting receipt")
    let tx ← orRaise (txHash receipt.txHash) (.valueError "wallet transaction hash is invalid")
    let db := audit db (r 0) subjectId "wallet_payment_confirmed" actor
      (.obj [("order_id", .str execution.orderId), ("tx_hash", .str tx),
        ("block_number", .opt .nat receipt.blockNumber), ("block_hash", .opt .str receipt.blockHash),
        ("confirmations", .nat receipt.confirmations)])
    let db ← transitionOrder cfg db (r.drop 1) order .confirmed actor "chain receipt confirmed"
    let db ← postOrderJournal cfg db (r.drop 3) order .settlement
    let now := (r 7).utc
    let marked := { execution with
      status := .confirmed, txHash := some tx, errorCode := none, receipt := confirmedReceipt receipt,
      updatedAt := now,
      stateHash := executionHashValuesFromRow cfg execution .confirmed (some tx) none
        (confirmedReceipt receipt) execution.attemptCount now }
    let db ← db.updateExecution marked
    let db ← finishAttempt cfg db execution .confirmed (some tx) none now
    .ok (marked, db)

/-- `mark_reconcile_required`. -/
def markReconcileRequired (db : DB) (r : Readings) (executionId subjectId : Id) (actor reason : String) :
    Except PyError (ExecutionRow × DB) := do
  let actor ← operator actor
  let reason ← reasonText reason "reconciliation reason is invalid" 2000
  let execution ← db.executionRow executionId subjectId
  if execution.status ≠ .confirmed then .ok (execution, db)
  else do
    let order ← db.orderRow execution.orderId subjectId
    raiseIf (order.status ≠ .confirmed)
      (.integrityError "confirmed execution does not have a confirmed order")
    let now := (r 0).utc
    let db := audit db (r 1) subjectId "wallet_payment_reconcile_required" actor
      (.obj [("order_id", .str execution.orderId), ("execution_id", .str executionId),
        ("tx_hash", .opt .str execution.txHash), ("reason", .str reason)])
    let db ← transitionOrder cfg db (r.drop 2) order .unknown actor "reconcile_required"
    let marked := { execution with
      status := .unknown, errorCode := some "reconcile_required", updatedAt := now,
      stateHash := executionHashValuesFromRow cfg execution .unknown execution.txHash
        (some "reconcile_required") execution.receipt execution.attemptCount now }
    let db ← db.updateExecution marked
    let db ← finishAttempt cfg db execution .unknown execution.txHash (some "reconcile_required") now
    let event : ReconciliationEvent :=
      { eventId := newId "wallet-reconcile" (r 4), subjectId, orderId := execution.orderId, executionId,
        previousStatus := .confirmed, reason, txHash := execution.txHash, createdAt := now,
        stateHash := cfg.contentHash (.obj [("event_id", .str (newId "wallet-reconcile" (r 4))),
          ("subject_id", .str subjectId), ("order_id", .str execution.orderId),
          ("execution_id", .str executionId), ("previous_status", .str "confirmed"),
          ("reason", .str reason), ("tx_hash", .opt .str execution.txHash), ("created_at", .time now)]) }
    let db ← db.insertEvent event
    .ok (marked, db)

/-- One iteration of the loop of `recover_database_inflight`. -/
def recoverExecution (db : DB) (r : Readings) (executionId subjectId : Id) (actor : String) :
    Except PyError DB :=
  match (db.executions.find? executionId).filter (fun e => e.subjectId = subjectId ∧ e.status = .signing) with
  | none => .ok db
  | some execution => do
    let order ← db.orderRow execution.orderId subjectId
    raiseIf (order.status ≠ .signing) (.integrityError "wallet execution/order recovery mismatch")
    let db := audit db (r 0) subjectId "wallet_payment_unknown" actor
      (.obj [("order_id", .str execution.orderId), ("error_code", .str "process_restarted")])
    let db ← transitionOrder cfg db (r.drop 1) order .unknown actor "process_restarted"
    let now := (r 3).utc
    let db ← db.updateExecution { execution with
      status := .unknown, errorCode := some "process_restarted", receipt := .null, updatedAt := now,
      stateHash := executionHashValuesFromRow cfg execution .unknown execution.txHash
        (some "process_restarted") .null execution.attemptCount now }
    finishAttempt cfg db execution .unknown execution.txHash (some "process_restarted") now

/-- The hashes of the attempts, newest attempt first and without repetition. -/
def collectHashes : List AttemptRow → List String → Except PyError (List String)
  | [], hashes => .ok hashes
  | a :: attempts, hashes =>
    if a.stateHash ≠ attemptHash cfg a then
      .error (.integrityError "wallet execution attempt hash mismatch")
    else
      match a.txHash with
      | none => collectHashes attempts hashes
      | some value => do
        let tx ← orRaise (txHash value) (.valueError "wallet transaction hash is invalid")
        collectHashes attempts (if tx ∈ hashes then hashes else hashes ++ [tx])

/-- The hashes `_lookup_receipt` asks the signer about. -/
def lookupHashes (db : DB) (execution : ExecutionRow) : Except PyError (List String) :=
  collectHashes cfg
    (((db.attempts.rows.filter (fun a => a.executionId = execution.executionId ∧
      a.subjectId = execution.subjectId)).insertionSort
        (fun a b => b.attemptNumber ≤ a.attemptNumber)).take 32)
    execution.txHash.toList

/-- The texts of a lookup failure that are taken for an unavailable endpoint. -/
def unavailableMessages : List String :=
  ["wallet signer receipt lookup failed", "local wallet rpc request failed",
    "local wallet rpc deadline exceeded"]

/-- The error code of a lookup that raised. -/
def lookupError : ReceiptReply → Option String
  | .pending => none
  | .receipt _ => none
  | .rpcError code => some (rpcReasonCode code)
  | .signerError code =>
    some (if signerErrorCode code = "signer_rejected" then "reconcile_required" else signerErrorCode code)
  | .executionError message =>
    some (if message.map Char.toLower ∈ unavailableMessages then "rpc_unavailable" else "reconcile_required")
  | .exception => some "reconcile_required"

/-- The query loop of `_lookup_receipt`: the first valid receipt, else the last error. -/
def queryReceipts (execution : ExecutionRow) (reply : String → ReceiptReply) :
    List String → Option String → Option WalletReceipt × Option String
  | [], error => (none, error)
  | tx :: rest, error =>
    match reply tx with
    | .receipt receipt =>
      if validReceipt cfg receipt execution tx then (some receipt, none)
      else queryReceipts execution reply rest (some "reconcile_required")
    | other => queryReceipts execution reply rest ((lookupError other).or error)

/-- `_lookup_receipt`. -/
def lookupReceipt (db : DB) (execution : ExecutionRow) (reply : String → ReceiptReply) :
    Except PyError (Option WalletReceipt × Option String) := do
  let hashes ← lookupHashes cfg db execution
  .ok (queryReceipts cfg execution reply hashes none)

/-- `_confirmation_timed_out`. -/
def confirmationTimedOut (execution : ExecutionRow) (clock : Time) : Bool :=
  cfg.confirmationTimeoutSeconds == 0 ||
    decide (execution.updatedAt + cfg.confirmationTimeoutSeconds * 1000 ≤ clock)

end

end Noyra.Wallet
