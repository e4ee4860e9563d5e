import Noyra.Wallet.Workflow

/-!
# Execution of accepted rewards

`execute_ready` takes the accepted submissions of open workflows whose orders wait for the chain, executes or polls
each, and completes a workflow once a confirmed receipt was found again. What the signer and the chain answer while a
row is processed is read from the environment; the rows are processed one after the other.
-/

namespace Noyra.Wallet
open Noyra.Lib

instance lawfulOptionText : LawfulBEq (Option String) := inferInstance

/-- What the processing of one row reads. -/
structure RowReadings where
  execution : Readings
  first : FirstAttempt
  answer : SignerAnswer
  reply : String → ReceiptReply
  result : Readings
  incident : Readings
  reconcile : Readings
  /-- `str(error)[:2000]`. -/
  text : PyError → String

/-- An exception of the execution engine; a reorganization is told apart. -/
inductive ExecutionFault
  | reorganization (message : String)
  | error (e : PyError)

/-- The order statuses that `execute_ready` selects. -/
def readyStatuses : List OrderStatus := [.reserved, .broadcast, .unknown, .confirmed]

/-- `_execution_incident_kind`. -/
def executionIncidentKind (code : Option String) (status : ExecutionStatus) : IncidentKind :=
  if code ∈ [some "signer_rejected", some "insufficient_balance", some "gas_too_high", some "nonce_conflict"]
    then .signerRejection
  else if code ∈ [some "broadcast_unknown", some "signer_transport_unknown", some "signer_response_invalid"]
    then .broadcastUnknown
  else if code ∈ [some "receipt_lookup_unknown", some "receipt_invalid", some "chain_receipt_failed",
    some "receipt_failed",
      some "confirmation_timeout", some "rpc_unavailable", some "reconcile_required", some "chain_reorg"]
        then .receiptChainUnknown
  else if status = .failed then .recoveryMismatch else .paymentUnknown

/-- `order_for_submission`. -/
def orderForSubmission (db : DB) (submissionId subjectId : Id) : Option OrderRow :=
  db.orders.rows.find? (fun o => o.submissionId = submissionId && o.subjectId = subjectId)

section
variable (cfg : Config)

/-- `verify_confirmed_receipt`. -/
def verifyConfirmedReceipt (db : DB) (executionId subjectId : Id) (reply : String → ReceiptReply) :
    Except ExecutionFault ExecutionRow :=
  match db.executionRow executionId subjectId with
  | .error e => .error (.error e)
  | .ok execution =>
    match execution.status, execution.txHash with
    | .confirmed, some tx =>
      match reply tx with
      | .pending => .error (.reorganization "confirmed wallet receipt is no longer canonical")
      | .receipt receipt =>
        if validReceipt cfg receipt execution tx = false ∨ receipt.status ≠ 1 then
          .error (.reorganization "confirmed wallet receipt is no longer canonical")
        else if receipt.blockNumber ≠ execution.receipt.blockNumber ∨ receipt.blockHash ≠ execution.receipt.blockHash ∨
            execution.receipt.confirmations.all (receipt.confirmations < ·) = true ∨
            receipt.effectHash ≠ execution.receipt.effectHash then
          .error (.reorganization "confirmed wallet receipt evidence changed")
        else .ok execution
      | _ => .error (.error (.walletExecutionError "confirmed receipt lookup is unknown"))
    | _, _ => .error (.error (.invalidTransitionError "wallet execution is not confirmed"))

/-- The selection of `execute_ready`. -/
def readyRows (d : RewardDb) (subjectId : Id) (limit : Nat) : List LinkRow :=
  ((d.links.rows.filter (fun l => l.subjectId = subjectId && l.verificationStatus = .accepted &&
    d.workflows.rows.any (fun w => w.workflowId = l.workflowId && w.status = .opened) &&
    d.db.orders.rows.any (fun o => o.submissionId = l.submissionId && o.status ∈ readyStatuses))).insertionSort
      (fun a b => a.updatedAt < b.updatedAt ∨ a.updatedAt = b.updatedAt ∧ a.submissionId ≤ b.submissionId)).take limit

/-- The execution engine called for one order. -/
def executeTarget (db : DB) (x : RowReadings) (target : OrderRow) (subjectId : Id) (actor : String) :
    Except ExecutionFault ExecutionRow × DB :=
  if target.status = .reserved then
    match executeOrder cfg db x.execution target.orderId subjectId actor x.first x.answer with
    | (.ok e, db) => (.ok e, db)
    | (.error err, db) => (.error (.error err), db)
  else
    match db.orderExecution target.orderId subjectId with
    | none => (.error (.error (.integrityError "wallet reward execution is missing")), db)
    | some current =>
      if target.status = .confirmed then (verifyConfirmedReceipt cfg db current.executionId subjectId x.reply, db)
      else
        match pollReceipt cfg db x.execution current.executionId subjectId actor x.reply with
        | .ok (e, db) => (.ok e, db)
        | .error err => (.error (.error err), db)

/-- What follows an execution that did not raise. -/
def recordExecution (d : RewardDb) (x : RowReadings) (link : LinkRow) (subjectId : Id) (e : ExecutionRow)
    (complete : Bool) :
    Except PyError RewardDb :=
  if e.status = .confirmed ∧ complete = true then resultForSubmission cfg d x.result link.workflowId subjectId
  else do
    let _ ← d.workflowRow link.workflowId subjectId
    if e.status = .failed ∨ e.status = .unknown then
      executionIncident cfg d x.incident link.workflowId subjectId link.submissionId (some e.executionId)
        (executionIncidentKind e.errorCode e.status) (e.errorCode.getD "wallet execution did not settle")
        ("execution:" ++ e.executionId ++ ":" ++ (match e.status with | .failed => "failed" | _ => "unknown"))
    else .ok d

/-- The transaction of an incident; when it raises, so does the batch. -/
def stopRow (d : RewardDb) (opened : Except PyError RewardDb) : Except PyError Unit × RewardDb :=
  match opened with
  | .ok d' => (.ok (), d')
  | .error err => (.error err, d)

/-- `except Exception`. -/
def recoverRow (d : RewardDb) (x : RowReadings) (link : LinkRow) (subjectId : Id) (err : PyError) :
    Except PyError Unit × RewardDb :=
  if err = .baseException then (.error err, d)
  else stopRow d (executionIncident cfg d x.incident link.workflowId subjectId link.submissionId none .recoveryMismatch
    (x.text err) ("execution:" ++ link.submissionId))

/-- `except WalletChainReorganizationError`. -/
def reorganizeRow (d : RewardDb) (x : RowReadings) (link : LinkRow) (target : OrderRow) (subjectId : Id)
    (actor message : String) :
    Except PyError Unit × RewardDb :=
  match d.db.orderExecution target.orderId subjectId with
  | none => (.error (.integrityError "wallet reward execution is missing"), d)
  | some current =>
    match markReconcileRequired cfg d.db x.reconcile current.executionId subjectId actor message with
    | .error err => (.error err, d)
    | .ok (e, db) =>
      stopRow { d with db } (executionIncident cfg { d with db } x.incident link.workflowId subjectId link.submissionId
        (some e.executionId) .chainReorganization message ("chain-reorganization:" ++ target.orderId))

/-- The execution of one row and what is made of its outcome. -/
def settleRow (d : RewardDb) (x : RowReadings) (link : LinkRow) (target : OrderRow) (subjectId : Id) (actor : String) :
    Except PyError Unit × RewardDb :=
  match executeTarget cfg d.db x target subjectId actor with
  | (.error (.reorganization message), db) => reorganizeRow cfg { d with db } x link target subjectId actor message
  | (.error (.error err), db) => recoverRow cfg { d with db } x link subjectId err
  | (.ok e, db) =>
    match recordExecution cfg { d with db } x link subjectId e (target.status = .confirmed) with
    | .ok d' => (.ok (), d')
    | .error err => recoverRow cfg { d with db } x link subjectId err

/-- One iteration of `execute_ready`. -/
def executeRow (d : RewardDb) (x : RowReadings) (subjectId : Id) (actor : String) (link : LinkRow) :
    Except PyError Unit × RewardDb :=
  match (d.workflows.find? link.workflowId).filter (fun w => w.subjectId = subjectId) with
  | none => (.error (.integrityError "wallet reward workflow reference is missing"), d)
  | some w =>
    if w.status ≠ .opened then (.ok (), d)
    else
      match orderForSubmission d.db link.submissionId subjectId with
      | none => (.ok (), d)
      | some target =>
        if target.status ∉ readyStatuses then (.ok (), d) else settleRow cfg d x link target subjectId actor

/-- The loop of `execute_ready`. -/
def executeRows (subjectId : Id) (actor : String) : RewardDb → (Nat → RowReadings) → List LinkRow →
    Except PyError Unit × RewardDb
  | d, _, [] => (.ok (), d)
  | d, x, link :: rest =>
    match executeRow cfg d (x 0) subjectId actor link with
    | (.error err, d') => (.error err, d')
    | (.ok (), d') => executeRows subjectId actor d' (fun n => x (n + 1)) rest

/-- `execute_ready`. -/
def executeReady (d : RewardDb) (x : Nat → RowReadings) (subjectId : Id) (actor : String) (limit : Nat) :
    Except PyError Unit × RewardDb :=
  match (do
      validateSubjectId subjectId
      let actor ← operator actor
      raiseIf (limit < 1 ∨ 100 < limit) (.valueError "invalid reward execution limit")
      .ok actor : Except PyError String) with
  | .error err => (.error err, d)
  | .ok actor => executeRows cfg subjectId actor d x (readyRows d subjectId limit)

end

end Noyra.Wallet
