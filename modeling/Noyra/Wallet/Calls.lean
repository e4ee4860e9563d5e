import Noyra.Wallet.Execution

/-!
# Public calls of the execution engine

`execute_order`, `retry_unknown` and `poll_receipt` as sequences of transactions with the signer's
answer in between. A call may raise after it has committed, so it ends with an outcome and a database.
-/

namespace Noyra.Wallet
open Noyra.Lib

/-- The marking transactions. -/
inductive Mark
  | broadcast (result : WalletBroadcastResult)
  | unknown (tx : Option String) (code : String)
  | failed (code : String) (receipt : Option WalletReceipt)
  | confirmed (receipt : WalletReceipt)
  deriving DecidableEq

/-- A prepared attempt and what its call remembers. -/
structure Dispatch where
  retry : Bool
  prepared : Prepared
  policyVersion : Nat
  actor : String
  deriving DecidableEq

/-- The mark each end of `_sign_and_broadcast` leads to: the handlers of `execute_order` and of
`retry_unknown` differ in the three rejections. -/
def markFor (d : Dispatch) : SignerAnswer → Option Mark
  | .returned none => some (.unknown none "signer_response_invalid")
  | .returned (some result) =>
    if validBroadcastResult result d.prepared.transfer then some (.broadcast result)
    else some (.unknown none "signer_response_invalid")
  | .operationInvalidated =>
    some (.unknown (if d.retry then d.prepared.execution.txHash else none) "dispatch_authorization_changed")
  | .dispatchDenied =>
    if d.retry then some (.unknown d.prepared.execution.txHash "dispatch_authorization_changed")
    else some (.failed "dispatch_authorization_changed" none)
  | .broadcastUnknown tx => some (.unknown tx "broadcast_unknown")
  | .signerError code =>
    if d.retry then some (.unknown d.prepared.execution.txHash (signerErrorCode code))
    else some (.failed (signerErrorCode code) none)
  | .exception => some (.unknown none "signer_transport_unknown")
  | .baseException => none

/-- The mark a valid receipt leads to. -/
def receiptMark (receipt : WalletReceipt) : Mark :=
  if receipt.status = 1 then .confirmed receipt else .failed "receipt_failed" (some receipt)

section
variable (cfg : Config)

def Mark.apply (db : DB) (r : Readings) (executionId subjectId : Id) (actor : String) :
    Mark → Except PyError (ExecutionRow × DB)
  | .broadcast result => markBroadcast cfg db r executionId subjectId actor result
  | .unknown tx code => markUnknown cfg db r executionId subjectId actor tx code
  | .failed code receipt => markFailed cfg db r executionId subjectId actor code receipt
  | .confirmed receipt => markConfirmed cfg db r executionId subjectId actor receipt

/-- The dispatch gate of `_sign_and_broadcast`. -/
def authorize (db : DB) (r : Reading) (d : Dispatch) : Except PyError Unit := do
  let e := d.prepared.execution
  let policy := db.policyRow e.subjectId
  let order ← db.orderRow e.orderId e.subjectId
  let current ← db.executionRow e.executionId e.subjectId
  raiseIf (policy.all (fun p => p.policyVersion ≠ d.policyVersion ∨ p.stateHash ≠ policyStateHash cfg p) ∨
      current.record ≠ e.record ∨ current.status ≠ .signing ∨
      current.requestHash ≠ cfg.contentHash d.prepared.transfer.dump ∨
      d.prepared.requestId ≠ requestIdOf e.orderId e.attemptCount ∨
      policyAllows db r order policy (some e.orderId) = false)
    (.walletDispatchDenied "wallet dispatch authorization changed")

/-- `_sign_and_broadcast`, given the signer's answer once the gate is passed. -/
def signAndBroadcast (db : DB) (r : Reading) (d : Dispatch) (answer : SignerAnswer) : SignerAnswer :=
  match authorize cfg db r d with
  | .ok () => answer
  | .error (.walletDispatchDenied _) => .dispatchDenied
  | .error _ => .exception

/-- The part of `execute_order` and `retry_unknown` after `_sign_and_broadcast`. -/
def recordAnswer (db : DB) (r : Readings) (d : Dispatch) (answer : SignerAnswer) :
    Except PyError ExecutionRow × DB :=
  let e := d.prepared.execution
  match markFor d answer with
  | none => (.error .baseException, db)
  | some mark =>
    match mark.apply cfg db r e.executionId e.subjectId d.actor, mark with
    | .ok (row, db'), _ => (if answer = .operationInvalidated then .error .operationInvalidated else .ok row, db')
    | .error (.walletExecutionError _), .broadcast result =>
      match markUnknown cfg db (r.drop 4) e.executionId e.subjectId d.actor (some result.txHash)
          "signer_response_invalid" with
      | .ok (row, db') => (.ok row, db')
      | .error error => (.error error, db)
    | .error error, _ => (.error error, db)

/-- `get_policy`. -/
def getPolicy (db : DB) (subjectId : Id) : Except PyError PolicyRow := do
  validateSubjectId subjectId
  orRaise (db.policyRow subjectId) (.integrityError ("wallet payment policy is missing: " ++ subjectId))

/-- The actor and the policy version `execute_order` and `retry_unknown` start from. -/
def callTerms (db : DB) (subjectId : Id) (actor : String) : Except PyError (String × Nat) := do
  let actor ← operator actor
  let policy ← getPolicy db subjectId
  .ok (actor, policy.policyVersion)

/-- The attempt a call prepares. -/
inductive Attempt
  | first (q : FirstAttempt)
  | further (reason : String)
  deriving DecidableEq

def Attempt.retry : Attempt → Bool
  | .first _ => false
  | .further _ => true

/-- `_prepare`. -/
def prepare (db : DB) (r : Readings) (orderId subjectId : Id) (actor : String) :
    Attempt → Except PyError (Prepared × DB)
  | .first q => prepareFirst cfg db r orderId subjectId actor q
  | .further reason => prepareRetry cfg db r orderId subjectId actor reason

/-- The part of `execute_order` and `retry_unknown` from `_prepare` on. -/
def attemptOrder (db : DB) (r : Readings) (orderId subjectId : Id) (actor : String) (policyVersion : Nat)
    (attempt : Attempt) (answer : SignerAnswer) : Except PyError ExecutionRow × DB :=
  match prepare cfg db r orderId subjectId actor attempt with
  | .error error => (.error error, db)
  | .ok (p, db) =>
    let d : Dispatch := ⟨attempt.retry, p, policyVersion, actor⟩
    recordAnswer cfg db (r.drop 8) d (signAndBroadcast cfg db (r 7) d answer)

/-- `execute_order`. -/
def executeOrder (db : DB) (r : Readings) (orderId subjectId : Id) (actor : String) (q : FirstAttempt)
    (answer : SignerAnswer) : Except PyError ExecutionRow × DB :=
  match callTerms db subjectId actor with
  | .error error => (.error error, db)
  | .ok (actor, policyVersion) => attemptOrder cfg db r orderId subjectId actor policyVersion (.first q) answer

/-- What `retry_unknown` reads before it looks for a receipt. -/
def retryTerms (db : DB) (subjectId : Id) (actor reason : String) : Except PyError (String × String × Nat) := do
  let reason ← reasonText reason "unknown retry reason is invalid" 2000
  let (actor, policyVersion) ← callTerms db subjectId actor
  .ok (reason, actor, policyVersion)

/-- The receipt lookup of `retry_unknown`. -/
def retryLookup (db : DB) (orderId subjectId : Id) (reply : String → ReceiptReply) :
    Except PyError (Option (ExecutionRow × WalletReceipt)) :=
  match db.orderExecution orderId subjectId with
  | none => .ok none
  | some existing => do
    let (receipt, _) ← lookupReceipt cfg db existing reply
    .ok (receipt.map (fun receipt => (existing, receipt)))

/-- `retry_unknown`. -/
def retryUnknown (db : DB) (r : Readings) (orderId subjectId : Id) (actor reason : String)
    (reply : String → ReceiptReply) (answer : SignerAnswer) : Except PyError ExecutionRow × DB :=
  match retryTerms db subjectId actor reason with
  | .error error => (.error error, db)
  | .ok (reason, actor, policyVersion) =>
    match retryLookup cfg db orderId subjectId reply with
    | .error error => (.error error, db)
    | .ok (some (existing, receipt)) =>
      match (receiptMark receipt).apply cfg db r existing.executionId subjectId actor with
      | .ok (row, db') => (.ok row, db')
      | .error error => (.error error, db)
    | .ok none => attemptOrder cfg db r orderId subjectId actor policyVersion (.further reason) answer

/-- The mark `poll_receipt` makes of a lookup. -/
def pollMark (execution : ExecutionRow) (clock : Time) : Option WalletReceipt × Option String → Option Mark
  | (some receipt, _) => some (receiptMark receipt)
  | (none, some error) =>
    if execution.status = .unknown then none else some (.unknown execution.txHash error)
  | (none, none) =>
    if execution.status = .broadcast ∧ confirmationTimedOut cfg execution clock then
      some (.unknown execution.txHash "confirmation_timeout")
    else none

/-- What `poll_receipt` reads first. -/
def pollTerms (db : DB) (executionId subjectId : Id) (actor : String) : Except PyError (String × ExecutionRow) := do
  let actor ← operator actor
  validateSubjectId subjectId
  let execution ← db.executionRow executionId subjectId
  .ok (actor, execution)

/-- `poll_receipt`. -/
def pollReceipt (db : DB) (r : Readings) (executionId subjectId : Id) (actor : String)
    (reply : String → ReceiptReply) : Except PyError (ExecutionRow × DB) := do
  let (actor, execution) ← pollTerms db executionId subjectId actor
  if execution.status ∉ [ExecutionStatus.broadcast, .unknown] then .ok (execution, db)
  else do
    let found ← lookupReceipt cfg db execution reply
    match pollMark cfg execution (r 0).clock found with
    | none => .ok (execution, db)
    | some mark => mark.apply cfg db (r.drop 1) executionId subjectId actor

/-- The loop of `recover_database_inflight`; each iteration commits on its own. -/
def recoverExecutions (subjectId : Id) (actor : String) : DB → Readings → List Id → Except PyError Unit × DB
  | db, _, [] => (.ok (), db)
  | db, r, executionId :: rest =>
    match recoverExecution cfg db r executionId subjectId actor with
    | .error error => (.error error, db)
    | .ok db => recoverExecutions subjectId actor db (r.drop 4) rest

/-- `recover_database_inflight`. -/
def recoverDatabaseInflight (db : DB) (r : Readings) (subjectId : Id) (actor : String) (limit : Nat) :
    Except PyError Unit × DB :=
  match (do
      validateSubjectId subjectId
      raiseIf (limit < 1 ∨ 1000 < limit) (.valueError "invalid recovery limit")
      operator actor : Except PyError String) with
  | .error error => (.error error, db)
  | .ok actor =>
    let rows := (db.executions.rows.filter (fun e => e.subjectId = subjectId ∧
      e.status = .signing)).insertionSort (fun a b => a.createdAt < b.createdAt ∨
        (a.createdAt = b.createdAt ∧ a.executionId ≤ b.executionId))
    recoverExecutions cfg subjectId actor db r ((rows.take limit).map ExecutionRow.executionId)

end

end Noyra.Wallet
