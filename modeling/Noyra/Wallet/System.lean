import Noyra.Lib.Machine
import Noyra.Wallet.Calls

/-!
# The wallet as a machine

One step is one transaction, one hand-over to the signer, one answer of the signer, one receipt lookup,
or a crash of the process. Calls in progress interleave freely. The state also keeps what the outside
world knows: envelopes handed over, hashes reported, rejections and receipts.
-/

namespace Noyra.Wallet
open Noyra.Lib

/-- The transactions that are a whole public call. -/
inductive StoreOp
  | createIdentity (subjectId : Id)
  | registerNetwork (subjectId : Id) (chainId : Nat) (actor : String)
  | registerAsset (subjectId networkId : Id) (contractAddress : Option String) (actor : String)
  | registerAddress (subjectId networkId : Id) (address : String) (purpose : AddressPurpose) (actor : String)
  | revoke (subjectId : Id) (actor : String) (what : Registration)
  | recordBalanceSnapshot (subjectId assetId addressId : Id) (balance : Nat) (observedAt : Option Time)
      (actor : String)
  | createBounty (subjectId : Id) (proposal : BountyInput) (actor : String)
      (projectOwner goalOwner : Option Id)
  | transitionBounty (bountyId subjectId : Id) (target : BountyStatus) (actor : String)
  | maintainExpiredBounties (subjectId : Id) (limit : Nat)
  | submitToBounty (bountyId subjectId : Id) (proposal : SubmissionInput)
  | decideSubmission (submissionId subjectId : Id) (accepted : Bool) (reason actor : String)
  | withdrawSubmission (submissionId subjectId : Id) (actor : String)
  | updatePolicy (subjectId : Id) (proposal : PaymentPolicyInput) (expectedVersion : Nat) (actor : String)
      (request : Option AutomationRequest)
  | confirmOrder (orderId subjectId : Id) (actor : String)
  | rejectOrder (orderId subjectId : Id) (actor reason : String)
  | cancelOrder (orderId subjectId : Id) (actor reason : String)
  | refundOrder (orderId subjectId : Id) (actor reason : String)
  | markReconcileRequired (executionId subjectId : Id) (actor reason : String)
  | recoverExecution (executionId subjectId : Id) (actor : String)

/-- The policy row a new subject starts with. -/
def defaultTerms : PolicyTerms :=
  { mode := .disabled, allowedNetworkIds := [], allowedAssetIds := [], perOrderLimit := 0,
    dailyLimit := 0, monthlyLimit := 0, dailyOrderLimit := 0, monthlyOrderLimit := 0, minBalance := 0,
    maxObservationAgeSeconds := 0, automaticMaxAmount := 0, anomalyBlock := true,
    emergencyPaused := false, recipientAllowlistEnabled := false, allowedRecipientAddresses := [] }

section
variable (cfg : Config)

def defaultPolicy (subjectId : Id) (now : Time) : PolicyRow :=
  let row : PolicyRow := ⟨subjectId, defaultTerms, false, 1, now, ""⟩
  { row with stateHash := policyStateHash cfg row }

/-- The wallet part of creating an identity: `INSERT OR IGNORE` of the default policy. -/
def createIdentity (db : DB) (r : Readings) (subjectId : Id) : Except PyError DB := do
  validateSubjectId subjectId
  match db.policies.insert? (defaultPolicy cfg subjectId (r 0).utc) with
  | some policies => .ok { db with policies }
  | none => .ok db

def StoreOp.run (db : DB) (r : Readings) : StoreOp → Except PyError DB
  | .createIdentity subjectId => Wallet.createIdentity cfg db r subjectId
  | .registerNetwork subjectId chainId actor => Wallet.registerNetwork db r subjectId chainId actor
  | .registerAsset subjectId networkId contract actor =>
    Wallet.registerAsset db r subjectId networkId contract actor
  | .registerAddress subjectId networkId address purpose actor =>
    Wallet.registerAddress db r subjectId networkId address purpose actor
  | .revoke subjectId actor what => Wallet.revoke db r subjectId actor what
  | .recordBalanceSnapshot subjectId assetId addressId balance observedAt actor =>
    Wallet.recordBalanceSnapshot db r subjectId assetId addressId balance observedAt actor
  | .createBounty subjectId proposal actor projectOwner goalOwner =>
    (Wallet.createBounty cfg db r subjectId proposal actor projectOwner goalOwner).map Prod.snd
  | .transitionBounty bountyId subjectId target actor =>
    Wallet.transitionBounty cfg db r bountyId subjectId target actor
  | .maintainExpiredBounties subjectId limit => Wallet.maintainExpiredBounties cfg db r subjectId limit
  | .submitToBounty bountyId subjectId proposal =>
    (Wallet.submitToBounty cfg db r bountyId subjectId proposal).map Prod.snd
  | .decideSubmission submissionId subjectId accepted reason actor =>
    (Wallet.decideSubmission cfg db r submissionId subjectId accepted reason actor).map Prod.snd
  | .withdrawSubmission submissionId subjectId actor =>
    (Wallet.withdrawSubmission cfg db r submissionId subjectId actor).map Prod.snd
  | .updatePolicy subjectId proposal expectedVersion actor request =>
    (Wallet.updatePolicy cfg db r subjectId proposal expectedVersion actor request).map Prod.snd
  | .confirmOrder orderId subjectId actor => Wallet.confirmOrder cfg db r orderId subjectId actor
  | .rejectOrder orderId subjectId actor reason => Wallet.rejectOrder cfg db r orderId subjectId actor reason
  | .cancelOrder orderId subjectId actor reason => Wallet.cancelOrder cfg db r orderId subjectId actor reason
  | .refundOrder orderId subjectId actor reason => Wallet.refundOrder cfg db r orderId subjectId actor reason
  | .markReconcileRequired executionId subjectId actor reason =>
    (Wallet.markReconcileRequired cfg db r executionId subjectId actor reason).map Prod.snd
  | .recoverExecution executionId subjectId actor =>
    Wallet.recoverExecution cfg db r executionId subjectId actor

/-- A call in progress, between two of its transactions. -/
inductive Call
  | preparing (orderId subjectId : Id) (actor : String) (policyVersion : Nat) (attempt : Attempt)
  | signing (d : Dispatch)
  | handed (d : Dispatch)
  | looking (execution : ExecutionRow) (actor : String) (retry : Option (String × Nat))
  | deciding (executionId subjectId : Id) (actor : String) (mark : Mark)
  | done
  deriving DecidableEq

/-- An envelope given to `signer.sign_and_broadcast`. -/
structure Handed where
  orderId : Id
  requestId : String
  transfer : WalletUnsignedTransfer
  deriving DecidableEq

structure Sys where
  db : DB
  calls : List Call
  handed : List Handed
  rejected : List (Id × String)
  reported : List (Id × String)
  receipts : List (Id × WalletReceipt)

def Sys.start : Sys := ⟨.empty, [], [], [], [], []⟩

inductive Action
  | store (r : Readings) (op : StoreOp)
  | execute (orderId subjectId : Id) (actor : String) (q : FirstAttempt)
  | retry (orderId subjectId : Id) (actor reason : String)
  | prepare (i : Nat) (r : Readings)
  | dispatch (i : Nat) (r : Reading)
  | lapse (i : Nat)
  | answer (i : Nat) (r : Readings) (answer : SignerAnswer)
  | poll (executionId subjectId : Id) (actor : String)
  | lookup (i : Nat) (clock : Time) (reply : String → ReceiptReply)
  | mark (i : Nat) (r : Readings)
  | crash

/-- The readings taken by the transaction of a step. -/
def Action.readings : Action → Readings
  | .store r _ => r
  | .prepare _ r => r
  | .dispatch _ r => fun _ => r
  | .answer _ r _ => r
  | .mark _ r => r
  | .lookup _ clock _ => fun _ => ⟨clock, clock, "", false⟩
  | _ => fun _ => ⟨0, 0, "", false⟩

/-- A rolled back transaction leaves the database as it was. -/
def commit (db : DB) : Except PyError DB → DB
  | .ok db' => db'
  | .error _ => db

/-- The well-formed hash an answer reports for the attempt. -/
def reportedHash (d : Dispatch) : SignerAnswer → Option String
  | .returned (some result) =>
    if validBroadcastResult result d.prepared.transfer then txHash result.txHash else none
  | .broadcastUnknown (some tx) => txHash tx
  | _ => none

/-- The execution and the request of an attempt. -/
def Dispatch.request (d : Dispatch) : Id × String := (d.prepared.execution.executionId, d.prepared.requestId)

/-- The answers that say that nothing was broadcast. -/
def SignerAnswer.rejects : SignerAnswer → Bool
  | .signerError _ => true
  | .dispatchDenied => true
  | _ => false

def Dispatch.decide (d : Dispatch) (answer : SignerAnswer) : Call :=
  match markFor d answer with
  | some mark => .deciding d.prepared.execution.executionId d.prepared.execution.subjectId d.actor mark
  | none => .done

/-- What remains to do when a marking transaction raised. -/
def afterError (executionId subjectId : Id) (actor : String) : Mark → PyError → Call
  | .broadcast result, .walletExecutionError _ =>
    .deciding executionId subjectId actor (.unknown (some result.txHash) "signer_response_invalid")
  | _, _ => .done

/-- Run a marking transaction for the call `i`. -/
def Sys.runMark (s : Sys) (i : Nat) (r : Readings) (executionId subjectId : Id) (actor : String)
    (mark : Mark) : Sys :=
  match mark.apply cfg s.db r executionId subjectId actor with
  | .ok (_, db) => { s with db, calls := s.calls.set i .done }
  | .error error => { s with calls := s.calls.set i (afterError executionId subjectId actor mark error) }

/-- The hand-over: the gate is checked and the envelope given to the signer, or the call is denied. -/
def Sys.dispatch (s : Sys) (i : Nat) (r : Reading) (d : Dispatch) : Sys :=
  match authorize cfg s.db r d with
  | .ok () =>
    { s with
      calls := s.calls.set i (.handed d)
      handed := s.handed ++ [⟨d.prepared.execution.orderId, d.prepared.requestId, d.prepared.transfer⟩] }
  | .error (.walletDispatchDenied _) =>
    { s with
      calls := s.calls.set i (d.decide .dispatchDenied)
      rejected := s.rejected ++ [d.request] }
  | .error _ => { s with calls := s.calls.set i (d.decide .exception) }

/-- What an answer tells the outside world about. -/
def Sys.hear (s : Sys) (d : Dispatch) (answer : SignerAnswer) : Sys :=
  { s with
    rejected := if answer.rejects then s.rejected ++ [d.request] else s.rejected
    reported := s.reported ++
      ((reportedHash d answer).map (fun tx => (d.prepared.execution.executionId, tx))).toList }

/-- The signer's answer and the transaction that records it. -/
def Sys.answer (s : Sys) (i : Nat) (r : Readings) (d : Dispatch) (answer : SignerAnswer) : Sys :=
  match markFor d answer with
  | none => { s.hear d answer with calls := s.calls.set i .done }
  | some mark =>
    (s.hear d answer).runMark cfg i r d.prepared.execution.executionId d.prepared.execution.subjectId d.actor mark

/-- What a call does after its lookup: a retry without a receipt goes on to prepare an attempt. -/
def afterLookup (execution : ExecutionRow) (actor : String) (retry : Option (String × Nat)) (clock : Time)
    (found : Option WalletReceipt × Option String) : Call :=
  let decide (mark : Mark) : Call := .deciding execution.executionId execution.subjectId actor mark
  match retry with
  | none => ((pollMark cfg execution clock found).map decide).getD .done
  | some (reason, policyVersion) =>
    (found.1.map (fun receipt => decide (receiptMark receipt))).getD
      (.preparing execution.orderId execution.subjectId actor policyVersion (.further reason))

/-- A receipt lookup. -/
def Sys.lookup (s : Sys) (i : Nat) (clock : Time) (reply : String → ReceiptReply)
    (execution : ExecutionRow) (actor : String) (retry : Option (String × Nat)) : Sys :=
  match lookupReceipt cfg s.db execution reply with
  | .error _ => { s with calls := s.calls.set i .done }
  | .ok found =>
    { s with
      calls := s.calls.set i (afterLookup cfg execution actor retry clock found)
      receipts := s.receipts ++ (found.1.map (fun receipt => (execution.executionId, receipt))).toList }

def step (s : Sys) : Action → Sys
  | .store r op => { s with db := commit s.db (op.run cfg s.db r) }
  | .execute orderId subjectId actor q =>
    match callTerms s.db subjectId actor with
    | .ok (actor, policyVersion) =>
      { s with calls := s.calls ++ [.preparing orderId subjectId actor policyVersion (.first q)] }
    | .error _ => s
  | .retry orderId subjectId actor reason =>
    match retryTerms s.db subjectId actor reason with
    | .ok (reason, actor, policyVersion) =>
      let call : Call := match s.db.orderExecution orderId subjectId with
        | some execution => .looking execution actor (some (reason, policyVersion))
        | none => .preparing orderId subjectId actor policyVersion (.further reason)
      { s with calls := s.calls ++ [call] }
    | .error _ => s
  | .prepare i r =>
    match s.calls[i]? with
    | some (.preparing orderId subjectId actor policyVersion attempt) =>
      match Wallet.prepare cfg s.db r orderId subjectId actor attempt with
      | .ok (p, db) =>
        { s with db, calls := s.calls.set i (.signing ⟨attempt.retry, p, policyVersion, actor⟩) }
      | .error _ => { s with calls := s.calls.set i .done }
    | _ => s
  | .dispatch i r =>
    match s.calls[i]? with
    | some (.signing d) => s.dispatch cfg i r d
    | _ => s
  | .lapse i =>
    match s.calls[i]? with
    | some (.signing d) => { s with calls := s.calls.set i (d.decide .operationInvalidated) }
    | _ => s
  | .answer i r answer =>
    match s.calls[i]? with
    | some (.handed d) => s.answer cfg i r d answer
    | _ => s
  | .poll executionId subjectId actor =>
    match pollTerms s.db executionId subjectId actor with
    | .ok (actor, execution) =>
      if execution.status ∈ [ExecutionStatus.broadcast, .unknown] then
        { s with calls := s.calls ++ [.looking execution actor none] }
      else s
    | .error _ => s
  | .lookup i clock reply =>
    match s.calls[i]? with
    | some (.looking execution actor retry) => s.lookup cfg i clock reply execution actor retry
    | _ => s
  | .mark i r =>
    match s.calls[i]? with
    | some (.deciding executionId subjectId actor mark) => s.runMark cfg i r executionId subjectId actor mark
    | _ => s
  | .crash => { s with calls := [] }

/-- The wallet from an empty database. -/
def machine : Machine Sys Action where
  init s := s = .start
  step := step cfg

end

end Noyra.Wallet
