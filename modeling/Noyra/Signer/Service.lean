import Noyra.Lib.Program
import Noyra.Lib.Table
import Noyra.Wallet.Execution

/-!
# The signer service

`SignerEngine.transfer`, the HTTP handler in front of it and `HTTPSWalletSigner.sign_and_broadcast`
behind it. The engine is a program whose commands are its SQL statements, its RPC calls and its
clock, so that the process may be stopped between any two of them.
-/

namespace Noyra.Signer
open Noyra.Lib Noyra.Wallet

def chainId : Nat := 11155111

structure SignerError where
  message : String
  code : String
  deriving DecidableEq

/-- A `SignerError` with the default code. -/
def rejected (message : String) : SignerError := ⟨message, "request_rejected"⟩

/-- What a call raises: a `SignerError`, another `Exception`, or neither. -/
inductive Raised
  | signerError (error : SignerError)
  | exception
  | baseException
  deriving DecidableEq

inductive RequestStatus
  | pending | unknown | broadcast
  deriving DecidableEq, Repr

inductive EnvelopeStatus
  | legacyUnbound | bound
  deriving DecidableEq, Repr

/-- A row of `signer_requests`. -/
structure RequestRow where
  requestId : String
  transferHash : String
  status : RequestStatus
  txHash : Option String
  chainId : Nat
  nonce : Nat
  gasLimit : Nat
  maxFeePerGas : Nat
  acceptedAt : Option String
  transferJson : Option WalletUnsignedTransfer
  envelopeStatus : EnvelopeStatus
  deriving DecidableEq

abbrev Requests := Table RequestRow.requestId

/-- The `UPDATE` statements on one request. -/
inductive RequestUpdate
  | markUnknown
  | bindEnvelope
  | markBroadcast (acceptedAt : String)
  deriving DecidableEq

def RequestUpdate.apply (u : RequestUpdate) (row : RequestRow) : RequestRow :=
  match u with
  | .markUnknown => { row with status := .unknown }
  | .bindEnvelope => { row with envelopeStatus := .bound }
  | .markBroadcast acceptedAt => { row with status := .broadcast, acceptedAt := some acceptedAt }

inductive RpcRequest
  | chainId
  | getTransactionCount (address block : String)
  | estimateGas (sender target value data : String)
  | gasPrice
  | getBalance (address block : String)
  | sendRawTransaction (raw : String)
  deriving DecidableEq

/-- The `result` of an RPC response. -/
inductive RpcValue
  | text (s : String)
  | other
  deriving DecidableEq

inductive Command
  | select (requestId : String)
  | insert (row : RequestRow)
  | update (requestId : String) (change : RequestUpdate)
  | commit
  | rollback
  | rpc (request : RpcRequest)
  | utcNow
  deriving DecidableEq

inductive Reply
  | done
  | row (row : Option RequestRow)
  | value (value : RpcValue)
  | time (now : String)
  | raised (e : Raised)
  deriving DecidableEq

abbrev Script (α : Type) : Type := Program Command Reply Raised α

/-- A statement without rows. -/
def execute (command : Command) : Script Unit :=
  .perform command (fun
    | .raised e => .raise e
    | _ => pure ())

def select (requestId : String) : Script (Option RequestRow) :=
  .perform (.select requestId) (fun
    | .row row => pure row
    | .raised e => .raise e
    | _ => .raise .exception)

/-- `rpc.call`. -/
def rpc (request : RpcRequest) : Script RpcValue :=
  .perform (.rpc request) (fun
    | .value v => pure v
    | .raised e => .raise e
    | _ => .raise .exception)

def utcNow : Script String :=
  .perform .utcNow (fun
    | .time now => pure now
    | .raised e => .raise e
    | _ => .raise .exception)

def fail {α : Type} (error : SignerError) : Script α := .raise (.signerError error)

/-- A computation that performs no command. -/
def check {α : Type} : Except SignerError α → Script α
  | .ok a => pure a
  | .error e => fail e

/-- `with connection:` commits what the body did when it returns and rolls it back when it raises, also when
the commit itself does. -/
def withConnection {α : Type} (body : Script α) : Script α :=
  body.andThen (fun
    | .ok a => (execute .commit).andThen (fun
      | .ok _ => pure a
      | .error e => (execute .rollback).andThen (fun _ => .raise e))
    | .error e => (execute .rollback).andThen (fun _ => .raise e))

/-- `_quantity`. -/
def quantity (value : RpcValue) (maximum : Nat) : Except SignerError Nat :=
  match value with
  | .text s => do
    raiseIf ((bytes s).take 2 ≠ bytes "0x") (rejected "rpc response is invalid")
    let result ← orRaise (readHex s) (rejected "rpc response is invalid")
    raiseIf (maximum < result) (rejected "rpc response is invalid")
    .ok result
  | .other => .error (rejected "rpc response is invalid")

/-- `parse_transfer`, of an object with exactly the fields of an envelope. -/
def parseTransfer (payload : WalletUnsignedTransfer) : Except SignerError WalletUnsignedTransfer :=
  match payload.validate with
  | .error _ => .error (rejected "invalid transfer")
  | .ok transfer =>
    if transfer.chainId ≠ chainId ∨ transfer.assetType ≠ .native then .error (rejected "invalid transfer")
    else .ok transfer

/-- The transaction handed to `account.sign_transaction`. -/
structure Transaction where
  chainId : Nat
  nonce : Nat
  gas : Nat
  gasPrice : Nat
  toAddress : String
  value : Nat
  data : String
  deriving DecidableEq

structure SignedTransaction where
  rawTransaction : List UInt8
  hash : List UInt8
  deriving DecidableEq

/-- The engine's account, with the signing library and the hash it uses; `none` is an exception. -/
structure SignerEngine where
  address : String
  contentHash : Json → String
  toChecksumAddress : String → Option String
  signTransaction : Transaction → Option SignedTransaction

/-- `WalletBroadcastResult`, with whatever the columns hold. -/
structure TransferResult where
  txHash : Option String
  chainId : Nat
  nonce : Nat
  acceptedAt : Option String
  deriving DecidableEq

section
variable (engine : SignerEngine)

/-- `_transfer_hash`. -/
def transferHash (transfer : WalletUnsignedTransfer) : String := engine.contentHash transfer.dump

/-- Whether `SignerState.open` binds the row to its envelope. -/
def boundEnvelope (row : RequestRow) : Bool :=
  match row.transferJson with
  | none => false
  | some json =>
    match parseTransfer json with
    | .error _ => false
    | .ok transfer =>
      transferHash engine transfer == row.transferHash && transfer.chainId == row.chainId &&
        transfer.nonce == row.nonce && transfer.gasLimit == row.gasLimit &&
        transfer.maxFeePerGas == row.maxFeePerGas

/-- What `SignerState.open` leaves of a row. -/
def openedRow (row : RequestRow) : RequestRow :=
  if row.envelopeStatus = .bound then row
  else { row with envelopeStatus := if boundEnvelope engine row then .bound else .legacyUnbound }

theorem openedRow_requestId (row : RequestRow) : (openedRow engine row).requestId = row.requestId := by
  unfold openedRow
  split <;> rfl

/-- `SignerState.open`, on the rows it finds. -/
def openState (requests : Requests) : Requests := requests.mapRows (openedRow engine) (openedRow_requestId engine)

def checkChain : Script Unit := do
  let value ← rpc .chainId
  let id ← check (quantity value sqliteInt64Max)
  check (raiseIf (id ≠ chainId) (rejected "chain id mismatch"))

/-- `_rpc_transfer`. -/
def rpcTransfer (transfer : WalletUnsignedTransfer) : RpcRequest :=
  .estimateGas transfer.sourceAddress transfer.toAddress
    ("0x" ++ String.ofList (Nat.toDigits 16 transfer.value)) transfer.data

/-- `_admit`. -/
def admission (transfer : WalletUnsignedTransfer) : Script Unit := do
  checkChain
  let pendingNonce ← rpc (.getTransactionCount engine.address "pending")
  let nonce ← check (quantity pendingNonce sqliteInt64Max)
  check (raiseIf (nonce ≠ transfer.nonce) ⟨"nonce conflict", "nonce_conflict"⟩)
  let estimate ← rpc (rpcTransfer transfer)
  let gas ← check (quantity estimate maxGasLimit)
  let price ← rpc .gasPrice
  let fee ← check (quantity price maxUint256)
  check (raiseIf (transfer.gasLimit < gas ∨ fee = 0 ∨ transfer.maxFeePerGas < fee)
    (rejected "gas or fee exceeds envelope"))
  let funds ← rpc (.getBalance engine.address "pending")
  let balance ← check (quantity funds maxUint256)
  check (raiseIf (balance < transfer.value + transfer.gasLimit * transfer.maxFeePerGas)
    (rejected "insufficient balance"))

/-- `_sign`: the raw transaction and its hash. -/
def sign (transfer : WalletUnsignedTransfer) : Except SignerError (String × String) := do
  let target ← orRaise (engine.toChecksumAddress transfer.toAddress) (rejected "signing failed")
  let signed ← orRaise
    (engine.signTransaction
      { chainId := transfer.chainId, nonce := transfer.nonce, gas := transfer.gasLimit,
        gasPrice := transfer.maxFeePerGas, toAddress := target, value := transfer.value, data := transfer.data })
    (rejected "signing failed")
  .ok (hexText signed.rawTransaction, hexText signed.hash)

def broadcastUnknown : SignerError := ⟨"broadcast unknown", "broadcast_unknown"⟩

/-- `transfer`, where the request is already recorded. -/
def replay (requestId hash : String) (row : RequestRow) : Script TransferResult := do
  check (raiseIf (row.transferHash ≠ hash) ⟨"request identity is already bound", "request_conflict"⟩)
  match row.status with
  | .unknown => fail broadcastUnknown
  | .pending =>
    execute (.update requestId .markUnknown)
    execute .commit
    fail broadcastUnknown
  | .broadcast => pure ⟨row.txHash, row.chainId, row.nonce, row.acceptedAt⟩

/-- The row inserted for a new request; the envelope's column has its default. -/
def pendingRow (requestId hash tx : String) (checked : WalletUnsignedTransfer) : RequestRow where
  requestId := requestId
  transferHash := hash
  status := .pending
  txHash := some tx
  chainId := checked.chainId
  nonce := checked.nonce
  gasLimit := checked.gasLimit
  maxFeePerGas := checked.maxFeePerGas
  acceptedAt := none
  transferJson := some checked
  envelopeStatus := .legacyUnbound

/-- Hand the raw transaction to the chain; the node must answer with its hash. -/
def sendRaw (raw tx : String) : Script Unit := do
  let returned ← rpc (.sendRawTransaction raw)
  match returned with
  | .text s => check (raiseIf (lower s ≠ lower tx) (rejected "broadcast response is invalid"))
  | .other => fail (rejected "broadcast response is invalid")

/-- The `except Exception` clause around the broadcast. -/
def sendFailed (requestId : String) : Raised → Script Unit
  | .baseException => .raise .baseException
  | _ => do
    execute (.update requestId .markUnknown)
    execute .commit
    fail broadcastUnknown

/-- `transfer`, for a new request. -/
def broadcast (requestId hash : String) (checked : WalletUnsignedTransfer) : Script TransferResult := do
  let (raw, tx) ← check (sign engine checked)
  admission engine checked
  execute (.insert (pendingRow requestId hash tx checked))
  execute (.update requestId .bindEnvelope)
  -- The pending marker is durable before any network side effect.
  execute .commit
  (sendRaw raw tx).tryExcept (sendFailed requestId)
  let acceptedAt ← utcNow
  execute (.update requestId (.markBroadcast acceptedAt))
  pure ⟨some tx, checked.chainId, checked.nonce, some acceptedAt⟩

/-- What `transfer` checks before it takes the lock. -/
def checkedTransfer (requestId : String) (transfer : WalletUnsignedTransfer) :
    Except SignerError WalletUnsignedTransfer := do
  raiseIf (requestId = "" ∨ longerThan 256 requestId) (rejected "request identity is invalid")
  let checked ← parseTransfer transfer
  raiseIf (checked.sourceAddress ≠ engine.address) (rejected "transfer source rejected")
  .ok checked

/-- The part of `transfer` that runs under the lock of the state. -/
def transferLocked (requestId : String) (checked : WalletUnsignedTransfer) : Script TransferResult :=
  withConnection (do
    let row ← select requestId
    match row with
    | some row => replay requestId (transferHash engine checked) row
    | none => broadcast engine requestId (transferHash engine checked) checked)

/-- `SignerEngine.transfer`. -/
def transfer (requestId : String) (t : WalletUnsignedTransfer) : Script TransferResult := do
  let checked ← check (checkedTransfer engine requestId t)
  transferLocked engine requestId checked

inductive Scalar
  | null
  | int (n : Int)
  | str (s : String)
  deriving DecidableEq

abbrev Body := List (String × Scalar)

structure HttpResponse where
  status : Nat
  body : Body
  deriving DecidableEq

/-- A `POST /v1/transfer`. `token` is what `secrets.token_hex` draws should the request fail internally. -/
structure Call where
  requestId : String
  transfer : WalletUnsignedTransfer
  token : String
  deriving DecidableEq

def textOrNull : Option String → Scalar
  | none => .null
  | some s => .str s

def TransferResult.body (r : TransferResult) : Body :=
  [("tx_hash", textOrNull r.txHash), ("chain_id", .int r.chainId), ("nonce", .int r.nonce),
    ("accepted_at", textOrNull r.acceptedAt)]

def conflictCodes : List String := ["nonce_conflict", "request_conflict", "broadcast_unknown", "legacy_unbound"]

/-- How `do_POST` answers; nothing is sent when the exception leaves the handler. -/
def respond (token : String) : Except Raised TransferResult → Option HttpResponse
  | .ok result => some ⟨200, result.body⟩
  | .error (.signerError e) =>
    some ⟨if e.code ∈ conflictCodes then 409 else 400, [("error", .str e.message), ("code", .str e.code)]⟩
  | .error .exception => some ⟨500, [("error", .str "signer_internal_error"), ("request_id", .str token)]⟩
  | .error .baseException => none

/-- `_dispatch` of a transfer. -/
def dispatch (c : Call) : Script TransferResult := do
  let parsed ← check (parseTransfer c.transfer)
  transfer engine c.requestId parsed

end

def Body.get (body : Body) (key : String) : Option Scalar := (body.find? (fun f => f.1 = key)).map Prod.snd

/-- `_response_error_code`. -/
def responseErrorCode (body : Body) : Option String :=
  match Body.get body "code" with
  | some (.str code) => if longerThan 64 code then none else some code
  | _ => none

/-- The result of a `200` response. -/
def readResult (body : Body) : Option WalletBroadcastResult :=
  if ¬(body.map Prod.fst).Perm ["tx_hash", "chain_id", "nonce", "accepted_at"] then none
  else
    match Body.get body "chain_id", Body.get body "nonce", Body.get body "accepted_at", Body.get body "tx_hash" with
    | some (.int chainId), some (.int nonce), some (.str acceptedAt), some (.str tx) =>
      if chainId < 1 ∨ sqliteInt64Max < chainId ∨ nonce < 0 ∨ sqliteInt64Max < nonce ∨
          strip acceptedAt = "" ∨ longerThan 128 (strip acceptedAt) then none
      else (txHash tx).map (fun tx => ⟨tx, chainId, nonce, acceptedAt⟩)
    | _, _, _, _ => none

/-- What `sign_and_broadcast` makes of the response; `none` is a request without one. -/
def readResponse : Option HttpResponse → SignerAnswer
  | none => .broadcastUnknown none
  | some response =>
    if 400 ≤ response.status ∧ response.status < 500 then
      if response.status = 409 ∧ responseErrorCode response.body = some "broadcast_unknown" then
        .broadcastUnknown none
      else if response.status = 409 ∧ responseErrorCode response.body = some "nonce_conflict" then
        .signerError "nonce_conflict"
      else .signerError "signer_rejected"
    else if response.status ≠ 200 then .broadcastUnknown none
    else
      match readResult response.body with
      | some result => .returned (some result)
      | none => .broadcastUnknown none

/-- `HTTPSWalletSigner.sign_and_broadcast`, of a signer for `address`, when the service answers `response`. -/
def signAndBroadcast (address : Option String) (t : WalletUnsignedTransfer) (requestId : String)
    (response : Option HttpResponse) : SignerAnswer :=
  if address.any (fun a => a ≠ t.sourceAddress) then .signerError "signer_rejected"
  else if requestId = "" ∨ longerThan 256 requestId then .signerError "signer_rejected"
  else readResponse response

end Noyra.Signer
