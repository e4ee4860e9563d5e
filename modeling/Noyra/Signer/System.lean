import Noyra.Lib.Machine
import Noyra.Signer.Service

/-!
# The running signer service

The committed and the uncommitted state of the database, the call that holds its lock, and the log
of what left the process. A command of the running call, a new call or a crash is one action.
-/

namespace Noyra.Signer
open Noyra.Lib Noyra.Wallet

/-- What leaves the process: an `eth_sendRawTransaction` made for a call, or the answer to it. -/
inductive Event
  | sent (requestId : String) (transfer : WalletUnsignedTransfer)
  | answered (requestId : String) (transfer : WalletUnsignedTransfer) (response : Option HttpResponse)
  deriving DecidableEq

/-- The file, the connection's view of it with the open transaction, and the log. -/
structure World where
  durable : Requests
  working : Requests
  events : List Event

def World.log (w : World) (e : Event) : World := { w with events := w.events ++ [e] }

/-- What the environment makes of a command: it succeeds, with this value or time where it has one, or it
raises. Only an RPC call raises a `SignerError`. -/
inductive Reaction
  | success
  | value (v : RpcValue)
  | time (now : String)
  | rpcError (e : SignerError)
  | exception
  | baseException
  deriving DecidableEq

def Requests.update (requests : Requests) (requestId : String) (change : RequestUpdate) : Requests :=
  match requests.find? requestId with
  | some row => requests.replace (change.apply row)
  | none => requests

/-- An RPC call; a broadcast may have reached the chain whatever the reply. -/
def performRpc (c : Call) (request : RpcRequest) (x : Reaction) (w : World) : World × Reply :=
  let w := match request with
    | .sendRawTransaction _ => w.log (.sent c.requestId c.transfer)
    | _ => w
  match x with
  | .value v => (w, .value v)
  | .rpcError e => (w, .raised (.signerError e))
  | .baseException => (w, .raised .baseException)
  | _ => (w, .raised .exception)

/-- A statement that succeeds. -/
def performStatement (command : Command) (w : World) : World × Reply :=
  match command with
  | .select requestId => (w, .row (w.working.find? requestId))
  | .insert row =>
    match w.working.insert? row with
    | some working => ({ w with working }, .done)
    | none => (w, .raised .exception)
  | .update requestId change => ({ w with working := Requests.update w.working requestId change }, .done)
  | .commit => ({ w with durable := w.working }, .done)
  | .rollback => ({ w with working := w.durable }, .done)
  | _ => (w, .raised .exception)

/-- One command of the call `c`. A statement that raises has no effect; a rollback does not raise. -/
def perform (c : Call) (command : Command) (x : Reaction) (w : World) : World × Reply :=
  match command, x with
  | .rpc request, x => performRpc c request x w
  | .rollback, _ => performStatement .rollback w
  | _, .exception => (w, .raised .exception)
  | _, .baseException => (w, .raised .baseException)
  | .utcNow, .time now => (w, .time now)
  | command, _ => performStatement command w

structure Service where
  world : World
  active : Option (Call × Script TransferResult)

inductive Action
  | call (c : Call)
  | advance (x : Reaction)
  | crash
  deriving DecidableEq

section
variable (engine : SignerEngine)

/-- The call goes on with `rest`, or is answered. -/
def settle (c : Call) (rest : Script TransferResult) (w : World) : Service :=
  match rest with
  | .done result => ⟨w.log (.answered c.requestId c.transfer (respond c.token result)), none⟩
  | .perform command next => ⟨w, some (c, .perform command next)⟩

/-- Calls are served one after the other, as they take the lock of the state: what a call does before depends
on the call alone. -/
def step (s : Service) : Action → Service
  | .call c =>
    match s.active with
    | none => settle c (dispatch engine c) s.world
    | some _ => s
  | .advance x =>
    match s.active with
    | some (c, .perform command next) =>
      let outcome := perform c command x s.world
      settle c (next outcome.2) outcome.1
    | _ => s
  | .crash =>
    let requests := openState engine s.world.durable
    let events := match s.active with
      | some (c, _) => s.world.events ++ [.answered c.requestId c.transfer none]
      | none => s.world.events
    ⟨⟨requests, requests, events⟩, none⟩

def Service.initial : Service := ⟨⟨.empty, .empty, []⟩, none⟩

def signerMachine : Machine Service Action := ⟨fun s => s = .initial, step engine⟩

end

end Noyra.Signer
