import Noyra.Core.Admission
import Noyra.Lib.Calls

/-!
# The subject kernel and its gate

`SubjectKernel` moves the durable lifecycle of a subject and opens or closes the admission gate around the
move; `CutoverCoordinator` fences the gate for a migration. A call is a sequence of sections of the gate,
transactions of the lifecycle and steps that only may raise. The calls exclude each other; operations are
begun and finished between any two of their steps. Waiting for a drain and the durable state of the
migration are left to the environment: it decides what the ownership and clear checks answer.
-/

namespace Noyra.Core
open Noyra.Lib

inductive LifecycleState
  | booting | orienting | active | paused | windingDown | reflectiveSleep | deepSleep | waking | stopped | resetting
  deriving DecidableEq

namespace LifecycleState

/-- `ALLOWED_TRANSITIONS`. -/
def allowed : LifecycleState → List LifecycleState
  | booting => [orienting, active, stopped]
  | orienting => [active, stopped]
  | active => [paused, windingDown, stopped]
  | paused => [active, stopped]
  | windingDown => [reflectiveSleep, stopped]
  | reflectiveSleep => [deepSleep, stopped]
  | deepSleep => [waking, stopped]
  | waking => [active, stopped]
  | stopped => [booting, resetting]
  | resetting => [booting, stopped]

/-- Where `recover_for_restart` leads; `none` is the state it refuses. -/
def recovered : LifecycleState → Option LifecycleState
  | booting => some booting
  | stopped | resetting => none
  | paused => some paused
  | windingDown => some windingDown
  | reflectiveSleep => some reflectiveSleep
  | deepSleep => some deepSleep
  | waking => some waking
  | orienting | active => some booting

/-- The states in which `recover_for_restart` writes nothing. -/
def recoversInPlace (s : LifecycleState) : Bool := s = booting ∨ s = paused

end LifecycleState

inductive KernelError
  | gate (e : GateError)
  | invalidTransition
  | integrityError
  | runtimeOwnershipError
  | other
  deriving DecidableEq

/-- The gate of the process that owns the subject, the durable lifecycle row and the process lock. -/
structure Kernel where
  gate : Gate
  lifecycle : LifecycleState
  version : Nat
  lockHeld : Bool
  deriving DecidableEq

/-- What the environment answers to one step: an exception of its own, or what the checks of the migration epoch
say, and the id of a new operation. -/
structure KernelReading where
  raises : Option KernelError
  noActiveEpoch : Bool
  operationId : String
  deriving DecidableEq

inductive KernelStep
  | acquireOwnership
  | release
  | requireOwnership
  | work
  | current
  | transition (state : LifecycleState)
  | recoverForRestart
  | pauseWithoutEvent
  | reopen (atVersion : Bool)
  | invalidate
  | quarantine
  | beginDrain
  | enterControl
  | leaveControl
  | fenceForMigration
  | fenceEpoch
  | clearMigrationFence (fence : Int)
  | begin (kind : String) (allowQuarantine : Bool)
  | finish
  | newProcess
  deriving DecidableEq

namespace KernelStep

/-- What a step returns. -/
def Reply : KernelStep → Type
  | current => LifecycleState
  | fenceForMigration => Int
  | fenceEpoch => Option Int
  | _ => Unit

def gateSection (k : Kernel) : Except GateError Gate → Except KernelError (Unit × Kernel)
  | .ok gate => .ok ((), { k with gate })
  | .error e => .error (.gate e)

/-- `ownership_check`: the process lock and no migration epoch of another owner. -/
def owned (k : Kernel) (x : KernelReading) : Option Bool := some (k.lockHeld && x.noActiveEpoch)

def run (k : Kernel) (x : KernelReading) : (s : KernelStep) → Except KernelError (s.Reply × Kernel)
  | acquireOwnership => .ok ((), { k with lockHeld := true })
  | release => .ok ((), { k with lockHeld := false })
  | requireOwnership => do
    raiseIf (k.lockHeld = false ∨ x.noActiveEpoch = false) .runtimeOwnershipError
    .ok ((), k)
  | work => .ok ((), k)
  | current => .ok (k.lifecycle, k)
  | transition state => do
    raiseIf (state ∉ k.lifecycle.allowed) .invalidTransition
    .ok ((), { k with lifecycle := state, version := k.version + 1 })
  | recoverForRestart => do
    let state ← orRaise k.lifecycle.recovered .invalidTransition
    .ok ((), { k with lifecycle := state, version := if k.lifecycle.recoversInPlace then k.version else k.version + 1 })
  | pauseWithoutEvent => do
    raiseIf (k.lifecycle ≠ .paused ∧ k.lifecycle ≠ .active) .invalidTransition
    .ok ((), { k with
      lifecycle := .paused, version := if k.lifecycle = .paused then k.version else k.version + 1 })
  | reopen atVersion =>
    gateSection k (k.gate.reopen (some x.noActiveEpoch) (if atVersion then some (k.version : Int) else none))
  | invalidate => .ok ((), { k with gate := k.gate.invalidate false false })
  | quarantine => .ok ((), { k with gate := k.gate.quarantine })
  | beginDrain => .ok ((), { k with gate := k.gate.beginDrain })
  | enterControl => gateSection k (k.gate.enterControl (some k.lockHeld))
  | leaveControl => .ok ((), { k with gate := k.gate.leaveControl })
  | fenceForMigration =>
    match k.gate.raiseFence with
    | .ok gate => .ok (gate.epoch, { k with gate })
    | .error e => .error (.gate e)
  | fenceEpoch => .ok (if k.gate.migrationFenced then k.gate.migrationFenceEpoch else none, k)
  | clearMigrationFence fence => gateSection k (k.gate.clearMigrationFence fence (some x.noActiveEpoch))
  | begin kind allowQuarantine =>
    match k.gate.start kind x.operationId allowQuarantine (owned k x) with
    | .ok (_, gate) => .ok ((), { k with gate })
    | .error e => .error (.gate e)
  | finish => .ok ((), { k with gate := k.gate.finish })
  | newProcess => .ok ((), { k with gate := .initial k.gate.subjectId false, lockHeld := false })

/-- The steps that closing a gate or leaving a scope consists of cannot raise. -/
def cannotRaise : KernelStep → Bool
  | release | invalidate | quarantine | beginDrain | leaveControl | finish | newProcess => true
  | _ => false

def exec (s : KernelStep) (x : KernelReading) (k : Kernel) : Except KernelError (s.Reply × Kernel) :=
  match x.raises with
  | some e => if s.cannotRaise then run k x s else .error e
  | none => run k x s

end KernelStep

def kernelStore : Store Kernel KernelReading KernelStep.Reply KernelError := ⟨KernelStep.exec⟩

abbrev KernelCall (α : Type) : Type := Call KernelStep.Reply KernelError α

namespace SubjectKernel
open KernelStep

def step (s : KernelStep) : KernelCall s.Reply := Call.command s

/-- `try: body finally: close`. -/
def ensuring (body : KernelCall Unit) (close : KernelCall Unit) : KernelCall Unit :=
  body.andThen (fun r => close.andThen (fun _ => .done r))

/-- The branch of `recover_after_integrity` on the current state. -/
def recoverFrom (current : LifecycleState) : KernelCall Unit :=
  if current = .booting then pure ()
  else if current = .stopped then step (.transition .booting)
  else step .recoverForRestart

def recoverAfterIntegrity : KernelCall Unit := do
  let _ ← step .requireOwnership
  let _ ← step .work
  let current : LifecycleState ← step .current
  let _ ← recoverFrom current
  step .work

def boot : KernelCall Unit := do
  let _ ← step .acquireOwnership
  Call.onRaise (do
    let _ ← step .work
    recoverAfterIntegrity) (step .release)

def orient : KernelCall Unit := do
  let _ ← step .requireOwnership
  let _ ← step (.transition .orienting)
  step .work

/-- `activate` and `resume`, which differ in the reason and the actor they record. -/
def activate : KernelCall Unit := do
  let _ ← step .requireOwnership
  let _ ← step (.transition .active)
  let _ ← step .work
  step (.reopen true)

def resume : KernelCall Unit := activate

/-- What a failed `pause` does: the gate of a subject that is still active is opened again. -/
def reopenActive : KernelCall Unit := do
  let current : LifecycleState ← step .current
  if current = .active then step (.reopen false) else pure ()

def pauseFrom (current : LifecycleState) : KernelCall Unit :=
  if current = .paused then pure ()
  else Call.onRaise (do
    let _ ← step (.transition .paused)
    step .work) reopenActive

def pause : KernelCall Unit := do
  let _ ← step .requireOwnership
  let _ ← step .invalidate
  let current : LifecycleState ← step .current
  pauseFrom current

/-- `LifecycleManager.safe_pause`. -/
def safePauseFrom (current : LifecycleState) : KernelCall Unit :=
  if current = .paused then pure ()
  else if current ≠ .active then Call.raise .invalidTransition
  else (step (.transition .paused)).andThen (fun
    | .ok _ => pure ()
    | .error e => if e = .integrityError then step .pauseWithoutEvent else Call.raise e)

def safePause : KernelCall Unit := do
  let _ ← step .requireOwnership
  let _ ← step .quarantine
  let current : LifecycleState ← step .current
  let _ ← safePauseFrom current
  step .work

def close : KernelCall Unit := do
  let _ ← step .beginDrain
  step .release

def stop : KernelCall Unit := do
  let _ ← step .requireOwnership
  let _ ← step .beginDrain
  ensuring (do
    let _ ← step (.transition .stopped)
    step .work) close

end SubjectKernel

namespace CutoverCalls
open KernelStep SubjectKernel

/-- `with admission.migration_control_scope(): body`. -/
def controlled (body : KernelCall Unit) : KernelCall Unit := do
  let _ ← step .enterControl
  ensuring body (step .leaveControl)

/-- `CutoverCoordinator.run` as the gate sees it: checks, the fence, the reservation and what follows it. -/
def run : KernelCall Unit := do
  let _ ← step .work
  controlled (do
    let fence ← step .fenceForMigration
    let _ ← Call.onRaise (step .work) (step (.clearMigrationFence fence))
    step .work)

def commit : KernelCall Unit := do
  let _ ← step .work
  controlled (do
    let _ ← step .work
    let _ ← step .fenceForMigration
    step .work)

def clearIfFenced : Option Int → KernelCall Unit
  | some fence => step (.clearMigrationFence fence)
  | none => pure ()

def rollback : KernelCall Unit :=
  controlled (do
    let _ ← step .work
    let fence ← step .fenceEpoch
    clearIfFenced fence)

end CutoverCalls

/-- The calls that take turns. -/
inductive ControlCall
  | boot | orient | activate | pause | safePause | resume | stop | close | run | commit | rollback
  deriving DecidableEq

def ControlCall.call : ControlCall → KernelCall Unit
  | boot => SubjectKernel.boot
  | orient => SubjectKernel.orient
  | activate => SubjectKernel.activate
  | pause => SubjectKernel.pause
  | safePause => SubjectKernel.safePause
  | resume => SubjectKernel.resume
  | stop => SubjectKernel.stop
  | close => SubjectKernel.close
  | run => CutoverCalls.run
  | commit => CutoverCalls.commit
  | rollback => CutoverCalls.rollback

/-- Control calls one at a time, and operations of other threads at any moment; a crash is followed by a new
process. -/
inductive KernelEntry
  | control (call : ControlCall)
  | begin (kind : String) (allowQuarantine : Bool)
  | finish
  | newProcess
  deriving DecidableEq

def KernelEntry.call : KernelEntry → KernelCall Unit
  | control c => Call.exclusively .other c.call
  | begin kind allowQuarantine => SubjectKernel.step (.begin kind allowQuarantine)
  | finish => SubjectKernel.step .finish
  | newProcess => SubjectKernel.step .newProcess

/-- A process starts with a closed gate, whatever state the last one left. -/
def kernelMachine : Machine (Store.Running Kernel KernelReading KernelStep.Reply KernelError)
    (Store.Move KernelEntry KernelReading) :=
  kernelStore.machine (fun k => ∃ subjectId lifecycle version, k = ⟨.initial subjectId false, lifecycle, version,
    false⟩)
    KernelEntry.call

end Noyra.Core
