import Noyra.Lib.Machine
import Noyra.Lib.Outcome
import Noyra.Lib.Text

/-!
# The runtime admission gate

`RuntimeAdmissionGate`: admission flags and the epoch that fences leases. Each method is one
section under the gate's lock, except `fence_for_migration`, which raises the fence in a first
section and waits for the drain in a second. Threads interleave between sections; a scope keeps
the lock over its body.
-/

namespace Noyra.Core
open Noyra.Lib

inductive GateError
  | operationInvalidated (message : String)
  | runtimeOwnershipError (message : String)
  | valueError (message : String)
  deriving DecidableEq

structure OperationLease where
  subjectId : String
  epoch : Int
  operationId : String
  kind : String
  allowQuarantine : Bool
  deriving DecidableEq

structure Gate where
  subjectId : String
  epoch : Int
  active : Nat
  accepting : Bool
  quarantined : Bool
  closed : Bool
  migrationFenced : Bool
  migrationFenceEpoch : Option Int
  migrationControlActive : Bool
  deriving DecidableEq

/-- A configured check that does not pass; `none` is a check that is not configured. -/
def denies (check : Option Bool) : Prop := check = some false

instance (check : Option Bool) : Decidable (denies check) := inferInstanceAs (Decidable (check = some false))

namespace Gate

/-- `__init__`. -/
def initial (subjectId : String) (initiallyAccepting : Bool) : Gate :=
  ⟨subjectId, 0, 0, initiallyAccepting, false, false, false, none, false⟩

/-- `open`; `clear` is what the migration clear check answers. -/
def reopen (g : Gate) (clear : Option Bool) (epoch : Option Int) : Except GateError Gate := do
  raiseIf (g.migrationFenced ∧ denies clear) (.runtimeOwnershipError "migration epoch is still active")
  .ok { g with
    epoch := match epoch with
      | some e => max g.epoch e
      | none => g.epoch
    quarantined := false, accepting := true, migrationFenced := false, migrationFenceEpoch := none,
    closed := false }

def invalidate (g : Gate) (quarantined closed : Bool) : Gate :=
  { g with
    epoch := g.epoch + 1, accepting := false, quarantined := quarantined || g.quarantined,
    closed := closed || g.closed }

def quarantine (g : Gate) : Gate := g.invalidate true false

def beginDrain (g : Gate) : Gate := g.invalidate false true

def clearQuarantine (g : Gate) : Except GateError Gate := do
  raiseIf g.closed (.operationInvalidated "runtime is draining")
  .ok { g with quarantined := false, accepting := false }

/-- Entering `migration_control_scope`. -/
def enterControl (g : Gate) (owned : Option Bool) : Except GateError Gate := do
  raiseIf (denies owned) (.runtimeOwnershipError "runtime ownership is required for migration control")
  raiseIf g.closed (.operationInvalidated "runtime is draining")
  raiseIf g.quarantined (.operationInvalidated "runtime is in integrity quarantine")
  raiseIf g.migrationControlActive (.operationInvalidated "migration control is already active")
  .ok { g with migrationControlActive := true }

def leaveControl (g : Gate) : Gate := { g with migrationControlActive := false }

/-- The first section of `fence_for_migration`. -/
def raiseFence (g : Gate) : Except GateError Gate := do
  raiseIf (g.migrationControlActive = false)
    (.operationInvalidated "migration control scope is required to fence runtime")
  raiseIf g.closed (.operationInvalidated "runtime is draining")
  .ok { g with
    epoch := g.epoch + 1, accepting := false, migrationFenced := true,
    migrationFenceEpoch := some (g.epoch + 1) }

def clearMigrationFence (g : Gate) (fenceEpoch : Int) (clear : Option Bool) : Except GateError Gate := do
  raiseIf (g.migrationControlActive = false)
    (.operationInvalidated "migration control scope is required to clear fence")
  raiseIf (g.migrationFenceEpoch ≠ some fenceEpoch) (.operationInvalidated "migration fence epoch is stale")
  raiseIf g.closed (.operationInvalidated "runtime is draining")
  raiseIf (denies clear) (.runtimeOwnershipError "migration epoch is still active")
  .ok { g with migrationFenced := false, migrationFenceEpoch := none, accepting := !g.quarantined }

/-- `begin`. -/
def start (g : Gate) (kind operationId : String) (allowQuarantine : Bool) (owned : Option Bool) :
    Except GateError (OperationLease × Gate) := do
  raiseIf (strip kind = "") (.valueError "operation kind is required")
  raiseIf (denies owned) (.runtimeOwnershipError "runtime ownership is required for operation admission")
  raiseIf g.closed (.operationInvalidated "runtime is draining")
  raiseIf g.migrationFenced (.runtimeOwnershipError "runtime is fenced for migration")
  raiseIf (g.accepting = false ∧ allowQuarantine = false) (.operationInvalidated "runtime admission is closed")
  raiseIf (g.quarantined ∧ allowQuarantine = false)
    (.operationInvalidated "runtime is in integrity quarantine")
  .ok (⟨g.subjectId, g.epoch, operationId, kind, allowQuarantine⟩, { g with active := g.active + 1 })

def finish (g : Gate) : Gate := { g with active := g.active - 1 }

/-- `_assert_current_locked`, the entry of both `commit_scope` and `external_side_effect_scope`. -/
def assertCurrent (g : Gate) (lease : OperationLease) (owned : Option Bool) : Except GateError Unit := do
  raiseIf (lease.subjectId ≠ g.subjectId) (.operationInvalidated "operation subject mismatch")
  raiseIf (denies owned) (.operationInvalidated "runtime ownership was released")
  raiseIf (lease.epoch ≠ g.epoch) (.operationInvalidated "operation epoch is stale")
  raiseIf g.closed (.operationInvalidated "runtime is draining")
  raiseIf g.migrationFenced (.operationInvalidated "runtime is fenced for migration")
  raiseIf (g.accepting = false ∧ lease.allowQuarantine = false)
    (.operationInvalidated "runtime admission is closed")
  raiseIf (g.quarantined ∧ lease.allowQuarantine = false)
    (.operationInvalidated "runtime is in integrity quarantine")

end Gate

inductive ScopeKind
  | commit | externalSideEffect
  deriving DecidableEq

/-- A scope that a thread is in. -/
structure OpenScope where
  thread : Nat
  lease : OperationLease
  kind : ScopeKind
  deriving DecidableEq

/-- The gate with what its threads are doing: the leases ever begun and those not finished, the open scopes,
the calls of `fence_for_migration` that wait for the drain, and the fences that returned. -/
structure Threads where
  gate : Gate
  begun : List OperationLease
  unfinished : List OperationLease
  scopes : List OpenScope
  waiting : List (Nat × Int)
  returned : List Int

/-- Another thread holds the lock: it is in a scope and not waiting on the condition. -/
def Threads.blocked (s : Threads) (thread : Nat) : Bool :=
  s.scopes.any (fun scope => scope.thread != thread && !(s.waiting.any (fun w => w.1 == scope.thread)))

inductive GateOp
  | begin (kind operationId : String) (allowQuarantine : Bool) (owned : Option Bool)
  | finish (lease : OperationLease)
  | reopen (epoch : Option Int) (clear : Option Bool)
  | invalidate (quarantined closed : Bool)
  | quarantine
  | clearQuarantine
  | beginDrain
  | enterControl (owned : Option Bool)
  | leaveControl
  | fenceForMigration
  | drained
  | drainTimeout
  | clearMigrationFence (fenceEpoch : Int) (clear : Option Bool)
  | enterScope (kind : ScopeKind) (lease : OperationLease) (owned : Option Bool)
  | leaveScope
  deriving DecidableEq

/-- A thread and the section it executes. -/
structure GateAction where
  thread : Nat
  op : GateOp
  deriving DecidableEq

/-- A section that raises leaves the gate as it was. -/
def Threads.attempt (s : Threads) : Except GateError Gate → Threads
  | .ok gate => { s with gate }
  | .error _ => s

/-- The fence epoch that a waiting `fence_for_migration` returns now. -/
def Threads.fenceReturns (s : Threads) (thread : Nat) : Option Int :=
  if s.gate.active = 0 then (s.waiting.find? (fun w => w.1 == thread)).map Prod.snd else none

/-- One section, when the lock is free for the thread. Each lease is finished once. -/
def Threads.run (s : Threads) (thread : Nat) : GateOp → Threads
  | .begin kind operationId allowQuarantine owned =>
    match s.gate.start kind operationId allowQuarantine owned with
    | .ok (lease, gate) => { s with gate, begun := s.begun ++ [lease], unfinished := s.unfinished ++ [lease] }
    | .error _ => s
  | .finish lease =>
    if lease ∈ s.unfinished then { s with gate := s.gate.finish, unfinished := s.unfinished.erase lease } else s
  | .reopen epoch clear => s.attempt (s.gate.reopen clear epoch)
  | .invalidate quarantined closed => { s with gate := s.gate.invalidate quarantined closed }
  | .quarantine => { s with gate := s.gate.quarantine }
  | .clearQuarantine => s.attempt s.gate.clearQuarantine
  | .beginDrain => { s with gate := s.gate.beginDrain }
  | .enterControl owned => s.attempt (s.gate.enterControl owned)
  | .leaveControl => { s with gate := s.gate.leaveControl }
  | .fenceForMigration =>
    match s.gate.raiseFence with
    | .ok gate => { s with gate, waiting := (thread, gate.epoch) :: s.waiting }
    | .error _ => s
  | .drained =>
    match s.fenceReturns thread with
    | some epoch => { s with waiting := s.waiting.eraseP (fun w => w.1 == thread), returned := s.returned ++ [epoch] }
    | none => s
  | .drainTimeout => { s with waiting := s.waiting.eraseP (fun w => w.1 == thread) }
  | .clearMigrationFence fenceEpoch clear => s.attempt (s.gate.clearMigrationFence fenceEpoch clear)
  | .enterScope kind lease owned =>
    match s.gate.assertCurrent lease owned with
    | .ok _ => { s with scopes := ⟨thread, lease, kind⟩ :: s.scopes }
    | .error _ => s
  | .leaveScope => { s with scopes := s.scopes.eraseP (fun scope => scope.thread == thread) }

def Threads.step (s : Threads) (a : GateAction) : Threads := if s.blocked a.thread then s else s.run a.thread a.op

def gateMachine : Machine Threads GateAction where
  init s := ∃ subjectId accepting, s = ⟨.initial subjectId accepting, [], [], [], [], []⟩
  step := Threads.step

end Noyra.Core
