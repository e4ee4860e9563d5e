import Noyra.Lib.Outcome
import Noyra.Lib.Table

/-!
# Archive replicas

`ArchiveReplicaLedger`: one row for each copy of an archived object, local or at a cloud provider, moved
along a table of allowed transitions. The rows are those of one subject; times are the milliseconds of
`utc_now`, and identifiers are the ones `new_id` has handed out.
-/

namespace Noyra.Archive
open Noyra.Lib

abbrev Bytes := List UInt8

inductive ArchiveError
  | integrityError (message : String)
  | keyUnavailableError (message : String)
  | payloadLimitError (message : String)
  | fileNotFoundError
  | osError (message : String)
  | valueError (message : String)
  | sqliteIntegrityError (message : String)
  | other (name : String)
  deriving DecidableEq

/-- `type(error).__name__`. -/
def ArchiveError.typeName : ArchiveError → String
  | .integrityError _ => "IntegrityError"
  | .keyUnavailableError _ => "ArchiveKeyUnavailableError"
  | .payloadLimitError _ => "PayloadLimitError"
  | .fileNotFoundError => "FileNotFoundError"
  | .osError _ => "OSError"
  | .valueError _ => "ValueError"
  | .sqliteIntegrityError _ => "IntegrityError"
  | .other name => name

inductive ReplicaState
  | pending | uploading | present | verified | gcPending | absent | restoring | unavailable | missing | corrupt
  deriving DecidableEq

def ReplicaState.text : ReplicaState → String
  | .pending => "pending"
  | .uploading => "uploading"
  | .present => "present"
  | .verified => "verified"
  | .gcPending => "gc_pending"
  | .absent => "absent"
  | .restoring => "restoring"
  | .unavailable => "unavailable"
  | .missing => "missing"
  | .corrupt => "corrupt"

/-- `_TRANSITIONS`. -/
def ReplicaState.transitions : ReplicaState → List ReplicaState
  | .pending => [.pending, .uploading, .unavailable, .missing, .corrupt]
  | .uploading => [.pending, .verified, .unavailable, .missing, .corrupt]
  | .present => [.present, .gcPending, .absent, .restoring, .corrupt]
  | .verified => [.verified, .unavailable, .missing, .corrupt]
  | .gcPending => [.present, .absent, .unavailable, .corrupt]
  | .absent => [.absent, .restoring, .unavailable, .missing, .corrupt]
  | .restoring => [.present, .absent, .unavailable, .missing, .corrupt]
  | .unavailable => [.pending, .uploading, .present, .verified, .absent, .restoring]
  | .missing => [.pending, .absent, .restoring, .verified, .corrupt]
  | .corrupt => [.pending, .absent, .restoring, .verified]

inductive ReplicaType
  | localDisk | cloud
  deriving DecidableEq

inductive ObjectKind
  | eventSegment | observationSegment
  deriving DecidableEq

/-- `archive_object_kind`, `none` where it raises. -/
def archiveObjectKind (objectKey : String) : Option ObjectKind :=
  if "events/".toList.isPrefixOf objectKey.toList then some .eventSegment
  else if "observations/".toList.isPrefixOf objectKey.toList then some .observationSegment
  else none

/-- `archive_object_replicas`. -/
structure ReplicaRow where
  replicaId : Nat
  objectKey : String
  objectKind : ObjectKind
  replicaType : ReplicaType
  providerId : String
  ciphertextHash : String
  byteSize : Nat
  state : ReplicaState
  currentRevision : Nat
  verifiedAt : Option Nat
  lastAccessedAt : Option Nat
  removedAt : Option Nat
  restoredAt : Option Nat
  lastErrorCode : Option String
  createdAt : Nat
  updatedAt : Nat
  deriving DecidableEq

abbrev ReplicaTable := Table ReplicaRow.replicaId

/-- The columns of the unique key. -/
structure ReplicaKey where
  objectKey : String
  replicaType : ReplicaType
  providerId : String
  deriving DecidableEq

def ReplicaRow.key (r : ReplicaRow) : ReplicaKey := ⟨r.objectKey, r.replicaType, r.providerId⟩

/-- The row of a copy. -/
def ReplicaTable.copy? (t : ReplicaTable) (k : ReplicaKey) : Option ReplicaRow :=
  t.rows.find? (fun r => r.key = k)

/-- `_state_values` written into the row. -/
def ReplicaRow.withState (r : ReplicaRow) (state : ReplicaState) (now : Nat) (errorCode : Option String) :
    ReplicaRow :=
  let seen := state = .verified ∨ state = .present
  let restored := state = .present ∧ r.state = .restoring
  { r with
    state := state
    verifiedAt := if seen then some (r.verifiedAt.getD now) else r.verifiedAt
    lastAccessedAt := if seen then some now else r.lastAccessedAt
    removedAt := if restored then none else if state = .absent then some now else r.removedAt
    restoredAt := if restored then some now else r.restoredAt
    lastErrorCode := errorCode }

/-- `_transition_connection`. -/
def transitionConnection (t : ReplicaTable) (row : ReplicaRow) (state : ReplicaState) (errorCode : Option String)
    (now : Nat) : Except ArchiveError (ReplicaRow × ReplicaTable) := do
  raiseIf (state ∉ row.state.transitions)
    (.integrityError ("invalid archive replica transition: " ++ row.state.text ++ "->" ++ state.text))
  let updated := { row.withState state now errorCode with
    currentRevision := row.currentRevision + 1, updatedAt := now }
  .ok (updated, t.replace updated)

/-- `transition`. -/
def transition (t : ReplicaTable) (replicaId : Nat) (state : ReplicaState) (errorCode : Option String) (now : Nat) :
    Except ArchiveError (ReplicaRow × ReplicaTable) := do
  let row ← orRaise (t.find? replicaId) (.integrityError ("archive replica is missing: " ++ toString replicaId))
  transitionConnection t row state errorCode now

/-- The arguments of `_ensure_connection`. -/
structure EnsureInput where
  key : ReplicaKey
  ciphertextHash : String
  byteSize : Nat
  state : ReplicaState

/-- A new row; the insert is refused for an empty object. -/
def insertReplica (t : ReplicaTable) (i : EnsureInput) (kind : ObjectKind) (replicaId now : Nat) :
    Except ArchiveError (ReplicaRow × ReplicaTable) := do
  let blank : ReplicaRow :=
    { replicaId := replicaId, objectKey := i.key.objectKey, objectKind := kind, replicaType := i.key.replicaType,
      providerId := i.key.providerId, ciphertextHash := i.ciphertextHash, byteSize := i.byteSize, state := i.state,
      currentRevision := 1, verifiedAt := none, lastAccessedAt := none, removedAt := none, restoredAt := none,
      lastErrorCode := none, createdAt := now, updatedAt := now }
  let row := blank.withState i.state now none
  raiseIf (i.byteSize = 0) (.sqliteIntegrityError "CHECK constraint failed: byte_size > 0")
  let t' ← orRaise (t.insert? row) (.sqliteIntegrityError "UNIQUE constraint failed: replica_id")
  .ok (row, t')

/-- `_ensure_connection`; a new row takes the identifier `replicaId`. -/
def ensureConnection (t : ReplicaTable) (i : EnsureInput) (replicaId now : Nat) :
    Except ArchiveError (ReplicaRow × ReplicaTable) := do
  let kind ← orRaise (archiveObjectKind i.key.objectKey) (.valueError "archive object kind is unsupported")
  match t.copy? i.key with
  | some row => do
    raiseIf (row.objectKind ≠ kind ∨ row.ciphertextHash ≠ i.ciphertextHash ∨ row.byteSize ≠ i.byteSize)
      (.integrityError ("archive replica immutable metadata mismatch: " ++ i.key.objectKey))
    if row.state ≠ i.state then transitionConnection t row i.state none now else .ok (row, t)
  | none => insertReplica t i kind replicaId now

end Noyra.Archive
