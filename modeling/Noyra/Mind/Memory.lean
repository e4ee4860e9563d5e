import Noyra.Lib.Document
import Noyra.Lib.Outcome
import Noyra.Lib.Table
import Noyra.Lib.Text

/-!
# Memories

The rows of `memories` with the sources of their current revision, and the creation and revision of a memory inside a
transaction. Hashes are parameters; a row is read only when its hashes match its columns.
-/

namespace Noyra.Mind
open Noyra.Lib

inductive MemoryType
  | episodic
  | autobiographical
  | semantic
  | procedural
  | emotional
  | relationship
  | prediction
  | reflection
  deriving DecidableEq

inductive MemoryStatus
  | active
  | superseded
  | archived
  deriving DecidableEq

structure MemoryRow where
  memoryId : String
  subjectId : String
  memoryType : MemoryType
  content : String
  contentHash : String
  stateHash : String
  salience : Double
  confidence : Double
  privacyLevel : String
  status : MemoryStatus
  currentRevision : Nat
  createdAt : Nat
  updatedAt : Nat
  /-- `source_event_ids_json` of the current revision. -/
  sources : List String

inductive MindError
  | value (message : String)
  | notFound (message : String)
  | conflict (message : String)
  | causal (message : String)
  | integrity (message : String)
  | integration (message : String)
  | database
  deriving DecidableEq

/-- A number of a caller. -/
inductive Number
  | int (i : ℤ)
  | float (x : Double)
  deriving DecidableEq

namespace Number

def value : Number → ℚ
  | .int i => i
  | .float x => x.value

/-- `float(x)`. -/
def toFloat : Number → Double
  | .int i => ⟨i, i < 0, fun _ => by simp⟩
  | .float x => x

end Number

/-- What a `REAL` column keeps of a float: negative zero becomes zero. -/
def stored (x : Double) : Double := if x.value = 0 then ⟨0, false, Double.zero_sign⟩ else x

structure MemoryConfig where
  /-- `content_hash(content)`. -/
  contentHash : String → String
  /-- `_state_hash`. -/
  stateHash : String → Double → Double → MemoryStatus → String

/-- The tables that the memory store reads and writes. -/
structure MindTables where
  memories : Table MemoryRow.memoryId
  /-- The subject and the id of every event. -/
  events : List (String × String)
  /-- Events of private conversations that are deleted. -/
  withdrawn : List String

variable (cfg : MemoryConfig)

/-- `0 <= x <= 1`. -/
def isUnit (q : ℚ) : Bool := 0 ≤ q && q ≤ 1

/-- `_validate_fields`. -/
def validateFields (content : String) (salience confidence : ℚ) (privacyLevel reason : String) :
    Except MindError Unit := do
  raiseIf (strip content = "" ∨ strip privacyLevel = "" ∨ strip reason = "")
    (.value "memory content, privacy level and reason are required")
  raiseIf (200000 < content.length ∨ 10000 < reason.length ∨ 64 < privacyLevel.length)
    (.value "memory fields exceed their storage limits")
  raiseIf (isUnit salience = false ∨ isUnit confidence = false)
    (.value "memory salience and confidence must be between zero and one")

/-- `tuple(dict.fromkeys(ids))`. -/
def fromkeys (ids : List String) : List String := ids.foldl (fun acc x => if x ∈ acc then acc else acc ++ [x]) []

/-- `validate_event_ids`. -/
def MindTables.validateEventIds (t : MindTables) (subjectId : String) (eventIds : List String) :
    Except MindError (List String) := do
  let ids := fromkeys eventIds
  raiseIf (ids = []) (.causal "at least one source event is required")
  raiseIf (64 < ids.length) (.causal "a state revision can reference at most 64 events")
  raiseIf (ids.all (fun e => t.events.contains (subjectId, e)) = false)
    (.causal "source events are missing or belong to another subject")
  raiseIf (ids.any (fun e => t.withdrawn.contains e) = true) (.causal "private source events have been withdrawn")
  .ok ids

/-- `_from_row`. -/
def MemoryRow.check (row : MemoryRow) : Except MindError MemoryRow := do
  raiseIf (cfg.contentHash row.content ≠ row.contentHash)
    (.integrity ("memory content hash mismatch: " ++ row.memoryId))
  raiseIf (isUnit row.salience.value = false) (.integrity ("memory " ++ row.memoryId ++ " salience is invalid"))
  raiseIf (isUnit row.confidence.value = false) (.integrity ("memory " ++ row.memoryId ++ " confidence is invalid"))
  raiseIf (row.currentRevision < 1) (.integrity ("memory " ++ row.memoryId ++ " current_revision is invalid"))
  raiseIf (cfg.stateHash row.content row.salience row.confidence row.status ≠ row.stateHash)
    (.integrity ("memory state hash mismatch: " ++ row.memoryId))
  .ok row

namespace MindTables

variable (t : MindTables)

/-- `_get_row`. -/
def getRow (memoryId : String) : Except MindError MemoryRow :=
  orRaise (t.memories.find? memoryId) (.notFound ("memory not found: " ++ memoryId))

/-- `_load_connection`. -/
def load (memoryId : String) : Except MindError MemoryRow := do
  let row ← t.getRow memoryId
  row.check cfg

/-- What a caller gives for a new memory. -/
structure NewMemory where
  subjectId : String
  memoryType : MemoryType
  content : String
  salience : Double
  confidence : Number
  sourceEventIds : List String
  privacyLevel : String
  reason : String

/-- `_create_connection`, with the new id and the reading of the clock. -/
def create (m : NewMemory) (memoryId : String) (now : Nat) : Except MindError (MemoryRow × MindTables) := do
  validateFields m.content m.salience.value m.confidence.value m.privacyLevel m.reason
  let sources ← t.validateEventIds m.subjectId m.sourceEventIds
  let row : MemoryRow :=
    { memoryId := memoryId
      subjectId := m.subjectId
      memoryType := m.memoryType
      content := m.content
      contentHash := cfg.contentHash m.content
      stateHash := cfg.stateHash m.content m.salience m.confidence.toFloat .active
      salience := stored m.salience
      confidence := stored m.confidence.toFloat
      privacyLevel := m.privacyLevel
      status := .active
      currentRevision := 1
      createdAt := now
      updatedAt := now
      sources := sources }
  let memories ← orRaise (t.memories.insert? row) .database
  let record ← row.check cfg
  .ok (record, { t with memories := memories })

/-- What a caller gives for a revision. -/
structure Revision where
  content : String
  salience : Double
  confidence : Double
  status : MemoryStatus
  reason : String
  sourceEventIds : List String
  expectedRevision : Option Nat

/-- `_revise_connection`. -/
def revise (memoryId : String) (r : Revision) (now : Nat) : Except MindError (MemoryRow × MindTables) := do
  validateFields r.content r.salience.value r.confidence.value "private" r.reason
  let row ← t.getRow memoryId
  raiseIf (r.expectedRevision.any (fun n => n ≠ row.currentRevision) = true)
    (.conflict "memory revision changed before update")
  let sources ← t.validateEventIds row.subjectId r.sourceEventIds
  let row : MemoryRow :=
    { row with
      content := r.content
      contentHash := cfg.contentHash r.content
      stateHash := cfg.stateHash r.content r.salience r.confidence r.status
      salience := stored r.salience
      confidence := stored r.confidence
      status := r.status
      currentRevision := row.currentRevision + 1
      updatedAt := now
      sources := sources }
  let record ← row.check cfg
  .ok (record, { t with memories := t.memories.replace row })

end MindTables

end Noyra.Mind
