import Noyra.Lib.Json
import Noyra.Lib.Machine
import Noyra.Lib.Outcome
import Noyra.Lib.Text

/-!
# The event store

`EventStore`: events are appended in one transaction together with a link of the hash chain of their
subject. The tables are those of SQLite, where a `TEXT` column may also hold a blob and an `INTEGER`
column any value, so that `verifyChain` can be asked about a database that someone else wrote.
-/

namespace Noyra.Core
open Noyra.Lib

inductive EventError
  | valueError (message : String)
  | permissionError (message : String)
  | eventConflictError (message : String)
  | integrityError (message : String)
  | notFoundError (message : String)
  | sqliteIntegrityError (message : String)
  | typeError (message : String)
  deriving DecidableEq

/-- What a `TEXT` column holds. -/
inductive TextCell
  | null
  | text (s : String)
  | blob (bytes : List UInt8)
  deriving DecidableEq

/-- What an `INTEGER NOT NULL` column with a positive check holds; a real is `none` when it is infinite. -/
inductive IntegerCell
  | integer (n : Int)
  | real (value : Option Rat)
  | text (s : String)
  | blob (bytes : List UInt8)
  deriving DecidableEq

namespace IntegerCell

/-- SQLite's order: numbers, then texts, then blobs. -/
def le : IntegerCell → IntegerCell → Bool
  | integer m, integer n => m ≤ n
  | integer m, real (some q) => (m : Rat) ≤ q
  | real (some q), integer n => q ≤ (n : Rat)
  | real (some q), real (some r) => q ≤ r
  | integer _, real none => true
  | real none, integer _ => false
  | real none, real (some _) => false
  | real _, real none => true
  | integer _, _ => true
  | real _, _ => true
  | text s, text t => decide (s < t) || s == t
  | text _, blob _ => true
  | blob b, blob c => decide (b < c) || b == c
  | _, _ => false

/-- Equal to an integer in SQLite. -/
def isInteger (n : Int) : IntegerCell → Bool
  | integer m => m == n
  | real (some q) => q == (n : Rat)
  | _ => false

end IntegerCell

structure EventRow where
  eventId : TextCell
  subjectId : TextCell
  eventType : TextCell
  source : TextCell
  occurredAt : TextCell
  observedAt : TextCell
  payloadJson : TextCell
  payloadHash : TextCell
  privacyLevel : TextCell
  causalParentIdsJson : TextCell
  processingStatus : TextCell
  payloadArchiveKey : TextCell
  deriving DecidableEq

/-- `event_chain_roots`. -/
structure ChainRoot where
  eventId : TextCell
  subjectId : TextCell
  sequenceNumber : IntegerCell
  previousRootHash : TextCell
  rootHash : TextCell
  deriving DecidableEq

/-- A primary key of SQLite: values repeat only where they are null. -/
def UniqueKey {ρ : Type} (key : ρ → TextCell) (rows : List ρ) : Prop :=
  rows.Pairwise (fun a b => key a = key b → key a = .null)

/-- `events` and `event_chain_roots` with their primary keys, in `rowid` order. -/
structure EventTables where
  events : List EventRow
  roots : List ChainRoot
  event_key : UniqueKey EventRow.eventId events
  root_key : UniqueKey ChainRoot.eventId roots

/-- The columns of an event that `_chain_hash` hashes, as JSON values. -/
structure EventFields where
  subjectId : Option String
  eventId : Option String
  eventType : Option String
  source : Option String
  occurredAt : Option String
  observedAt : Option String
  payloadHash : Option String
  privacyLevel : Option String
  causalParentIdsJson : Option String
  deriving DecidableEq

/-- The dictionary that `_chain_hash` hashes. -/
structure ChainFields where
  sequenceNumber : Nat
  previousRootHash : Option String
  event : EventFields
  deriving DecidableEq

/-- `content_hash` of the two kinds of values it is used for, a payload being given by its canonical JSON
text, and the parts of Python's library that read text. -/
structure EventConfig where
  contentHash : ChainFields → String
  payloadHash : String → String
  /-- `_normalize_timestamp`. -/
  normalizeTimestamp : String → Except EventError String
  /-- `int(value.strip(), 10)`. -/
  intText : String → Option Int
  /-- `str` of a `bytes` value. -/
  bytesText : List UInt8 → String
  /-- `strict_json_loads` where it gives a list of texts. -/
  loadsTexts : String → Option (List String)

namespace TextCell

/-- The JSON value of a column; a blob has none. -/
def json : TextCell → Except EventError (Option String)
  | null => .ok none
  | text s => .ok (some s)
  | blob _ => .error (.typeError "Object of type bytes is not JSON serializable")

/-- `str(value)`. -/
def str (cfg : EventConfig) : TextCell → String
  | null => "None"
  | text s => s
  | blob b => cfg.bytesText b

/-- A parameter that may be `None`. -/
def ofOption : Option String → TextCell
  | none => null
  | some s => text s

end TextCell

/-- `canonical_json` of a list of texts. -/
def canonicalJson (texts : List String) : String := String.ofList (Json.array texts)

def EventRow.fields (event : EventRow) : Except EventError EventFields := do
  let subjectId ← event.subjectId.json
  let eventId ← event.eventId.json
  let eventType ← event.eventType.json
  let source ← event.source.json
  let occurredAt ← event.occurredAt.json
  let observedAt ← event.observedAt.json
  let payloadHash ← event.payloadHash.json
  let privacyLevel ← event.privacyLevel.json
  let causalParentIdsJson ← event.causalParentIdsJson.json
  .ok { subjectId, eventId, eventType, source, occurredAt, observedAt, payloadHash, privacyLevel, causalParentIdsJson }

/-- `_chain_hash`. -/
def chainHash (cfg : EventConfig) (event : EventRow) (sequence : Nat) (previous : Option String) :
    Except EventError String := do
  let fields ← event.fields
  .ok (cfg.contentHash ⟨sequence, previous, fields⟩)

/-- `strict_int`. -/
def strictInt (cfg : EventConfig) : IntegerCell → Option Int
  | .integer n => some n
  | .real (some q) => if q.den = 1 then some q.num else none
  | .real none => none
  | .text s => cfg.intText s
  | .blob _ => none

namespace EventTables

variable (cfg : EventConfig) (db : EventTables)

def eventsOf (subjectId : String) : List EventRow := db.events.filter (fun e => e.subjectId = .text subjectId)

def rootsOf (subjectId : String) : List ChainRoot := db.roots.filter (fun r => r.subjectId = .text subjectId)

/-- `SELECT * FROM events WHERE event_id = ?`. -/
def event? (eventId : String) : Option EventRow := db.events.find? (fun e => e.eventId = .text eventId)

/-- The chain of a subject, `ORDER BY sequence_number`. -/
def sortedRoots (subjectId : String) : List ChainRoot :=
  (db.rootsOf subjectId).mergeSort (fun a b => a.sequenceNumber.le b.sequenceNumber)

/-- The event that a link is joined with. -/
def joined (r : ChainRoot) : List EventRow :=
  db.events.filter (fun e => e.eventId = r.eventId ∧ e.eventId ≠ .null ∧ e.subjectId = r.subjectId)

/-- The rows that `verify_chain` reads. -/
def chainRows (subjectId : String) : List (ChainRoot × EventRow) :=
  (db.sortedRoots subjectId).flatMap (fun r => (db.joined r).map (fun e => (r, e)))

def insertEvent (e : EventRow) : Except EventError EventTables :=
  if h : ∀ r ∈ db.events, r.eventId = e.eventId → r.eventId = .null then
    .ok { db with
      events := db.events ++ [e]
      event_key := List.pairwise_append.mpr ⟨db.event_key, List.pairwise_singleton _ _, by simpa using h⟩ }
  else .error (.sqliteIntegrityError "UNIQUE constraint failed: events.event_id")

def insertRoot (r : ChainRoot) (sequence : Nat) : Except EventError EventTables := do
  raiseIf (db.roots.any (fun q => q.subjectId = r.subjectId && q.sequenceNumber.isInteger sequence))
    (.sqliteIntegrityError "UNIQUE constraint failed: event_chain_roots.subject_id, event_chain_roots.sequence_number")
  if h : ∀ q ∈ db.roots, q.eventId = r.eventId → q.eventId = .null then
    .ok { db with
      roots := db.roots ++ [r]
      root_key := List.pairwise_append.mpr ⟨db.root_key, List.pairwise_singleton _ _, by simpa using h⟩ }
  else .error (.sqliteIntegrityError "UNIQUE constraint failed: event_chain_roots.event_id")

/-- The link of an event, inserted as number `sequence` after the link `previous`. -/
def insertLink (subjectId : String) (event : EventRow) (sequence : Nat) (previous : Option String) :
    Except EventError (String × EventTables) := do
  let root ← chainHash cfg event sequence previous
  let db' ← db.insertRoot
    ⟨event.eventId, .text subjectId, .integer sequence, .ofOption previous, .text root⟩ sequence
  .ok (root, db')

/-- The links of the events of a subject that has no chain yet. -/
def backfill (subjectId : String) : Nat → Option String → List EventRow → EventTables → Except EventError EventTables
  | _, _, [], db => .ok db
  | sequence, previous, event :: events, db => do
    let (root, db') ← db.insertLink cfg subjectId event sequence previous
    backfill subjectId (sequence + 1) (some root) events db'

/-- `_append_chain_connection`. -/
def appendChain (subjectId eventId : String) : Except EventError EventTables := do
  let eventCount := (db.eventsOf subjectId).length
  let chainCount := (db.rootsOf subjectId).length
  if chainCount = 0 ∧ eventCount > 1 then
    backfill cfg subjectId 1 none (db.eventsOf subjectId) db
  else do
    raiseIf (chainCount + 1 ≠ eventCount) (.integrityError "event chain is incomplete before append")
    let previous := (db.sortedRoots subjectId).getLast?.map (fun r => r.rootHash.str cfg)
    let event ← orRaise (db.event? eventId) (.typeError "'NoneType' object is not subscriptable")
    let (_, db') ← db.insertLink cfg subjectId event eventCount previous
    .ok db'

end EventTables

structure AppendInput where
  subjectId : String
  eventType : String
  source : String
  payload : String
  privacyLevel : String
  causalParentIds : List String
  occurredAt : Option String
  eventId : Option String
  deriving DecidableEq

/-- What the rest of the system answers during one call: the fresh id, the clock, the private sources that were
withdrawn, whether the subject is registered, the training store and the payload archive. -/
structure AppendReading where
  newId : String
  now : String
  observedAt : String
  withdrawn : String → Bool
  knownSubject : Bool
  training : Option EventError
  archived : TextCell → TextCell → Except EventError String

structure EventRecord where
  row : EventRow
  payload : String
  causalParentIds : List String

section Append

variable (cfg : EventConfig) (x : AppendReading)

/-- `TrainingStore.record_event` up to its own tables. -/
def recordEvent (db : EventTables) (subjectId eventId eventType privacyLevel sourceHash : String) :
    Except EventError Unit := do
  let event ← orRaise (db.event? eventId) (.notFoundError s!"event not found: {eventId}")
  raiseIf (event.subjectId.str cfg ≠ subjectId ∨ event.eventType.str cfg ≠ eventType ∨
      event.privacyLevel.str cfg ≠ privacyLevel ∨ event.payloadHash.str cfg ≠ sourceHash)
    (.integrityError "training provenance event subject or content mismatch")
  match x.training with
  | some e => .error e
  | none => .ok ()

/-- `payload_from_row`. -/
def payloadFromRow (row : EventRow) : Except EventError String :=
  match row.payloadArchiveKey with
  | .null =>
    match row.payloadJson with
    | .text s => .ok s
    | _ => .error (.integrityError s!"event payload JSON is invalid: {row.eventId.str cfg}")
  | key => x.archived key row.eventId

def parentsFromRow (row : EventRow) : Except EventError (List String) :=
  match row.causalParentIdsJson with
  | .text s =>
    orRaise (cfg.loadsTexts s) (.integrityError s!"event causal parents are invalid: {row.eventId.str cfg}")
  | _ => .error (.integrityError s!"event causal parents are invalid: {row.eventId.str cfg}")

/-- `_from_row`. -/
def fromRow (row : EventRow) : Except EventError EventRecord := do
  let payload ← payloadFromRow cfg x row
  let parents ← parentsFromRow cfg row
  raiseIf (.text (cfg.payloadHash payload) ≠ row.payloadHash)
    (.integrityError s!"event payload hash mismatch: {row.eventId.str cfg}")
  raiseIf (row.processingStatus ∉ [.text "recorded", .text "processed", .text "failed"])
    (.integrityError s!"event processing status is invalid: {row.eventId.str cfg}")
  .ok ⟨row, payload, parents⟩

/-- The parents of a new event are events of its subject, and not after it when the clock dated it. -/
def checkParents (db : EventTables) (subjectId occurredAt : String) (runtimeTimestamp : Bool) :
    List String → Except EventError Unit
  | [] => .ok ()
  | parentId :: rest => do
    let parent ← orRaise (db.event? parentId) (.valueError s!"event causal parent is unavailable: {parentId}")
    raiseIf (parent.subjectId ≠ .text subjectId)
      (.permissionError "event causal parent belongs to another subject")
    raiseIf (runtimeTimestamp = true ∧ occurredAt < parent.occurredAt.str cfg)
      (.valueError "event causal parent occurred_at cannot be after the child event")
    checkParents db subjectId occurredAt runtimeTimestamp rest

/-- The id that the event gets: the given one unless it is missing or empty. -/
def AppendInput.id (i : AppendInput) : String :=
  match i.eventId with
  | some id => if id = "" then x.newId else id
  | none => x.newId

def AppendInput.time (i : AppendInput) : String :=
  match i.occurredAt with
  | some t => if t = "" then x.now else t
  | none => x.now

/-- The row of a new event. -/
def newEvent (i : AppendInput) (occurredAt : String) : EventRow where
  eventId := .text (i.id x)
  subjectId := .text i.subjectId
  eventType := .text i.eventType
  source := .text i.source
  occurredAt := .text occurredAt
  observedAt := .text x.observedAt
  payloadJson := .text i.payload
  payloadHash := .text (cfg.payloadHash i.payload)
  privacyLevel := .text i.privacyLevel
  causalParentIdsJson := .text (canonicalJson i.causalParentIds)
  processingStatus := .text "recorded"
  payloadArchiveKey := .null

/-- The event id is taken: the call is a replay of the same content or a conflict. -/
def replayEvent (db : EventTables) (i : AppendInput) (existing : EventRow) : Except EventError EventRecord := do
  raiseIf (existing.subjectId ≠ .text i.subjectId ∨ existing.eventType ≠ .text i.eventType ∨
      existing.source ≠ .text i.source ∨ existing.payloadHash ≠ .text (cfg.payloadHash i.payload) ∨
      existing.privacyLevel ≠ .text i.privacyLevel ∨
      existing.causalParentIdsJson ≠ .text (canonicalJson i.causalParentIds))
    (.eventConflictError s!"event ID already exists with different content: {i.id x}")
  recordEvent cfg x db i.subjectId (i.id x) i.eventType i.privacyLevel (cfg.payloadHash i.payload)
  fromRow cfg x existing

def insertNewEvent (db : EventTables) (i : AppendInput) (occurredAt : String) :
    Except EventError (EventRecord × EventTables) := do
  checkParents cfg db i.subjectId occurredAt i.occurredAt.isNone i.causalParentIds
  raiseIf (x.knownSubject = false) (.sqliteIntegrityError "FOREIGN KEY constraint failed")
  let db' ← db.insertEvent (newEvent cfg x i occurredAt)
  recordEvent cfg x db' i.subjectId (i.id x) i.eventType i.privacyLevel (cfg.payloadHash i.payload)
  let db'' ← db'.appendChain cfg i.subjectId (i.id x)
  .ok (⟨newEvent cfg x i occurredAt, i.payload, i.causalParentIds⟩, db'')

/-- `append`. -/
def append (db : EventTables) (i : AppendInput) : Except EventError (EventRecord × EventTables) := do
  raiseIf (strip i.eventType = "" ∨ strip i.source = "") (.valueError "event_type and source are required")
  raiseIf (strip i.privacyLevel = "") (.valueError "privacy_level is required")
  let occurredAt ← cfg.normalizeTimestamp (i.time x)
  raiseIf (¬i.causalParentIds.Nodup ∨ i.id x ∈ i.causalParentIds)
    (.valueError "event causal parents must be distinct prior events")
  raiseIf (i.causalParentIds.any x.withdrawn) (.permissionError "private event source has been withdrawn")
  match db.event? (i.id x) with
  | some existing => do
    let record ← replayEvent cfg x db i existing
    .ok (record, db)
  | none => insertNewEvent cfg x db i occurredAt

end Append

structure ChainReport where
  eventCount : Nat
  rootHash : Option String
  deriving DecidableEq

/-- The loop of `verify_chain`: `verified` rows are behind, the last of them with the hash `previous`. -/
def verifyRows (cfg : EventConfig) :
    Nat → Option String → List (ChainRoot × EventRow) → Except EventError (Nat × Option String)
  | verified, previous, [] => .ok (verified, previous)
  | verified, previous, (root, event) :: rows => do
    let sequence := verified + 1
    let expected ← chainHash cfg event sequence previous
    let persisted ← orRaise (strictInt cfg root.sequenceNumber)
      (.integrityError s!"event chain sequence is invalid at position {sequence}")
    raiseIf (persisted ≠ sequence ∨ root.eventId ≠ event.eventId ∨
        root.previousRootHash ≠ .ofOption previous ∨ root.rootHash ≠ .text expected)
      (.integrityError s!"event chain mismatch at sequence {sequence}")
    verifyRows cfg (verified + 1) (some expected) rows

/-- `verify_chain`. -/
def verifyChain (cfg : EventConfig) (db : EventTables) (subjectId : String) : Except EventError ChainReport := do
  let eventCount := (db.eventsOf subjectId).length
  raiseIf (eventCount ≠ (db.rootsOf subjectId).length) (.integrityError "event chain coverage mismatch")
  let (verified, previous) ← verifyRows cfg 0 none (db.chainRows subjectId)
  raiseIf (verified ≠ eventCount) (.integrityError "event chain coverage mismatch")
  .ok ⟨verified, previous⟩

def EventTables.empty : EventTables := ⟨[], [], List.Pairwise.nil, List.Pairwise.nil⟩

/-- One call of `append`; a call that raises rolls its transaction back. -/
def eventStep (cfg : EventConfig) (db : EventTables) (a : AppendInput × AppendReading) : EventTables :=
  match append cfg a.2 db a.1 with
  | .ok (_, db') => db'
  | .error _ => db

def eventMachine (cfg : EventConfig) : Machine EventTables (AppendInput × AppendReading) where
  init db := db = .empty
  step := eventStep cfg

end Noyra.Core
