import Noyra.Lib.Document
import Noyra.Lib.Machine
import Noyra.Lib.Outcome
import Noyra.Lib.Table

/-!
# Compaction of snapshots

`SnapshotStore.compact` moves the older snapshots of a subject into archives, batch by batch: a batch is read, an
archive of its first state and of the deltas between its states is built outside of any transaction, and one
transaction stores the archive and deletes the rows if they are still what was read. Other writers and further
compactions run in between.
-/

namespace Noyra.Core.Snapshots
open Noyra.Lib Noyra.Lib.Document

inductive SnapshotError
  | integrityError (message : String)
  | valueError (message : String)
  | databaseError
  | interrupted

/-- `_CompactionConflict` is told apart from what leaves `compact`. -/
inductive PublishError
  | compactionConflict
  | error (e : SnapshotError)

/-- The JSON text, its SHA-256 in hexadecimal and zlib. -/
structure SnapshotConfig extends Codec where
  sha256 : Text → String
  sha256_injective : Function.Injective sha256
  byteLength : Text → Nat
  Blob : Type
  compress : Text → Blob
  decompress : Blob → Option Text
  decompress_compress : ∀ text, decompress (compress text) = some text
  hex : Blob → String
  blobLength : Blob → Nat

variable (cfg : SnapshotConfig)

/-- `content_hash`. -/
def contentHash (x : Document) : String := cfg.sha256 (cfg.dumps x)

/-- `state_snapshots`. -/
structure SnapshotRow where
  snapshotId : String
  subjectId : String
  stateVersion : Nat
  stateJson : cfg.Text
  stateHash : String
  reason : String
  createdAt : String

variable {cfg} in
instance : DecidableEq (SnapshotRow cfg) := fun r s =>
  decidable_of_iff (r.snapshotId = s.snapshotId ∧ r.subjectId = s.subjectId ∧ r.stateVersion = s.stateVersion ∧
      r.stateJson = s.stateJson ∧ r.stateHash = s.stateHash ∧ r.reason = s.reason ∧ r.createdAt = s.createdAt) (by
    cases r
    cases s
    simp only [SnapshotRow.mk.injEq])

/-- `snapshot_archives`. -/
structure ArchiveRow where
  archiveId : String
  subjectId : String
  firstVersion : Nat
  lastVersion : Nat
  snapshotCount : Nat
  compressedPayload : cfg.Blob
  payloadHash : String
  compressedHash : String

/-- `_delta`. -/
def delta (previous current : Entries) : Document :=
  .obj [("set", .obj (current.filter (fun e => (get? previous e.1).all (fun x => !x.eq e.2)))),
    ("delete", .arr ((((previous.map Prod.fst).filter (fun key => (get? current key).isNone)).insertionSort
      (· ≤ ·)).map .str))]

/-- The keys a delta deletes. -/
def deleteKeys : Entries → List Document → Except SnapshotError Entries
  | result, [] => .ok result
  | result, .str key :: keys => deleteKeys (pop result key) keys
  | _, _ :: _ => .error (.integrityError "snapshot archive delete key is invalid")

/-- `_apply_delta`. -/
def applyDelta (state : Entries) : Option Document → Except SnapshotError Entries
  | some (.obj raw) =>
    match get? raw "set", get? raw "delete" with
    | some (.obj more), some (.arr keys) => do
      let result ← deleteKeys state keys
      .ok (update result more)
    | _, _ => .error (.integrityError "snapshot archive delta is invalid")
  | _ => .error (.integrityError "snapshot archive delta is invalid")

/-- The order of the keyset. -/
def precedes (version : Nat) (id : String) (row : SnapshotRow cfg) : Prop :=
  version < row.stateVersion ∨ version = row.stateVersion ∧ id < row.snapshotId

instance (version : Nat) (id : String) (row : SnapshotRow cfg) : Decidable (precedes cfg version id row) :=
  inferInstanceAs (Decidable (_ ∨ _))

/-- As many rows as the budget of bytes admits. -/
def takeBytes (limit : Nat) : Nat → List (SnapshotRow cfg) → List (SnapshotRow cfg)
  | _, [] => []
  | used, row :: rows =>
    if limit < used + cfg.byteLength row.stateJson then []
    else row :: takeBytes limit (used + cfg.byteLength row.stateJson) rows

variable {cfg} in
/-- `_read_compaction_batch`. -/
def readCompactionBatch (snapshots : List (SnapshotRow cfg)) (subjectId : String) (keepRecent : Nat)
    (cursor : Option (Nat × String)) (rowLimit byteLimit : Nat) : List (SnapshotRow cfg) :=
  let stored := (snapshots.filter (fun r => r.subjectId = subjectId)).insertionSort
    (fun a b => a.stateVersion < b.stateVersion ∨ a.stateVersion = b.stateVersion ∧ a.snapshotId ≤ b.snapshotId)
  let recent := stored.reverse.take (keepRecent + 1)
  if recent.length ≤ keepRecent then []
  else
    -- the oldest row of the retained tail
    match recent[keepRecent - 1]? with
    | none => []
    | some cutoff =>
      takeBytes cfg byteLimit 0 ((stored.filter (fun r => precedes cfg r.stateVersion r.snapshotId cutoff ∧
        cursor.all (fun c => precedes cfg c.1 c.2 r))).take rowLimit)

variable {cfg} in
/-- The entry of a row. -/
def entryOf (row : SnapshotRow cfg) (change : String × Document) : Document :=
  .obj [("snapshot_id", .str row.snapshotId), ("state_version", .int row.stateVersion),
    ("state_hash", .str row.stateHash), ("reason", .str row.reason), ("created_at", .str row.createdAt), change]

/-- The loop of `_build_archive_payload`. -/
def buildEntries : Option Entries → List (SnapshotRow cfg) → Except SnapshotError (List Document)
  | _, [] => .ok []
  | previous, row :: rows =>
    match cfg.loads row.stateJson with
    | none => .error (.valueError "snapshot state JSON is invalid")
    | some (.obj state) => do
      raiseIf (contentHash cfg (.obj state) ≠ row.stateHash)
        (.integrityError ("snapshot state hash mismatch: " ++ row.snapshotId))
      let change := match previous with
        | none => ("base_state", .obj state)
        | some previous => ("delta", delta previous state)
      let entries ← buildEntries (some state) rows
      .ok (entryOf row change :: entries)
    | some _ => .error (.integrityError ("snapshot state is not an object: " ++ row.snapshotId))

/-- The payload of an archive with these entries. -/
def payloadOf (entries : List Document) : Document :=
  .obj [("format", .str "noyra-incremental-snapshots-v1"), ("entries", .arr entries)]

/-- `_build_archive_payload`. -/
def buildArchivePayload (rows : List (SnapshotRow cfg)) : Except SnapshotError (Document × Nat) := do
  let entries ← buildEntries cfg none rows
  .ok (payloadOf entries, (rows.map (fun r => cfg.byteLength r.stateJson)).sum)

/-- The archive that a batch is stored as. -/
def archiveOf (archiveId subjectId : String) (rows : List (SnapshotRow cfg)) (payload : Document) : ArchiveRow cfg :=
  let compressed := cfg.compress (cfg.dumps payload)
  { archiveId, subjectId
    firstVersion := (rows.head?.map SnapshotRow.stateVersion).getD 0
    lastVersion := (rows.getLast?.map SnapshotRow.stateVersion).getD 0
    snapshotCount := rows.length
    compressedPayload := compressed
    payloadHash := contentHash cfg payload
    compressedHash := contentHash cfg (.obj [("compressed_hex", .str (cfg.hex compressed))]) }

/-- A batch that was stored and whose rows were deleted. -/
structure Published where
  archiveId : String
  subjectId : String
  rows : List (SnapshotRow cfg)
  payload : Document

def Published.archive (p : Published cfg) : ArchiveRow cfg := archiveOf cfg p.archiveId p.subjectId p.rows p.payload

structure SnapshotDb where
  snapshots : Table (@SnapshotRow.snapshotId cfg)
  archives : Table (@ArchiveRow.archiveId cfg)

variable {cfg} in
/-- `_publish_compaction_batch`. -/
def publishCompactionBatch (db : SnapshotDb cfg) (archiveId subjectId : String) (rows : List (SnapshotRow cfg))
    (payload : Document) : Except PublishError (SnapshotDb cfg) := do
  raiseIf (∃ row ∈ rows, (db.snapshots.find? row.snapshotId).filter (fun r => r.subjectId = subjectId) ≠ some row)
    .compactionConflict
  let archives ← orRaise (db.archives.insert? (archiveOf cfg archiveId subjectId rows payload)) (.error .databaseError)
  let ids := rows.map SnapshotRow.snapshotId
  let covered := fun (r : SnapshotRow cfg) => decide (r.subjectId = subjectId ∧ r.snapshotId ∈ ids)
  raiseIf ((db.snapshots.rows.filter covered).length ≠ rows.length) .compactionConflict
  .ok { snapshots := db.snapshots.keepRows (fun r => !covered r), archives }

/-- The state of an entry, from the state of the entry before it. -/
def replayEntry (state : Option Entries) (entry : Entries) : Except SnapshotError Entries :=
  match state with
  | none =>
    match get? entry "base_state" with
    | some (.obj base) => .ok base
    | _ => .error (.integrityError "snapshot archive base state is invalid")
  | some state => applyDelta state (get? entry "delta")

/-- The states that the entries of an archive stand for. -/
def replayEntries : Option Entries → List Document → Except SnapshotError (List (Entries × Entries))
  | _, [] => .ok []
  | state, .obj entry :: rest => do
    let state ← replayEntry state entry
    let states ← replayEntries (some state) rest
    .ok ((entry, state) :: states)
  | _, _ :: _ => .error (.integrityError "snapshot archive entry is invalid")

def entryHash (entry : Entries) : Option String :=
  match get? entry "state_hash" with
  | some (.str hash) => some hash
  | _ => none

/-- The loop of `verify_archives` over the entries of one archive. -/
def verifyEntries : Option Entries → List Document → Except SnapshotError Unit
  | _, [] => .ok ()
  | state, .obj entry :: rest => do
    let state ← replayEntry state entry
    raiseIf (entryHash entry ≠ some (contentHash cfg (.obj state)))
      (.integrityError "snapshot archive state hash mismatch")
    verifyEntries (some state) rest
  | _, _ :: _ => .error (.integrityError "snapshot archive entry is invalid")

variable {cfg} in
/-- The payload of an archive and its entries. -/
def readArchive (row : ArchiveRow cfg) : Except SnapshotError (Document × List Document) := do
  let text ← orRaise (cfg.decompress row.compressedPayload) (.valueError "zlib")
  let payload ← orRaise (cfg.loads text) (.valueError "snapshot archive JSON is invalid")
  match payload with
  | .obj fields =>
    match get? fields "entries" with
    | some (.arr entries) => .ok (payload, entries)
    | _ => .error (.integrityError "snapshot archive payload mismatch")
  | _ => .error (.integrityError "snapshot archive payload mismatch")

variable {cfg} in
def verifyArchive (row : ArchiveRow cfg) : Except SnapshotError Unit := do
  raiseIf (contentHash cfg (.obj [("compressed_hex", .str (cfg.hex row.compressedPayload))]) ≠ row.compressedHash)
    (.integrityError "snapshot archive compressed hash mismatch")
  let (payload, entries) ← readArchive row
  raiseIf (contentHash cfg payload ≠ row.payloadHash ∨ entries.length ≠ row.snapshotCount)
    (.integrityError "snapshot archive payload mismatch")
  verifyEntries cfg none entries

variable {cfg} in
/-- `verify_archives`. -/
def verifyArchives (archives : List (ArchiveRow cfg)) (subjectId : String) : Except SnapshotError Nat := do
  let rows := archives.filter (fun a => a.subjectId = subjectId)
  rows.forM verifyArchive
  .ok rows.length

structure CompactInput where
  keepRecent : Int
  batchSize : Int
  maxBatchBytes : Int
  maxRows : Option Int
  maxBytes : Option Int
  rowBudget : Option Int
  byteBudget : Option Int
  maxRowsPerBatch : Option Int
  maxBytesPerBatch : Option Int

/-- The limits that `compact` makes of its arguments. -/
structure CompactLimits where
  keep : Nat
  batch : Nat
  batchBytes : Nat
  rows : Option Nat
  bytes : Option Nat

def boundedBy (low high x : Int) : Nat := (max low (min x high)).toNat

/-- A budget under either of its two names. -/
def budget (limit alias_ : Option Int) (message : String) : Except SnapshotError (Option Int) :=
  match alias_ with
  | none => .ok limit
  | some b => do
    raiseIf (limit.any (· ≠ b) = true) (.valueError message)
    .ok (some b)

def compactLimits (p : CompactInput) : Except SnapshotError CompactLimits := do
  let maxRows ← budget p.maxRows p.rowBudget "max_rows and row_budget disagree"
  let maxBytes ← budget p.maxBytes p.byteBudget "max_bytes and byte_budget disagree"
  .ok { keep := boundedBy 2 1000 p.keepRecent
        batch := boundedBy 1 10000 (p.maxRowsPerBatch.getD p.batchSize)
        batchBytes := boundedBy 1 128000000 (p.maxBytesPerBatch.getD p.maxBatchBytes)
        rows := maxRows.map Int.toNat
        bytes := maxBytes.map Int.toNat }

inductive Phase
  | looping
  /-- A batch was read and its archive built. -/
  | publishing (rows : List (SnapshotRow cfg)) (payload : Document) (rawBytes : Nat)
  | returned (archived compressedBytes : Nat)
  | raised (e : SnapshotError)

/-- A call of `compact`. -/
structure Call where
  subjectId : String
  limits : CompactLimits
  archived : Nat
  compressedBytes : Nat
  consumedBytes : Nat
  cursor : Option (Nat × String)
  conflicts : Nat
  phase : Phase cfg

/-- `compact` up to its loop. -/
def startCall (subjectId : String) (p : CompactInput) : Call cfg :=
  match compactLimits p with
  | .error e => ⟨subjectId, ⟨0, 0, 0, none, none⟩, 0, 0, 0, none, 0, .raised e⟩
  | .ok limits =>
    ⟨subjectId, limits, 0, 0, 0, none, 0,
      if limits.rows = some 0 ∨ limits.bytes = some 0 then .returned 0 0 else .looping⟩

variable {cfg}

/-- What remains of a total budget. -/
def remaining (batch : Nat) (total : Option Nat) (used : Nat) : Nat :=
  match total with
  | none => batch
  | some total => min batch (total - used)

/-- One iteration up to the publication. -/
def Call.readBatch (c : Call cfg) (snapshots : List (SnapshotRow cfg)) : Call cfg :=
  let rowLimit := remaining c.limits.batch c.limits.rows c.archived
  let byteLimit := remaining c.limits.batchBytes c.limits.bytes c.consumedBytes
  let done := { c with phase := .returned c.archived c.compressedBytes }
  if rowLimit = 0 ∨ byteLimit = 0 then done
  else
    let rows := readCompactionBatch snapshots c.subjectId c.limits.keep c.cursor rowLimit byteLimit
    if rows = [] then done
    else
      match buildArchivePayload cfg rows with
      | .error e => { c with phase := .raised e }
      | .ok (payload, rawBytes) =>
        if c.limits.bytes.any (· < c.consumedBytes + rawBytes) = true then done
        else { c with phase := .publishing rows payload rawBytes }

/-- The call after its batch was published. -/
def Call.advance (c : Call cfg) (rows : List (SnapshotRow cfg)) (payload : Document) (rawBytes : Nat) : Call cfg :=
  { c with
    archived := c.archived + rows.length
    consumedBytes := c.consumedBytes + rawBytes
    compressedBytes := c.compressedBytes + cfg.blobLength (cfg.compress (cfg.dumps payload))
    cursor := rows.getLast?.map (fun r => (r.stateVersion, r.snapshotId))
    conflicts := 0
    phase := .looping }

/-- The call after a conflict; the eighth in a row ends it. -/
def Call.conflict (c : Call cfg) : Call cfg :=
  { c with
    conflicts := c.conflicts + 1
    phase := if 8 ≤ c.conflicts + 1 then .returned c.archived c.compressedBytes else .looping }

variable (cfg)

structure SnapshotState where
  db : SnapshotDb cfg
  calls : List (Call cfg)
  /-- Every batch stored so far; the source keeps no such list. -/
  published : List (Published cfg)

inductive SnapshotAction
  /-- Other writers save, change and remove snapshots. -/
  | others (snapshots : Table (@SnapshotRow.snapshotId cfg))
  | compact (subjectId : String) (p : CompactInput)
  /-- The next part of a call; `archiveId` is the new identifier it draws. -/
  | advance (call : Nat) (archiveId : String)
  /-- The checkpoint of a call raises, or its transaction fails. -/
  | interrupt (call : Nat) (e : SnapshotError)

variable {cfg}

/-- The snapshots that were deleted for an archive. -/
def SnapshotState.deleted (s : SnapshotState cfg) : List (SnapshotRow cfg) := s.published.flatMap Published.rows

def advanceCall (s : SnapshotState cfg) (i : Nat) (c : Call cfg) (archiveId : String) : SnapshotState cfg :=
  match c.phase with
  | .looping => { s with calls := s.calls.set i (c.readBatch s.db.snapshots.rows) }
  | .publishing rows payload rawBytes =>
    match publishCompactionBatch s.db archiveId c.subjectId rows payload with
    | .ok db =>
      { db, calls := s.calls.set i (c.advance rows payload rawBytes),
        published := s.published ++ [⟨archiveId, c.subjectId, rows, payload⟩] }
    | .error .compactionConflict => { s with calls := s.calls.set i c.conflict }
    | .error (.error e) => { s with calls := s.calls.set i { c with phase := .raised e } }
  | _ => s

def snapshotStep (s : SnapshotState cfg) : SnapshotAction cfg → SnapshotState cfg
  | .others snapshots =>
    -- a new snapshot has an identifier of its own
    if ∀ r ∈ snapshots.rows, r.snapshotId ∉ s.deleted.map SnapshotRow.snapshotId then
      { s with db := { s.db with snapshots } } else s
  | .compact subjectId p => { s with calls := s.calls ++ [startCall cfg subjectId p] }
  | .advance i archiveId =>
    match s.calls[i]? with
    | none => s
    | some c => advanceCall s i c archiveId
  | .interrupt i e =>
    match s.calls[i]? with
    | none => s
    | some c =>
      match c.phase with
      | .looping | .publishing .. => { s with calls := s.calls.set i { c with phase := .raised e } }
      | _ => s

variable (cfg)

/-- Any stored snapshots, no archives and no calls. -/
def snapshotMachine : Machine (SnapshotState cfg) (SnapshotAction cfg) where
  init s := s.db.archives = .empty ∧ s.calls = [] ∧ s.published = []
  step := snapshotStep

end Noyra.Core.Snapshots
