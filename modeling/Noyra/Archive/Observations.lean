import Mathlib.Data.List.Infix
import Mathlib.Data.List.Lex
import Mathlib.Data.List.Sort
import Noyra.Archive.Staging
import Noyra.Lib.Rely
import Noyra.Lib.Base64
import Noyra.Lib.JsonText

/-!
# Archived observations

`ObservationContentArchive`: the bodies of old observations are written to an encrypted segment, verified, and
blanked in the transaction that publishes the segment; `reconcile_staging` finishes or abandons what was interrupted,
and `load_content` reads a body back. Calls interleave at their transactions and file operations. Hashes, zlib and
the texts of floats are parameters; the keyring resolves every key, so a file is given by the bytes it decrypts to.
-/

namespace Noyra.Archive
open Noyra.Lib Noyra.Lib.JsonText

structure ObservationRow where
  observationId : String
  subjectId : String
  fetchedAt : String
  content : String
  contentHash : String
  contentArchiveKey : Option String
  contentArchivedAt : Option Nat
  /-- The content as it was stored (specification only). -/
  ingested : String
  deriving DecidableEq

/-- `length(CAST(content AS BLOB))`. -/
def ObservationRow.contentBytes (row : ObservationRow) : Nat := (utf8Encode row.content.toList).length

/-- A file of the local archive: it decrypts, or it does not. -/
inductive StoredObject
  | sealed (payload : Bytes) (hash : String)
  | broken (size : Nat) (hash : String)
  deriving DecidableEq

namespace StoredObject

/-- The header, the nonce and the tag take 37 bytes. -/
def size : StoredObject → Nat
  | sealed payload _ => payload.length + 37
  | broken size _ => size

def hash : StoredObject → String
  | sealed _ hash => hash
  | broken _ hash => hash

end StoredObject

structure ObservationConfig where
  floats : Floats
  sha256 : Bytes → String
  sha256_injective : Function.Injective sha256
  contentHash : String → String
  contentHash_injective : Function.Injective contentHash
  /-- `zlib.compress(…, level=9)`. -/
  compress : Bytes → Bytes
  /-- `decompress_bytes` and `_decompress_bounded`. -/
  decompress : Bytes → Nat → Except ArchiveError Bytes
  decompress_compress : ∀ b max, b.length ≤ max → decompress (compress b) max = .ok b
  keyId : String
  keyFingerprint : String

structure ObservationWorld where
  observations : Table ObservationRow.observationId
  staging : StagingTables
  files : String → Option StoredObject

def segmentFormat : String := "noyra-observation-content-segment-v1"

def maxStagedDecompressedBytes : Nat := 64000000

def maxSourceBytes : Nat := maxStagedDecompressedBytes - 2000000

/-- The limit of `ObservationStore` on a content. -/
def maxContentChars : Nat := 500000

/-- `IntegrityError`, and the error for source rows that changed. -/
inductive ObservationError
  | archive (error : ArchiveError)
  | sourceConflict
  deriving DecidableEq

def integrity (message : String) : ObservationError := .archive (.integrityError message)

/-- What the file system, the database and the lease may raise. -/
inductive Fault
  | os (message : String)
  | database (message : String)
  | other (name : String)

def Fault.error : Fault → ObservationError
  | .os message => .archive (.osError message)
  | .database message => .archive (.sqliteIntegrityError message)
  | .other name => .archive (.other name)

section
variable (cfg : ObservationConfig)

/-- An entry of a segment. -/
def observationEntry (row : ObservationRow) : Document :=
  .obj [("observation_id", .str row.observationId), ("content", .str row.content),
    ("content_hash", .str row.contentHash)]

def segmentBody (subjectId : String) (rows : List ObservationRow) : Document :=
  .obj [("format", .str segmentFormat), ("subject_id", .str subjectId),
    ("observations", .arr (rows.map observationEntry))]

/-- `canonical_json(body).encode("utf-8")`. -/
def encodeSegment (subjectId : String) (rows : List ObservationRow) : Bytes :=
  utf8Encode (canonicalJson cfg.floats (segmentBody subjectId rows))

def sourceItem (row : ObservationRow) : SourceItem := ⟨row.observationId, row.fetchedAt, row.contentHash⟩

def objectKeyOf (segmentId : Nat) : String :=
  "observations/observation-segment_" ++ toString segmentId ++ ".json.zlib.enc"

/-- The arguments of `prepare` for a selection. -/
def segmentInput (subjectId : String) (segmentId : Nat) (rows : List ObservationRow) : SegmentInput where
  subjectId := subjectId
  archiveKind := .observationContent
  segmentId := segmentId
  objectKey := objectKeyOf segmentId
  sourceState := rows.map sourceItem
  firstItemAt := ((rows.head?).map ObservationRow.fetchedAt).getD ""
  lastItemAt := ((rows.getLast?).map ObservationRow.fetchedAt).getD ""
  plaintextHash := cfg.sha256 (cfg.compress (encodeSegment cfg subjectId rows))
  archiveFormat := segmentFormat
  encryptionKeyId := cfg.keyId
  encryptionKeyFingerprint := cfg.keyFingerprint

/-- `_validate_staging_source_bounds`. -/
def validateSourceBounds (m : StagingManifest) : Except ObservationError Unit := do
  raiseIf (m.archiveFormat ≠ segmentFormat ∨ m.sourceState = [])
    (integrity "observation archive staged format is unsupported")
  raiseIf (¬ (m.sourceState.map SourceItem.itemId).Nodup)
    (integrity "observation archive staged source IDs are duplicated")
  raiseIf (¬ (m.sourceState.map SourceItem.time).Pairwise (fun a b => a ≤ b) ∨
    (m.sourceState.head?).map SourceItem.time ≠ some m.firstItemAt ∨
      (m.sourceState.getLast?).map SourceItem.time ≠ some m.lastItemAt)
        (integrity "observation archive staged time bounds mismatch")

/-- `json.loads` of bytes. -/
def loadsBytes (raw : Bytes) : Option Document := utf8Decode raw >>= loads cfg.floats

/-- The identifier and the hash of an entry. -/
def stagedEntry (item : Document) : Except ObservationError (String × String) :=
  match item with
  | .obj es =>
    match Document.get? es "observation_id", Document.get? es "content", Document.get? es "content_hash" with
    | some (.str observationId), some (.str content), some (.str expectedHash) => do
      raiseIf (es.length ≠ 3) (integrity "observation archive staged entry is invalid")
      raiseIf (cfg.contentHash content ≠ expectedHash) (integrity "observation archive staged content hash mismatch")
      .ok (observationId, expectedHash)
    | _, _, _ => .error (integrity "observation archive staged entry is invalid")
  | _ => .error (integrity "observation archive staged entry is invalid")

/-- The body of a staged payload. -/
def stagedBody (compressed : Bytes) : Except ObservationError Document :=
  match cfg.decompress compressed maxStagedDecompressedBytes with
  | .ok raw => orRaise (loadsBytes cfg raw) (integrity "observation archive staged payload is invalid")
  | .error (.payloadLimitError message) => .error (.archive (.payloadLimitError message))
  | .error (.integrityError message) => .error (integrity message)
  | .error _ => .error (integrity "observation archive staged payload is invalid")

/-- `_verify_staged_payload`. -/
def verifyStagedPayload (m : StagingManifest) (compressed : Bytes) : Except ObservationError Unit := do
  raiseIf (cfg.sha256 compressed ≠ m.plaintextHash) (integrity "observation archive staged plaintext hash mismatch")
  let body ← stagedBody cfg compressed
  match body with
  | .obj es => do
    raiseIf (m.archiveFormat ≠ segmentFormat ∨
      (Document.get? es "format").any (fun x => Document.same x (.str segmentFormat)) = false ∨
        (Document.get? es "subject_id").any (fun x => Document.same x (.str m.subjectId)) = false)
      (integrity "observation archive staged payload metadata mismatch")
    validateSourceBounds m
    match Document.get? es "observations" with
    | some (.arr entries) => do
      let actual ← entries.mapM (stagedEntry cfg)
      raiseIf (¬ (actual.map Prod.fst).Nodup) (integrity "observation archive staged entries are duplicated")
      raiseIf (¬ actual.Perm (m.sourceState.map (fun item => (item.itemId, item.contentHash))))
        (integrity "observation archive staged entries mismatch")
    | _ => .error (integrity "observation archive staged entries mismatch")
  | _ => .error (integrity "observation archive staged payload metadata mismatch")

end

namespace ObservationWorld

variable (w : ObservationWorld)

/-- `ORDER BY fetched_at, observation_id`. -/
def earlier (a b : ObservationRow) : Bool :=
  a.fetchedAt < b.fetchedAt || (a.fetchedAt = b.fetchedAt && a.observationId ≤ b.observationId)

def candidates (subjectId cutoff : String) (limit : Nat) : List ObservationRow :=
  ((w.observations.rows.filter (fun row => row.subjectId = subjectId && row.contentArchiveKey.isNone &&
    decide (row.fetchedAt < cutoff) &&
    row.contentBytes ≤ maxSourceBytes)).insertionSort (fun a b => earlier a b = true)).take limit

/-- The loop over the candidates, with the rows read so far and their bytes. -/
def boundedRead : List ObservationRow → List ObservationRow → Nat → List ObservationRow
  | [], rows, _ => rows
  | candidate :: rest, rows, sourceBytes =>
    if rows ≠ [] ∧ maxSourceBytes < sourceBytes + candidate.contentBytes then rows
    else if candidate.contentBytes ≤ maxSourceBytes - sourceBytes then
      boundedRead rest (rows ++ [candidate]) (sourceBytes + candidate.contentBytes)
    else boundedRead rest rows sourceBytes

/-- The rows of the next segment. -/
def selection (subjectId cutoff : String) (limit : Nat) : List ObservationRow :=
  boundedRead (w.candidates subjectId cutoff limit) [] 0

/-- `SELECT … status IN ('prepared','stored') ORDER BY updated_at, manifest_id LIMIT ?`. -/
def liveManifests (subjectId : String) (limit : Nat) : List StagingManifest :=
  ((w.staging.manifests.rows.filter (fun m => m.subjectId = subjectId && m.archiveKind = .observationContent &&
    decide m.Live)).insertionSort
    (fun a b => a.updatedAt < b.updatedAt ∨ (a.updatedAt = b.updatedAt ∧ a.manifestId ≤ b.manifestId))).take limit

def stored (objectKey : String) (maxStored : Option Nat) : Except ObservationError StoredObject := do
  let object ← orRaise (w.files objectKey) (.archive .fileNotFoundError)
  raiseIf (maxStored.any (fun n => n < object.size) = true)
    (.archive (.payloadLimitError "archive object exceeds the configured read limit"))
  .ok object

/-- `LocalArchiveProvider.get`. -/
def get (objectKey : String) (maxBytes : Option Nat) : Except ObservationError Bytes := do
  let object ← w.stored objectKey (maxBytes.map (fun n => n + 37))
  match object with
  | .sealed payload _ => .ok payload
  | .broken _ _ => .error (integrity "local archive authentication failed")

/-- `stored_metadata`. -/
def storedMetadata (objectKey : String) (maxBytes : Option Nat) : Except ObservationError (Nat × String) := do
  let object ← w.stored objectKey maxBytes
  .ok (object.size, object.hash)

end ObservationWorld

/-- A source item of a manifest against its row, in the finalizing transaction. -/
def checkSource (cfg : ObservationConfig) (observations : Table ObservationRow.observationId) (subjectId : String)
    (item : SourceItem) :
    Except ObservationError Unit :=
  match observations.find? item.itemId with
  | some row => do
    raiseIf (row.subjectId ≠ subjectId ∨ row.contentArchiveKey ≠ none) .sourceConflict
    raiseIf (row.fetchedAt ≠ item.time ∨ row.contentHash ≠ item.contentHash) .sourceConflict
    raiseIf (cfg.contentHash row.content ≠ row.contentHash)
      (integrity "observation archive source content hash mismatch")
  | none => .error .sourceConflict

def ObservationRow.blanked (row : ObservationRow) (objectKey : String) (now : Nat) : ObservationRow :=
  { row with content := "", contentArchiveKey := some objectKey, contentArchivedAt := some now }

/-- `UPDATE observations SET content = '' …`. -/
def blankSource (subjectId objectKey : String) (now : Nat) (observations : Table ObservationRow.observationId)
    (item : SourceItem) :
    Except ObservationError (Table ObservationRow.observationId) :=
  match observations.find? item.itemId with
  | some row => do
    raiseIf (row.subjectId ≠ subjectId ∨ row.contentArchiveKey ≠ none) .sourceConflict
    .ok (observations.replace (row.blanked objectKey now))
  | none => .error .sourceConflict

/-- The transaction of `_finalize_staged_manifest`. -/
def ObservationWorld.finalize (cfg : ObservationConfig) (w : ObservationWorld) (manifestId : Nat)
    (sourceState : List SourceItem) (subjectId : String)
    (now : Nat) : Except ObservationError ObservationWorld := do
  let current ← orRaise ((w.staging.manifests.find? manifestId).filter (fun m => m.status = .stored))
    (integrity "observation archive staging manifest changed")
  raiseIf (current.sourceState ≠ sourceState) (integrity "observation archive staging source state hash mismatch")
  sourceState.forM (checkSource cfg w.observations subjectId)
  let observations ← sourceState.foldlM (blankSource subjectId current.objectKey now) w.observations
  let staging ← (publish w.staging current now).mapError .archive
  .ok { w with observations := observations, staging := staging }

/-- Transactions and file operations of the archive; `ingest` and `replaceFile` are steps of others. -/
inductive ObservationCommand
  | recordRevision
  | liveManifests (subjectId : String) (limit : Nat)
  | select (subjectId cutoff : String) (limit : Nat)
  | prepare (input : SegmentInput)
  | assertLease
  | put (objectKey : String) (payload : Bytes)
  | get (objectKey : String) (maxBytes : Option Nat)
  | getManifest (manifestId : Nat)
  | storedMetadata (objectKey : String) (maxBytes : Option Nat)
  | markStored (manifestId byteSize : Nat) (storedHash : String)
  | markAbandoned (manifestId : Nat) (errorCode : String)
  | markRemoved (manifestId : Nat)
  | delete (objectKey : String)
  | finalize (manifestId : Nat) (sourceState : List SourceItem) (subjectId : String)
  | ingest (observationId subjectId fetchedAt content : String)
  | replaceFile (objectKey : String) (object : Option StoredObject)

abbrev ObservationCommand.Result : ObservationCommand → Type
  | .liveManifests _ _ => List StagingManifest
  | .select _ _ _ => List ObservationRow
  | .prepare _ => Nat
  | .put _ _ => String
  | .get _ _ => Bytes
  | .getManifest _ => Option StagingManifest
  | .storedMetadata _ _ => Nat × String
  | .markAbandoned _ _ => Bool
  | _ => Unit

/-- What a step reads: the clock, the next manifest id, the hash of the encrypted bytes, and a failure. -/
structure ObservationReading where
  now : Nat
  manifestId : Nat
  storedHash : String
  fault : Option Fault

section
variable (cfg : ObservationConfig)

/-- A step that does not fail. -/
def ObservationWorld.run (w : ObservationWorld) (x : ObservationReading) :
    (c : ObservationCommand) → Except ObservationError (c.Result × ObservationWorld)
  | .recordRevision => .ok ((), w)
  | .liveManifests subjectId limit => .ok (w.liveManifests subjectId limit, w)
  | .select subjectId cutoff limit => .ok (w.selection subjectId cutoff limit, w)
  | .prepare input => do
    let (manifestId, staging) ← (prepare w.staging input x.manifestId x.now).mapError .archive
    .ok (manifestId, { w with staging := staging })
  | .assertLease => .ok ((), w)
  | .put objectKey payload =>
    .ok (cfg.sha256 payload,
      { w with files := Function.update w.files objectKey (some (.sealed payload x.storedHash)) })
  | .get objectKey maxBytes => do
    let payload ← w.get objectKey maxBytes
    .ok (payload, w)
  | .getManifest manifestId => .ok (w.staging.manifests.find? manifestId, w)
  | .storedMetadata objectKey maxBytes => do
    let metadata ← w.storedMetadata objectKey maxBytes
    .ok (metadata, w)
  | .markStored manifestId byteSize storedHash => do
    let staging ← (markStored w.staging manifestId byteSize storedHash x.now).mapError .archive
    .ok ((), { w with staging := staging })
  | .markAbandoned manifestId errorCode =>
    .ok ((markAbandoned w.staging manifestId errorCode x.now).1,
      { w with staging := (markAbandoned w.staging manifestId errorCode x.now).2 })
  | .markRemoved manifestId => .ok ((), { w with staging := markRemoved w.staging manifestId x.now })
  | .delete objectKey => .ok ((), { w with files := Function.update w.files objectKey none })
  | .finalize manifestId sourceState subjectId => do
    let w ← w.finalize cfg manifestId sourceState subjectId x.now
    .ok ((), w)
  | .ingest observationId subjectId fetchedAt content => do
    raiseIf (maxContentChars < content.length) (.archive (.valueError "observation content exceeds the storage limit"))
    let observations ← orRaise (w.observations.insert? ⟨observationId, subjectId, fetchedAt, content,
      cfg.contentHash content, none, none, content⟩)
      (.archive (.sqliteIntegrityError "UNIQUE constraint failed: observations.observation_id"))
    .ok ((), { w with observations := observations })
  | .replaceFile objectKey object => .ok ((), { w with files := Function.update w.files objectKey object })

def observationStore : Store ObservationWorld ObservationReading ObservationCommand.Result ObservationError where
  exec c x w :=
    match x.fault with
    | some fault => .error fault.error
    | none => w.run cfg x c

abbrev ObservationCall (α : Type) : Type := Call ObservationCommand.Result ObservationError α

open Call

def transact (c : ObservationCommand) : ObservationCall c.Result := command c

/-- `with suppress(OSError, ValueError): provider.delete(object_key)`. -/
def deleteSuppressed (objectKey : String) : ObservationCall Unit :=
  (transact (.delete objectKey)).andThen (fun
    | .error (.archive (.osError _)) | .error (.archive (.valueError _)) => pure ()
    | r => done r)

/-- A manifest is abandoned and its object removed: whether it was live. -/
def abandonStaged (m : StagingManifest) (errorCode : String) : ObservationCall Bool := do
  let live ← transact (.markAbandoned m.manifestId errorCode)
  if live = true then do
    deleteSuppressed m.objectKey
    transact (.markRemoved m.manifestId)
    pure true
  else pure false

/-- `_finalize_staged_manifest`. -/
def finalizeStaged (manifestId : Nat) (subjectId : String) : ObservationCall Nat := do
  let found ← transact (.getManifest manifestId)
  let m ← check (orRaise (found.filter (fun m => m.subjectId = subjectId))
    (integrity "observation archive staging manifest is missing"))
  if m.status = .committed then pure m.sourceState.length
  else do
    check (raiseIf (m.status ≠ .stored) (integrity "observation archive staging manifest is not stored"))
    check (validateSourceBounds m)
    transact (.finalize manifestId m.sourceState subjectId)
    pure m.sourceState.length

/-- What `reconcile_staging` reads of a staged object. -/
def inspect (m : StagingManifest) : ObservationCall (Nat × String) := do
  let metadata ← transact (.storedMetadata m.objectKey (some (maxStagedDecompressedBytes + 1000000)))
  let compressed ← transact (.get m.objectKey (some (max 1 metadata.1)))
  check (verifyStagedPayload cfg m compressed)
  pure metadata

/-- `"hash" in str(error).lower()`. -/
def namesHash (message : String) : Bool := decide ("hash".toList <:+: message.toLower.toList)

/-- The error code for what went wrong with a staged object; other errors are raised. -/
def errorCode? : ObservationError → Option String
  | .archive .fileNotFoundError => some "staged_object_missing"
  | .archive (.payloadLimitError _) => some "staged_object_oversize"
  | .archive (.integrityError message) =>
    some (if namesHash message then "staged_object_hash_mismatch" else "staged_object_format_mismatch")
  | .archive (.keyUnavailableError message) =>
    some (if namesHash message then "staged_object_hash_mismatch" else "staged_object_format_mismatch")
  | .archive (.osError _) => some "staged_object_unreadable"
  | .archive (.valueError _) => some "staged_object_unreadable"
  | _ => none

def isIntegrity : ObservationError → Bool
  | .archive (.integrityError _) | .archive (.keyUnavailableError _) | .sourceConflict => true
  | _ => false

/-- The counts of `reconcile_staging`. -/
structure Reconciled where
  finalized : Nat
  abandoned : Nat

def abandonCounted (counts : Reconciled) (m : StagingManifest) (code : String) : ObservationCall Reconciled := do
  let live ← abandonStaged m code
  pure (if live = true then { counts with abandoned := counts.abandoned + 1 } else counts)

/-- A staged object that was verified is finalized. -/
def finishStaged (subjectId : String) (counts : Reconciled) (m : StagingManifest) (size : Nat) (hash : String) :
    ObservationCall Reconciled :=
  if hash ≠ (m.storedHash.filter (fun h => h ≠ "")).getD hash ∨
    size ≠ (m.storedByteSize.filter (fun n => n ≠ 0)).getD size then
    abandonCounted counts m "staged_object_hash_mismatch"
  else
    (finalizeStaged m.manifestId subjectId).andThen (fun
      | .ok _ => pure { counts with finalized := counts.finalized + 1 }
      | .error .sourceConflict => abandonCounted counts m "source_changed_during_replay"
      | .error e => if isIntegrity e = true then pure counts else done (.error e))

/-- One manifest in `reconcile_staging`. -/
def reconcileOne (subjectId : String) (counts : Reconciled) (m : StagingManifest) : ObservationCall Reconciled :=
  (inspect cfg m).andThen (fun
    | .error e =>
      match errorCode? e with
      | some code => abandonCounted counts m code
      | none => done (.error e)
    | .ok (size, hash) =>
      if m.status = .prepared then
        (transact (.markStored m.manifestId size hash)).andThen (fun
          | .ok _ => finishStaged subjectId counts m size hash
          | .error e => if isIntegrity e = true then pure counts else done (.error e))
      else finishStaged subjectId counts m size hash)

def reconcileStaging (subjectId : String) (limit : ℤ) : ObservationCall Reconciled := do
  let manifests ← transact (.liveManifests subjectId (max 1 (min limit 100)).toNat)
  Call.loop (reconcileOne cfg subjectId) manifests ⟨0, 0⟩

/-- The end of `archive_cold`, once the object is stored. -/
def publishStaged (subjectId : String) (m : StagingManifest) (count : Nat) : ObservationCall Nat :=
  (finalizeStaged m.manifestId subjectId).andThen (fun
    | .ok _ => pure count
    | .error .sourceConflict => do
      let live ← abandonStaged m "source_changed_during_finalize"
      if live = true then raise (integrity "observation changed during content archival")
      else do
        let current ← transact (.getManifest m.manifestId)
        if (current.map StagingManifest.status) = some .committed then pure count
        else raise (integrity "observation changed during content archival")
    | .error e => done (.error e))

/-- `archive_cold` of the rows of a segment. -/
def archiveRows (subjectId : String) (segmentId : Nat) (rows : List ObservationRow) : ObservationCall Nat := do
  check (raiseIf (maxStagedDecompressedBytes < (encodeSegment cfg subjectId rows).length)
    (ObservationError.archive (.payloadLimitError "observation archive staged payload exceeds the size limit")))
  let compressed := cfg.compress (encodeSegment cfg subjectId rows)
  let manifestId ← transact (.prepare (segmentInput cfg subjectId segmentId rows))
  transact .assertLease
  let digest ← transact (.put (objectKeyOf segmentId) compressed)
  let restored ← transact (.get (objectKeyOf segmentId) none)
  check (raiseIf (restored ≠ compressed ∨ cfg.sha256 restored ≠ digest)
    (integrity "observation archive verification failed"))
  let found ← transact (.getManifest manifestId)
  let m ← check (orRaise found (integrity "observation archive staging manifest is missing"))
  check (verifyStagedPayload cfg m restored)
  let metadata ← transact (.storedMetadata (objectKeyOf segmentId) none)
  transact (.markStored manifestId metadata.1 metadata.2)
  transact .assertLease
  publishStaged subjectId m rows.length

/-- `archive_cold`; the cutoff is the text of the clock reading less the days. -/
def archiveCold (subjectId : String) (olderThanDays limit : ℤ) (cutoff : String) (segmentId : Nat) :
    ObservationCall Nat := do
  check (raiseIf (olderThanDays < 1) (ObservationError.archive
    (.valueError "observation archive retention must be at least one day")))
  transact .recordRevision
  let _ ← reconcileStaging cfg subjectId 8
  let rows ← transact (.select subjectId cutoff (max 1 (min limit 1000)).toNat)
  if rows = [] then pure 0 else archiveRows cfg subjectId segmentId rows

/-- `load_content`; a missing object is not restored from the cloud. -/
def loadContentWithin (w : ObservationWorld) (subjectId objectKey observationId : String)
    (maxCompressed maxDecompressed : Nat) :
    Except ObservationError String := do
  raiseIf (maxCompressed < 1 ∨ maxDecompressed < 1)
    (ObservationError.archive (.valueError "observation archive read limits must be positive"))
  let segment ← orRaise (w.staging.segments.find? (fun g => g.subjectId = subjectId && g.objectKey = objectKey))
    (integrity "observation archive metadata is missing")
  raiseIf (segment.archiveFormat ≠ segmentFormat) (integrity "observation archive format is unsupported")
  let compressed ← w.get objectKey (some maxCompressed)
  raiseIf (cfg.sha256 compressed ≠ segment.compressedHash) (integrity "observation archive hash mismatch")
  let raw ← (cfg.decompress compressed maxDecompressed).mapError .archive
  let body ← orRaise (loadsBytes cfg raw) (integrity "observation archive is unreadable")
  match body with
  | .obj es => do
    raiseIf ((Document.get? es "subject_id").any (fun x => Document.same x (.str subjectId)) = false)
      (integrity "observation archive subject mismatch")
    match Document.get? es "observations" with
    | some (.arr entries) => findContent observationId entries
    | _ => .error (integrity "observation archive entries are invalid")
  | _ => .error (integrity "observation archive subject mismatch")
where
  /-- The loop over the entries. -/
  findContent (observationId : String) : List Document → Except ObservationError String
    | [] => .error (integrity "observation is missing from archive segment")
    | .obj es :: rest =>
      if (Document.get? es "observation_id").any (fun x => Document.same x (.str observationId)) = false then
        findContent observationId rest
      else
        match Document.get? es "content", Document.get? es "content_hash" with
        | some (.str content), some (.str expectedHash) => do
          raiseIf (cfg.contentHash content ≠ expectedHash) (integrity "observation archive content hash mismatch")
          .ok content
        | _, _ => .error (integrity "observation archive entry fields are invalid")
    | _ :: _ => .error (integrity "observation archive entry is invalid")

/-- `load_content` with its default limits. -/
def loadContent (w : ObservationWorld) (subjectId objectKey observationId : String) : Except ObservationError String :=
  loadContentWithin cfg w subjectId objectKey observationId 16000000 64000000

inductive ObservationAction
  | archiveCold (subjectId : String) (olderThanDays limit : ℤ) (cutoff : String) (segmentId : Nat)
  | reconcileStaging (subjectId : String) (limit : ℤ)
  | ingest (observationId subjectId fetchedAt content : String)
  | replaceFile (objectKey : String) (object : Option StoredObject)

def observationCall : ObservationAction → ObservationCall Unit
  | .archiveCold subjectId olderThanDays limit cutoff segmentId => do
    let _ ← archiveCold cfg subjectId olderThanDays limit cutoff segmentId
    pure ()
  | .reconcileStaging subjectId limit => do
    let _ ← reconcileStaging cfg subjectId limit
    pure ()
  | .ingest observationId subjectId fetchedAt content => transact (.ingest observationId subjectId fetchedAt content)
  | .replaceFile objectKey object => transact (.replaceFile objectKey object)

/-- A row that `ObservationStore` has stored. -/
def ObservationRow.Stored (row : ObservationRow) : Prop :=
  row.contentArchiveKey = none ∧ row.content = row.ingested ∧ row.contentHash = cfg.contentHash row.content ∧
    row.content.length ≤ maxContentChars

/-- Any observations are stored, and nothing is archived yet. -/
def ObservationWorld.Fresh (w : ObservationWorld) : Prop :=
  (∀ row ∈ w.observations, row.Stored cfg) ∧ w.staging.manifests.rows = [] ∧ w.staging.segments = []

def observationMachine :
    Machine (Store.Running ObservationWorld ObservationReading ObservationCommand.Result ObservationError)
    (Store.Move ObservationAction ObservationReading) :=
  (observationStore cfg).machine (ObservationWorld.Fresh cfg) (observationCall cfg)

end

end Noyra.Archive
