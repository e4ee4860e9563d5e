import Noyra.Archive.Replicas

/-!
# Staged archive segments

`ArchiveStagingLedger` and the segment tables. A manifest records the selection of source rows before the
object is written, then the stored object, and is committed in the transaction that publishes the segment.
-/

namespace Noyra.Archive
open Noyra.Lib

inductive ArchiveKind
  | eventPayload | observationContent
  deriving DecidableEq

inductive StagingStatus
  | prepared | stored | committed | abandoned | removed
  deriving DecidableEq

/-- An item of `source_state`: a source row, its time and the hash of its content. -/
structure SourceItem where
  itemId : String
  time : String
  contentHash : String
  deriving DecidableEq

/-- What a manifest keeps for ever. -/
structure SegmentInput where
  subjectId : String
  archiveKind : ArchiveKind
  segmentId : Nat
  objectKey : String
  sourceState : List SourceItem
  firstItemAt : String
  lastItemAt : String
  plaintextHash : String
  archiveFormat : String
  encryptionKeyId : String
  encryptionKeyFingerprint : String
  deriving DecidableEq

/-- `archive_staging_manifests`. -/
structure StagingManifest extends SegmentInput where
  manifestId : Nat
  storedByteSize : Option Nat
  storedHash : Option String
  status : StagingStatus
  lastError : Option String
  updatedAt : Nat
  finalizedAt : Option Nat
  deriving DecidableEq

/-- May still be replayed. -/
def StagingManifest.Live (m : StagingManifest) : Prop := m.status = .prepared ∨ m.status = .stored

instance (m : StagingManifest) : Decidable m.Live := inferInstanceAs (Decidable (_ ∨ _))

/-- `event_payload_segments` and `observation_content_segments`. Segments of the first format name no key. -/
structure SegmentRow where
  segmentId : Nat
  subjectId : String
  archiveKind : ArchiveKind
  objectKey : String
  firstItemAt : String
  lastItemAt : String
  itemCount : Nat
  compressedHash : String
  archiveFormat : String
  encryptionKeyId : Option String
  encryptionKeyFingerprint : Option String
  createdAt : Nat
  deriving DecidableEq

namespace StagingManifest

def asStored (m : StagingManifest) (byteSize : Nat) (storedHash : String) (now : Nat) : StagingManifest :=
  { m with
    status := .stored, storedByteSize := some byteSize, storedHash := some storedHash, lastError := none
    updatedAt := now }

def asAbandoned (m : StagingManifest) (errorCode : String) (now : Nat) : StagingManifest :=
  { m with status := .abandoned, lastError := some errorCode, updatedAt := now }

def asRemoved (m : StagingManifest) (now : Nat) : StagingManifest :=
  { m with status := .removed, updatedAt := now, finalizedAt := some (m.finalizedAt.getD now) }

def asCommitted (m : StagingManifest) (now : Nat) : StagingManifest :=
  { m with status := .committed, updatedAt := now, finalizedAt := some now }

end StagingManifest

structure StagingTables where
  manifests : Table StagingManifest.manifestId
  segments : List SegmentRow

/-- `prepare`; a new manifest takes the identifier `manifestId`. -/
def prepare (t : StagingTables) (i : SegmentInput) (manifestId now : Nat) :
    Except ArchiveError (Nat × StagingTables) := do
  raiseIf (i.sourceState = []) (.valueError "archive staging item count must be positive")
  match t.manifests.rows.find? (fun m => m.segmentId = i.segmentId) with
  | some existing => do
    raiseIf (existing.toSegmentInput ≠ i) (.integrityError "archive staging segment identity changed")
    .ok (existing.manifestId, t)
  | none => do
    raiseIf (∃ g ∈ t.segments, g.segmentId = i.segmentId)
      (.integrityError "archive staging segment is already committed")
    raiseIf (∃ m ∈ t.manifests.rows, m.objectKey = i.objectKey)
      (.integrityError "archive staging object key is already bound")
    let manifest : StagingManifest :=
      { toSegmentInput := i, manifestId := manifestId, storedByteSize := none, storedHash := none,
        status := .prepared, lastError := none, updatedAt := now, finalizedAt := none }
    let manifests ← orRaise (t.manifests.insert? manifest)
      (.sqliteIntegrityError "UNIQUE constraint failed: archive_staging_manifests.manifest_id")
    .ok (manifestId, { t with manifests := manifests })

/-- `mark_stored`. -/
def markStored (t : StagingTables) (manifestId byteSize : Nat) (storedHash : String) (now : Nat) :
    Except ArchiveError StagingTables := do
  let m ← orRaise (t.manifests.find? manifestId) (.integrityError "archive staging manifest is missing")
  if m.status = .prepared then
    .ok { t with manifests := t.manifests.replace (m.asStored byteSize storedHash now) }
  else do
    raiseIf (m.status = .stored ∧ (m.storedByteSize ≠ some byteSize ∨ m.storedHash ≠ some storedHash))
      (.integrityError "archive staging stored hash changed")
    raiseIf (m.status ≠ .stored ∧ m.status ≠ .committed) (.integrityError "archive staging manifest is not writable")
    .ok t

/-- `mark_abandoned`: whether the manifest was live, and the tables. -/
def markAbandoned (t : StagingTables) (manifestId : Nat) (errorCode : String) (now : Nat) : Bool × StagingTables :=
  match t.manifests.find? manifestId with
  | none => (false, t)
  | some m =>
    if m.Live then
      (true, { t with manifests := t.manifests.replace (m.asAbandoned errorCode now) })
    else (false, t)

/-- `mark_removed`. -/
def markRemoved (t : StagingTables) (manifestId now : Nat) : StagingTables :=
  match t.manifests.find? manifestId with
  | none => t
  | some m =>
    if m.status = .abandoned then
      { t with manifests := t.manifests.replace (m.asRemoved now) }
    else t

/-- The segment that a manifest publishes. -/
def StagingManifest.segment (m : StagingManifest) (now : Nat) : SegmentRow :=
  { segmentId := m.segmentId, subjectId := m.subjectId, archiveKind := m.archiveKind, objectKey := m.objectKey,
    firstItemAt := m.firstItemAt, lastItemAt := m.lastItemAt, itemCount := m.sourceState.length,
    compressedHash := m.plaintextHash, archiveFormat := m.archiveFormat, encryptionKeyId := some m.encryptionKeyId,
    encryptionKeyFingerprint := some m.encryptionKeyFingerprint, createdAt := now }

/-- The segment and the commit of the manifest, in the finalizing transaction. -/
def publish (t : StagingTables) (m : StagingManifest) (now : Nat) : Except ArchiveError StagingTables := do
  raiseIf (∃ g ∈ t.segments, g.segmentId = m.segmentId) (.sqliteIntegrityError "UNIQUE constraint failed: segment_id")
  .ok ⟨t.manifests.replace (m.asCommitted now), t.segments ++ [m.segment now]⟩

/-- `referenced`. -/
def referenced (t : StagingTables) (objectKey : String) : Bool :=
  t.manifests.rows.any (fun m => m.objectKey = objectKey && (m.status = .prepared || m.status = .stored ||
    m.status = .committed)) || t.segments.any (fun g => g.objectKey = objectKey)

end Noyra.Archive
