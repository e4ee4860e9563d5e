import Mathlib.Data.List.Sort
import Noyra.Archive.Staging
import Noyra.Lib.Machine

/-!
# Archive keyrings

`ArchiveKeyring`: versioned keys outside the database, whose metadata is recorded for each subject under a
generation that all subjects share. A configuration is accepted from the recorded revisions and the committed
segments. The calls of `archive_cold`, which records its configuration first, and of `reconcile_staging` alone,
which does not, interleave at their transactions for both archives; the source rows and the objects they read
and write are readings.
-/

namespace Noyra.Archive
open Noyra.Lib

inductive KeyStatus
  | active | retired
  deriving DecidableEq

structure KeyMaterial where
  keyId : String
  key : Bytes
  fingerprint : String
  status : KeyStatus
  deriving DecidableEq

/-- `[A-Za-z0-9][A-Za-z0-9._-]{0,127}`. -/
def validKeyId (keyId : String) : Bool :=
  match keyId.toList with
  | [] => false
  | c :: cs => c.isAlphanum && cs.length ≤ 127 && cs.all (fun c => c.isAlphanum || c = '.' || c = '_' || c = '-')

/-- `[0-9a-f]{64}`. -/
def validFingerprint (fingerprint : String) : Bool :=
  fingerprint.toList.length = 64 && fingerprint.toList.all (fun c => c.isDigit || ('a' ≤ c && c ≤ 'f'))

/-- The metadata of a key, without its bytes. -/
structure KeyEntry where
  keyId : String
  fingerprint : String
  status : KeyStatus
  deriving DecidableEq

/-- A configuration that the constructor of `ArchiveKeyring` accepts. -/
structure Keyring (sha256 : Bytes → String) where
  generation : Nat
  activeKeyId : String
  legacyKeyId : Option String
  keys : List KeyMaterial
  generation_pos : 0 < generation
  count : keys.length ≤ 64
  material : ∀ k ∈ keys, validKeyId k.keyId ∧ k.key.length = 32 ∧ k.fingerprint = sha256 k.key
  nodup : (keys.map KeyMaterial.keyId).Nodup
  active : (keys.filter (fun k => k.status = .active)).map KeyMaterial.keyId = [activeKeyId]
  legacy : ∀ id, legacyKeyId = some id → id ∈ keys.map KeyMaterial.keyId

namespace Keyring

variable {sha256 : Bytes → String} (k : Keyring sha256)

/-- The key of an identifier. -/
def get? (keyId : String) : Option KeyMaterial := k.keys.find? (fun m => m.keyId = keyId)

/-- `resolve`, for columns that hold a text or nothing. -/
def resolve : Option String → Option String → Except ArchiveError KeyMaterial
  | none, none =>
    match k.legacyKeyId with
    | none => .error (.keyUnavailableError "legacy archive encryption key is unavailable")
    | some keyId => orRaise (k.get? keyId) (.other "KeyError")
  | some keyId, some fingerprint => do
    let m ← orRaise (k.get? keyId) (.keyUnavailableError ("archive encryption key is unavailable: " ++ keyId))
    raiseIf (m.fingerprint ≠ fingerprint)
      (.keyUnavailableError ("archive encryption key is unavailable: " ++ keyId))
    .ok m
  | _, _ => .error (.integrityError "archive encryption key metadata is incomplete")

/-- `metadata`, ordered by key. -/
def metadata : List KeyEntry :=
  (k.keys.insertionSort (fun a b => a.keyId ≤ b.keyId)).map (fun m => ⟨m.keyId, m.fingerprint, m.status⟩)

/-- The key that new segments are encrypted with. -/
def activeFingerprint : String := ((k.get? k.activeKeyId).map KeyMaterial.fingerprint).getD ""

end Keyring

/-- `archive_keyring_revisions`. -/
structure RevisionRow where
  subjectId : String
  generation : Nat
  activeKeyId : String
  legacyKeyId : Option String
  entries : List KeyEntry
  metadataHash : String
  stateHash : String
  deriving DecidableEq

/-- The documents that a revision hashes. -/
inductive KeyDocument
  | metadata (entries : List KeyEntry)
  | state (generation : Nat) (activeKeyId : String) (legacyKeyId : Option String) (entries : List KeyEntry)
  deriving DecidableEq

structure KeyConfig where
  sha256 : Bytes → String
  contentHash : KeyDocument → String

variable (cfg : KeyConfig)

structure KeyTables where
  revisions : List RevisionRow
  staging : StagingTables

/-- `_validated_revision`. -/
def validatedRevision (row : RevisionRow) : Except ArchiveError Unit := do
  let invalid := ArchiveError.integrityError "archive keyring revision metadata is invalid"
  raiseIf (row.generation < 1 ∨ row.entries = []) invalid
  raiseIf (¬∀ e ∈ row.entries, validFingerprint e.fingerprint ∧ validKeyId e.keyId) invalid
  raiseIf (¬(row.entries.map KeyEntry.keyId).Nodup) invalid
  raiseIf (¬row.entries.Pairwise (fun a b => a.keyId < b.keyId)) invalid
  raiseIf ((row.entries.filter (fun e => e.status = .active)).map KeyEntry.keyId ≠ [row.activeKeyId]) invalid
  raiseIf (row.legacyKeyId.any (fun id => id ∉ row.entries.map KeyEntry.keyId)) invalid
  raiseIf (row.metadataHash ≠ cfg.contentHash (.metadata row.entries) ∨
      row.stateHash ≠ cfg.contentHash (.state row.generation row.activeKeyId row.legacyKeyId row.entries))
    (.integrityError "archive keyring revision hash is invalid")

/-- `(metadata_hash, active_key_id, legacy_key_id)`. -/
abbrev GenerationState := String × String × Option String

def RevisionRow.state (row : RevisionRow) : GenerationState := (row.metadataHash, row.activeKeyId, row.legacyKeyId)

/-- What the loop over the revisions has collected. -/
structure History where
  fingerprints : List (String × String)
  generations : List (Nat × GenerationState)
  latestGlobal : Option RevisionRow
  latestSubject : Option RevisionRow

/-- `historical.setdefault` for the entries of a revision. -/
def collectEntries : List (String × String) → List KeyEntry → Except ArchiveError (List (String × String))
  | known, [] => .ok known
  | known, e :: entries =>
    match known.lookup e.keyId with
    | some fingerprint => do
      raiseIf (fingerprint ≠ e.fingerprint)
        (.integrityError "archive key ID has conflicting historical fingerprints")
      collectEntries known entries
    | none => collectEntries (known ++ [(e.keyId, e.fingerprint)]) entries

def collectRevision (subjectId : String) (h : History) (row : RevisionRow) : Except ArchiveError History := do
  validatedRevision cfg row
  raiseIf ((h.generations.lookup row.generation).any (fun state => state ≠ row.state))
    (.integrityError "archive keyring generation has conflicting global metadata")
  let fingerprints ← collectEntries h.fingerprints row.entries
  .ok { fingerprints := fingerprints
        generations :=
          if (h.generations.lookup row.generation).isSome then h.generations
          else h.generations ++ [(row.generation, row.state)]
        latestGlobal := some row
        latestSubject := if row.subjectId = subjectId then some row else h.latestSubject }

/-- By generation, then by subject. -/
def RevisionBefore (a b : RevisionRow) : Prop :=
  a.generation < b.generation ∨ (a.generation = b.generation ∧ a.subjectId ≤ b.subjectId)

instance : DecidableRel RevisionBefore := fun _ _ => inferInstanceAs (Decidable (_ ∨ (_ ∧ _)))

/-- The revisions in the order of the query. -/
def orderedRevisions (revisions : List RevisionRow) : List RevisionRow := revisions.insertionSort RevisionBefore

def collect (subjectId : String) (revisions : List RevisionRow) : Except ArchiveError History :=
  (orderedRevisions revisions).foldlM (collectRevision cfg subjectId) ⟨[], [], none, none⟩

/-- `_revision_state` and the two hashes as `record_revision` inserts them. -/
def Keyring.revision {cfg : KeyConfig} (k : Keyring cfg.sha256) (subjectId : String) : RevisionRow :=
  { subjectId := subjectId, generation := k.generation, activeKeyId := k.activeKeyId, legacyKeyId := k.legacyKeyId
    entries := k.metadata, metadataHash := cfg.contentHash (.metadata k.metadata)
    stateHash := cfg.contentHash (.state k.generation k.activeKeyId k.legacyKeyId k.metadata) }

variable {cfg}

/-- The recorded generations allow this one. -/
def checkGeneration (k : Keyring cfg.sha256) (h : History) : Except ArchiveError Unit := do
  raiseIf (¬(h.generations.map Prod.fst).IsChain (fun previous current => current = previous + 1))
    (.integrityError "archive keyring global generation history has a gap")
  raiseIf ((h.generations.lookup k.generation).any (fun state => state ≠ (k.revision "").state))
    (.keyUnavailableError "archive keyring generation identifies different global key metadata")
  raiseIf (h.latestGlobal.any (fun row => k.generation < row.generation))
    (.keyUnavailableError "archive keyring generation rolled back")
  raiseIf (h.latestGlobal.any (fun row => row.generation < k.generation ∧ k.generation ≠ row.generation + 1))
    (.keyUnavailableError "archive keyring global generation is not sequential")
  raiseIf (h.latestSubject.any (fun row => k.generation < row.generation))
    (.keyUnavailableError "archive keyring generation rolled back")

/-- The key of one committed segment. -/
def checkSegment (k : Keyring cfg.sha256) (h : History) (g : SegmentRow) : Except ArchiveError Unit :=
  match g.encryptionKeyId, g.encryptionKeyFingerprint with
  | none, none => do
    raiseIf (k.legacyKeyId = none) (.keyUnavailableError "legacy archive segments require a legacy key")
    raiseIf (h.latestGlobal.any (fun row => row.legacyKeyId ≠ none ∧ row.legacyKeyId ≠ k.legacyKeyId))
      (.keyUnavailableError "legacy archive key cannot change while legacy segments remain")
  | some keyId, some fingerprint => do
    let bindings := h.fingerprints ++ k.metadata.map (fun e => (e.keyId, e.fingerprint))
    let bound ← orRaise (bindings.lookup keyId)
      (.integrityError "archive segment references an unrecorded key ID")
    raiseIf (bound ≠ fingerprint)
      (.integrityError "archive segment key fingerprint conflicts with key history")
    let _ ← k.resolve (some keyId) (some fingerprint)
    .ok ()
  | _, _ => .error (.integrityError "archive encryption key metadata is incomplete")

/-- `_validate_revision_connection`: whether the newest revision of the subject has this generation. -/
def validateRevision (db : KeyTables) (k : Keyring cfg.sha256) (subjectId : String) : Except ArchiveError Bool := do
  let h ← collect cfg subjectId db.revisions
  checkGeneration k h
  raiseIf (∃ e ∈ k.metadata, (h.fingerprints.lookup e.keyId).any (fun fingerprint => fingerprint ≠ e.fingerprint))
    (.keyUnavailableError "archive key ID cannot be reused")
  db.staging.segments.forM (checkSegment k h)
  .ok (h.latestSubject.any (fun row => row.generation = k.generation))

/-- The recorded generations of the rows that a query selects. -/
def generations (revisions : List RevisionRow) : List Nat := revisions.map RevisionRow.generation

/-- What the trigger `validate_archive_keyring_generation_insert` refuses: a generation that is not above those
of its subject, a new one that does not follow the newest of all subjects, or an old one that is not it. -/
def GenerationRefused (revisions : List RevisionRow) (subjectId : String) (generation : Nat) : Prop :=
  (generations (revisions.filter (fun r => r.subjectId = subjectId))).max?.any (fun newest => generation ≤ newest) ∨
  (generation ∉ generations revisions ∧ (generations revisions).max?.any (fun newest => generation ≠ newest + 1)) ∨
  (generation ∈ generations revisions ∧ (generations revisions).max?.any (fun newest => generation ≠ newest))

instance (revisions : List RevisionRow) (subjectId : String) (generation : Nat) :
    Decidable (GenerationRefused revisions subjectId generation) :=
  inferInstanceAs (Decidable (_ ∨ _ ∨ _))

/-- `record_revision`. -/
def recordRevision (db : KeyTables) (k : Keyring cfg.sha256) (subjectId : String) : Except ArchiveError KeyTables := do
  let identical ← validateRevision db k subjectId
  if identical then .ok db
  else do
    raiseIf (GenerationRefused db.revisions subjectId k.generation)
      (.sqliteIntegrityError "archive keyring generation must advance")
    .ok { db with revisions := db.revisions ++ [k.revision subjectId] }

/-! ### Calls -/

/-- A call of `archive_cold`, or of `reconcile_staging` alone, with the configuration of its archive. -/
structure ArchiveCall (cfg : KeyConfig) where
  subjectId : String
  kind : ArchiveKind
  keyring : Keyring cfg.sha256
  limit : Int
  archives : Bool

/-- The archive in the messages of its errors. -/
def ArchiveKind.name : ArchiveKind → String
  | .eventPayload => "event"
  | .observationContent => "observation"

def ArchiveKind.changedMessage : ArchiveKind → String
  | .eventPayload => "event changed during payload archival"
  | .observationContent => "observation changed during content archival"

/-- What the finalizing transaction finds wrong with a source row. -/
def ArchiveKind.sourceMessage : ArchiveKind → String
  | .eventPayload => "source payload hash mismatch"
  | .observationContent => "source content hash mismatch"

/-- What `reconcile_staging` has still to look at: the event archive selects one manifest after the other,
the observation archive selects all at once. -/
inductive Pending
  | after (examined : Nat) (cursor : Option (Nat × Nat))
  | rows (rest : List StagingManifest)

/-- Who settles a manifest: the replay of `reconcile_staging`, or the call that staged it. -/
inductive Origin
  | replay (pending : Pending)
  | own

/-- The code under which a manifest is abandoned when its source rows have changed. -/
def Origin.conflictCode : Origin → String
  | .replay _ => "source_changed_during_replay"
  | .own => "source_changed_during_finalize"

inductive ArchivePhase (cfg : KeyConfig)
  | idle
  | reconciling (c : ArchiveCall cfg) (pending : Pending)
  | checking (c : ArchiveCall cfg) (pending : Pending) (m : StagingManifest)
  | storing (c : ArchiveCall cfg) (origin : Origin) (m : StagingManifest) (size : Nat) (hash : String)
  | finalizing (c : ArchiveCall cfg) (origin : Origin) (manifestId : Nat)
  | publishing (c : ArchiveCall cfg) (origin : Origin) (manifestId : Nat)
  | abandoning (c : ArchiveCall cfg) (origin : Origin) (manifestId : Nat) (code : String)
  | removing (c : ArchiveCall cfg) (origin : Origin) (manifestId : Nat)
  | selecting (c : ArchiveCall cfg)
  | preparing (c : ArchiveCall cfg) (selected : SegmentInput) (segmentId : Nat)
  | putting (c : ArchiveCall cfg) (manifestId : Nat)
  | returned
  | rejected (e : ArchiveError)
  | raised (e : ArchiveError)

structure KeyState (cfg : KeyConfig) where
  db : KeyTables
  phases : List (ArchivePhase cfg)
  nextId : Nat

/-- The source rows of a manifest when it is finalized. -/
inductive SourceCheck
  | unchanged | conflict | invalid
  deriving DecidableEq

/-- Why an object could not be written or read back; a provider holds its key. -/
inductive ObjectError
  | fileNotFoundError
  | payloadLimitError
  | integrityError (message : String)
  | osError
  | valueError
  | other (name : String)

def ObjectError.error : ObjectError → ArchiveError
  | .fileNotFoundError => .fileNotFoundError
  | .payloadLimitError => .payloadLimitError "archive object exceeds the configured read limit"
  | .integrityError message => .integrityError message
  | .osError => .osError "archive object cannot be read"
  | .valueError => .valueError "archive object cannot be read"
  | .other name => .other name

/-- What a step reads: the clock, the object of a manifest, the source rows that `archive_cold` selects, and
the source rows of a manifest. -/
structure ArchiveReading where
  now : Nat
  object : Except ObjectError (Nat × String)
  selected : Option SegmentInput
  source : SourceCheck

def ManifestBefore (a b : StagingManifest) : Prop :=
  a.updatedAt < b.updatedAt ∨ (a.updatedAt = b.updatedAt ∧ a.manifestId ≤ b.manifestId)

instance : DecidableRel ManifestBefore := fun _ _ => inferInstanceAs (Decidable (_ ∨ (_ ∧ _)))

/-- The live manifests of a call, in the order of the query. -/
def liveManifests (t : StagingTables) (c : ArchiveCall cfg) : List StagingManifest :=
  (t.manifests.rows.filter (fun m => m.subjectId = c.subjectId && m.archiveKind = c.kind && m.Live)).insertionSort
    ManifestBefore

def Pending.start (t : StagingTables) (c : ArchiveCall cfg) : Pending :=
  match c.kind with
  | .eventPayload => .after 0 none
  | .observationContent => .rows ((liveManifests t c).take (max 1 (min c.limit 100)).toNat)

/-- The next manifest to look at. -/
def Pending.next (t : StagingTables) (c : ArchiveCall cfg) : Pending → Option (StagingManifest × Pending)
  | .after examined cursor =>
    if examined < (max 1 (min c.limit 100)).toNat then
      ((liveManifests t c).find? (fun m => cursor.all (fun p =>
        p.1 < m.updatedAt || (p.1 = m.updatedAt && p.2 < m.manifestId)))).map
        (fun m => (m, .after (examined + 1) (some (m.updatedAt, m.manifestId))))
    else none
  | .rows [] => none
  | .rows (m :: rest) => some (m, .rows rest)

/-- The code under which a manifest is abandoned when its object cannot be read; other exceptions end the
call. -/
def stagedErrorCode : ObjectError → Option String
  | .fileNotFoundError => some "staged_object_missing"
  | .payloadLimitError => some "staged_object_oversize"
  | .integrityError message =>
    if 1 < (message.toLower.splitOn "hash").length then some "staged_object_hash_mismatch"
    else some "staged_object_format_mismatch"
  | .osError => some "staged_object_unreadable"
  | .valueError => some "staged_object_unreadable"
  | .other _ => none

namespace KeyState

variable (s : KeyState cfg)

def goto (i : Nat) (p : ArchivePhase cfg) : KeyState cfg := { s with phases := s.phases.set i p }

def withStaging (t : StagingTables) : KeyState cfg := { s with db := { s.db with staging := t } }

/-- A replay goes on with the next manifest, the call that staged the manifest ends as `own`. -/
def resume (i : Nat) (c : ArchiveCall cfg) (own : ArchivePhase cfg) : Origin → KeyState cfg
  | .replay pending => s.goto i (.reconciling c pending)
  | .own => s.goto i own

/-- Go on after a manifest was settled without publishing it. -/
def settled (i : Nat) (c : ArchiveCall cfg) : Origin → KeyState cfg :=
  s.resume i c (.raised (.integrityError c.kind.changedMessage))

/-- Go on after an `IntegrityError` of the finalizing transaction. -/
def refused (i : Nat) (c : ArchiveCall cfg) (message : String) : Origin → KeyState cfg :=
  s.resume i c (.raised (.integrityError (c.kind.name ++ " archive " ++ message)))

def published (i : Nat) (c : ArchiveCall cfg) : Origin → KeyState cfg := s.resume i c .returned

end KeyState

/-- `archive_cold` begins with `record_revision`, `reconcile_staging` with the manifests. -/
def beginCall (s : KeyState cfg) (i : Nat) (c : ArchiveCall cfg) : KeyState cfg :=
  if c.archives then
    match recordRevision s.db c.keyring c.subjectId with
    | .ok db => { s.goto i (.reconciling c (.start db.staging c)) with db := db }
    | .error e => s.goto i (.rejected e)
  else s.goto i (.reconciling c (.start s.db.staging c))

/-- The next manifest and its provider; without the key the call ends. -/
def examineNext (s : KeyState cfg) (i : Nat) (c : ArchiveCall cfg) (pending : Pending) : KeyState cfg :=
  match pending.next s.db.staging c with
  | none => s.goto i (if c.archives then .selecting c else .returned)
  | some (m, pending) =>
    match c.keyring.resolve (some m.encryptionKeyId) (some m.encryptionKeyFingerprint) with
    | .ok _ => s.goto i (.checking c pending m)
    | .error e => s.goto i (.raised e)

/-- A readable object goes on to `mark_stored`, and past it when the manifest was already stored. -/
def checkObject (s : KeyState cfg) (i : Nat) (c : ArchiveCall cfg) (pending : Pending) (m : StagingManifest)
    (x : ArchiveReading) : KeyState cfg :=
  match x.object with
  | .error e =>
    match stagedErrorCode e with
    | some code => s.goto i (.abandoning c (.replay pending) m.manifestId code)
    | none => s.goto i (.raised e.error)
  | .ok (size, hash) =>
    if m.status = .prepared then s.goto i (.storing c (.replay pending) m size hash)
    else if m.storedHash.any (fun h => h ≠ hash) ∨ m.storedByteSize.any (fun n => n ≠ 0 ∧ n ≠ size) then
      s.goto i (.abandoning c (.replay pending) m.manifestId "staged_object_hash_mismatch")
    else s.goto i (.finalizing c (.replay pending) m.manifestId)

def store (s : KeyState cfg) (i : Nat) (c : ArchiveCall cfg) (origin : Origin) (m : StagingManifest) (size : Nat)
    (hash : String) (x : ArchiveReading) : KeyState cfg :=
  match markStored s.db.staging m.manifestId size hash x.now with
  | .ok t => (s.withStaging t).goto i (.finalizing c origin m.manifestId)
  | .error e =>
    match origin with
    | .replay pending => s.goto i (.reconciling c pending)
    | .own => s.goto i (.raised e)

/-- The read of `_finalize_staged_manifest` before its transaction. -/
def readManifest (s : KeyState cfg) (i : Nat) (c : ArchiveCall cfg) (origin : Origin) (manifestId : Nat) :
    KeyState cfg :=
  match s.db.staging.manifests.find? manifestId with
  | none => s.refused i c "staging manifest is missing" origin
  | some m =>
    if m.subjectId ≠ c.subjectId then s.refused i c "staging manifest is missing" origin
    else if m.status = .committed then s.published i c origin
    else if m.status ≠ .stored then s.refused i c "staging manifest is not stored" origin
    else s.goto i (.publishing c origin manifestId)

/-- The transaction of `_finalize_staged_manifest`. -/
def finalize (s : KeyState cfg) (i : Nat) (c : ArchiveCall cfg) (origin : Origin) (manifestId : Nat)
    (x : ArchiveReading) : KeyState cfg :=
  match s.db.staging.manifests.find? manifestId with
  | none => s.refused i c "staging manifest changed" origin
  | some m =>
    if m.status ≠ .stored then s.refused i c "staging manifest changed" origin
    else
      match x.source with
      | .conflict => s.goto i (.abandoning c origin manifestId origin.conflictCode)
      | .invalid => s.refused i c c.kind.sourceMessage origin
      | .unchanged =>
        match publish s.db.staging m x.now with
        | .ok t => (s.withStaging t).published i c origin
        | .error e => s.goto i (.raised e)

/-- `mark_abandoned` and what follows when the manifest is not live any more. -/
def abandon (s : KeyState cfg) (i : Nat) (c : ArchiveCall cfg) (origin : Origin) (manifestId : Nat) (code : String)
    (x : ArchiveReading) : KeyState cfg :=
  let marked := markAbandoned s.db.staging manifestId code x.now
  if marked.1 then (s.withStaging marked.2).goto i (.removing c origin manifestId)
  else
    match origin with
    | .replay pending => s.goto i (.reconciling c pending)
    | .own =>
      if (s.db.staging.manifests.find? manifestId).any (fun m => m.status = .committed) then s.goto i .returned
      else s.goto i (.raised (.integrityError c.kind.changedMessage))

/-- The input of `prepare`: the selected rows under a new segment and the active key. -/
def stagedInput (c : ArchiveCall cfg) (selected : SegmentInput) (segmentId : Nat) : SegmentInput :=
  { selected with
    subjectId := c.subjectId, archiveKind := c.kind, segmentId := segmentId
    objectKey :=
      match c.kind with
      | .eventPayload => "events/event-segment_" ++ toString segmentId ++ ".json.zlib.enc"
      | .observationContent => "observations/observation-segment_" ++ toString segmentId ++ ".json.zlib.enc"
    encryptionKeyId := c.keyring.activeKeyId, encryptionKeyFingerprint := c.keyring.activeFingerprint }

def selectSource (s : KeyState cfg) (i : Nat) (c : ArchiveCall cfg) (x : ArchiveReading) : KeyState cfg :=
  match x.selected with
  | none => s.goto i .returned
  | some selected => { s.goto i (.preparing c selected s.nextId) with nextId := s.nextId + 1 }

def stage (s : KeyState cfg) (i : Nat) (c : ArchiveCall cfg) (selected : SegmentInput) (segmentId : Nat)
    (x : ArchiveReading) : KeyState cfg :=
  match prepare s.db.staging (stagedInput c selected segmentId) s.nextId x.now with
  | .ok (manifestId, t) => { (s.withStaging t).goto i (.putting c manifestId) with nextId := s.nextId + 1 }
  | .error e => s.goto i (.raised e)

/-- The object is written, read back and verified. -/
def putObject (s : KeyState cfg) (i : Nat) (c : ArchiveCall cfg) (manifestId : Nat) (x : ArchiveReading) :
    KeyState cfg :=
  match x.object, s.db.staging.manifests.find? manifestId with
  | .error e, _ => s.goto i (.raised e.error)
  | .ok _, none => s.goto i (.raised (.integrityError (c.kind.name ++ " archive staging manifest is missing")))
  | .ok (size, hash), some m => s.goto i (.storing c .own m size hash)

inductive KeyAction (cfg : KeyConfig)
  | recordRevision (subjectId : String) (keyring : Keyring cfg.sha256)
  | call (i : Nat) (c : ArchiveCall cfg)
  | advance (i : Nat) (x : ArchiveReading)
  | crash (i : Nat)

def advanceArchive (s : KeyState cfg) (i : Nat) (x : ArchiveReading) : KeyState cfg :=
  match s.phases[i]? with
  | some (.reconciling c pending) => examineNext s i c pending
  | some (.checking c pending m) => checkObject s i c pending m x
  | some (.storing c origin m size hash) => store s i c origin m size hash x
  | some (.finalizing c origin manifestId) => readManifest s i c origin manifestId
  | some (.publishing c origin manifestId) => finalize s i c origin manifestId x
  | some (.abandoning c origin manifestId code) => abandon s i c origin manifestId code x
  | some (.removing c origin manifestId) =>
    (s.withStaging (markRemoved s.db.staging manifestId x.now)).settled i c origin
  | some (.selecting c) => selectSource s i c x
  | some (.preparing c selected segmentId) => stage s i c selected segmentId x
  | some (.putting c manifestId) => putObject s i c manifestId x
  | _ => s

def keyStep (s : KeyState cfg) : KeyAction cfg → KeyState cfg
  | .recordRevision subjectId k =>
    match recordRevision s.db k subjectId with
    | .ok db => { s with db := db }
    | .error _ => s
  | .call i c => beginCall s i c
  | .advance i x => advanceArchive s i x
  | .crash i => s.goto i .idle

/-- No revision and no manifest; segments are of the first format. -/
def KeyState.Initial (s : KeyState cfg) : Prop :=
  s.db.revisions = [] ∧ s.db.staging.manifests.rows = [] ∧
    (∀ g ∈ s.db.staging.segments, g.encryptionKeyId = none ∧ g.encryptionKeyFingerprint = none) ∧
    ∀ p ∈ s.phases, p = .idle

def keyrings (cfg : KeyConfig) : Machine (KeyState cfg) (KeyAction cfg) := ⟨KeyState.Initial, keyStep⟩

end Noyra.Archive
