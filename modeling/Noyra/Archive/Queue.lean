import Noyra.Archive.Replicas
import Noyra.Lib.Machine
import Noyra.Lib.Text

/-!
# The transfer queue

`ArchiveTransferQueue` of one subject, with its payload files. A worker runs one call at a time; the calls
of the workers interleave at their transactions and at their file operations. A transaction of `enqueue` or
of the cleanup also touches a file, and the write lock of the database is held meanwhile: other
transactions wait, file operations do not.
-/

namespace Noyra.Archive
open Noyra.Lib

/-- An absolute path, by its parts. -/
abbrev Path := List String

inductive StorageClass
  | cold | cloud
  deriving DecidableEq

inductive TransferStatus
  | queued | uploading | uploaded | failed | dead
  deriving DecidableEq

/-- `archive_transfer_queue`. -/
structure TransferRow where
  transferId : Nat
  storageClass : StorageClass
  objectKey : String
  payloadPath : Path
  byteSize : Nat
  contentHash : String
  status : TransferStatus
  attempts : Nat
  nextAttemptAt : Nat
  lastError : Option String
  claimToken : Option Nat
  leaseOwner : Option String
  leaseExpiresAt : Option Nat
  createdAt : Nat
  updatedAt : Nat
  deriving DecidableEq

inductive ManifestStatus
  | pending | uploaded | verified | failed | restored
  deriving DecidableEq

/-- `storage_archives`. -/
structure ManifestRow where
  objectKey : String
  contentHash : String
  status : ManifestStatus
  verifiedAt : Option Nat
  deriving DecidableEq

/-- The tables that a transaction of the queue reads and writes. -/
structure QueueTables where
  transfers : Table TransferRow.transferId
  replicas : ReplicaTable
  manifests : List ManifestRow

structure QueueConfig where
  sha256 : Bytes → String
  queueRoot : Path
  legacyRoot : Path

variable (cfg : QueueConfig)

def keyParts (objectKey : String) : Path := (objectKey.toList.splitOn '/').map String.ofList

/-- A canonical relative POSIX path. -/
def canonicalKey (objectKey : String) : Bool :=
  strip objectKey ≠ "" && !("/".toList.isPrefixOf objectKey.toList) && !objectKey.toList.contains '\\' &&
    (keyParts objectKey).all (fun part => part ∉ ["", ".", ".."])

/-- `Path.relative_to`. -/
def relativeTo (root path : Path) : Option Path := if root <+: path then some (path.drop root.length) else none

/-- `_queued_payload_path` where the root holds no symbolic links. -/
def queuedPayloadPath (value : Path) : Except ArchiveError Path := do
  let relative ← orRaise ((relativeTo cfg.queueRoot value).or (relativeTo cfg.legacyRoot value))
    (.integrityError "archive queue payload path escapes its root")
  raiseIf (relative = [] ∨ relative.any (fun part => part ∈ ["", ".", ".."]))
    (.integrityError "archive queue payload path escapes its root")
  .ok (cfg.queueRoot ++ relative)

/-- The recorded size and hash. -/
def TransferRow.Matches (row : TransferRow) (payload : Bytes) : Prop :=
  payload.length = row.byteSize ∧ cfg.sha256 payload = row.contentHash

instance (row : TransferRow) (payload : Bytes) : Decidable (row.Matches cfg payload) :=
  inferInstanceAs (Decidable (_ ∧ _))

/-! ### Transactions -/

structure EnqueueInput where
  objectKey : String
  payload : Bytes
  storageClass : StorageClass

/-- The row of an object key. -/
def QueueTables.transferOf (db : QueueTables) (objectKey : String) : Option TransferRow :=
  db.transfers.rows.find? (fun row => row.objectKey = objectKey)

/-- What the transaction of `enqueue` has read when it comes to the file. -/
structure Staging where
  input : EnqueueInput
  existing : Option TransferRow
  path : Path
  now : Nat

/-- The reads and checks of `enqueue`: the file to write, or nothing while the row is uploading. -/
def enqueueRead (db : QueueTables) (i : EnqueueInput) (now : Nat) : Except ArchiveError (Option Staging) := do
  raiseIf (canonicalKey i.objectKey = false)
    (.valueError "archive transfer object key must be a canonical relative POSIX path")
  match db.transferOf i.objectKey with
  | none => .ok (some ⟨i, none, cfg.queueRoot ++ keyParts i.objectKey, now⟩)
  | some existing => do
    raiseIf (existing.storageClass ≠ i.storageClass ∨ ¬existing.Matches cfg i.payload)
      (.integrityError "archive transfer object key cannot be rebound to different content")
    if existing.status = .uploading then .ok none
    else do
      let path ← queuedPayloadPath cfg existing.payloadPath
      .ok (some ⟨i, some existing, path, now⟩)

/-- The row that `enqueue` inserts. -/
def Staging.newRow (g : Staging) (transferId : Nat) : TransferRow :=
  { transferId := transferId, storageClass := g.input.storageClass, objectKey := g.input.objectKey,
    payloadPath := g.path, byteSize := g.input.payload.length, contentHash := cfg.sha256 g.input.payload,
    status := .queued, attempts := 0, nextAttemptAt := g.now, lastError := none, claimToken := none,
    leaseOwner := none, leaseExpiresAt := none, createdAt := g.now, updatedAt := g.now }

def TransferRow.requeued (row : TransferRow) (now : Nat) : TransferRow :=
  { row with
    status := .queued, attempts := 0, nextAttemptAt := now, lastError := none, claimToken := none,
    leaseOwner := none, leaseExpiresAt := none, updatedAt := now }

/-- The write of `enqueue`, after the file is in place. -/
def enqueueWrite (db : QueueTables) (g : Staging) (transferId : Nat) : Except ArchiveError QueueTables :=
  match g.existing with
  | some existing => .ok { db with transfers := db.transfers.replace (existing.requeued g.now) }
  | none => do
    let transfers ← orRaise (db.transfers.insert? (g.newRow cfg transferId))
      (.sqliteIntegrityError "UNIQUE constraint failed: archive_transfer_queue.transfer_id")
    .ok { db with transfers := transfers }

/-- An upload whose lease is over at `now`. -/
def TransferRow.expired (row : TransferRow) (now : Nat) : Bool :=
  row.status = .uploading && row.leaseExpiresAt.all (fun lease => lease ≤ now)

/-- Rows without a lease first, then by lease; ties by `transfer_id`. -/
def leaseBefore (a b : TransferRow) : Bool :=
  match a.leaseExpiresAt, b.leaseExpiresAt with
  | none, none => a.transferId ≤ b.transferId
  | none, some _ => true
  | some _, none => false
  | some x, some y => x < y || (x = y && a.transferId ≤ b.transferId)

def TransferRow.recovered (row : TransferRow) (now : Nat) : TransferRow :=
  { row with
    status := .failed, lastError := some "expired_upload_lease_recovered", nextAttemptAt := now,
    claimToken := none, leaseOwner := none, leaseExpiresAt := none, updatedAt := now }

/-- One turn of the recovery loop of `drain`; nothing is left to recover at `none`. -/
def recoverLease (db : QueueTables) (providerId : String) (now clock : Nat) :
    Except ArchiveError (Option QueueTables) :=
  match ((db.transfers.rows.filter (fun row => row.expired now)).mergeSort leaseBefore).head? with
  | none => .ok none
  | some row => do
    let db' := { db with transfers := db.transfers.replace (row.recovered now) }
    match db.replicas.copy? ⟨row.objectKey, .cloud, providerId⟩ with
    | none => .ok (some db')
    | some replica =>
      if replica.state = .uploading then do
        let moved ← transitionConnection db.replicas replica .unavailable (some "expired_upload_lease_recovered") clock
        .ok (some { db' with replicas := moved.2 })
      else .ok (some db')

/-- The candidates of `drain`. -/
def TransferRow.due (row : TransferRow) (now : Nat) : Bool :=
  (row.status = .queued || row.status = .failed) && row.nextAttemptAt ≤ now

def dueBefore (a b : TransferRow) : Bool :=
  a.nextAttemptAt < b.nextAttemptAt || (a.nextAttemptAt = b.nextAttemptAt && a.transferId ≤ b.transferId)

def bounded (limit : Int) (most : Nat) : Nat := (max 1 (min limit most)).toNat

def candidates (db : QueueTables) (limit : Int) (now : Nat) : List Nat :=
  (((db.transfers.rows.filter (fun row => row.due now)).mergeSort dueBefore).take (bounded limit 100)).map
    TransferRow.transferId

/-- The arguments of `drain`. -/
structure DrainInput where
  providerId : String
  limit : Int
  maxAttempts : Int
  leaseSeconds : Nat
  owner : String

/-- What a worker knows of its claim: the row as it read it back. -/
structure Claim where
  row : TransferRow
  token : Nat
  replicaId : Option Nat

def TransferRow.claimed (row : TransferRow) (d : DrainInput) (token now : Nat) : TransferRow :=
  { row with
    status := .uploading, attempts := row.attempts + 1, claimToken := some token, leaseOwner := some d.owner,
    leaseExpiresAt := some (now + 1000 * d.leaseSeconds), updatedAt := now }

/-- The claim transaction; `none` when the candidate is not due any more. The identifiers `token` and
`replicaId` are new. -/
def claimTransfer (db : QueueTables) (d : DrainInput) (transferId token replicaId now clock : Nat) :
    Except ArchiveError (Option (Claim × QueueTables)) :=
  match db.transfers.find? transferId with
  | none => .ok none
  | some row =>
    if row.due now then do
      let mine := row.claimed d token now
      let db' := { db with transfers := db.transfers.replace mine }
      match archiveObjectKind row.objectKey with
      | none => .ok (some (⟨mine, token, none⟩, db'))
      | some _ => do
        let held ← ensureConnection db.replicas
          ⟨⟨row.objectKey, .cloud, d.providerId⟩, row.contentHash, row.byteSize, .uploading⟩ replicaId clock
        .ok (some (⟨mine, token, some held.1.replicaId⟩, { db' with replicas := held.2 }))
    else .ok none

/-- The row is still claimed with this token by this owner. -/
def TransferRow.heldBy (row : TransferRow) (c : Claim) (d : DrainInput) : Bool :=
  row.status = .uploading && row.claimToken = some c.token && row.leaseOwner = some d.owner

def TransferRow.leased (row : TransferRow) (now : Nat) : Bool := row.leaseExpiresAt.any (fun lease => now < lease)

def TransferRow.renewed (row : TransferRow) (d : DrainInput) (now : Nat) : TransferRow :=
  { row with leaseExpiresAt := some (now + 1000 * d.leaseSeconds), updatedAt := now }

/-- `_renew_claim`. -/
def renewClaim (db : QueueTables) (d : DrainInput) (c : Claim) (now : Nat) : Bool × QueueTables :=
  match db.transfers.find? c.row.transferId with
  | none => (false, db)
  | some row =>
    if row.heldBy c d && row.leased now then
      (true, { db with transfers := db.transfers.replace (row.renewed d now) })
    else (false, db)

/-- How an error of an upload marks its cloud replica. -/
def failureState : ArchiveError → ReplicaState
  | .fileNotFoundError => .missing
  | .integrityError _ => .corrupt
  | .keyUnavailableError _ => .corrupt
  | .payloadLimitError _ => .corrupt
  | _ => .unavailable

/-- The row of a claim after an error. -/
def TransferRow.afterError (row : TransferRow) (d : DrainInput) (c : Claim) (error : ArchiveError)
    (now clock : Nat) : TransferRow :=
  { row with
    status := if max 1 d.maxAttempts ≤ c.row.attempts then .dead else .failed
    lastError := some error.typeName
    nextAttemptAt := now + 1000 * min 3600 (2 ^ c.row.attempts)
    claimToken := none, leaseOwner := none, leaseExpiresAt := none, updatedAt := clock }

/-- The replica of a claim after its upload ended. -/
def settleReplica (replicas : ReplicaTable) (c : Claim) (state : ReplicaState) (errorCode : Option String)
    (clock : Nat) : Except ArchiveError ReplicaTable :=
  match c.replicaId with
  | none => .ok replicas
  | some replicaId => do
    let moved ← transition replicas replicaId state errorCode clock
    .ok moved.2

/-- The transaction of the exception handler. -/
def failTransfer (db : QueueTables) (d : DrainInput) (c : Claim) (error : ArchiveError) (now clock : Nat) :
    Except ArchiveError QueueTables :=
  match db.transfers.find? c.row.transferId with
  | none => .ok db
  | some row =>
    if row.heldBy c d then do
      let replicas ← settleReplica db.replicas c (failureState error) (some error.typeName) clock
      .ok { db with transfers := db.transfers.replace (row.afterError d c error now clock), replicas := replicas }
    else .ok db

def TransferRow.completed (row : TransferRow) (now : Nat) : TransferRow :=
  { row with
    status := .uploaded, lastError := none, claimToken := none, leaseOwner := none, leaseExpiresAt := none,
    updatedAt := now }

def verifiedManifest (row : TransferRow) (now : Nat) (m : ManifestRow) : ManifestRow :=
  if m.objectKey = row.objectKey ∧ m.contentHash = row.contentHash then
    { m with status := .verified, verifiedAt := some now }
  else m

/-- The completing transaction; whether it committed the upload. -/
def completeTransfer (db : QueueTables) (d : DrainInput) (c : Claim) (now clock : Nat) :
    Except ArchiveError (Bool × QueueTables) :=
  match db.transfers.find? c.row.transferId with
  | none => .ok (false, db)
  | some row =>
    if row.heldBy c d && row.leased now then do
      let replicas ← settleReplica db.replicas c .verified none clock
      .ok (true,
        { transfers := db.transfers.replace (row.completed now), replicas := replicas,
          manifests := db.manifests.map (verifiedManifest c.row now) })
    else .ok (false, db)

/-- The uploaded rows that `_cleanup_uploaded_payloads` starts from, oldest first. -/
def cleanupRows (db : QueueTables) (limit : Int) : List (Nat × Path) :=
  (((db.transfers.rows.filter (fun row => row.status = .uploaded)).mergeSort
    (fun a b => a.updatedAt < b.updatedAt || (a.updatedAt = b.updatedAt && a.transferId ≤ b.transferId))).take
    (bounded limit 1000)).map (fun row => (row.transferId, row.payloadPath))

/-- The check of the cleanup transaction. -/
def stillUploaded (db : QueueTables) (transferId : Nat) (path : Path) : Bool :=
  (db.transfers.find? transferId).any (fun row => row.status = .uploaded && row.payloadPath = path)

/-! ### Workers -/

/-- Where a worker is in its call. In `staging`, `staged` and `removing` it is inside a transaction. -/
inductive Phase
  | idle
  | staging (g : Staging)
  | staged (g : Staging)
  | recovering (d : DrainInput) (now recovered : Nat)
  | selecting (d : DrainInput) (now : Nat)
  | draining (d : DrainInput) (rest : List Nat)
  | reading (d : DrainInput) (rest : List Nat) (c : Claim)
  | putting (d : DrainInput) (rest : List Nat) (c : Claim) (path : Path)
  | renewing (d : DrainInput) (rest : List Nat) (c : Claim) (path : Path) (digest : String)
  | verifying (d : DrainInput) (rest : List Nat) (c : Claim) (path : Path) (digest : String)
  | failing (d : DrainInput) (rest : List Nat) (c : Claim) (error : ArchiveError)
  | completing (d : DrainInput) (rest : List Nat) (c : Claim) (path : Path)
  | unlinking (d : DrainInput) (rest : List Nat) (path : Path)
  | collecting (limit : Int)
  | cleaning (rows : List (Nat × Path))
  | removing (path : Path) (rows : List (Nat × Path))

/-- The claim a worker is working under. -/
def Phase.claim? : Phase → Option Claim
  | .reading _ _ c => some c
  | .putting _ _ c _ => some c
  | .renewing _ _ c _ _ => some c
  | .verifying _ _ c _ _ => some c
  | .failing _ _ c _ => some c
  | .completing _ _ c _ => some c
  | _ => none

/-- What the provider returned when it was read back under a claim. -/
structure Readback where
  token : Nat
  objectKey : String
  stored : Bytes

/-- `lock` is the worker inside a transaction that spans a file operation. -/
structure QueueState where
  db : QueueTables
  files : Path → Option Bytes
  lock : Option Nat
  phases : List Phase
  nextId : Nat
  readbacks : List Readback

/-- What the next step of a worker reads: two readings of the clock, an exception raised by the step, the
digest that `put` returned and the bytes that `get` returned. -/
structure Reading where
  now : Nat
  clock : Nat
  raised : Option ArchiveError
  digest : String
  stored : Bytes

inductive QueueAction
  | enqueue (i : Nat) (input : EnqueueInput) (now : Nat)
  | drain (i : Nat) (d : DrainInput) (now : Nat)
  | cleanupUploadedPayloads (i : Nat) (limit : Int)
  | advance (i : Nat) (x : Reading)
  | crash (i : Nat)

namespace QueueState

variable (s : QueueState)

def goto (i : Nat) (p : Phase) : QueueState := { s with phases := s.phases.set i p }

/-- Leave a transaction that spans a file operation, committed or rolled back. -/
def release (i : Nat) : QueueState := if s.lock = some i then { s with lock := none } else s

def write (path : Path) (content : Option Bytes) : QueueState :=
  { s with files := fun p => if p = path then content else s.files p }

/-- A transaction of its own waits for the lock. -/
def transact (next : QueueState) : QueueState := if s.lock = none then next else s

end QueueState

/-- The beginning of `enqueue`: the transaction is opened and the row is read. -/
def beginEnqueue (s : QueueState) (i : Nat) (input : EnqueueInput) (now : Nat) : QueueState :=
  match enqueueRead cfg s.db input now with
  | .ok (some g) => { s.goto i (.staging g) with lock := some i }
  | _ => s

/-- `drain` checks its arguments and reads the clock. -/
def beginDrain (s : QueueState) (i : Nat) (d : DrainInput) (now : Nat) : QueueState :=
  if 1 ≤ d.leaseSeconds ∧ d.leaseSeconds ≤ 86400 ∧ strip d.owner ≠ "" then s.goto i (.recovering d now 0) else s

def endEnqueue (s : QueueState) (i : Nat) (g : Staging) : QueueState :=
  match enqueueWrite cfg s.db g s.nextId with
  | .ok db' => { (s.release i).goto i .idle with db := db', nextId := s.nextId + 1 }
  | .error _ => (s.release i).goto i .idle

/-- One turn of the recovery loop. -/
def recover (s : QueueState) (i : Nat) (d : DrainInput) (now recovered : Nat) (x : Reading) : QueueState :=
  if recovered < 1000 then
    match recoverLease s.db d.providerId now x.clock with
    | .ok none => s.goto i (.selecting d now)
    | .ok (some db') => { s.goto i (.recovering d now (recovered + 1)) with db := db' }
    | .error _ => s.goto i .idle
  else s.goto i (.selecting d now)

def claim (s : QueueState) (i : Nat) (d : DrainInput) (transferId : Nat) (rest : List Nat) (x : Reading) :
    QueueState :=
  match claimTransfer s.db d transferId s.nextId (s.nextId + 1) x.now x.clock with
  | .ok none => s.goto i (.draining d rest)
  | .ok (some (c, db')) => { s.goto i (.reading d rest c) with db := db', nextId := s.nextId + 2 }
  | .error _ => s.goto i .idle

/-- The queued payload is read and compared with the row. -/
def readPayload (s : QueueState) (c : Claim) : Except ArchiveError Path := do
  let path ← queuedPayloadPath cfg c.row.payloadPath
  let payload ← orRaise (s.files path) .fileNotFoundError
  raiseIf (¬c.row.Matches cfg payload) (.osError "archive queue payload checksum mismatch")
  .ok path

def renew (s : QueueState) (i : Nat) (d : DrainInput) (rest : List Nat) (c : Claim) (path : Path) (digest : String)
    (x : Reading) : QueueState :=
  let renewed := renewClaim s.db d c x.now
  { s.goto i (if renewed.1 then .verifying d rest c path digest else .draining d rest) with db := renewed.2 }

/-- The checks on what the provider returned. -/
def checkReadback (c : Claim) (digest : String) (stored : Bytes) : Except ArchiveError Unit := do
  raiseIf (digest ≠ c.row.contentHash) (.osError "archive provider checksum mismatch")
  raiseIf (c.row.byteSize < 1) (.valueError "archive read limit must be positive")
  raiseIf (c.row.byteSize < stored.length) (.payloadLimitError "archive object exceeds the configured read limit")
  raiseIf (¬c.row.Matches cfg stored) (.integrityError "archive provider readback checksum mismatch")

def verify (s : QueueState) (i : Nat) (d : DrainInput) (rest : List Nat) (c : Claim) (path : Path) (digest : String)
    (x : Reading) : QueueState :=
  match checkReadback cfg c digest x.stored with
  | .ok _ =>
    { s.goto i (.completing d rest c path) with
      readbacks := s.readbacks ++ [⟨c.token, c.row.objectKey, x.stored⟩] }
  | .error e => s.goto i (.failing d rest c e)

def fail (s : QueueState) (i : Nat) (d : DrainInput) (rest : List Nat) (c : Claim) (error : ArchiveError)
    (x : Reading) : QueueState :=
  match failTransfer s.db d c error x.now x.clock with
  | .ok db' => { s.goto i (.draining d rest) with db := db' }
  | .error _ => s.goto i .idle

def complete (s : QueueState) (i : Nat) (d : DrainInput) (rest : List Nat) (c : Claim) (path : Path) (x : Reading) :
    QueueState :=
  match completeTransfer s.db d c x.now x.clock with
  | .ok (true, db') => { s.goto i (.unlinking d rest path) with db := db' }
  | .ok (false, db') => { s.goto i (.draining d rest) with db := db' }
  | .error _ => s.goto i .idle

/-- The cleanup of one row up to its unlink, which happens under the lock. -/
def beginRemoval (s : QueueState) (i : Nat) (transferId : Nat) (recorded : Path) (rows : List (Nat × Path)) :
    QueueState :=
  match queuedPayloadPath cfg recorded with
  | .ok path =>
    if stillUploaded s.db transferId recorded then { s.goto i (.removing path rows) with lock := some i }
    else s.goto i (.cleaning rows)
  | .error _ => s.goto i (.cleaning rows)

/-- The next step of a worker. An exception outside the upload's `try` ends the call. -/
def advance (s : QueueState) (i : Nat) (x : Reading) : QueueState :=
  match s.phases[i]?, x.raised with
  | none, _ => s
  | some .idle, _ => s
  | some (.staging g), none => (s.write g.path (some g.input.payload)).goto i (.staged g)
  | some (.staging _), some _ => (s.release i).goto i .idle
  | some (.staged g), none => endEnqueue cfg s i g
  | some (.staged _), some _ => (s.release i).goto i .idle
  | some (.recovering d now n), none => s.transact (recover s i d now n x)
  | some (.selecting d now), none => s.goto i (.draining d (candidates s.db d.limit now))
  | some (.draining d []), none => s.goto i (.collecting (bounded d.limit 100))
  | some (.draining d (t :: rest)), none => s.transact (claim s i d t rest x)
  | some (.reading d rest c), none =>
    match readPayload cfg s c with
    | .ok path => s.goto i (.putting d rest c path)
    | .error e => s.goto i (.failing d rest c e)
  | some (.reading d rest c), some e => s.goto i (.failing d rest c e)
  | some (.putting d rest c path), none => s.goto i (.renewing d rest c path x.digest)
  | some (.putting d rest c _), some e => s.goto i (.failing d rest c e)
  | some (.renewing d rest c path digest), none => s.transact (renew s i d rest c path digest x)
  | some (.renewing d rest c _ _), some e => s.goto i (.failing d rest c e)
  | some (.verifying d rest c path digest), none => verify cfg s i d rest c path digest x
  | some (.verifying d rest c _ _), some e => s.goto i (.failing d rest c e)
  | some (.failing d rest c error), none => s.transact (fail s i d rest c error x)
  | some (.completing d rest c path), none => s.transact (complete s i d rest c path x)
  | some (.unlinking d rest path), none => (s.write path none).goto i (.draining d rest)
  | some (.unlinking d rest _), some _ => s.goto i (.draining d rest)
  | some (.collecting limit), none => s.goto i (.cleaning (cleanupRows s.db limit))
  | some (.cleaning []), none => s.goto i .idle
  | some (.cleaning ((t, path) :: rows)), none => s.transact (beginRemoval cfg s i t path rows)
  | some (.cleaning (_ :: rows)), some _ => s.goto i (.cleaning rows)
  | some (.removing path rows), none => ((s.write path none).release i).goto i (.cleaning rows)
  | some (.removing _ rows), some _ => (s.release i).goto i (.cleaning rows)
  | some _, some _ => s.goto i .idle

def queueStep (s : QueueState) : QueueAction → QueueState
  | .enqueue i input now =>
    match s.phases[i]? with
    | some .idle => s.transact (beginEnqueue cfg s i input now)
    | _ => s
  | .drain i d now =>
    match s.phases[i]? with
    | some .idle => beginDrain s i d now
    | _ => s
  | .cleanupUploadedPayloads i limit =>
    match s.phases[i]? with
    | some .idle => s.goto i (.collecting limit)
    | _ => s
  | .advance i x => advance cfg s i x
  | .crash i => (s.release i).goto i .idle

/-- Any number of workers on an empty queue. -/
def QueueState.Initial (s : QueueState) : Prop :=
  s.db.transfers.rows = [] ∧ s.lock = none ∧ s.readbacks = [] ∧ ∀ p ∈ s.phases, p = .idle

def queue : Machine QueueState QueueAction := ⟨QueueState.Initial, queueStep cfg⟩

end Noyra.Archive
