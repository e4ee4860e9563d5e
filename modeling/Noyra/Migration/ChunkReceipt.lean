import Mathlib.Logic.Function.Basic
import Noyra.Lib.Document
import Noyra.Lib.Machine
import Noyra.Lib.Program
import Noyra.Migration.Authentication

/-!
# Receipt of artifact chunks

`MigrationAgent.receive_chunk` collects the chunks of an artifact in a session directory, assembles them once all are
there and stores the manifest last. It is a program over the files of `incoming`, so that the agent may be stopped
between any two file operations. Calls hold the agent's lock and run one after the other; expired files are removed
in between.
-/

namespace Noyra.Migration.Chunks
open Noyra.Lib Noyra.Lib.Document

/-- JSON, its bytes on disk, and hashing. -/
structure ChunkConfig extends Codec where
  encode : Text → Bytes
  /-- The text of an object ends where the object does. -/
  encode_complete : ∀ x y, keyed (.obj x) = true → keyed (.obj y) = true →
    encode (dumps (.obj x)) <+: encode (dumps (.obj y)) → (Document.obj x).sorted = (Document.obj y).sorted
  /-- `json.loads(path.read_text(encoding="utf-8"))`. -/
  readJson : Bytes → Option Document
  sha256 : Bytes → String
  sha256_injective : Function.Injective sha256
  /-- The checks of `_validate_manifest` on other fields. -/
  otherChecks : Entries → Bool
  maxIncomingFiles : Nat
  maxIncomingBytes : Nat

variable (cfg : ChunkConfig)

inductive ReceiveError
  | valueError (message : String)
  | osError

def isIdStart (c : Char) : Bool := 'A' ≤ c && c ≤ 'Z' || 'a' ≤ c && c ≤ 'z' || '0' ≤ c && c ≤ '9'

/-- `_ARTIFACT_ID`. -/
def isArtifactId (s : String) : Bool :=
  match s.toList with
  | [] => false
  | c :: rest => isIdStart c && rest.all (fun c => isIdStart c || c = '_' || c = '.' || c = '-') && rest.length ≤ 127

/-- What `_validate_manifest` returns. -/
structure Manifest where
  values : Entries
  keyed : keyed (.obj values) = true
  artifactId : String
  reads_id : get? values "artifact_id" = some (.str artifactId)
  valid_id : isArtifactId artifactId = true
  byteSize : Nat
  reads_size : get? values "byte_size" = some (.int byteSize)

def maxArtifactBytes : Nat := 10 * 1024 * 1024 * 1024

/-- `_validate_manifest`. -/
def validateManifest (manifest : { x : Entries // keyed (.obj x) = true }) : Except ReceiveError Manifest :=
  let values := sortKeys (manifest.1.map (fun e => (e.1, sorted e.2)))
  let hkeyed : keyed (.obj values) = true := by
    have h := keyed_sorted (.obj manifest.1) manifest.2
    rwa [sorted_obj] at h
  if 32 < manifest.1.length then .error (.valueError "migration manifest is invalid")
  else if 1000000 < (cfg.encode (cfg.dumps (.obj values))).length then .error
    (.valueError "migration manifest is too large")
  else
    match hid : get? values "artifact_id" with
    | some (.str artifactId) =>
      if hvalid : isArtifactId artifactId = true then
        match hsize : get? values "byte_size" with
        | some (.int (.ofNat byteSize)) =>
          if maxArtifactBytes < byteSize then .error (.valueError "migration artifact metadata is invalid")
          else
            match get? values "artifact_sha256" with
            | none | some .null =>
              if cfg.otherChecks values = true then .ok ⟨values, hkeyed, artifactId, hid, hvalid, byteSize, hsize⟩
              else .error (.valueError "migration manifest is invalid")
            | some (.str digest) =>
              if isHexDigest digest = false then .error (.valueError "migration artifact digest is invalid")
              else if cfg.otherChecks values = true then .ok ⟨values, hkeyed, artifactId, hid, hvalid, byteSize, hsize⟩
              else .error (.valueError "migration manifest is invalid")
            | some _ => .error (.valueError "migration artifact digest is invalid")
        | _ => .error (.valueError "migration artifact metadata is invalid")
      else .error (.valueError "migration artifact path or id is invalid")
    | _ => .error (.valueError "migration artifact path or id is invalid")

namespace Manifest

variable (m : Manifest)

/-- `canonical_json(values).encode("utf-8")`. -/
def bytes : Bytes := cfg.encode (cfg.dumps (.obj m.values))

/-- `content_hash(values)`. -/
def digest : String := cfg.sha256 (m.bytes cfg)

/-- `values["artifact_sha256"]`. -/
def artifactSha256 : Option Document := get? m.values "artifact_sha256"

def manifestName : String := m.artifactId ++ ".json"

def artifactName : String := m.artifactId ++ ".artifact"

def temporaryName : String := "." ++ m.artifactId ++ ".artifact"

def sessionName : String := "." ++ m.artifactId ++ ".chunks"

end Manifest

inductive Node
  | file (content : Bytes)
  | folder (files : String → Option Bytes)

abbrev Incoming : Type := String → Option Node

inductive Place
  | top (name : String)
  | inside (folder name : String)

namespace Incoming

variable (d : Incoming)

def isFile (name : String) : Bool :=
  match d name with
  | some (.file _) => true
  | _ => false

def read : Place → Option Bytes
  | .top name =>
    match d name with
    | some (.file content) => some content
    | _ => none
  | .inside folder name =>
    match d folder with
    | some (.folder files) => files name
    | _ => none

/-- Write or remove one file; a file is only written into a directory that is there. -/
def put (place : Place) (content : Option Bytes) : Incoming :=
  match place with
  | .top name => Function.update d name (content.map .file)
  | .inside folder name =>
    match d folder with
    | some (.folder files) => Function.update d folder (some (.folder (Function.update files name content)))
    | _ => d

/-- What is left of a directory. -/
def thin (name : String) (survive : String → Bool) : Incoming :=
  match d name with
  | some (.folder files) =>
    Function.update d name (some (.folder (fun file => if survive file then files file else none)))
  | _ => d

def remove (name : String) : Incoming := Function.update d name none

end Incoming

inductive FileCommand
  | look
  /-- `_incoming_usage`. -/
  | usage
  | mkdir (name : String)
  /-- `os.open(path, O_WRONLY | O_CREAT | O_EXCL)`. -/
  | create (place : Place)
  | write (place : Place) (content : Bytes)
  | unlink (place : Place)
  /-- `path.open("wb")` and the writes to it. -/
  | overwrite (name : String) (content : Bytes)
  | replace (source target : String)
  | rmtree (name : String)

inductive FileReply
  | listing (d : Incoming)
  | used (files bytes : Nat)
  | done
  | failed

/-- How an operation fails: before it did anything, or in the middle. -/
inductive Fault
  | none
  | before
  | during

/-- What the environment chooses for one operation. -/
structure FileChoice where
  fault : Fault
  files : Nat
  bytes : Nat
  written : Nat
  survive : String → Bool

def fileStep (command : FileCommand) (x : FileChoice) (d : Incoming) : Incoming × FileReply :=
  match command with
  | .look => (d, .listing d)
  | .usage => (d, .used x.files x.bytes)
  | .mkdir name =>
    match x.fault, d name with
    | .none, none => (Function.update d name (some (.folder (fun _ => none))), .done)
    | .none, some (.folder _) => (d, .done)
    | _, _ => (d, .failed)
  | .create place =>
    match x.fault, d.read place with
    | .none, none => (d.put place (some []), .done)
    | _, _ => (d, .failed)
  | .write place content =>
    match x.fault with
    | .none => (d.put place (some content), .done)
    | .before => (d, .failed)
    | .during => (d.put place (some (content.take x.written)), .failed)
  | .unlink place =>
    match x.fault with
    | .none => (d.put place none, .done)
    | _ => (d, .failed)
  | .overwrite name content =>
    match x.fault with
    | .none => (d.put (.top name) (some content), .done)
    | .before => (d, .failed)
    | .during => (d.put (.top name) (some (content.take x.written)), .failed)
  | .replace source target =>
    match x.fault with
    | .none => (Function.update (Function.update d target (d source)) source none, .done)
    | _ => (d, .failed)
  | .rmtree name =>
    match x.fault with
    | .none => (d.remove name, .done)
    | .before => (d, .failed)
    | .during => (d.thin name x.survive, .failed)

abbrev Script (α : Type) : Type := Program FileCommand FileReply ReceiveError α

/-- An operation without a result. -/
def act (command : FileCommand) : Script Unit :=
  .perform command (fun
    | .done => pure ()
    | _ => .raise .osError)

def look : Script Incoming :=
  .perform .look (fun
    | .listing d => pure d
    | _ => .raise .osError)

/-- The check of the quota before a file is added. -/
def checkQuota (files bytes : Nat) : Script Unit :=
  .perform .usage (fun
    | .used fileCount byteCount =>
      if cfg.maxIncomingFiles < fileCount + files ∨ cfg.maxIncomingBytes < byteCount + bytes then
        .raise (.valueError "migration incoming quota exceeded")
      else pure ()
    | _ => .raise .osError)

/-- `_write_private_bytes`. -/
def writePrivateBytes (place : Place) (content : Bytes) : Script Unit := do
  act (.create place)
  (act (.write place content)).tryExcept (fun e => do
    act (.unlink place)
    .raise e)

/-- A validated call of `receive_chunk`. -/
structure ChunkRequest where
  manifest : Manifest
  chunkIndex : Nat
  chunkCount : Nat
  chunkBytes : Nat
  chunk : Bytes

structure ChunkReceipt where
  artifactId : String
  manifestDigest : String
  byteSize : Nat
  chunkIndex : Nat
  chunkCount : Nat
  received : Nat
  complete : Bool

/-- `f"{index:08d}.part"`. -/
def partName (index : Nat) : String :=
  String.ofList (List.replicate (8 - (Nat.toDigits 10 index).length) '0' ++ Nat.toDigits 10 index) ++ ".part"

namespace ChunkRequest

variable (p : ChunkRequest)

def metadata : Document :=
  .obj [("manifest", .obj p.manifest.values), ("manifest_digest", .str (p.manifest.digest cfg)),
    ("chunk_count", .int p.chunkCount), ("chunk_bytes", .int p.chunkBytes)]

/-- The metadata of the session is compared or written. -/
def bindSession : Script Unit := do
  let d ← look
  match d.read (.inside p.manifest.sessionName "manifest.json") with
  | some content =>
    match cfg.readJson content with
    | none => .raise (.valueError "migration chunk session metadata is invalid")
    | some existing =>
      if existing.eq (p.metadata cfg) = true then pure ()
      else .raise (.valueError "migration chunk session binding mismatch")
  | none => do
    checkQuota cfg 2 ((cfg.encode (cfg.dumps (p.metadata cfg))).length + p.chunk.length)
    writePrivateBytes (.inside p.manifest.sessionName "manifest.json") (cfg.encode (cfg.dumps (p.metadata cfg)))

def storePart : Script Unit := do
  let d ← look
  match d.read (.inside p.manifest.sessionName (partName p.chunkIndex)) with
  | some content =>
    if content = p.chunk then pure () else .raise (.valueError "migration chunk conflicts with an existing chunk")
  | none => do
    checkQuota cfg 1 p.chunk.length
    writePrivateBytes (.inside p.manifest.sessionName (partName p.chunkIndex)) p.chunk

/-- The parts that are there, in the order of their indexes. -/
def parts (d : Incoming) : List Bytes :=
  (List.range p.chunkCount).filterMap (fun index => d.read (.inside p.manifest.sessionName (partName index)))

/-- The assembly of a complete session. -/
def assemble (parts : List Bytes) : Script Unit := do
  let body : Script Unit := do
    act (.overwrite p.manifest.temporaryName parts.flatten)
    if parts.flatten.length ≠ p.manifest.byteSize ∨
      p.manifest.artifactSha256 ≠ some (.str (cfg.sha256 parts.flatten)) then
      .raise (.valueError "migration artifact digest mismatch")
    else do
      act (.replace p.manifest.temporaryName p.manifest.artifactName)
      writePrivateBytes (.top p.manifest.manifestName) (p.manifest.bytes cfg)
  body.tryExcept (fun e => do
    act (.unlink (.top p.manifest.temporaryName))
    .raise e)
  act (.rmtree p.manifest.sessionName)

def receipt (received : Nat) (complete : Bool) : ChunkReceipt :=
  ⟨p.manifest.artifactId, p.manifest.digest cfg, p.manifest.byteSize, p.chunkIndex, p.chunkCount, received, complete⟩

/-- `receive_chunk` under the lock, after the removal of expired files. -/
def receive : Script ChunkReceipt := do
  let d ← look
  if d.isFile p.manifest.manifestName = true ∧ d.isFile p.manifest.artifactName = true then
    pure (p.receipt cfg p.chunkCount true)
  else do
    act (.mkdir p.manifest.sessionName)
    p.bindSession cfg
    p.storePart cfg
    let d ← look
    if (p.parts d).length = p.chunkCount then do
      p.assemble cfg (p.parts d)
      pure (p.receipt cfg (p.parts d).length true)
    else pure (p.receipt cfg (p.parts d).length false)

end ChunkRequest

def maxChunks : Nat := 2000000

def maxChunkBytes : Nat := 4 * 1024 * 1024

/-- The arguments of `receive_chunk`. -/
structure ChunkInput where
  manifest : { x : Entries // keyed (.obj x) = true }
  /-- Whether the volume probe finds the data root encrypted. -/
  encrypted : Bool
  chunkIndex : Int
  chunkCount : Int
  chunkBytes : Int
  chunkSha256 : String
  chunk : Bytes

/-- `receive_chunk` before it takes the lock. -/
def acceptChunk (p : ChunkInput) : Except ReceiveError ChunkRequest := do
  let manifest ← validateManifest cfg p.manifest
  raiseIf (p.encrypted = false) (.valueError "migration encrypted volume requirement failed")
  raiseIf (p.chunkIndex < 0) (.valueError "migration chunk index is invalid")
  raiseIf (¬(1 ≤ p.chunkCount ∧ p.chunkCount ≤ maxChunks)) (.valueError "migration chunk count is invalid")
  raiseIf (¬(4096 ≤ p.chunkBytes ∧ p.chunkBytes ≤ maxChunkBytes)) (.valueError "migration chunk size is invalid")
  raiseIf (manifest.byteSize < 1) (.valueError "migration artifact byte size is invalid")
  raiseIf (p.chunkCount ≠ (manifest.byteSize + p.chunkBytes - 1) / p.chunkBytes ∨ p.chunkCount ≤ p.chunkIndex)
    (.valueError "migration chunk layout is invalid")
  raiseIf (¬(1 ≤ p.chunk.length ∧ p.chunk.length ≤ p.chunkBytes)) (.valueError "migration chunk bytes are invalid")
  raiseIf (isHexDigest p.chunkSha256 = false) (.valueError "migration chunk digest is invalid")
  raiseIf (cfg.sha256 p.chunk ≠ p.chunkSha256) (.valueError "migration chunk digest mismatch")
  raiseIf (manifest.artifactSha256 = none) (.valueError "migration artifact digest is required for chunked transfer")
  .ok ⟨manifest, p.chunkIndex.toNat, p.chunkCount.toNat, p.chunkBytes.toNat, p.chunk⟩

/-- A chunk that a session has accepted. -/
structure Delivery where
  artifactId : String
  index : Nat
  chunk : Bytes

/-- A receipt, with the files it was returned over and what its session had accepted before. -/
structure Answer where
  request : ChunkRequest
  receipt : ChunkReceipt
  incoming : Incoming
  delivered : List Delivery

structure ChunkState where
  incoming : Incoming
  /-- The deliveries to the sessions that are live; the source keeps no such list. -/
  delivered : List Delivery
  /-- Every receipt returned so far. -/
  answers : List Answer

inductive ChunkAction
  /-- A call, stopped where its choices end. -/
  | call (p : ChunkInput) (choices : List FileChoice)
  /-- `cleanup_expired` removes an expired manifest, and its artifact unless it is stopped or fails. -/
  | expireManifest (artifactId : String) (both : Bool)
  /-- `cleanup_expired` removes an expired session, or a part of it. -/
  | expireSession (artifactId : String) (survive : Option (String → Bool))

def chunkStep (s : ChunkState) : ChunkAction → ChunkState
  | .call p choices =>
    match acceptChunk cfg p with
    | .error _ => s
    | .ok request =>
      let (incoming, outcome) := (request.receive cfg).run fileStep choices s.incoming
      let others := s.delivered.filter (fun e => e.artifactId ≠ request.manifest.artifactId)
      match outcome with
      | some (.ok receipt) =>
        { incoming
          -- a session ends with the manifest of its artifact
          delivered := if incoming.isFile request.manifest.manifestName = true then others
            else s.delivered ++ [⟨request.manifest.artifactId, request.chunkIndex, request.chunk⟩]
          answers := s.answers ++ [⟨request, receipt, incoming, s.delivered⟩] }
      | _ =>
        { s with
          incoming
          delivered := if incoming.isFile request.manifest.manifestName = true then others else s.delivered }
  | .expireManifest artifactId both =>
    let incoming := s.incoming.put (.top (artifactId ++ ".json")) none
    { s with incoming := if both then incoming.put (.top (artifactId ++ ".artifact")) none else incoming }
  | .expireSession artifactId survive =>
    { s with
      incoming := match survive with
        | none => s.incoming.remove ("." ++ artifactId ++ ".chunks")
        | some survive => s.incoming.thin ("." ++ artifactId ++ ".chunks") survive
      delivered := s.delivered.filter (fun e => e.artifactId ≠ artifactId) }

def chunkMachine : Machine ChunkState ChunkAction where
  init s := s = ⟨fun _ => none, [], []⟩
  step := chunkStep cfg

end Noyra.Migration.Chunks
