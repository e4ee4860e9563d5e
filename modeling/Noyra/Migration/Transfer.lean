import Mathlib.Data.List.Infix
import Mathlib.Logic.Function.Basic
import Noyra.Lib.Outcome
import Noyra.Lib.Stream
import Noyra.Migration.Authentication

/-!
# Transfer of artifacts

`TransferSession` copies a file in chunks and can be stopped and resumed; `EncryptedTransferSession` writes a stream
of framed, encrypted chunks and reads it back against the receipt. Paths are resolved, SHA-256 and the cipher are
parameters.
-/

namespace Noyra.Migration.Transfer
open Noyra.Lib Noyra.Lib.Stream

def maxArtifactBytes : Nat := 10 * 1024 * 1024 * 1024

def maxChunks : Nat := 2000000

/-- `b"NOYRA-ENC1"`. -/
def encryptedMagic : Bytes := [78, 79, 89, 82, 65, 45, 69, 78, 67, 49]

/-- The parts of an absolute path. -/
abbrev Path := List String

/-- The regular files. -/
abbrev Files := Path → Option Bytes

inductive TransferError
  | valueError (message : String)
  deriving DecidableEq

structure TransferConfig where
  /-- `hashlib.sha256(data).hexdigest()`. -/
  sha256 : Bytes → String
  sha256_injective : Function.Injective sha256

variable (cfg : TransferConfig)

/-- `_validate_paths`. -/
def validatePaths (source destination : Path) : Except TransferError Unit := do
  raiseIf (".." ∈ destination) (.valueError "destination path cannot contain parent traversal")
  raiseIf (source = destination) (.valueError "source and destination must differ")
  raiseIf (destination.getLast?.getD "" ∈ ["", ".", ".."]) (.valueError "destination path is invalid")

structure TransferReceipt where
  source : Path
  destination : Path
  byteSize : Nat
  chunkBytes : Nat
  nextChunk : Nat
  chunkHashes : List String
  artifactHash : String
  complete : Bool

structure TransferSession where
  chunkBytes : Nat
  lower : 4096 ≤ chunkBytes
  upper : chunkBytes ≤ 64 * 1024 * 1024

inductive Ending
  | tooMany
  | stopped
  | finished
  deriving DecidableEq

/-- How a loop over chunks ended, and what it had hashed and written by then. -/
structure Sent where
  ending : Ending
  index : Nat
  chunkHashes : List String
  written : Bytes

/-- The loop of `send`. -/
def sendLoop (stop : Option Nat) : List Bytes → Nat → List String → Bytes → Sent
  | [], index, chunkHashes, written => ⟨.finished, index, chunkHashes, written⟩
  | chunk :: rest, index, chunkHashes, written =>
    if maxChunks < index + 1 then ⟨.tooMany, index + 1, chunkHashes ++ [cfg.sha256 chunk], written ++ chunk⟩
    else if stop.any (fun n => n ≤ index + 1) = true then
      ⟨.stopped, index + 1, chunkHashes ++ [cfg.sha256 chunk], written ++ chunk⟩
    else sendLoop stop rest (index + 1) (chunkHashes ++ [cfg.sha256 chunk]) (written ++ chunk)

/-- The loop of `resume`. -/
def resumeLoop : List Bytes → List String → Bytes → Sent
  | [], chunkHashes, written => ⟨.finished, chunkHashes.length, chunkHashes, written⟩
  | chunk :: rest, chunkHashes, written =>
    if maxChunks ≤ chunkHashes.length then ⟨.tooMany, chunkHashes.length, chunkHashes, written⟩
    else resumeLoop rest (chunkHashes ++ [cfg.sha256 chunk]) (written ++ chunk)

namespace TransferSession

variable (session : TransferSession)

/-- `send` before it opens the files. -/
def checkSend (source destination : Path) (stopAfterChunks : Option Int) (fs : Files) : Except TransferError Bytes := do
  validatePaths source destination
  let data ← orRaise (fs source) (.valueError "source must be a regular file")
  raiseIf (maxArtifactBytes < data.length) (.valueError "artifact exceeds size limit")
  raiseIf (stopAfterChunks.any (fun n => n < 1) = true) (.valueError "stop chunk count is invalid")
  .ok data

def send (source destination : Path) (stopAfterChunks : Option Int) (fs : Files) :
    Except TransferError TransferReceipt × Files :=
  match checkSend source destination stopAfterChunks fs with
  | .error e => (.error e, fs)
  | .ok data =>
    let sent := sendLoop cfg (stopAfterChunks.map Int.toNat) (reads session.chunkBytes data) 0 [] []
    let fs := Function.update fs destination (some sent.written)
    match sent.ending with
    | .tooMany => (.error (.valueError "artifact has too many chunks"), fs)
    | .stopped =>
      (.ok ⟨source, destination, data.length, session.chunkBytes, sent.index, sent.chunkHashes, "", false⟩, fs)
    | .finished =>
      (.ok ⟨source, destination, data.length, session.chunkBytes, sent.index, sent.chunkHashes,
        cfg.sha256 sent.written, true⟩, fs)

end TransferSession

namespace TransferReceipt

variable (receipt : TransferReceipt)

/-- `min(next_chunk * chunk_bytes, byte_size)`. -/
def expectedPrefix : Nat := min (receipt.nextChunk * receipt.chunkBytes) receipt.byteSize

/-- The chunks of the prefix are the hashed ones, and the destination holds them. -/
def prefixMatches (chunkBytes : Nat) : List String → Bytes → Bytes → Bool
  | [], _, _ => true
  | expectedHash :: rest, source, destination =>
    let chunk := source.take chunkBytes
    cfg.sha256 chunk = expectedHash && destination.take chunk.length = chunk &&
      prefixMatches chunkBytes rest (source.drop chunkBytes) (destination.drop chunk.length)

/-- `resume` before it appends. -/
def checkResume (fs : Files) : Except TransferError (Bytes × Bytes) := do
  validatePaths receipt.source receipt.destination
  let data ← orRaise (fs receipt.source) (.valueError "transfer source is unavailable")
  raiseIf (receipt.nextChunk ≠ receipt.chunkHashes.length ∨ maxChunks < receipt.nextChunk)
    (.valueError "transfer source is unavailable")
  raiseIf (data.length ≠ receipt.byteSize) (.valueError "transfer resume prefix is invalid")
  raiseIf (¬(4096 ≤ receipt.chunkBytes ∧ receipt.chunkBytes ≤ 64 * 1024 * 1024) ∨ maxArtifactBytes < receipt.byteSize ∨
      (receipt.byteSize + receipt.chunkBytes - 1) / receipt.chunkBytes < receipt.nextChunk)
    (.valueError "transfer resume receipt is invalid")
  let written ← orRaise (fs receipt.destination) (.valueError "transfer resume prefix is invalid")
  raiseIf (written.length ≠ receipt.expectedPrefix) (.valueError "transfer resume prefix is invalid")
  raiseIf (prefixMatches cfg receipt.chunkBytes receipt.chunkHashes data written = false)
    (.valueError "transfer resume prefix is invalid")
  .ok (data, written)

def resume (fs : Files) : Except TransferError TransferReceipt × Files :=
  match receipt.checkResume cfg fs with
  | .error e => (.error e, fs)
  | .ok (data, written) =>
    let sent := resumeLoop cfg (reads receipt.chunkBytes (data.drop receipt.expectedPrefix)) receipt.chunkHashes written
    let fs := Function.update fs receipt.destination (some sent.written)
    match sent.ending with
    | .finished =>
      (.ok { receipt with
          nextChunk := sent.index
          chunkHashes := sent.chunkHashes
          artifactHash := cfg.sha256 (reads receipt.chunkBytes data).flatten
          complete := true }, fs)
    | _ => (.error (.valueError "artifact has too many chunks"), fs)

/-- `verify`. -/
def verify (fs : Files) : Except TransferError Unit := do
  raiseIf (receipt.complete = false) (.valueError "transfer is incomplete")
  let data ← orRaise (fs receipt.destination) (.valueError "transfer is incomplete")
  raiseIf (data.length ≠ receipt.byteSize) (.valueError "transfer byte size mismatch")
  raiseIf (cfg.sha256 data ≠ receipt.artifactHash) (.valueError "transfer artifact hash mismatch")

end TransferReceipt

/-- `resume(send(source, destination, stop_after_chunks=n))`. -/
def TransferSession.sendAndResume (session : TransferSession) (source destination : Path) (n : Int) (fs : Files) :
    Except TransferError TransferReceipt × Files :=
  match session.send cfg source destination (some n) fs with
  | (.error e, fs) => (.error e, fs)
  | (.ok receipt, fs) => receipt.resume cfg fs

/-- ChaCha20-Poly1305 under the key of the session, by nonce, data and associated data. -/
structure Cipher where
  encrypt : Bytes → Bytes → Bytes → Bytes
  decrypt : Bytes → Bytes → Bytes → Option Bytes
  decrypt_encrypt : ∀ nonce data aad, decrypt nonce (encrypt nonce data aad) aad = some data
  /-- Only what was encrypted decrypts. -/
  encrypt_of_decrypt : ∀ nonce sealed aad data, decrypt nonce sealed aad = some data → sealed = encrypt nonce data aad
  length_encrypt : ∀ nonce data aad, (encrypt nonce data aad).length = data.length + 16

structure EncryptedTransferReceipt where
  source : Path
  destination : Path
  byteSize : Nat
  chunkBytes : Nat
  chunkCount : Nat
  chunkHashes : List String
  artifactHash : String
  manifestDigest : String
  noncePrefix : Bytes
  complete : Bool

structure EncryptedTransferSession where
  cipher : Cipher
  chunkBytes : Nat
  lower : 4096 ≤ chunkBytes
  upper : chunkBytes ≤ 64 * 1024 * 1024

/-- `secrets.token_bytes(8)`. -/
abbrev NoncePrefix := { token : Bytes // token.length = 8 }

/-- `f"{manifest_digest}:{index}".encode()`. -/
def associatedData (manifestDigest : String) (index : Nat) : Bytes := bytes (manifestDigest ++ ":" ++ toString index)

/-- `_validate_digest`. -/
def validateDigest (manifestDigest : String) : Except TransferError Unit :=
  raiseIf (isHexDigest manifestDigest = false) (.valueError "manifest digest is invalid")

namespace EncryptedTransferSession

variable (session : EncryptedTransferSession)

/-- The encrypted chunk with an index. -/
def sealChunk (manifestDigest : String) (noncePrefix : Bytes) (index : Nat) (chunk : Bytes) : Bytes :=
  session.cipher.encrypt (noncePrefix ++ be32 index) chunk (associatedData manifestDigest index)

/-- The loop of `send`. -/
def encryptLoop (manifestDigest : String) (noncePrefix : Bytes) : List Bytes → Nat → List String → Bytes → Sent
  | [], index, chunkHashes, written => ⟨.finished, index, chunkHashes, written⟩
  | chunk :: rest, index, chunkHashes, written =>
    if maxChunks ≤ index then ⟨.tooMany, index, chunkHashes, written⟩
    else
      let encrypted := session.sealChunk manifestDigest noncePrefix index chunk
      encryptLoop manifestDigest noncePrefix rest (index + 1) (chunkHashes ++ [cfg.sha256 chunk])
        (written ++ be32 encrypted.length ++ encrypted)

def checkSend (source destination : Path) (manifestDigest : String) (fs : Files) : Except TransferError Bytes := do
  validateDigest manifestDigest
  validatePaths source destination
  let data ← orRaise (fs source) (.valueError "source must be a regular file")
  raiseIf (maxArtifactBytes < data.length) (.valueError "artifact exceeds size limit")
  .ok data

/-- The magic, the chunk size and the random part of the nonces. -/
def header (noncePrefix : Bytes) : Bytes := encryptedMagic ++ be32 session.chunkBytes ++ noncePrefix

def send (source destination : Path) (manifestDigest : String) (noncePrefix : NoncePrefix) (fs : Files) :
    Except TransferError EncryptedTransferReceipt × Files :=
  match checkSend source destination manifestDigest fs with
  | .error e => (.error e, fs)
  | .ok data =>
    let sent := session.encryptLoop cfg manifestDigest noncePrefix.1 (reads session.chunkBytes data) 0 []
      (session.header noncePrefix.1)
    let fs := Function.update fs destination (some sent.written)
    match sent.ending with
    | .finished =>
      (.ok ⟨source, destination, data.length, session.chunkBytes, sent.index, sent.chunkHashes,
          cfg.sha256 (reads session.chunkBytes data).flatten, manifestDigest, noncePrefix.1, true⟩, fs)
    | _ => (.error (.valueError "artifact has too many chunks"), fs)

/-- What is raised while a stream is read. -/
inductive ReadFailure
  | valueError (message : String)
  | structError
  | invalidTag

/-- The error that `receive` reports instead. -/
def ReadFailure.reported : ReadFailure → TransferError
  | .valueError message =>
    if "manifest".toList <:+: message.toList then .valueError message else .valueError
      "encrypted transfer decrypt failed"
  | _ => .valueError "encrypted transfer decrypt failed"

/-- The loop of `receive`, over the hashes that are still expected. -/
def decryptLoop (manifestDigest : String) (noncePrefix : Bytes) (chunkBytes : Nat) :
    List String → Nat → Bytes → Bytes → Except ReadFailure Bytes
  | [], _, source, written => do
    raiseIf (source ≠ []) (.valueError "encrypted transfer has trailing data")
    .ok written
  | expectedHash :: rest, count, source, written => do
    raiseIf ((source.take 4).length ≠ 4) (.valueError "encrypted transfer is truncated")
    let length ← orRaise (unbe32 (source.take 4)) .structError
    raiseIf (length < 16 ∨ chunkBytes + 16 < length) (.valueError "encrypted transfer chunk length is invalid")
    let encrypted := (source.drop 4).take length
    let chunk ← orRaise (session.cipher.decrypt (noncePrefix ++ be32 count)
      encrypted (associatedData manifestDigest count)) .invalidTag
    raiseIf (cfg.sha256 chunk ≠ expectedHash) (.valueError "encrypted transfer chunk hash mismatch")
    decryptLoop manifestDigest noncePrefix chunkBytes rest (count + 1) ((source.drop 4).drop length) (written ++ chunk)

/-- What `receive` reads from the stream. -/
def decryptStream (receipt : EncryptedTransferReceipt) (manifestDigest : String) (source : Bytes) :
    Except ReadFailure Bytes := do
  raiseIf (source.take 10 ≠ encryptedMagic) (.valueError "encrypted transfer header is invalid")
  let chunkBytes ← orRaise (unbe32 ((source.drop 10).take 4)) .structError
  raiseIf (chunkBytes ≠ receipt.chunkBytes) (.valueError "encrypted transfer chunk size mismatch")
  raiseIf ((source.drop 14).take 8 ≠ receipt.noncePrefix) (.valueError "encrypted transfer nonce mismatch")
  let data ← session.decryptLoop cfg manifestDigest receipt.noncePrefix chunkBytes receipt.chunkHashes 0
    (source.drop 22) []
  raiseIf (data.length ≠ receipt.byteSize) (.valueError "encrypted transfer byte size mismatch")
  raiseIf (cfg.sha256 data ≠ receipt.artifactHash) (.valueError "encrypted transfer artifact hash mismatch")
  .ok data

/-- `receive` before it opens the stream. -/
def checkReceive (receipt : EncryptedTransferReceipt) (destination : Path) (manifestDigest : String) (fs : Files) :
    Except TransferError Bytes := do
  validateDigest manifestDigest
  raiseIf (receipt.complete = false ∨ receipt.manifestDigest ≠ manifestDigest)
    (.valueError "encrypted transfer manifest mismatch")
  raiseIf (receipt.chunkCount ≠ receipt.chunkHashes.length ∨ maxChunks < receipt.chunkCount)
    (.valueError "encrypted transfer receipt is invalid")
  let source ← orRaise (fs receipt.destination) (.valueError "encrypted transfer source is unavailable")
  raiseIf (maxArtifactBytes * 2 < source.length) (.valueError "encrypted transfer source is unavailable")
  validatePaths receipt.destination destination
  .ok source

/-- The stream is decrypted into a temporary file, which replaces the destination at the end. -/
def receive (receipt : EncryptedTransferReceipt) (destination : Path) (manifestDigest : String) (fs : Files) :
    Except TransferError Unit × Files :=
  match checkReceive receipt destination manifestDigest fs with
  | .error e => (.error e, fs)
  | .ok source =>
    match session.decryptStream cfg receipt manifestDigest source with
    | .error e => (.error e.reported, fs)
    | .ok data => (.ok (), Function.update fs destination (some data))

end EncryptedTransferSession

end Noyra.Migration.Transfer
