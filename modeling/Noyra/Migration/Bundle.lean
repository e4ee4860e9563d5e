import Mathlib.Logic.Function.Basic
import Noyra.Lib.Base64
import Noyra.Lib.JsonText
import Noyra.Lib.Outcome
import Noyra.Lib.Stream

/-!
# Encrypted bundles

`encrypt_bundle` seals a file for the key of a target and describes it in a manifest, `decrypt_bundle` rebuilds the
associated data from the manifest and publishes the plaintext. Both work in one private directory, given by its regular
files; X25519, HKDF, AES-GCM and SHA-256 are parameters.
-/

namespace Noyra.Migration.Bundle
open Noyra.Lib Noyra.Lib.Stream Noyra.Lib.JsonText

abbrev Bytes := List UInt8

/-- The regular files of the private directory. -/
abbrev Files := String → Option Bytes

def bundleFormat : String := "noyra-migration-bundle/v1"

/-- `PAYLOAD_FORMAT` of `subject_payload`. -/
def payloadFormat : String := "noyra-subject-state/v1"

def chunkBytes : Nat := 1024 * 1024

def maxBundleBytes : Nat := 10 * 1024 * 1024 * 1024

def requiredManifestFields : List String :=
  ["format", "task_id", "target_id", "source_epoch", "recipient_key_fingerprint", "ephemeral_public_key", "salt",
    "nonce", "plaintext_size", "plaintext_sha256", "ciphertext_size", "ciphertext_sha256"]

def manifestFields : List String :=
  requiredManifestFields ++ ["artifact_id", "subject_id", "schema_version", "artifact_format", "byte_size",
    "artifact_sha256", "payload_format", "database_sha256", "inventory_sha256"]

/-- Written after the associated data is fixed. -/
def transferFields : List String := ["ciphertext_size", "ciphertext_sha256", "byte_size", "artifact_sha256"]

/-- The fields of the manifest that do not belong to the context. -/
def ownFields : List String :=
  ["format", "recipient_key_fingerprint", "ephemeral_public_key", "salt", "nonce", "plaintext_size",
    "plaintext_sha256"] ++ transferFields

inductive BundleError
  | valueError (message : String)
  | osError
  deriving DecidableEq

/-- Sixty-four characters of `0123456789abcdef`. -/
def isDigest (s : String) : Bool :=
  s.toList.length = 64 && s.toList.all (fun c => ('0' ≤ c && c ≤ '9') || ('a' ≤ c && c ≤ 'f'))

structure BundleConfig where
  floats : Floats
  /-- `hashlib.sha256(data).hexdigest()`. -/
  sha256 : Bytes → String
  sha256_digest : ∀ data, isDigest (sha256 data) = true
  publicKey : Bytes → Bytes
  publicKey_length : ∀ key, (publicKey key).length = 32
  /-- No secret comes out of a point of small order. -/
  exchange : Bytes → Bytes → Option Bytes
  exchange_comm : ∀ a b, exchange a (publicKey b) = exchange b (publicKey a)
  /-- The key of a secret, a salt and an info. -/
  hkdf : Bytes → Bytes → Bytes → Bytes
  /-- The ciphertext and the tag of a key, a nonce, associated data and a plaintext. -/
  gcmSeal : Bytes → Bytes → Bytes → Bytes → Bytes × Bytes
  gcmSeal_length : ∀ key nonce aad data, (gcmSeal key nonce aad data).1.length = data.length
  gcmSeal_tag : ∀ key nonce aad data, (gcmSeal key nonce aad data).2.length = 16
  gcmOpen : Bytes → Bytes → Bytes → Bytes × Bytes → Option Bytes
  gcmOpen_seal : ∀ key nonce aad data, gcmOpen key nonce aad (gcmSeal key nonce aad data) = some data
  /-- `str.isdigit` of one character. -/
  isdigit : Char → Bool
  /-- `str(x)` of what is not a text. -/
  repr : Document → String

variable (cfg : BundleConfig)

def isAlphanumeric (c : Char) : Bool := ('A' ≤ c && c ≤ 'Z') || ('a' ≤ c && c ≤ 'z') || ('0' ≤ c && c ≤ '9')

def reservedSubjectIds : List String :=
  ["aux", "con", "nul", "prn"] ++ (List.range' 1 9).map (fun i => "com" ++ toString i) ++
    (List.range' 1 9).map (fun i => "lpt" ++ toString i)

/-- `validate_subject_id`. -/
def validSubjectId : Document → Bool
  | .str s =>
    3 ≤ s.length && s.length ≤ 128 && (s.toList.head?.any isAlphanumeric) &&
      s.toList.all (fun c => isAlphanumeric c || c = '_' || c = '-') &&
      !(reservedSubjectIds.contains (String.ofList (s.toList.map Char.toLower)))
  | _ => false

/-- `_encode`. -/
def encode (data : Bytes) : String := String.ofList ((Base64.encode data).filter (fun c => c ≠ '='))

/-- `_decode`. -/
def decode (x : Document) (expectedLength : Nat) (label : String) : Except BundleError Bytes :=
  match x with
  | .str s => do
    raiseIf (s = "" ∨ '=' ∈ s.toList) (.valueError ("migration bundle " ++ label ++ " is invalid"))
    let decoded ← orRaise (Base64.decode (s.toList ++ List.replicate ((4 - s.toList.length % 4) % 4) '='))
      (.valueError ("migration bundle " ++ label ++ " is invalid"))
    raiseIf (decoded.length ≠ expectedLength ∨ encode decoded ≠ s)
      (.valueError ("migration bundle " ++ label ++ " is invalid"))
    .ok decoded
  | _ => .error (.valueError ("migration bundle " ++ label ++ " is invalid"))

/-- `canonical_json(dict).encode("utf-8")`. -/
def canonicalBytes (es : Document.Entries) : Bytes := utf8Encode (canonicalJson cfg.floats (.obj es))

/-- `_derive_key`. -/
def deriveKey (secret salt : Bytes) (context : Document.Entries) : Bytes :=
  cfg.hkdf secret salt (utf8Encode bundleFormat.toList ++ 10 :: canonicalBytes cfg context)

/-- `isinstance(value, str)`, not empty and at most 128 characters. -/
def contextValue : Document → Bool
  | .str s => s ≠ "" && s.length ≤ 128
  | _ => false

/-- `_validate_context`. -/
def validateContext (context : Document.Entries) : Except BundleError Unit := do
  raiseIf (["task_id", "target_id", "source_epoch"].all (fun k => (Document.get? context k).isSome) = false ∨
      context.any (fun e => e.1 = "") = true ∨ context.all (fun e => contextValue e.2) = false)
    (.valueError "migration bundle context is invalid")
  raiseIf ((Document.get? context "subject_id").any (fun x => !(validSubjectId x)) = true)
    (.valueError "migration bundle subject is invalid")

/-- `_temporary_path`. -/
def temporaryName (destination token : String) : String := "." ++ destination ++ "." ++ token ++ ".tmp"

/-- A temporary file is written, published under a name that is still free, and removed. -/
def publish (fs : Files) (temporary destination : String) (content : Except BundleError Bytes) :
    Except BundleError Unit × Files :=
  if (fs temporary).isSome = true then (.error .osError, Function.update fs temporary none)
  else
    match content with
    | .error e => (.error e, Function.update fs temporary none)
    | .ok data =>
      if (fs destination).isSome = true then (.error .osError, Function.update fs temporary none)
      else (.ok (), Function.update (Function.update fs destination (some data)) temporary none)

/-- The fresh values of one encryption. -/
structure Draw where
  ephemeral : Bytes
  salt : Bytes
  salt_length : salt.length = 32
  nonce : Bytes
  nonce_length : nonce.length = 12

/-- A call of `encrypt_bundle`: no `source` is not a regular file, and `parent` is what opening the directory raises. -/
structure Encryption where
  source : Option Bytes
  destination : String
  token : String
  recipient : Bytes
  context : Document.Entries
  context_keys : (context.map Prod.fst).Nodup
  draw : Draw
  parent : Except BundleError Unit

/-- The entries after the context. -/
def sealedEntries (recipient : Bytes) (draw : Draw) (data : Bytes) : Document.Entries :=
  [("recipient_key_fingerprint", .str (cfg.sha256 recipient)),
    ("ephemeral_public_key", .str (encode (cfg.publicKey draw.ephemeral))),
    ("salt", .str (encode draw.salt)),
    ("nonce", .str (encode draw.nonce)),
    ("plaintext_size", .int data.length),
    ("plaintext_sha256", .str (cfg.sha256 data))]

def metadata (recipient : Bytes) (draw : Draw) (context : Document.Entries) (data : Bytes) : Document.Entries :=
  Document.update (Document.update [("format", .str bundleFormat)] context) (sealedEntries cfg recipient draw data)

/-- The encryptor over all chunks: ciphertext and tag. -/
def sealBytes (key nonce aad data : Bytes) : Bytes × Bytes := cfg.gcmSeal key nonce aad (reads chunkBytes data).flatten

/-- What `encrypt_bundle` returns. -/
def manifestOf (metadata : Document.Entries) (sealed : Bytes × Bytes) : Document.Entries :=
  Document.update metadata
    [("ciphertext_size", .int (sealed.1.length + sealed.2.length : Nat)),
      ("ciphertext_sha256", .str (cfg.sha256 (sealed.1 ++ sealed.2)))]

namespace Encryption

variable (e : Encryption)

/-- `encrypt_bundle` before it writes: the plaintext and what is written. -/
def prepare (fs : Files) : Except BundleError (Bytes × Bytes × Bytes) := do
  validateContext e.context
  let data ← orRaise e.source (.valueError "migration bundle source must be a regular file")
  raiseIf (¬ (0 < data.length ∧ data.length ≤ maxBundleBytes)) (.valueError "migration bundle size is invalid")
  raiseIf ((fs e.destination).isSome = true) (.valueError "migration bundle destination already exists")
  let secret ← orRaise (cfg.exchange e.draw.ephemeral e.recipient) (.valueError "Error computing shared key.")
  e.parent
  .ok (data, sealBytes cfg (deriveKey cfg secret e.draw.salt e.context) e.draw.nonce
    (canonicalBytes cfg (metadata cfg e.recipient e.draw e.context data)) data)

def encryptBundle (fs : Files) : Except BundleError Document.Entries × Files :=
  match e.prepare cfg fs with
  | .error err => (.error err, fs)
  | .ok (data, sealed) =>
    match publish fs (temporaryName e.destination e.token) e.destination (.ok (sealed.1 ++ sealed.2)) with
    | (.error err, fs) => (.error err, fs)
    | (.ok (), fs) => (.ok (manifestOf cfg (metadata cfg e.recipient e.draw e.context data) sealed), fs)

end Encryption

/-- What the checks of a manifest have read. -/
structure Values where
  plaintextSize : Nat
  ciphertextSize : Nat
  recipientKeyFingerprint : String
  plaintextSha256 : String
  ciphertextSha256 : String
  ephemeralPublicKey : Bytes
  salt : Bytes
  nonce : Bytes

def digest? : Document → Option String
  | .str s => if isDigest s = true then some s else none
  | _ => none

/-- A field that is a digest. -/
def digestField (manifest : Document.Entries) (field message : String) : Except BundleError String :=
  orRaise ((Document.get? manifest field).bind digest?) (.valueError message)

/-- The checks of the payload fields. -/
def validatePayload (manifest : Document.Entries) : Except BundleError Unit :=
  if ["payload_format", "database_sha256", "inventory_sha256"].any
      (fun k => (Document.get? manifest k).isSome) = true then do
    raiseIf ((Document.get? manifest "payload_format").any (fun x => x.eq (.str payloadFormat)) = false)
      (.valueError "migration subject payload format is unsupported")
    let _ ← digestField manifest "database_sha256" "migration subject payload digest is invalid"
    let _ ← digestField manifest "inventory_sha256" "migration subject payload digest is invalid"
    .ok ()
  else .ok ()

/-- The two sizes of a manifest. -/
def validateSizes (manifest : Document.Entries) : Except BundleError (Nat × Nat) :=
  match Document.get? manifest "plaintext_size", Document.get? manifest "ciphertext_size" with
  | some (.int p), some (.int c) =>
    if 0 < p ∧ p ≤ maxBundleBytes ∧ c = p + 16 then .ok (p.toNat, c.toNat) else .error
      (.valueError "migration bundle size is invalid")
  | _, _ => .error (.valueError "migration bundle size is invalid")

/-- A positive int or a text of digits. -/
def validSchemaVersion : Document → Bool
  | .int i => 1 ≤ i
  | .str s => s ≠ "" && s.toList.all cfg.isdigit
  | _ => false

def nonemptyText : Document → Bool
  | .str s => s ≠ ""
  | _ => false

/-- The checks of the optional fields. -/
def validateOptional (manifest : Document.Entries) (v : Values) : Except BundleError Unit := do
  raiseIf ((Document.get? manifest "byte_size").any (fun x => !(x.eq (.int v.ciphertextSize))) = true)
    (.valueError "migration bundle transfer size is invalid")
  raiseIf ((Document.get? manifest "artifact_sha256").any (fun x => !(x.eq (.str v.ciphertextSha256))) = true)
    (.valueError "migration bundle transfer digest is invalid")
  raiseIf ((Document.get? manifest "artifact_id").any (fun x => !(nonemptyText x)) = true)
    (.valueError "migration bundle artifact id is invalid")
  raiseIf ((Document.get? manifest "subject_id").any (fun x => !(validSubjectId x)) = true)
    (.valueError "migration bundle subject is invalid")
  raiseIf ((Document.get? manifest "schema_version").any (fun x => !(validSchemaVersion cfg x)) = true)
    (.valueError "migration bundle schema version is invalid")

/-- `_validate_manifest`. -/
def validateManifest (manifest : Document.Entries) : Except BundleError Values := do
  raiseIf (requiredManifestFields.all (fun k => (Document.get? manifest k).isSome) = false)
    (.valueError "migration bundle manifest is invalid")
  raiseIf (manifest.all (fun e => manifestFields.contains e.1) = false)
    (.valueError "migration bundle manifest is invalid")
  raiseIf ((Document.get? manifest "format").any (fun x => x.eq (.str bundleFormat)) = false)
    (.valueError "migration bundle format is unsupported")
  validatePayload manifest
  validateContext (manifest.filter (fun e => ["task_id", "target_id", "source_epoch"].contains e.1))
  let (plaintextSize, ciphertextSize) ← validateSizes manifest
  let fingerprint ← digestField manifest "recipient_key_fingerprint" "migration bundle digest is invalid"
  let plaintextSha256 ← digestField manifest "plaintext_sha256" "migration bundle digest is invalid"
  let ciphertextSha256 ← digestField manifest "ciphertext_sha256" "migration bundle digest is invalid"
  let ephemeralPublicKey ← decode ((Document.get? manifest "ephemeral_public_key").getD .null) 32 "ephemeral public key"
  let salt ← decode ((Document.get? manifest "salt").getD .null) 32 "salt"
  let nonce ← decode ((Document.get? manifest "nonce").getD .null) 12 "nonce"
  let v : Values := ⟨plaintextSize, ciphertextSize, fingerprint, plaintextSha256, ciphertextSha256, ephemeralPublicKey,
    salt, nonce⟩
  validateOptional cfg manifest v
  .ok v

/-- `str(x)`. -/
def str : Document → String
  | .str s => s
  | .int i => toString i
  | x => cfg.repr x

/-- A call of `decrypt_bundle`. -/
structure Decryption where
  source : Option Bytes
  destination : String
  token : String
  recipient : Bytes
  manifest : Document.Entries
  manifest_keyed : Document.keyed (.obj manifest) = true
  expectedContext : Document.Entries
  parent : Except BundleError Unit

/-- The context that the manifest carries. -/
def contextOf (manifest : Document.Entries) : Document.Entries :=
  (manifest.filter (fun e => !(ownFields.contains e.1))).map (fun e => (e.1, .str (str cfg e.2)))

/-- The part of the manifest that was authenticated. -/
def metadataOf (manifest : Document.Entries) : Document.Entries :=
  manifest.filter (fun e => !(transferFields.contains e.1))

/-- The loop over the ciphertext and the checks after it. -/
def openBytes (key nonce aad : Bytes) (v : Values) (source : Bytes) : Except BundleError Bytes := do
  let remaining := v.ciphertextSize - 16
  let body := (reads chunkBytes (source.take remaining)).flatten
  raiseIf (body.length < remaining) (.valueError "migration bundle ciphertext is truncated")
  let tag := (source.drop remaining).take 16
  raiseIf (tag.length ≠ 16 ∨ source.drop (remaining + 16) ≠ [])
    (.valueError "migration bundle authentication tag is invalid")
  let plaintext ← orRaise (cfg.gcmOpen key nonce aad (body, tag)) (.valueError "migration bundle authentication failed")
  raiseIf (cfg.sha256 (body ++ tag) ≠ v.ciphertextSha256) (.valueError "migration bundle ciphertext digest mismatch")
  raiseIf (plaintext.length ≠ v.plaintextSize ∨ cfg.sha256 plaintext ≠ v.plaintextSha256)
    (.valueError "migration bundle plaintext digest mismatch")
  .ok plaintext

namespace Decryption

variable (d : Decryption)

/-- `decrypt_bundle` before it opens the files: the checked values, the key and the ciphertext. -/
def prepare (fs : Files) : Except BundleError (Values × Bytes × Bytes) := do
  validateContext d.expectedContext
  let v ← validateManifest cfg d.manifest
  raiseIf (d.expectedContext.any (fun e => (Document.get? d.manifest e.1).any (fun x => x.eq e.2) = false) = true)
    (.valueError "migration bundle context does not match")
  raiseIf (cfg.sha256 (cfg.publicKey d.recipient) ≠ v.recipientKeyFingerprint)
    (.valueError "migration bundle recipient key does not match")
  let source ← orRaise d.source (.valueError "migration bundle source must be a regular file")
  raiseIf ((fs d.destination).isSome = true) (.valueError "migration bundle destination already exists")
  raiseIf (source.length ≠ v.ciphertextSize) (.valueError "migration bundle ciphertext size mismatch")
  let secret ← orRaise (cfg.exchange d.recipient v.ephemeralPublicKey) (.valueError "Error computing shared key.")
  d.parent
  .ok (v, deriveKey cfg secret v.salt (contextOf cfg d.manifest), source)

def decryptBundle (fs : Files) : Except BundleError Unit × Files :=
  match d.prepare cfg fs with
  | .error err => (.error err, fs)
  | .ok (v, key, source) =>
    publish fs (temporaryName d.destination d.token) d.destination
      (openBytes cfg key v.nonce (canonicalBytes cfg (metadataOf d.manifest)) v source)

end Decryption

end Noyra.Migration.Bundle
