import Mathlib.Algebra.Order.Ring.Rat
import Mathlib.Tactic.Linarith
import Noyra.Lib.Machine
import Noyra.Lib.Outcome
import Noyra.Lib.Table
import Noyra.Lib.Text

/-!
# Authenticated requests of the migration agent

`MigrationAgent.authenticate_request` accepts a request that is signed with the session token, whose timestamp is near
the clock and whose nonce has no file in `auth-nonces`. Hashes, HMAC and base64 are parameters; clock readings and file
times are rational seconds.
-/

namespace Noyra.Migration
open Noyra.Lib

abbrev Bytes := List UInt8

inductive AgentError
  | authentication (message : String)
  | valueError (message : String)
  | osError
  deriving DecidableEq

structure AgentConfig where
  sessionToken : Option String
  /-- Whether `data_root` is configured. -/
  dataRoot : Bool
  /-- `sha256(...).hexdigest()`. -/
  sha256Hex : Bytes → String
  /-- `hmac.new(token, message, sha256).digest()`. -/
  hmacSha256 : String → String → Bytes
  /-- `base64.urlsafe_b64decode` of the padded text. -/
  urlsafeB64decode : String → Option Bytes
  encode : String → Bytes

def clockSkewSeconds : ℚ := 300

def nonceTtlSeconds : ℚ := 600

def nonceLimit : Nat := 4096

def maxBodyBytes : Nat := 8 * 1024 * 1024

/-- A file of `auth-nonces`, with its modification time. -/
structure NonceFile where
  path : String
  mtime : ℚ
  timestampText : String
  deriving DecidableEq

abbrev NonceStore := Table NonceFile.path

def isDigit (c : Char) : Bool := '0' ≤ c && c ≤ '9'

/-- `[0-9]{1,20}`. -/
def isTimestampText (s : String) : Bool := 1 ≤ s.toList.length && s.toList.length ≤ 20 && s.toList.all isDigit

/-- `[A-Za-z0-9_-]{16,128}`. -/
def isNonce (s : String) : Bool :=
  16 ≤ s.toList.length && s.toList.length ≤ 128 &&
    s.toList.all (fun c => ('A' ≤ c && c ≤ 'Z') || ('a' ≤ c && c ≤ 'z') || isDigit c || c = '_' || c = '-')

/-- `[0-9a-f]{64}`. -/
def isHexDigest (s : String) : Bool := s.toList.length = 64 && s.toList.all (fun c => isDigit c || ('a' ≤ c && c ≤ 'f'))

/-- `int` of a text of digits. -/
def timestampValue (s : String) : Nat := s.toList.foldl (fun n c => n * 10 + (c.toNat - 48)) 0

/-- `authorization.partition(" ")`. -/
def partitionSpace (s : String) : String × Bool × String :=
  let head := s.toList.takeWhile (fun c => c ≠ ' ')
  (String.ofList head, head.length < s.toList.length, String.ofList (s.toList.drop (head.length + 1)))

/-- `encoded_signature + "=" * (-len(encoded_signature) % 4)`. -/
def padBase64 (s : String) : String := s ++ String.ofList (List.replicate ((4 - s.toList.length % 4) % 4) '=')

abbrev Headers := List (String × String)

def Headers.get (headers : Headers) (name : String) : String := (headers.lookup name).getD ""

/-- A request that carries a valid signature over its timestamp, nonce and body. -/
structure SignedRequest where
  nonce : String
  timestampText : String
  deriving DecidableEq

def SignedRequest.timestamp (r : SignedRequest) : Nat := timestampValue r.timestampText

variable (cfg : AgentConfig)

/-- The checks of `authenticate_request` before it takes the lock. -/
def verifyRequest (headers : Headers) (body : Bytes) (current : ℚ) : Except AgentError SignedRequest := do
  let token ← orRaise (cfg.sessionToken.filter (fun _ => cfg.dataRoot))
    (.authentication "migration agent HTTP authentication is unavailable")
  raiseIf (maxBodyBytes < body.length) (.authentication "migration request body is invalid")
  let (scheme, separator, encodedSignature) := partitionSpace (headers.get "Authorization")
  let timestampText := headers.get "X-Noyra-Timestamp"
  let nonce := headers.get "X-Noyra-Nonce"
  let bodyDigest := headers.get "X-Noyra-Body-SHA256"
  raiseIf (scheme ≠ "Noyra-HMAC" ∨ separator = false ∨ encodedSignature = "" ∨ isTimestampText timestampText = false ∨
      isNonce nonce = false ∨ isHexDigest bodyDigest = false)
    (.authentication "migration request authentication failed")
  let provided ← orRaise (cfg.urlsafeB64decode (padBase64 encodedSignature))
    (.authentication "migration request authentication failed")
  raiseIf (clockSkewSeconds < |current - timestampValue timestampText|)
    (.authentication "migration request timestamp is stale")
  raiseIf (bodyDigest ≠ cfg.sha256Hex body) (.authentication "migration request body digest is invalid")
  let expected := cfg.hmacSha256 token ("noyra-migration-agent-v1\n" ++ timestampText ++ "\n" ++ nonce ++ "\n" ++
    bodyDigest)
  raiseIf (provided ≠ expected) (.authentication "migration request authentication failed")
  .ok ⟨nonce, timestampText⟩

/-- The deletions of `_cleanup_nonces`; a file that cannot be read or deleted stays. -/
def cleanupNonces (files : NonceStore) (now : ℚ) (stuck : String → Bool) : NonceStore :=
  files.keepRows (fun f => stuck f.path || decide (now - f.mtime ≤ nonceTtlSeconds))

def noncePath (nonce : String) : String := cfg.sha256Hex (cfg.encode nonce) ++ ".nonce"

/-- What the file system answers to one call. -/
structure FileAnswers where
  /-- `mkdir` and `_assert_private_directory` succeed. -/
  directory : Bool
  stuck : String → Bool
  /-- The timestamp could be written; otherwise the file is removed again. -/
  written : Bool
  /-- How long after the reading of the clock the file is written. -/
  delay : ℚ≥0

/-- The part of `authenticate_request` under the lock: the answer, and the files it leaves. -/
def persistNonce (files : NonceStore) (request : SignedRequest) (current : ℚ) (answers : FileAnswers) :
    Except AgentError Unit × NonceStore :=
  if answers.directory = false then (.error (.valueError "agent data root must be a real directory"), files)
  else
    let files := cleanupNonces files current answers.stuck
    if nonceLimit ≤ files.rows.length then (.error (.authentication "migration request replay store is full"), files)
    else
      match files.insert? ⟨noncePath cfg request.nonce, current + answers.delay, request.timestampText⟩ with
      | none => (.error (.authentication "migration request nonce was already used"), files)
      | some written => if answers.written then (.ok (), written) else (.error .osError, files)

/-- `authenticate_request`. -/
def authenticateRequest (files : NonceStore) (headers : Headers) (body : Bytes) (current : ℚ) (answers : FileAnswers) :
    Except AgentError SignedRequest × NonceStore :=
  match verifyRequest cfg headers body current with
  | .error e => (.error e, files)
  | .ok request =>
    let (answer, files) := persistNonce cfg files request current answers
    (answer.map (fun _ => request), files)

/-- The nonce files, the last reading of the clock and the requests accepted so far, newest first. -/
structure AgentState where
  files : NonceStore
  clock : ℚ
  accepted : List SignedRequest

inductive AgentAction
  /-- A request, some time after the last reading. -/
  | request (headers : Headers) (body : Bytes) (elapsed : ℚ≥0) (answers : FileAnswers)
  | cleanup (elapsed : ℚ≥0) (stuck : String → Bool)

/-- A call is one step, in the order in which the calls take `_io_lock`. Its reading of the clock, which the source
takes before it waits for the lock, is taken there. -/
def agentStep (s : AgentState) : AgentAction → AgentState
  | .request headers body elapsed answers =>
    let current := s.clock + elapsed
    match authenticateRequest cfg s.files headers body current answers with
    | (.ok request, files) => ⟨files, current, request :: s.accepted⟩
    | (.error _, files) => ⟨files, current, s.accepted⟩
  | .cleanup elapsed stuck =>
    { s with files := cleanupNonces s.files (s.clock + elapsed) stuck, clock := s.clock + elapsed }

/-- The agent with its authentication store. -/
def agentMachine : Machine AgentState AgentAction where
  init s := s.accepted = []
  step := agentStep cfg

end Noyra.Migration
