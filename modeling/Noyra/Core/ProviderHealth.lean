import Noyra.Lib.Machine
import Noyra.Lib.Outcome
import Noyra.Lib.Table
import Noyra.Lib.Text
import Noyra.Lib.Time

/-!
# Provider health and the circuit breaker

Hourly aggregates and the breaker state of each provider, `core/provider_health.py`. A call reads the
clock before it enters its transaction, so the reading may be older than the clock it commits at.
-/

namespace Noyra.Core
open Noyra.Lib

structure ProviderKey where
  subjectId : String
  providerKind : String
  providerId : String
  deriving DecidableEq

inductive HealthState
  | healthy | degraded | cooldown | halfOpen
  deriving DecidableEq

inductive ErrorCategory
  | timeout | rateLimited | auth | schema | serverError | unknown
  deriving DecidableEq

/-- The text of an instant, with its microseconds or in whole milliseconds. -/
inductive Stamp
  | micro (t : Instant)
  | milli (t : Instant)
  deriving DecidableEq

def Stamp.text : Stamp → List Char
  | .micro t => t.isoformat
  | .milli t => t.isoformatMillis

def utcNow (clock : Instant) : Stamp := .milli (clock.floor 1000)

/-- How often each category was counted; a missing key counts zero. -/
structure ErrorCounts where
  timeout : Nat
  rateLimited : Nat
  auth : Nat
  schema : Nat
  serverError : Nat
  unknown : Nat
  deriving DecidableEq

namespace ErrorCounts

def none : ErrorCounts := ⟨0, 0, 0, 0, 0, 0⟩

def total (c : ErrorCounts) : Nat := c.timeout + c.rateLimited + c.auth + c.schema + c.serverError + c.unknown

def increment (c : ErrorCounts) : ErrorCategory → ErrorCounts
  | .timeout => { c with timeout := c.timeout + 1 }
  | .rateLimited => { c with rateLimited := c.rateLimited + 1 }
  | .auth => { c with auth := c.auth + 1 }
  | .schema => { c with schema := c.schema + 1 }
  | .serverError => { c with serverError := c.serverError + 1 }
  | .unknown => { c with unknown := c.unknown + 1 }

end ErrorCounts

/-- `provider_health_buckets` without its hash. `bucketStart` is stored as its `isoformat` text. -/
structure BucketColumns where
  key : ProviderKey
  bucketStart : Instant
  attemptCount : Nat
  successCount : Nat
  failureCount : Nat
  unknownCount : Nat
  latencyTotalMs : Nat
  lastSuccessAt : Option Stamp
  lastFailureAt : Option Stamp
  errorCounts : ErrorCounts
  latencySamples : List Nat
  deriving DecidableEq

structure BucketRow extends BucketColumns where
  stateHash : String
  deriving DecidableEq

def BucketRow.id (b : BucketRow) : ProviderKey × Instant := (b.key, b.bucketStart)

/-- `provider_health_state` without its hash. `cooldownUntil` and `probeStartedAt` are stored as their
`isoformat` texts. -/
structure StateColumns where
  key : ProviderKey
  state : HealthState
  cooldownUntil : Option Instant
  probeToken : Option String
  probeStartedAt : Option Instant
  consecutiveFailures : Nat
  lastSuccessAt : Option Stamp
  lastFailureAt : Option Stamp
  updatedAt : Stamp
  deriving DecidableEq

structure StateRow extends StateColumns where
  stateHash : String
  deriving DecidableEq

/-- The documents that are hashed, the two of the first schema among them. -/
inductive HealthDocument
  | bucket (columns : BucketColumns)
  | legacyBucket (key : ProviderKey) (bucket : Instant) (attempts successes failures latency : Nat)
  | state (columns : StateColumns)
  | legacyState (key : ProviderKey) (state : HealthState) (cooldown : Option Instant) (consecutive : Nat)
      (updated : Stamp)

/-- `content_hash` and `str.casefold` of the runtime, and the threshold of the store. -/
structure HealthConfig where
  contentHash : HealthDocument → String
  casefold : List Char → List Char
  failureThreshold : Nat
  failureThreshold_pos : 1 ≤ failureThreshold

inductive HealthError
  | valueError (message : String)
  | integrityError (message : String)
  | overflowError
  deriving DecidableEq

/-- `needle in text`. -/
def occursIn (needle : String) (text : List Char) : Bool := text.tails.any (fun t => needle.toList.isPrefixOf t)

structure HealthDb where
  buckets : Table BucketRow.id
  states : Table (fun r : StateRow => r.key)

structure RoutePermit where
  key : ProviderKey
  stateHash : String
  probeToken : Option String
  deriving DecidableEq

/-- The arguments of `record_attempt`. -/
structure Attempt where
  key : ProviderKey
  attemptId : String
  success : Bool
  latencyMs : Int
  errorCode : Option String
  cooldownSeconds : Int
  probeToken : Option String
  permit : Option RoutePermit
  outcomeUnknown : Bool
  deriving DecidableEq

section Store

variable (cfg : HealthConfig)

def errorCategory (errorCode : Option String) : Option ErrorCategory :=
  match errorCode with
  | none => none
  | some code =>
    if code = "" then none
    else
      let normalized := cfg.casefold code.toList
      if occursIn "timeout" normalized then some .timeout
      else if occursIn "429" normalized || occursIn "rate" normalized || occursIn "throttle" normalized then
        some .rateLimited
      else if occursIn "401" normalized || occursIn "403" normalized || occursIn "auth" normalized then some .auth
      else if occursIn "schema" normalized || occursIn "json" normalized || occursIn "format" normalized then
        some .schema
      else if ["500", "502", "503", "504", "5xx"].any (fun n => occursIn n normalized) then some .serverError
      else some .unknown

def bucketHash (b : BucketColumns) : String := cfg.contentHash (.bucket b)

def legacyBucketHash (b : BucketColumns) : String :=
  cfg.contentHash (.legacyBucket b.key b.bucketStart b.attemptCount b.successCount b.failureCount b.latencyTotalMs)

def stateHash (s : StateColumns) : String := cfg.contentHash (.state s)

def legacyStateHash (s : StateColumns) : String :=
  cfg.contentHash (.legacyState s.key s.state s.cooldownUntil s.consecutiveFailures s.updatedAt)

def verifyBucket (row : BucketRow) : Except HealthError Unit := do
  raiseIf (row.attemptCount < row.errorCounts.total ∨ min 128 row.attemptCount < row.latencySamples.length ∨
      row.latencyTotalMs < row.latencySamples.sum)
    (.integrityError "provider health detail counters are invalid")
  -- The old hash authenticates the original counters only.
  let legacyValid := row.stateHash = legacyBucketHash cfg row.toBucketColumns ∧ row.errorCounts = .none ∧
    row.latencySamples = [] ∧ row.unknownCount = 0 ∧ row.lastSuccessAt = none ∧ row.lastFailureAt = none
  raiseIf (row.successCount + row.failureCount + row.unknownCount ≠ row.attemptCount ∨
      (row.stateHash ≠ bucketHash cfg row.toBucketColumns ∧ ¬legacyValid))
    (.integrityError "provider health bucket integrity check failed")

def verifyState (row : StateRow) : Except HealthError Unit :=
  let legacyValid := row.stateHash = legacyStateHash cfg row.toStateColumns ∧ row.probeToken = none ∧
    row.probeStartedAt = none ∧ row.lastSuccessAt = none ∧ row.lastFailureAt = none
  raiseIf ((row.stateHash ≠ stateHash cfg row.toStateColumns ∧ ¬legacyValid) ∨
      row.probeToken.isNone ≠ row.probeStartedAt.isNone ∨
      (row.probeToken.isSome ∧ (row.state ≠ .halfOpen ∨ row.probeToken.any (fun t => strip t = ""))))
    (.integrityError "provider health state integrity check failed")

/-- The checks of `record_attempt` on its arguments; the token the completion carries. -/
def Attempt.check (a : Attempt) : Except HealthError (Option String) := do
  raiseIf (a.key.subjectId = "" ∨ a.key.providerKind = "" ∨ a.key.providerId = "" ∨ a.attemptId = "")
    (.valueError "provider health identity is invalid")
  raiseIf ((a.success ∧ a.outcomeUnknown) ∨ a.latencyMs < 0 ∨ a.cooldownSeconds < 0)
    (.valueError "latency and cooldown must be non-negative")
  raiseIf (a.probeToken = some "") (.valueError "probe token must be a non-empty string")
  match a.permit with
  | none => .ok a.probeToken
  | some permit => do
    raiseIf (permit.key ≠ a.key) (.valueError "route permit identity does not match provider attempt")
    raiseIf (a.probeToken.isSome ∧ a.probeToken ≠ permit.probeToken)
      (.valueError "probe token does not match route permit")
    .ok permit.probeToken

def emptyBucket (key : ProviderKey) (bucket : Instant) : BucketColumns :=
  ⟨key, bucket, 0, 0, 0, 0, 0, none, none, .none, []⟩

/-- Neither a success nor an unknown outcome. -/
def Attempt.failed (a : Attempt) : Bool := !a.success && !a.outcomeUnknown

/-- The aggregate with one more attempt. -/
def Attempt.countIn (a : Attempt) (now : Stamp) (b : BucketColumns) : BucketColumns where
  key := b.key
  bucketStart := b.bucketStart
  attemptCount := b.attemptCount + 1
  successCount := b.successCount + a.success.toNat
  failureCount := b.failureCount + a.failed.toNat
  unknownCount := b.unknownCount + (!a.success && a.outcomeUnknown).toNat
  latencyTotalMs := b.latencyTotalMs + a.latencyMs.toNat
  lastSuccessAt := if a.success then some now else b.lastSuccessAt
  lastFailureAt := if !a.success then some now else b.lastFailureAt
  errorCounts := match errorCategory cfg a.errorCode with
    | some category => b.errorCounts.increment category
    | none => b.errorCounts
  latencySamples :=
    let samples := b.latencySamples ++ [a.latencyMs.toNat]
    samples.drop (samples.length - 128)

def Attempt.consecutive (a : Attempt) (state : Option StateRow) : Nat :=
  if a.success || a.outcomeUnknown then 0
  else match state with
    | some row => row.consecutiveFailures + 1
    | none => 1

def Attempt.stateName (a : Attempt) : HealthState := if a.success || a.outcomeUnknown then .healthy else .degraded

/-- The row after a completion, with the cooldown it starts. -/
def Attempt.completed (a : Attempt) (state : Option StateRow) (now : Stamp) (name : HealthState)
    (cooldown : Option Instant) : StateColumns where
  key := a.key
  state := name
  cooldownUntil := cooldown
  probeToken := none
  probeStartedAt := none
  consecutiveFailures := a.consecutive state
  lastSuccessAt := if a.success then some now else state.bind (fun row => row.lastSuccessAt)
  lastFailureAt := if a.failed then some now else state.bind (fun row => row.lastFailureAt)
  updatedAt := now

/-- The breaker state after a completion that is not ignored. `clock` is read inside the transaction. -/
def Attempt.nextState (a : Attempt) (state : Option StateRow) (now : Stamp) (clock : Instant) :
    Except HealthError StateColumns :=
  if a.failed ∧ cfg.failureThreshold ≤ a.consecutive state ∧ a.cooldownSeconds ≠ 0 then do
    let cooldown ← orRaise (clock.add? (a.cooldownSeconds.toNat * second)) .overflowError
    .ok (a.completed state now .cooldown (some cooldown))
  else .ok (a.completed state now a.stateName none)

def hashed (s : StateColumns) : StateRow := ⟨s, stateHash cfg s⟩

def verifyExisting : Option BucketRow → Except HealthError Unit
  | some row => verifyBucket cfg row
  | none => .ok ()

/-- The first half of `record_attempt`: the aggregate of the hour. -/
def countAttempt (db : HealthDb) (a : Attempt) (started : Instant) : Except HealthError HealthDb := do
  let bucket := started.floor hour
  let existing := db.buckets.find? (a.key, bucket)
  verifyExisting cfg existing
  let before := (existing.map BucketRow.toBucketColumns).getD (emptyBucket a.key bucket)
  let counted := a.countIn cfg (utcNow started) before
  .ok { db with buckets := db.buckets.upsert ⟨counted, bucketHash cfg counted⟩ }

def writeState (db : HealthDb) (a : Attempt) (started clock : Instant) : Except HealthError HealthDb := do
  let next ← a.nextState cfg (db.states.find? a.key) (utcNow started) clock
  .ok { db with states := db.states.upsert (hashed cfg next) }

/-- `record_attempt`: `started` is the clock before the transaction, `clock` the one inside it. -/
def recordAttempt (db : HealthDb) (a : Attempt) (started clock : Instant) : Except HealthError HealthDb := do
  let token ← a.check
  let db ← countAttempt cfg db a started
  match db.states.find? a.key with
  | some row => do
    verifyState cfg row
    -- A completion of an older request never releases a newer probe.
    if row.probeToken.isSome ∧ row.probeToken ≠ token then .ok db
    else if a.outcomeUnknown then .ok db
    else writeState cfg db a started clock
  | none => writeState cfg db a started clock

/-- The half-open claim that `claim_route` writes. -/
def probeClaim (row : StateRow) (token : String) (now : Instant) : StateColumns :=
  { row.toStateColumns with
    state := .halfOpen, probeToken := some token, probeStartedAt := some now, updatedAt := .micro now }

/-- The probe of the row has not expired, as `claim_route` computes it on instants. -/
def probePending (row : StateRow) (now : Instant) : Except HealthError Bool :=
  match row.probeToken, row.probeStartedAt with
  | some _, some started => do
    let expires ← orRaise (started.add? (2 * minute)) .overflowError
    .ok (now < expires)
  | _, _ => .ok false

/-- The condition of the update, on the stored texts. -/
def claimable (row : StateRow) (now : Instant) : Bool :=
  match row.probeToken, row.probeStartedAt with
  | none, _ => true
  | some _, none => false
  | some _, some started => started.isoformat ≤ (now.sub (2 * minute)).isoformat

/-- `claim_route` with the clock read before its transaction and the token it would draw. -/
def claimRoute (db : HealthDb) (key : ProviderKey) (now : Instant) (token : String) :
    Except HealthError (Option RoutePermit × HealthDb) :=
  match db.states.find? key with
  | none => do
    raiseIf (db.buckets.rows.any (fun b => b.key = key))
      (.integrityError "provider health state is missing for recorded provider")
    .ok (some ⟨key, "", none⟩, db)
  | some row => do
    verifyState cfg row
    if row.state = .healthy ∨ row.state = .degraded then .ok (some ⟨key, row.stateHash, none⟩, db)
    else if ← probePending row now then .ok (none, db)
    else match row.cooldownUntil with
      | none => .ok (none, db)
      | some cooldown =>
        if now < cooldown then .ok (none, db)
        else if claimable row now then
          let claimed := hashed cfg (probeClaim row token now)
          .ok (some ⟨key, claimed.stateHash, some token⟩, { db with states := db.states.replace claimed })
        else .ok (none, db)

/-- `route_eligible`. -/
def routeEligible (db : HealthDb) (key : ProviderKey) (now : Instant) : Except HealthError Bool :=
  match db.states.find? key with
  | none => do
    raiseIf (db.buckets.rows.any (fun b => b.key = key))
      (.integrityError "provider health state is missing for recorded provider")
    .ok true
  | some row => do
    verifyState cfg row
    if row.state = .healthy ∨ row.state = .degraded then .ok true
    else if ← probePending row now then .ok false
    else .ok (row.cooldownUntil.any (fun cooldown => cooldown ≤ now))

end Store

/-- `new_id("probe")`. -/
def newProbeId (hex : String) : String := "probe_" ++ hex

/-- A half-open permit that was handed out and not completed with a known outcome. -/
structure Probe where
  key : ProviderKey
  token : String
  startedAt : Instant
  deriving DecidableEq

/-- The store among its workers: the clock, the probe permits outstanding and the tokens drawn so far. -/
structure Breaker where
  db : HealthDb
  clock : Instant
  outstanding : List Probe
  drawn : List String

/-- A call of a worker commits, having read the clock at `readAt`, or time passes. -/
inductive BreakerAction
  | tick (now : Instant)
  | claimRoute (key : ProviderKey) (readAt : Instant) (hex : String)
  | recordAttempt (attempt : Attempt) (readAt : Instant)

variable (cfg : HealthConfig)

def Breaker.claim (s : Breaker) (key : ProviderKey) (readAt : Instant) (token : String) : Breaker :=
  match Core.claimRoute cfg s.db key readAt token with
  | .ok (permit, db) =>
    if permit.any (fun p => p.probeToken.isSome) then
      { s with db, drawn := token :: s.drawn, outstanding := ⟨key, token, readAt⟩ :: s.outstanding }
    else { s with db }
  | .error _ => s

/-- The token a completion carries. -/
def Attempt.carries (a : Attempt) : Option String := a.permit.elim a.probeToken RoutePermit.probeToken

/-- The completion ends the probe whose token it carries, unless the outcome is unknown. -/
def Attempt.completes (a : Attempt) (p : Probe) : Bool :=
  !a.outcomeUnknown && p.key = a.key && a.carries = some p.token

def Breaker.record (s : Breaker) (a : Attempt) (readAt : Instant) : Breaker :=
  match Core.recordAttempt cfg s.db a readAt s.clock with
  | .ok db => { s with db, outstanding := s.outstanding.filter (fun p => !a.completes p) }
  | .error _ => s

def Breaker.step (s : Breaker) : BreakerAction → Breaker
  | .tick now => if s.clock ≤ now then { s with clock := now } else s
  | .claimRoute key readAt hex => if readAt ≤ s.clock then s.claim cfg key readAt (newProbeId hex) else s
  | .recordAttempt a readAt => if readAt ≤ s.clock then s.record cfg a readAt else s

def breakerMachine : Machine Breaker BreakerAction where
  init s := ∃ clock, s = ⟨⟨.empty, .empty⟩, clock, [], []⟩
  step := Breaker.step cfg

/-- Identifiers drawn for probes do not repeat. -/
def freshProbeIds (s : Breaker) : BreakerAction → Prop
  | .claimRoute _ _ hex => newProbeId hex ∉ s.drawn
  | _ => True

end Noyra.Core
