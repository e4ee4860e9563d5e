import Mathlib.Data.List.Sort
import Noyra.Lib.Machine
import Noyra.Lib.Outcome
import Noyra.Lib.Table

/-!
# Balance acquisition

`WalletBalanceAcquisitionLedger`: a durable queue of runs, each of which reads one balance with two requests. A run is
leased to a worker only when two gates admit another attempt on its network: the interval since the latest attempt and
the requests of the window. `budget_status` predicts when they do. Canonical times are whole milliseconds from a fixed
instant, spans are whole microseconds; each transaction of the ledger is one step.
-/

namespace Noyra.Wallet.Acquisition
open Noyra.Lib

inductive RunStatus
  | queued | running | retryWait | succeeded | failed | unknown | cancelled
  deriving DecidableEq

/-- `status IN ('queued', 'retry_wait')`. -/
def RunStatus.waiting : RunStatus → Bool
  | .queued | .retryWait => true
  | _ => false

def RunStatus.active : RunStatus → Bool
  | .queued | .running | .retryWait => true
  | _ => false

inductive AttemptStatus
  | executing | succeeded | failed | unknown
  deriving DecidableEq

/-- `wallet_balance_acquisition_runs`. -/
structure RunRow where
  runId : Nat
  subjectId : Nat
  networkId : Nat
  assetId : Nat
  addressId : Nat
  idempotencyKey : String
  status : RunStatus
  attemptCount : Nat
  maxAttempts : Nat
  nextAttemptAt : Option ℤ
  claimToken : Option Nat
  leaseOwner : Option String
  leaseExpiresAt : Option ℤ
  deriving DecidableEq

/-- `wallet_balance_acquisition_attempts`. -/
structure AttemptRow where
  attemptId : Nat
  runId : Nat
  subjectId : Nat
  networkId : Nat
  attemptNumber : Nat
  status : AttemptStatus
  reservedRequestCount : Nat
  requestCount : Option Nat
  claimToken : Nat
  leaseOwner : String
  startedAt : ℤ
  deriving DecidableEq

structure AcquisitionState where
  runs : Table RunRow.runId
  attempts : Table AttemptRow.attemptId

inductive AcquisitionError
  | notFound | invalid | conflict | integrity | leaseLost | attemptMissing | attemptLost
  | unknownRetryNotAllowed | attemptLimitReached | cancelNotAllowed
  deriving DecidableEq

/-- `WALLET_ACQUISITION_MAX_BATCH`. -/
def maxBatch : Nat := 32

/-- `WALLET_ACQUISITION_MAX_ATTEMPTS`. -/
def maxAttemptsLimit : Nat := 5

/-- What the constructor admits. Seconds are given as the microseconds of their `timedelta`. -/
structure AcquisitionLimits where
  maxConcurrent : Nat
  /-- `none` when `min_interval_seconds` is zero. -/
  minInterval : Option Nat
  window : Nat
  requestLimitPerWindow : Nat
  lease : Nat
  /-- The delay before the next attempt. -/
  retryDelay : Nat → Nat
  concurrency : 1 ≤ maxConcurrent ∧ maxConcurrent ≤ 8
  interval : ∀ i ∈ minInterval, i ≤ 3600000000
  windowBounds : 1000000 ≤ window ∧ window ≤ 86400000000
  budget : 2 ≤ requestLimitPerWindow ∧ requestLimitPerWindow ≤ 1000
  leaseBounds : 1000000 ≤ lease ∧ lease ≤ 86400000000

/-- `datetime` arithmetic on a canonical time, truncated to milliseconds. -/
def after (now : ℤ) (span : ℤ) : ℤ := (now * 1000 + span) / 1000

/-- `CASE WHEN request_count IS NULL THEN reserved_request_count ELSE request_count END`. -/
def AttemptRow.cost (a : AttemptRow) : Nat := a.requestCount.getD a.reservedRequestCount

variable (limits : AcquisitionLimits)

/-- The attempts of a network. -/
def attemptsOf (s : AcquisitionState) (subjectId networkId : Nat) : List AttemptRow :=
  s.attempts.rows.filter (fun a => a.subjectId = subjectId && a.networkId = networkId)

/-- `ORDER BY started_at, attempt_id`. -/
def earlier (a b : AttemptRow) : Bool :=
  decide (a.startedAt < b.startedAt) || (a.startedAt = b.startedAt && decide (a.attemptId ≤ b.attemptId))

def byStart (rows : List AttemptRow) : List AttemptRow := rows.insertionSort (fun a b => earlier a b = true)

/-- The attempts after the cutoff. -/
def inWindow (rows : List AttemptRow) (now : ℤ) : List AttemptRow :=
  rows.filter (fun a => decide (after now (-limits.window) < a.startedAt))

/-- `_network_due_allowed`. -/
def networkDueAllowed (s : AcquisitionState) (subjectId networkId : Nat) (now : ℤ) : Bool :=
  match limits.minInterval with
  | none => true
  | some interval =>
    match (byStart (attemptsOf s subjectId networkId)).getLast? with
    | none => true
    | some latest => decide (latest.startedAt * 1000 + interval ≤ now * 1000)

/-- `_request_budget_allowed`. -/
def requestBudgetAllowed (s : AcquisitionState) (subjectId networkId : Nat) (now : ℤ) : Bool :=
  decide (((inWindow limits (attemptsOf s subjectId networkId) now).map AttemptRow.cost).sum + 2 ≤
    limits.requestLimitPerWindow)

/-- Both gates of `claim_due`. -/
def gates (s : AcquisitionState) (subjectId networkId : Nat) (now : ℤ) : Bool :=
  networkDueAllowed limits s subjectId networkId now && requestBudgetAllowed limits s subjectId networkId now

/-- `WalletAcquisitionBudgetStatus`. -/
structure BudgetStatus where
  subjectId : Nat
  networkId : Nat
  window : Nat
  requestLimit : Nat
  requestsUsed : Nat
  requestsReserved : Nat
  nextAllowedAt : Option ℤ
  deriving DecidableEq

/-- The loop over the rows: the first one without which, and without those before it, two more requests fit. -/
def budgetRow (limit : Nat) : Nat → List AttemptRow → Option AttemptRow
  | _, [] => none
  | outstanding, row :: rest =>
    if outstanding - row.cost + 2 ≤ limit then some row else budgetRow limit (outstanding - row.cost) rest

/-- `next_allowed` in microseconds. -/
def nextAllowed (rows : List AttemptRow) (outstanding : Nat) : Option ℤ :=
  let intervalDue := match limits.minInterval, rows.getLast? with
    | some interval, some last => some (last.startedAt * 1000 + interval)
    | _, _ => none
  if limits.requestLimitPerWindow < outstanding + 2 then
    match budgetRow limits.requestLimitPerWindow outstanding rows with
    | none => intervalDue
    | some row =>
      let budgetDue := row.startedAt * 1000 + limits.window
      match intervalDue with
      | none => some budgetDue
      | some due => some (max due budgetDue)
  else intervalDue

/-- `budget_status`. -/
def budgetStatus (s : AcquisitionState) (subjectId networkId : Nat) (now : ℤ) : BudgetStatus :=
  let rows := byStart (inWindow limits (attemptsOf s subjectId networkId) now)
  let used := (rows.filterMap AttemptRow.requestCount).sum
  let reserved := ((rows.filter (fun a => a.requestCount.isNone)).map AttemptRow.reservedRequestCount).sum
  { subjectId, networkId, window := limits.window, requestLimit := limits.requestLimitPerWindow
    requestsUsed := used, requestsReserved := reserved
    nextAllowedAt := (nextAllowed limits rows (used + reserved)).map (· / 1000) }

/-- `_cancel_revoked_candidate_connection`. -/
def cancelRun (row : RunRow) : RunRow :=
  { row with
    status := .cancelled
    nextAttemptAt := none
    claimToken := none
    leaseOwner := none
    leaseExpiresAt := none }

/-- The loop over the candidates: runs whose target was revoked are cancelled on the way. -/
def selectCandidate (targetActive : RunRow → Bool) (subjectId : Nat) (current : ℤ) :
    List RunRow → AcquisitionState → AcquisitionState × Option RunRow
  | [], s => (s, none)
  | candidate :: rest, s =>
    if targetActive candidate = false then
      selectCandidate targetActive subjectId current rest { s with runs := s.runs.replace (cancelRun candidate) }
    else if gates limits s subjectId candidate.networkId current = false then
      selectCandidate targetActive subjectId current rest s
    else (s, some candidate)

/-- `ORDER BY next_attempt_at, run_id LIMIT`. -/
def candidates (s : AcquisitionState) (subjectId : Nat) (current : ℤ) : List RunRow :=
  ((s.runs.rows.filter (fun r => r.subjectId = subjectId && r.status.waiting &&
    r.nextAttemptAt.any (· ≤ current))).insertionSort
    (fun a b => a.nextAttemptAt.getD 0 < b.nextAttemptAt.getD 0 ∨
      a.nextAttemptAt.getD 0 = b.nextAttemptAt.getD 0 ∧ a.runId ≤ b.runId)).take maxBatch

/-- One transaction of `claim_due`. -/
def claimDue (targetActive : RunRow → Bool) (subjectId : Nat) (owner : String) (token attemptId : Nat) (current : ℤ)
    (s : AcquisitionState) : Except AcquisitionError AcquisitionState := do
  if limits.maxConcurrent ≤ (s.runs.rows.filter (fun r => r.subjectId = subjectId && r.status = .running)).length
    then .ok s
  else
    match selectCandidate limits targetActive subjectId current (candidates s subjectId current) s with
    | (s, none) => .ok s
    | (s, some selected) =>
      raiseIf (selected.maxAttempts < selected.attemptCount + 1) .integrity
      let run := { selected with
        status := .running, attemptCount := selected.attemptCount + 1, nextAttemptAt := none, claimToken := some token
        leaseOwner := some owner, leaseExpiresAt := some (after current limits.lease) }
      let attempts ← orRaise (s.attempts.insert? ⟨attemptId, selected.runId, subjectId, selected.networkId,
        selected.attemptCount + 1, .executing, 2, none, token, owner, current⟩) .integrity
      .ok { runs := s.runs.replace run, attempts }

/-- `lease_expires_at IS NULL OR lease_expires_at <= now`. -/
def RunRow.leaseOver (row : RunRow) (now : ℤ) : Bool := row.leaseExpiresAt.all (· ≤ now)

/-- `_claim_row`. -/
def claimRow (runId subjectId token : Nat) (owner : String) (now : ℤ) (s : AcquisitionState) :
    Except AcquisitionError (RunRow × AttemptRow) := do
  let row ← orRaise (s.runs.find? runId) .notFound
  raiseIf (row.subjectId ≠ subjectId ∨ row.status ≠ .running ∨ row.claimToken ≠ some token ∨
    row.leaseOwner ≠ some owner ∨ row.leaseOver now = true) .leaseLost
  let attempt ← orRaise (s.attempts.rows.find? (fun a => a.runId = runId && a.claimToken = token && a.status =
    .executing))
    .attemptMissing
  raiseIf (attempt.leaseOwner ≠ owner) .attemptLost
  .ok (row, attempt)

/-- Record the outcome of an attempt, with what becomes of its run. -/
def settle (row : RunRow) (attempt : AttemptRow) (outcome : AttemptStatus) (requestCount : Option Nat)
    (status : RunStatus) (nextAttemptAt : Option ℤ) (s : AcquisitionState) : AcquisitionState :=
  { runs := s.runs.replace
      { row with status, nextAttemptAt, claimToken := none, leaseOwner := none, leaseExpiresAt := none }
    attempts := s.attempts.replace { attempt with status := outcome, requestCount } }

/-- `complete_success`, once the snapshot is recorded. -/
def completeSuccess (runId subjectId token : Nat) (owner : String) (now : ℤ) (s : AcquisitionState) :
    Except AcquisitionError AcquisitionState := do
  let (row, attempt) ← claimRow runId subjectId token owner now s
  .ok (settle row attempt .succeeded (some 2) .succeeded none s)

/-- `fail`. -/
def fail (runId subjectId token : Nat) (owner : String) (requestCount : Nat) (shouldRetry : Bool) (now : ℤ)
    (s : AcquisitionState) : Except AcquisitionError AcquisitionState := do
  raiseIf (2 < requestCount) .invalid
  let (row, attempt) ← claimRow runId subjectId token owner now s
  if shouldRetry = true ∧ row.attemptCount < row.maxAttempts then
    .ok (settle row attempt .failed (some requestCount)
      .retryWait (some (after now (limits.retryDelay row.attemptCount))) s)
  else .ok (settle row attempt .failed (some requestCount) .failed none s)

/-- `mark_unknown`. -/
def markUnknown (runId subjectId token : Nat) (owner : String) (now : ℤ) (s : AcquisitionState) :
    Except AcquisitionError AcquisitionState := do
  let (row, attempt) ← claimRow runId subjectId token owner now s
  .ok (settle row attempt .unknown none .unknown none s)

/-- `_recover_running_connection`. -/
def recoverRunning (row : RunRow) (s : AcquisitionState) : Except AcquisitionError AcquisitionState := do
  let token ← orRaise row.claimToken .integrity
  let owner ← orRaise row.leaseOwner .integrity
  let attempt ← orRaise (s.attempts.rows.find? (fun a =>
    a.runId = row.runId && a.attemptNumber = row.attemptCount && a.status = .executing)) .integrity
  raiseIf (attempt.claimToken ≠ token ∨ attempt.leaseOwner ≠ owner) .attemptLost
  .ok (settle row attempt .unknown none .unknown none s)

/-- One transaction of `recover_expired`, whose query found this run. -/
def recoverExpired (runId subjectId : Nat) (current : ℤ) (s : AcquisitionState) :
    Except AcquisitionError AcquisitionState := do
  let row ← orRaise (s.runs.find? runId) .notFound
  raiseIf (row.subjectId ≠ subjectId ∨ row.status ≠ .running ∨ row.leaseOver current = false) .notFound
  recoverRunning row s

/-- One transaction of `recover_interrupted`, whose query found this run. -/
def recoverInterrupted (runId subjectId : Nat) (s : AcquisitionState) : Except AcquisitionError AcquisitionState := do
  let row ← orRaise (s.runs.find? runId) .notFound
  raiseIf (row.subjectId ≠ subjectId ∨ row.status ≠ .running) .notFound
  recoverRunning row s

/-- `uq_wallet_balance_acquisition_active_target`. -/
def activeTarget (s : AcquisitionState) (subjectId assetId addressId : Nat) : Bool :=
  s.runs.rows.any (fun r => r.subjectId = subjectId && r.assetId = assetId && r.addressId = addressId &&
    r.status.active)

/-- `enqueue`, once the references were found active. -/
def enqueue (runId subjectId networkId assetId addressId : Nat) (key : String) (maxAttempts : Nat) (dueAt : ℤ)
    (s : AcquisitionState) : Except AcquisitionError AcquisitionState := do
  raiseIf (¬(1 ≤ maxAttempts ∧ maxAttempts ≤ maxAttemptsLimit)) .invalid
  match s.runs.rows.find? (fun r => r.subjectId = subjectId && r.idempotencyKey = key) with
  | some current =>
    raiseIf (current.assetId ≠ assetId ∨ current.addressId ≠ addressId ∨ current.networkId ≠ networkId ∨
      current.maxAttempts ≠ maxAttempts) .conflict
    .ok s
  | none =>
    raiseIf (activeTarget s subjectId assetId addressId = true) .conflict
    let runs ← orRaise (s.runs.insert? ⟨runId, subjectId, networkId, assetId, addressId, key, .queued, 0, maxAttempts,
      some dueAt, none, none, none⟩) .integrity
    .ok { s with runs }

/-- `renew`. -/
def renew (runId subjectId token : Nat) (owner : String) (now : ℤ) (s : AcquisitionState) :
    Except AcquisitionError AcquisitionState := do
  let row ← orRaise (s.runs.find? runId) .notFound
  if row.subjectId ≠ subjectId ∨ row.status ≠ .running ∨ row.claimToken ≠ some token ∨ row.leaseOwner ≠ some owner ∨
      row.leaseOver now = true then .ok s
  else .ok { s with runs := s.runs.replace { row with leaseExpiresAt := some (after now limits.lease) } }

/-- `retry_unknown`. -/
def retryUnknown (runId subjectId : Nat) (dueAt : ℤ) (s : AcquisitionState) :
    Except AcquisitionError AcquisitionState := do
  let row ← orRaise (s.runs.find? runId) .notFound
  raiseIf (row.subjectId ≠ subjectId) .notFound
  raiseIf (row.status ≠ .unknown) .unknownRetryNotAllowed
  raiseIf (row.maxAttempts ≤ row.attemptCount) .attemptLimitReached
  raiseIf (activeTarget s subjectId row.assetId row.addressId = true) .conflict
  .ok { s with runs := s.runs.replace { row with status := .queued, nextAttemptAt := some dueAt } }

/-- `cancel`. -/
def cancel (runId subjectId : Nat) (s : AcquisitionState) : Except AcquisitionError AcquisitionState := do
  let row ← orRaise (s.runs.find? runId) .notFound
  raiseIf (row.subjectId ≠ subjectId) .notFound
  raiseIf (row.status.waiting = false) .cancelNotAllowed
  .ok { s with runs := s.runs.replace (cancelRun row) }

/-- A transaction, with what it reads from elsewhere. -/
inductive AcquisitionAction
  | enqueue (runId subjectId networkId assetId addressId : Nat) (key : String) (maxAttempts : Nat) (dueAt : ℤ)
  | claimDue (targetActive : RunRow → Bool) (subjectId : Nat) (owner : String) (token attemptId : Nat) (current : ℤ)
  | completeSuccess (runId subjectId token : Nat) (owner : String) (now : ℤ)
  | fail (runId subjectId token : Nat) (owner : String) (requestCount : Nat) (shouldRetry : Bool) (now : ℤ)
  | markUnknown (runId subjectId token : Nat) (owner : String) (now : ℤ)
  | recoverExpired (runId subjectId : Nat) (current : ℤ)
  | recoverInterrupted (runId subjectId : Nat)
  | renew (runId subjectId token : Nat) (owner : String) (now : ℤ)
  | retryUnknown (runId subjectId : Nat) (dueAt : ℤ)
  | cancel (runId subjectId : Nat)

def run (s : AcquisitionState) : AcquisitionAction → Except AcquisitionError AcquisitionState
  | .enqueue runId subjectId networkId assetId addressId key maxAttempts dueAt =>
    enqueue runId subjectId networkId assetId addressId key maxAttempts dueAt s
  | .claimDue targetActive subjectId owner token attemptId current =>
    claimDue limits targetActive subjectId owner token attemptId current s
  | .completeSuccess runId subjectId token owner now => completeSuccess runId subjectId token owner now s
  | .fail runId subjectId token owner requestCount shouldRetry now =>
    fail limits runId subjectId token owner requestCount shouldRetry now s
  | .markUnknown runId subjectId token owner now => markUnknown runId subjectId token owner now s
  | .recoverExpired runId subjectId current => recoverExpired runId subjectId current s
  | .recoverInterrupted runId subjectId => recoverInterrupted runId subjectId s
  | .renew runId subjectId token owner now => renew limits runId subjectId token owner now s
  | .retryUnknown runId subjectId dueAt => retryUnknown runId subjectId dueAt s
  | .cancel runId subjectId => cancel runId subjectId s

/-- A transaction that raises is rolled back. -/
def step (s : AcquisitionState) (a : AcquisitionAction) : AcquisitionState :=
  match run limits s a with
  | .ok s' => s'
  | .error _ => s

def ledger : Machine AcquisitionState AcquisitionAction := ⟨fun s => s = ⟨.empty, .empty⟩, step limits⟩

end Noyra.Wallet.Acquisition
