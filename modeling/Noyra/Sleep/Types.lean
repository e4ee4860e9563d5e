import Noyra.Lib.Outcome
import Noyra.Lib.Table
import Noyra.Lib.Text

/-!
# Sleep records

The lifecycle of a subject, its sleep runs with their histories, its fatigue and what a reflection leaves
behind. Numbers of the kind `float` are a parameter: the code only compares them, stores them in REAL columns
and hashes them.
-/

namespace Noyra.Sleep
open Noyra.Lib

inductive LifecycleState
  | booting | orienting | active | paused | windingDown | reflectiveSleep | deepSleep | waking | stopped | resetting
  deriving DecidableEq

/-- `ALLOWED_TRANSITIONS`. -/
def LifecycleState.allowedTransitions : LifecycleState → List LifecycleState
  | .booting => [.orienting, .active, .stopped]
  | .orienting => [.active, .stopped]
  | .active => [.paused, .windingDown, .stopped]
  | .paused => [.active, .stopped]
  | .windingDown => [.reflectiveSleep, .stopped]
  | .reflectiveSleep => [.deepSleep, .stopped]
  | .deepSleep => [.waking, .stopped]
  | .waking => [.active, .stopped]
  | .stopped => [.booting, .resetting]
  | .resetting => [.booting, .stopped]

/-- `sleep_states`. -/
def LifecycleState.sleeping (l : LifecycleState) : Bool :=
  l = .windingDown || l = .reflectiveSleep || l = .deepSleep || l = .waking

inductive RunStatus
  | windingDown | reflectiveSleep | deepSleep | waking | complete | failed
  deriving DecidableEq

/-- `SLEEP_TRANSITIONS`. -/
def RunStatus.sleepTransitions : RunStatus → List RunStatus
  | .windingDown => [.reflectiveSleep, .failed]
  | .reflectiveSleep => [.deepSleep, .failed]
  | .deepSleep => [.waking, .failed]
  | .waking => [.complete, .failed]
  | .complete => []
  | .failed => []

/-- `status NOT IN ('complete', 'failed')`. -/
def RunStatus.unfinished (s : RunStatus) : Bool := s ≠ .complete && s ≠ .failed

/-- A run that has begun and not woken. -/
def RunStatus.asleep (s : RunStatus) : Bool := s = .windingDown || s = .reflectiveSleep || s = .deepSleep

/-- The lifecycle state a run's status is named after. -/
def RunStatus.lifecycle? : RunStatus → Option LifecycleState
  | .windingDown => some .windingDown
  | .reflectiveSleep => some .reflectiveSleep
  | .deepSleep => some .deepSleep
  | .waking => some .waking
  | .complete => none
  | .failed => none

inductive TriggerType
  | fatigue | budget | failures | staleness | goalConflict | subjectChoice | schedule | emergency
  deriving DecidableEq

inductive FatigueMode
  | active | saving | conservative | windingDown | sleeping
  deriving DecidableEq

inductive SleepError
  | valueError (text : String)
  | sleepStateConflict (text : String)
  | invalidTransition (current target : LifecycleState)
  | notFoundError (text : String)
  | causalValidationError (text : String)
  | identityConflict
  | integrityError (text : String)
  | fatigueStateError
  | runtimeOwnershipError
  | sqliteIntegrityError
  | otherError
  deriving DecidableEq

/-- A SHA-256 digest in hexadecimal. -/
structure Digest where
  text : String
  length_text : text.length = 64
  deriving DecidableEq

/-- The numbers of the kind `float`, with what a REAL column gives back for one. A comparison with a number
that is no number is false; a REAL column changes nothing but the sign of a zero; rest does not add to fatigue. The
integers among them are those of the engine, none above the 168 hours of a restoration. -/
structure Floats where
  F : Type
  decEq : DecidableEq F
  ofInt : Int → F
  le : F → F → Bool
  stored : F → F
  /-- `old * 0.96`. -/
  decayed : F → F
  /-- `old - min(100.0, hours * 18.0)`. -/
  rested : F → F → F
  /-- `_instantaneous` of the five inputs. -/
  weighted : F → F → F → F → F → F
  /-- Hours from the first to the second instant. -/
  hours : Nat → Nat → F
  le_ofInt : ∀ a b, 0 ≤ a → a ≤ 168 → 0 ≤ b → b ≤ 168 → le (ofInt a) (ofInt b) = decide (a ≤ b)
  le_right_self : ∀ a b, le a b = true → le b b = true
  stored_ofInt : ∀ n, 0 ≤ n → n ≤ 168 → stored (ofInt n) = ofInt n
  stored_pos : ∀ a, le (ofInt 0) a = true → le a (ofInt 0) = false → stored a = a
  stored_stored : ∀ a, stored (stored a) = stored a
  rested_le : ∀ a h, le a (ofInt 100) = true → le (ofInt 0) h = true → le (rested a h) (ofInt 100) = true

namespace Floats

variable (fl : Floats)

instance : DecidableEq fl.F := fl.decEq

/-- `minimum <= x <= maximum`. -/
def within (low high : Int) (x : fl.F) : Bool := fl.le (fl.ofInt low) x && fl.le x (fl.ofInt high)

/-- `max(0.0, x)`. -/
def maxZero (x : fl.F) : fl.F := if fl.le x (fl.ofInt 0) = false ∧ fl.le (fl.ofInt 0) x = true then x else fl.ofInt 0

/-- `max(a, b)`. -/
def max (a b : fl.F) : fl.F := if fl.le b a = false ∧ fl.le a b = true then b else a

/-- `a == b`. -/
def sameNumber (a b : fl.F) : Bool := fl.le a b && fl.le b a

end Floats

variable (fl : Floats)

/-- `FatigueInputs`. -/
structure FatigueInputs where
  resourcePressure : fl.F
  cognitiveLoad : fl.F
  frustration : fl.F
  goalConflict : fl.F
  staleness : fl.F
  deriving DecidableEq

namespace FatigueInputs

variable {fl}

/-- The bounds of the five fields. -/
def valid (i : FatigueInputs fl) : Bool :=
  fl.within 0 1 i.resourcePressure && fl.within 0 1 i.cognitiveLoad && fl.within 0 1 i.frustration &&
    fl.within 0 1 i.goalConflict && fl.within 0 1 i.staleness

/-- What the REAL columns give back. -/
def stored (i : FatigueInputs fl) : FatigueInputs fl :=
  ⟨fl.stored i.resourcePressure, fl.stored i.cognitiveLoad, fl.stored i.frustration, fl.stored i.goalConflict,
    fl.stored i.staleness⟩

/-- The inputs after sleep. -/
def rested (resourcePressure : fl.F) : FatigueInputs fl :=
  ⟨resourcePressure, fl.ofInt 0, fl.ofInt 0, fl.ofInt 0, fl.ofInt 0⟩

/-- `_instantaneous`. -/
def instantaneous (i : FatigueInputs fl) : fl.F :=
  fl.weighted i.resourcePressure i.cognitiveLoad i.frustration i.goalConflict i.staleness

end FatigueInputs

/-- `SleepMemory`: the events a memory is drawn from. What else it holds is not read here. -/
structure SleepMemory where
  content : String
  sourceEventIds : List Nat
  deriving DecidableEq

/-- `SleepGoalRevision`. -/
structure SleepGoalRevision where
  goalId : Nat
  reason : String
  deriving DecidableEq

/-- `SleepBeliefRevision`. -/
structure SleepBeliefRevision where
  beliefId : Nat
  proposition : String
  supportingEventIds : List Nat
  counterEventIds : List Nat
  reason : String
  deriving DecidableEq

/-- `SleepRetryBlock`. -/
structure SleepRetryBlock where
  tool : String
  target : String
  goalId : Option Nat
  strategyId : Option Nat
  reason : String
  actionIds : List Nat
  deriving DecidableEq

/-- `PersonalityCandidateInput`. -/
structure PersonalityCandidateInput where
  trait : String
  direction : fl.F
  confidence : fl.F
  evidenceIds : List Nat
  deriving DecidableEq

/-- `SleepReflectionPlan`. -/
structure SleepReflectionPlan where
  summary : String
  facts : List String
  contradictions : List String
  predictionErrors : List String
  unresolvedQuestions : List String
  publicDiaryCandidate : Option String
  memories : List SleepMemory
  goalRevisions : List SleepGoalRevision
  beliefRevisions : List SleepBeliefRevision
  retryBlocks : List SleepRetryBlock
  personalityCandidates : List (PersonalityCandidateInput fl)
  deriving DecidableEq

/-- A text of `least` to `most` characters that is not blank. -/
def nonblankText (least most : Nat) (text : String) : Bool :=
  least ≤ text.length && text.length ≤ most && strip text ≠ ""

/-- `validate_reflection_lists`, with the bound on the number of entries. -/
def validReflectionList (texts : List String) : Bool :=
  texts.length ≤ 128 && texts.all (fun t => strip t ≠ "" && t.length ≤ 20000) && decide texts.Nodup

def SleepRetryBlock.valid (b : SleepRetryBlock) : Bool :=
  nonblankText 1 256 b.tool && nonblankText 1 4000 b.target && nonblankText 1 10000 b.reason &&
    b.actionIds.length ≤ 64 && 2 ≤ b.actionIds.dedup.length

def PersonalityCandidateInput.valid {fl : Floats} (c : PersonalityCandidateInput fl) : Bool :=
  nonblankText 1 128 c.trait && fl.within (-1) 1 c.direction && fl.within 0 1 c.confidence &&
    c.evidenceIds.length ≤ 64 && 3 ≤ c.evidenceIds.dedup.length

/-- What makes a `SleepReflectionPlan`. -/
def SleepReflectionPlan.valid {fl : Floats} (p : SleepReflectionPlan fl) : Bool :=
  nonblankText 1 20000 p.summary && validReflectionList p.facts && validReflectionList p.contradictions &&
    validReflectionList p.predictionErrors && validReflectionList p.unresolvedQuestions &&
    p.publicDiaryCandidate.all (fun t => strip t ≠ "" && t.length ≤ 20000) &&
    p.memories.length ≤ 32 &&
    p.memories.all (fun m => nonblankText 1 200000 m.content && 1 ≤ m.sourceEventIds.length &&
      m.sourceEventIds.length ≤ 64) &&
    p.goalRevisions.length ≤ 32 && p.goalRevisions.all (fun g => nonblankText 1 10000 g.reason) &&
    p.beliefRevisions.length ≤ 32 &&
    p.beliefRevisions.all (fun b => nonblankText 1 20000 b.proposition && nonblankText 1 10000 b.reason &&
      b.supportingEventIds.length ≤ 64 && b.counterEventIds.length ≤ 64) &&
    p.retryBlocks.length ≤ 32 && p.retryBlocks.all SleepRetryBlock.valid &&
    p.personalityCandidates.length ≤ 32 && p.personalityCandidates.all PersonalityCandidateInput.valid

/-- `runtime_state`. -/
structure RuntimeRow where
  subjectId : Nat
  state : LifecycleState
  deriving DecidableEq

/-- `sleep_runs`. -/
structure SleepRunRow where
  sleepId : Nat
  subjectId : Nat
  status : RunStatus
  triggerType : TriggerType
  triggerReason : String
  emergency : Bool
  preSleepFatigue : fl.F
  wakeAfter : Option Nat
  reflectionEventId : Option Nat
  checkpointId : Option Nat
  stateHash : Digest
  version : Nat
  startedAt : Nat
  updatedAt : Nat
  completedAt : Option Nat
  deriving DecidableEq

/-- `sleep_transitions`. -/
structure SleepTransitionRow where
  sleepId : Nat
  fromStatus : Option RunStatus
  toStatus : RunStatus
  reason : String
  stateHash : Digest
  deriving DecidableEq

/-- `sleep_reflections`. -/
structure SleepReflectionRow where
  sleepId : Nat
  eventId : Nat
  summary : String
  facts : List String
  contradictions : List String
  predictionErrors : List String
  unresolvedQuestions : List String
  publicDiaryCandidate : Option String
  plan : SleepReflectionPlan fl
  planHash : Digest
  deriving DecidableEq

inductive IntegrationType
  | memory | goal | belief | retryBlock | personalityCandidate
  deriving DecidableEq

/-- `sleep_integrations`. -/
structure SleepIntegrationRow where
  sleepId : Nat
  integrationType : IntegrationType
  targetId : Nat
  sourceIds : List Nat
  resultHash : Digest
  deriving DecidableEq

/-- `fatigue_states`. -/
structure FatigueRow where
  subjectId : Nat
  fatigue : fl.F
  mode : FatigueMode
  inputs : FatigueInputs fl
  stateHash : Digest
  version : Nat
  deriving DecidableEq

/-- `fatigue_transitions`. -/
structure FatigueTransitionRow where
  subjectId : Nat
  oldFatigue : fl.F
  newFatigue : fl.F
  mode : FatigueMode
  inputs : FatigueInputs fl
  reason : String
  stateHash : Digest
  deriving DecidableEq

inductive RetryStatus
  | active | released
  deriving DecidableEq

/-- `retry_blocks`. -/
structure RetryBlockRow where
  blockId : Nat
  subjectId : Nat
  goalId : Option Nat
  strategyId : Option Nat
  tool : String
  target : String
  reason : String
  status : RetryStatus
  releaseEvidenceEventId : Option Nat
  evidenceEventBoundary : Nat
  stateHash : Digest
  releasedAt : Option Nat
  deriving DecidableEq

inductive CandidateStatus
  | candidate | supported | contested | retired
  deriving DecidableEq

/-- `personality_candidates`. -/
structure CandidateRow where
  candidateId : Nat
  subjectId : Nat
  trait : String
  direction : fl.F
  confidence : fl.F
  evidenceIds : List Nat
  status : CandidateStatus
  stateHash : Digest
  deriving DecidableEq

inductive EventType
  | lifecycleTransition | lifecycleRecovery | sleepReflectionBoundary | sleepReflection | stateCheckpoint | other
  deriving DecidableEq

/-- `events`; the place of a row is its `rowid`. -/
structure EventRow where
  eventId : Nat
  subjectId : Nat
  eventType : EventType
  deriving DecidableEq

/-- `state_snapshots`. -/
structure SnapshotRow where
  snapshotId : Nat
  subjectId : Nat
  stateVersion : Nat
  stateBytes : Nat
  deriving DecidableEq

/-- `subject_identity`. -/
structure IdentityRow where
  subjectId : Nat
  stateVersion : Nat
  lastCheckpoint : Option Nat
  deriving DecidableEq

inductive ActionStatus
  | prepared | executing | succeeded | failed | unknown | cancelled
  deriving DecidableEq

/-- `actions`, which other components write. -/
structure ActionRow where
  actionId : Nat
  subjectId : Nat
  status : ActionStatus
  tool : String
  target : String
  goalId : Option Nat
  strategyId : Option Nat
  deriving DecidableEq

end Noyra.Sleep
