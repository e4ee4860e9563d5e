import Mathlib.Data.List.Dedup
import Noyra.Sleep.Types

/-!
# The sleep engine

The transactions of `SleepEngine` and `FatigueTracker` on the tables. A transaction that raises leaves the
tables unchanged. A flag `fault` stands for an error of the store itself.
-/

namespace Noyra.Sleep
open Noyra.Lib

/-- The hashes of the records. -/
structure SleepConfig where
  fl : Floats
  fatigueHash : fl.F → FatigueMode → FatigueInputs fl → Digest
  runHash : RunStatus → TriggerType → String → Bool → fl.F → Option Nat → Option Nat → Option Nat → Nat →
    Option Nat → Digest
  transitionHash : Option RunStatus → RunStatus → String → Digest
  retryHash : Option Nat → Option Nat → String → String → String → RetryStatus → Option Nat → Nat → Digest
  candidateHash : String → fl.F → fl.F → List Nat → CandidateStatus → Digest
  planHash : SleepReflectionPlan fl → Digest

/-- The tables the engine reads and writes. `sources` are the records other than events that a subject may name
as causes, `withdrawn` the erased ones. -/
structure SleepDb (fl : Floats) where
  runtimeStates : Table RuntimeRow.subjectId
  runs : Table (@SleepRunRow.sleepId fl)
  transitions : List SleepTransitionRow
  reflections : Table (@SleepReflectionRow.sleepId fl)
  integrations : List SleepIntegrationRow
  fatigue : Table (@FatigueRow.subjectId fl)
  fatigueTransitions : List (FatigueTransitionRow fl)
  retryBlocks : Table RetryBlockRow.blockId
  candidates : Table (@CandidateRow.candidateId fl)
  events : List EventRow
  snapshots : Table SnapshotRow.snapshotId
  identities : Table IdentityRow.subjectId
  actions : Table ActionRow.actionId
  sources : List (Nat × Nat)
  withdrawn : List Nat
  nextId : Nat

/-- `tuple(dict.fromkeys(ids))`. -/
def distinct (ids : List Nat) : List Nat := ids.reverse.dedup.reverse

variable (cfg : SleepConfig)

namespace SleepDb

variable {fl : Floats} (db : SleepDb fl)

/-- `EventStore._append_connection`. -/
def appendEvent (subjectId : Nat) (eventType : EventType) : SleepDb fl :=
  { db with events := db.events ++ [⟨db.nextId, subjectId, eventType⟩], nextId := db.nextId + 1 }

def lifecycle? (subjectId : Nat) : Option LifecycleState := (db.runtimeStates.find? subjectId).map RuntimeRow.state

def setLifecycle (subjectId : Nat) (state : LifecycleState) : SleepDb fl :=
  { db with runtimeStates := db.runtimeStates.replace ⟨subjectId, state⟩ }

def event? (eventId : Nat) : Option EventRow := db.events.find? (fun e => e.eventId = eventId)

/-- The `rowid` of an event. -/
def rowid? (eventId : Nat) : Option Nat := (db.events.findIdx? (fun e => e.eventId = eventId)).map (· + 1)

/-- `_require_quiescent_actions`. -/
def quiescent (subjectId : Nat) : Bool :=
  db.actions.rows.all (fun a => a.subjectId ≠ subjectId || (a.status ≠ .prepared && a.status ≠ .executing))

/-- The unfinished run of a subject. -/
def current (subjectId : Nat) : Option (SleepRunRow fl) :=
  db.runs.rows.find? (fun r => r.subjectId = subjectId && r.status.unfinished)

end SleepDb

/-- `LifecycleManager._transition_connection`. -/
def transitionConnection {fl : Floats} (subjectId : Nat) (target : LifecycleState) (reason actor : String)
    (db : SleepDb fl) : Except SleepError (SleepDb fl) := do
  raiseIf (strip reason = "") (.valueError "transition reason is required")
  raiseIf (strip actor = "") (.valueError "transition actor is required")
  let state ← orRaise (db.lifecycle? subjectId) (.notFoundError "lifecycle state not found")
  raiseIf (target ∉ state.allowedTransitions) (.invalidTransition state target)
  .ok ((db.setLifecycle subjectId target).appendEvent subjectId .lifecycleTransition)

/-- `mode_for`. -/
def modeFor (fatigue : cfg.fl.F) : FatigueMode :=
  if cfg.fl.le (cfg.fl.ofInt 100) fatigue then .sleeping
  else if cfg.fl.le (cfg.fl.ofInt 90) fatigue then .windingDown
  else if cfg.fl.le (cfg.fl.ofInt 70) fatigue then .conservative
  else if cfg.fl.le (cfg.fl.ofInt 40) fatigue then .saving
  else .active

/-- `FatigueTracker._from_row`. -/
def fatigueFromRow (row : FatigueRow cfg.fl) : Except SleepError (FatigueRow cfg.fl) := do
  raiseIf (row.inputs.valid = false) (.valueError "fatigue inputs are out of range")
  raiseIf (cfg.fatigueHash row.fatigue row.mode row.inputs ≠ row.stateHash)
    (.integrityError "fatigue state hash mismatch")
  raiseIf (row.mode ≠ modeFor cfg row.fatigue) .fatigueStateError
  .ok row

/-- The row of a subject without history. -/
def initialFatigue (subjectId : Nat) : FatigueRow cfg.fl :=
  let inputs := FatigueInputs.rested (cfg.fl.ofInt 0)
  ⟨subjectId, cfg.fl.ofInt 0, .active, inputs, cfg.fatigueHash (cfg.fl.ofInt 0) .active inputs, 1⟩

/-- `ensure`. -/
def ensureFatigue (subjectId : Nat) (db : SleepDb cfg.fl) : Except SleepError (SleepDb cfg.fl × FatigueRow cfg.fl) :=
  match db.fatigue.find? subjectId with
  | some row => do
    let row ← fatigueFromRow cfg row
    .ok (db, row)
  | none => do
    let table ← orRaise (db.fatigue.insert? (initialFatigue cfg subjectId)) .sqliteIntegrityError
    let row ← fatigueFromRow cfg (initialFatigue cfg subjectId)
    .ok ({ db with fatigue := table }, row)

/-- `UPDATE fatigue_states` with its columns' checks, and the row of the history. -/
def writeFatigue (row : FatigueRow cfg.fl) (fatigue : cfg.fl.F) (mode : FatigueMode) (inputs : FatigueInputs cfg.fl)
    (reason : String) (db : SleepDb cfg.fl) : Except SleepError (SleepDb cfg.fl) := do
  let hash := cfg.fatigueHash fatigue mode inputs
  let kept := cfg.fl.stored fatigue
  raiseIf (cfg.fl.within 0 100 kept = false ∨ inputs.stored.valid = false) .sqliteIntegrityError
  .ok { db with
    fatigue := db.fatigue.replace ⟨row.subjectId, kept, mode, inputs.stored, hash, row.version + 1⟩,
    fatigueTransitions := db.fatigueTransitions ++
      [⟨row.subjectId, row.fatigue, kept, mode, inputs.stored, reason, hash⟩] }

/-- `_load_connection`. -/
def loadFatigue (subjectId : Nat) (db : SleepDb cfg.fl) : Except SleepError Unit := do
  let row ← orRaise (db.fatigue.find? subjectId) (.notFoundError "fatigue state not found")
  let _ ← fatigueFromRow cfg row
  .ok ()

/-- The row a change of fatigue starts from; a missing one is inserted first. -/
def fatigueRow (subjectId : Nat) (db : SleepDb cfg.fl) : Except SleepError (SleepDb cfg.fl × FatigueRow cfg.fl) :=
  match db.fatigue.find? subjectId with
  | some row => .ok (db, row)
  | none => do
    let table ← orRaise (db.fatigue.insert? (initialFatigue cfg subjectId)) .sqliteIntegrityError
    .ok ({ db with fatigue := table }, initialFatigue cfg subjectId)

/-- `assess`. `exhausted` is whether every configured pool is. -/
def assess (subjectId : Nat) (inputs : FatigueInputs cfg.fl) (reason : String) (exhausted : Bool)
    (db : SleepDb cfg.fl) : Except SleepError (SleepDb cfg.fl) := do
  raiseIf (inputs.valid = false) (.valueError "fatigue inputs are out of range")
  raiseIf (strip reason = "" ∨ 10000 < reason.length) (.valueError "fatigue assessment reason is invalid")
  let (db, row) ← fatigueRow cfg subjectId db
  let eased := cfg.fl.max (cfg.fl.decayed row.fatigue) inputs.instantaneous
  let fatigue := if cfg.fl.le (cfg.fl.ofInt 1) inputs.resourcePressure && exhausted then cfg.fl.ofInt 100 else eased
  let db ← writeFatigue cfg row fatigue (modeFor cfg fatigue) inputs reason db
  loadFatigue cfg subjectId db
  .ok db

/-- `restore_after_sleep`. -/
def restoreAfterSleep (subjectId : Nat) (hours : cfg.fl.F) (reason : String) (db : SleepDb cfg.fl) :
    Except SleepError (SleepDb cfg.fl) := do
  raiseIf ((cfg.fl.le hours (cfg.fl.ofInt 0) && !cfg.fl.le (cfg.fl.ofInt 0) hours) ∨
    (cfg.fl.le (cfg.fl.ofInt 168) hours && !cfg.fl.le hours (cfg.fl.ofInt 168)) ∨ strip reason = "")
    (.valueError "sleep duration or restoration reason is invalid")
  let (db, row) ← fatigueRow cfg subjectId db
  let fatigue := cfg.fl.maxZero (cfg.fl.rested row.fatigue hours)
  let inputs := FatigueInputs.rested row.inputs.resourcePressure
  let db ← writeFatigue cfg row fatigue (modeFor cfg fatigue) inputs reason db
  loadFatigue cfg subjectId db
  .ok db

/-- `_mark_fatigue_sleeping`. -/
def markFatigueSleeping (subjectId : Nat) (reason : String) (db : SleepDb cfg.fl) :
    Except SleepError (SleepDb cfg.fl) := do
  let row ← orRaise (db.fatigue.find? subjectId) (.notFoundError "fatigue state not found")
  raiseIf (row.inputs.valid = false) (.valueError "fatigue inputs are out of range")
  writeFatigue cfg row (cfg.fl.ofInt 100) .sleeping row.inputs reason db

/-- `_restore_fatigue_connection`. -/
def restoreFatigueConnection (subjectId : Nat) (hours : cfg.fl.F) (reason : String) (resetResourcePressure : Bool)
    (db : SleepDb cfg.fl) : Except SleepError (SleepDb cfg.fl) := do
  let row ← orRaise (db.fatigue.find? subjectId) (.notFoundError "fatigue state not found")
  let fatigue := cfg.fl.maxZero (cfg.fl.rested row.fatigue hours)
  let inputs := FatigueInputs.rested (if resetResourcePressure then cfg.fl.ofInt 0 else row.inputs.resourcePressure)
  raiseIf (inputs.valid = false) (.valueError "fatigue inputs are out of range")
  writeFatigue cfg row fatigue (modeFor cfg fatigue) inputs reason db

/-- `_state_hash` of a run's columns. -/
def runStateHash (row : SleepRunRow cfg.fl) : Digest :=
  cfg.runHash row.status row.triggerType row.triggerReason row.emergency row.preSleepFatigue row.wakeAfter
    row.reflectionEventId row.checkpointId row.version row.completedAt

/-- `_get_row`, which takes a run of any subject. -/
def getRow {fl : Floats} (sleepId : Nat) (db : SleepDb fl) : Except SleepError (SleepRunRow fl) :=
  orRaise (db.runs.find? sleepId) (.notFoundError "sleep run not found")

/-- `_from_row`. -/
def runFromRow (row : SleepRunRow cfg.fl) : Except SleepError Unit :=
  raiseIf (runStateHash cfg row ≠ row.stateHash) (.integrityError "sleep run hash mismatch")

/-- The row of a run with its hash computed from the other columns. -/
def SleepRunRow.hashed (row : SleepRunRow cfg.fl) : SleepRunRow cfg.fl := { row with stateHash := runStateHash cfg row }

/-- `_insert_transition`. -/
def insertTransition (sleepId : Nat) (fromStatus : Option RunStatus) (toStatus : RunStatus) (reason : String)
    (db : SleepDb cfg.fl) : SleepDb cfg.fl :=
  { db with transitions := db.transitions ++
      [⟨sleepId, fromStatus, toStatus, reason, cfg.transitionHash fromStatus toStatus reason⟩] }

/-- The row of a run that takes a transition. -/
def SleepRunRow.moved (row : SleepRunRow cfg.fl) (toStatus : RunStatus) (checkpointId completedAt : Option Nat)
    (now : Nat) : SleepRunRow cfg.fl :=
  SleepRunRow.hashed cfg { row with
    status := toStatus, version := row.version + 1, updatedAt := now,
    checkpointId := checkpointId.or row.checkpointId, completedAt := completedAt.or row.completedAt }

/-- `_transition_run`. -/
def transitionRun (row : SleepRunRow cfg.fl) (toStatus : RunStatus) (reason : String)
    (checkpointId completedAt : Option Nat)
    (now : Nat) (db : SleepDb cfg.fl) : Except SleepError (SleepDb cfg.fl) := do
  raiseIf (toStatus ∉ row.status.sleepTransitions) (.sleepStateConflict "cannot transition sleep")
  .ok (insertTransition cfg row.sleepId (some row.status) toStatus reason
    { db with runs := db.runs.replace (row.moved cfg toStatus checkpointId completedAt now) })

/-- The arguments of `start`; `wakeAfter` is the instant its text denotes, in microseconds. -/
structure StartRequest where
  triggerType : TriggerType
  reason : String
  wakeAfter : Option Nat
  emergency : Bool
  now : Nat

/-- `_normalize_optional_future`: milliseconds are kept. -/
def normalizeOptionalFuture (now : Nat) : Option Nat → Except SleepError (Option Nat)
  | none => .ok none
  | some t => do
    raiseIf (t ≤ now) (.valueError "scheduled wake time must be in the future")
    .ok (some (t / 1000 * 1000))

/-- `start` up to its transaction: the checks of the arguments, and the fatigue row, which is committed. -/
def startChecks (subjectId : Nat) (q : StartRequest) (db : SleepDb cfg.fl) :
    Except SleepError (SleepDb cfg.fl × FatigueRow cfg.fl × Option Nat) := do
  raiseIf (strip q.reason = "" ∨ 10000 < q.reason.length) (.valueError "sleep trigger reason is invalid")
  let wake ← normalizeOptionalFuture q.now q.wakeAfter
  let (db, row) ← ensureFatigue cfg subjectId db
  .ok (db, row, wake)

/-- The transaction of `start`. -/
def startRun (subjectId : Nat) (q : StartRequest) (fatigue : FatigueRow cfg.fl) (wake : Option Nat)
    (db : SleepDb cfg.fl) : Except SleepError (SleepDb cfg.fl) := do
  raiseIf (q.triggerType = .fatigue ∧ cfg.fl.le (cfg.fl.ofInt 90) fatigue.fatigue = false)
    (.sleepStateConflict "fatigue-triggered sleep requires fatigue >= 90")
  raiseIf (q.triggerType = .budget ∧ cfg.fl.le (cfg.fl.ofInt 1) fatigue.inputs.resourcePressure = false)
    (.sleepStateConflict "budget-triggered sleep requires exhausted resources")
  match db.current subjectId with
  | some existing => do
    raiseIf (existing.triggerType ≠ q.triggerType ∨ existing.triggerReason ≠ q.reason)
      (.sleepStateConflict "another sleep run is already active")
    runFromRow cfg existing
    .ok db
  | none => do
    raiseIf (db.quiescent subjectId = false) (.sleepStateConflict "sleep requires an action to settle")
    raiseIf (db.lifecycle? subjectId ≠ some .active)
      (.sleepStateConflict "sleep can begin only from active lifecycle state")
    let db ← transitionConnection subjectId .windingDown q.reason "subject" db
    let sleepId := db.nextId
    let emergency := q.emergency || q.triggerType = .emergency
    let hash := cfg.runHash .windingDown q.triggerType q.reason emergency fatigue.fatigue wake none none 1 none
    let row : SleepRunRow cfg.fl := ⟨sleepId, subjectId, .windingDown, q.triggerType, q.reason, emergency,
      fatigue.fatigue, wake, none, none, hash, 1, q.now, q.now, none⟩
    let table ← orRaise (db.runs.insert? row) .sqliteIntegrityError
    let db := insertTransition cfg sleepId none .windingDown q.reason { db with runs := table, nextId := db.nextId + 1 }
    .ok (db.appendEvent subjectId .sleepReflectionBoundary)

/-- `begin_reflection`. -/
def beginReflection (subjectId sleepId : Nat) (reason : String) (now : Nat) (db : SleepDb cfg.fl) :
    Except SleepError (SleepDb cfg.fl) := do
  let row ← getRow sleepId db
  if row.status = .reflectiveSleep then
    runFromRow cfg row
    .ok db
  else
    raiseIf (row.status ≠ .windingDown) (.sleepStateConflict "reflection can begin only after winding down")
    raiseIf (db.quiescent subjectId = false) (.sleepStateConflict "sleep requires an action to settle")
    let db ← transitionConnection subjectId .reflectiveSleep reason "subject" db
    transitionRun cfg row .reflectiveSleep reason none none now db

/-- What the stores of memories, goals and beliefs answer to each part of a plan: the record that was written
and its hash, or nothing where the store raises. -/
structure PlanAnswers where
  memory : Nat → Option (Nat × Digest)
  goal : Nat → Option Digest
  belief : Nat → Option Digest

/-- `_integration`. -/
def integration {fl : Floats} (sleepId : Nat) (type : IntegrationType) (targetId : Nat) (sources : List Nat)
    (resultHash : Digest) (db : SleepDb fl) : SleepDb fl :=
  { db with integrations := db.integrations ++ [⟨sleepId, type, targetId, distinct sources, resultHash⟩] }

/-- One memory of `_apply_memories`. -/
def applyMemory {fl : Floats} (answers : PlanAnswers) (sleepId eventId : Nat) (db : SleepDb fl)
    (item : SleepMemory × Nat) : Except SleepError (SleepDb fl) := do
  let (memoryId, hash) ← orRaise (answers.memory item.2) .otherError
  .ok (integration sleepId .memory memoryId (distinct (item.1.sourceEventIds ++ [eventId])) hash db)

/-- One goal of `_apply_goals`. -/
def applyGoal {fl : Floats} (answers : PlanAnswers) (sleepId eventId : Nat) (db : SleepDb fl)
    (item : SleepGoalRevision × Nat) : Except SleepError (SleepDb fl) := do
  let hash ← orRaise (answers.goal item.2) .otherError
  .ok (integration sleepId .goal item.1.goalId [eventId] hash db)

/-- One belief of `_apply_beliefs`. -/
def applyBelief {fl : Floats} (answers : PlanAnswers) (sleepId eventId : Nat) (db : SleepDb fl)
    (item : SleepBeliefRevision × Nat) : Except SleepError (SleepDb fl) := do
  let hash ← orRaise (answers.belief item.2) .otherError
  let supporting := distinct (item.1.supportingEventIds ++ [eventId])
  .ok (integration sleepId .belief item.1.beliefId (supporting ++ item.1.counterEventIds) hash db)

/-- Whether an action is a failed or unknown one of the block's tool, target, goal and strategy. -/
def SleepRetryBlock.matches (item : SleepRetryBlock) (a : ActionRow) : Bool :=
  (a.status = .failed || a.status = .unknown) && a.tool = item.tool && a.target = item.target &&
    a.goalId = item.goalId && a.strategyId = item.strategyId

/-- One block of `_apply_retry_blocks`. -/
def applyRetryBlock (subjectId sleepId : Nat) (db : SleepDb cfg.fl) (item : SleepRetryBlock) :
    Except SleepError (SleepDb cfg.fl) := do
  let actionIds := distinct item.actionIds
  let rows := db.actions.rows.filter (fun a => a.subjectId = subjectId && a.actionId ∈ actionIds)
  raiseIf (rows.length ≠ actionIds.length ∨ rows.any (fun a => !item.matches a))
    (.sleepStateConflict "retry blocks require two matching failed or unknown actions")
  if db.retryBlocks.rows.any (fun b => b.subjectId = subjectId && b.status = .active && b.tool = item.tool &&
      b.target = item.target && b.goalId = item.goalId && b.strategyId = item.strategyId) then .ok db
  else
    let boundary := db.events.length
    let hash := cfg.retryHash item.goalId item.strategyId item.tool item.target item.reason .active none boundary
    let row : RetryBlockRow := ⟨db.nextId, subjectId, item.goalId, item.strategyId, item.tool, item.target, item.reason,
      .active, none, boundary, hash, none⟩
    let table ← orRaise (db.retryBlocks.insert? row) .sqliteIntegrityError
    .ok (integration sleepId .retryBlock db.nextId actionIds hash
      { db with retryBlocks := table, nextId := db.nextId + 1 })

/-- `validate_causal_source_ids`: every id names a record of the subject that is not withdrawn, an event or
another one. -/
def validateCausalSourceIds {fl : Floats} (db : SleepDb fl) (subjectId : Nat) (sourceIds : List Nat) :
    Except SleepError (List Nat) := do
  let ids := distinct sourceIds
  raiseIf (ids = []) (.causalValidationError "at least one causal source is required")
  raiseIf (64 < ids.length) (.causalValidationError "a state revision can reference at most 64 causal sources")
  raiseIf (ids.any (fun id => id ∈ db.withdrawn)) (.causalValidationError "private causal source has been withdrawn")
  raiseIf (ids.any (fun id => !((db.event? id).any (fun e => e.subjectId = subjectId)) && (subjectId, id) ∉ db.sources))
    (.causalValidationError "causal source is missing or belongs to another subject")
  .ok ids

/-- One candidate of `_apply_personality_candidates`. -/
def applyPersonalityCandidate (subjectId sleepId : Nat) (db : SleepDb cfg.fl)
    (item : PersonalityCandidateInput cfg.fl) :
    Except SleepError (SleepDb cfg.fl) := do
  let evidence ← validateCausalSourceIds db subjectId item.evidenceIds
  let hash := cfg.candidateHash item.trait item.direction item.confidence evidence .candidate
  let direction := cfg.fl.stored item.direction
  let confidence := cfg.fl.stored item.confidence
  raiseIf (cfg.fl.within (-1) 1 direction = false ∨ cfg.fl.within 0 1 confidence = false) .sqliteIntegrityError
  let row : CandidateRow cfg.fl := ⟨db.nextId, subjectId, item.trait, direction, confidence, evidence, .candidate, hash⟩
  let table ← orRaise (db.candidates.insert? row) .sqliteIntegrityError
  .ok (integration sleepId .personalityCandidate db.nextId evidence hash
    { db with candidates := table, nextId := db.nextId + 1 })

/-- The five parts of a plan, in the order the code applies them. -/
def applyPlan (answers : PlanAnswers) (subjectId sleepId eventId : Nat) (plan : SleepReflectionPlan cfg.fl)
    (db : SleepDb cfg.fl) : Except SleepError (SleepDb cfg.fl) := do
  let db ← plan.memories.zipIdx.foldlM (applyMemory answers sleepId eventId) db
  raiseIf (¬(plan.goalRevisions.map SleepGoalRevision.goalId).Nodup)
    (.sleepStateConflict "a sleep plan cannot revise one goal twice")
  let db ← plan.goalRevisions.zipIdx.foldlM (applyGoal answers sleepId eventId) db
  raiseIf (¬(plan.beliefRevisions.map SleepBeliefRevision.beliefId).Nodup)
    (.sleepStateConflict "a sleep plan cannot revise one belief twice")
  let db ← plan.beliefRevisions.zipIdx.foldlM (applyBelief answers sleepId eventId) db
  let db ← plan.retryBlocks.foldlM (applyRetryBlock cfg subjectId sleepId) db
  plan.personalityCandidates.foldlM (applyPersonalityCandidate cfg subjectId sleepId) db

/-- The row of a run that has its reflection. -/
def SleepRunRow.reflected (row : SleepRunRow cfg.fl) (eventId now : Nat) : SleepRunRow cfg.fl :=
  SleepRunRow.hashed cfg { row with reflectionEventId := some eventId, version := row.version + 1, updatedAt := now }

/-- `commit_reflection`. -/
def commitReflection (answers : PlanAnswers) (subjectId sleepId : Nat) (plan : SleepReflectionPlan cfg.fl) (now : Nat)
    (db : SleepDb cfg.fl) : Except SleepError (SleepDb cfg.fl) := do
  raiseIf (plan.valid = false) (.valueError "sleep reflection plan is invalid")
  let row ← getRow sleepId db
  raiseIf (row.status ≠ .reflectiveSleep) (.sleepStateConflict "reflection can commit only in reflective sleep")
  match db.reflections.find? sleepId with
  | some existing => do
    raiseIf (existing.planHash ≠ cfg.planHash plan) (.sleepStateConflict "sleep already has a different reflection")
    runFromRow cfg row
    .ok db
  | none => do
    let eventId := db.nextId
    let db := db.appendEvent subjectId .sleepReflection
    let reflection : SleepReflectionRow cfg.fl := ⟨sleepId, eventId, plan.summary, plan.facts, plan.contradictions,
      plan.predictionErrors, plan.unresolvedQuestions, plan.publicDiaryCandidate, plan, cfg.planHash plan⟩
    let table ← orRaise (db.reflections.insert? reflection) .sqliteIntegrityError
    let db ← applyPlan cfg answers subjectId sleepId eventId plan { db with reflections := table }
    .ok { db with runs := db.runs.replace (row.reflected cfg eventId now) }

/-- `SnapshotStore._save_connection` and `_update_checkpoint_connection` of the next version. -/
def saveCheckpoint {fl : Floats} (subjectId bytes : Nat) (db : SleepDb fl) : Except SleepError (SleepDb fl × Nat) := do
  let identity ← orRaise (db.identities.find? subjectId) (.notFoundError "identity not found")
  let version := identity.stateVersion + 1
  raiseIf (db.snapshots.rows.any (fun x => x.subjectId = subjectId && x.stateVersion = version)) .sqliteIntegrityError
  let snapshotId := db.nextId
  let table ← orRaise (db.snapshots.insert? ⟨snapshotId, subjectId, version, bytes⟩) .sqliteIntegrityError
  .ok ({ db with
    snapshots := table, identities := db.identities.replace ⟨subjectId, version, some snapshotId⟩,
    nextId := db.nextId + 1 }, snapshotId)

/-- `enter_deep_sleep`; `bytes` is the size of the saved state. -/
def enterDeepSleep (subjectId sleepId : Nat) (reason : String) (bytes now : Nat) (db : SleepDb cfg.fl) :
    Except SleepError (SleepDb cfg.fl) := do
  let row ← getRow sleepId db
  if row.status = .deepSleep then
    runFromRow cfg row
    .ok db
  else
    raiseIf (row.status ≠ .reflectiveSleep ∨ row.reflectionEventId = none)
      (.sleepStateConflict "deep sleep requires a committed reflection")
    let (db, snapshotId) ← saveCheckpoint subjectId bytes db
    let db ← transitionConnection subjectId .deepSleep reason "subject" db
    let db ← markFatigueSleeping cfg subjectId reason db
    transitionRun cfg row .deepSleep reason (some snapshotId) none now db

/-- `wake`. -/
def wake (subjectId sleepId : Nat) (reason : String) (force : Bool) (now : Nat) (db : SleepDb cfg.fl) :
    Except SleepError (SleepDb cfg.fl) := do
  raiseIf (strip reason = "") (.valueError "wake reason is required")
  let row ← getRow sleepId db
  if row.status = .waking then
    runFromRow cfg row
    .ok db
  else
    raiseIf (row.status ≠ .deepSleep) (.sleepStateConflict "wake can begin only from deep sleep")
    raiseIf (row.wakeAfter.any (fun t => !force && now < t)) (.sleepStateConflict "scheduled wake time has not arrived")
    let db ← transitionConnection subjectId .waking reason "subject" db
    transitionRun cfg row .waking reason none none now db

/-- Days are UTC days of the microsecond instants. -/
def dayOf (t : Nat) : Nat := t / 86400000000

/-- The end of a run: the fatigue is restored and the run completed. -/
def finishRun (subjectId : Nat) (row : SleepRunRow cfg.fl) (reason : String) (now : Nat) (db : SleepDb cfg.fl) :
    Except SleepError (SleepDb cfg.fl) := do
  let reset := row.triggerType = .budget && dayOf row.startedAt < dayOf now
  let hours := cfg.fl.maxZero (cfg.fl.hours row.startedAt now)
  let db ← restoreFatigueConnection cfg subjectId hours reason reset db
  transitionRun cfg row .complete reason none (some now) now db

/-- `complete_wake`. -/
def completeWake (subjectId sleepId : Nat) (reason : String) (now : Nat) (db : SleepDb cfg.fl) :
    Except SleepError (SleepDb cfg.fl) := do
  let row ← getRow sleepId db
  if row.status = .complete then
    runFromRow cfg row
    .ok db
  else
    raiseIf (row.status ≠ .waking) (.sleepStateConflict "wake completion requires waking state")
    let db ← transitionConnection subjectId .active reason "subject" db
    finishRun cfg subjectId row reason now db

/-- `wake_early`. -/
def wakeEarly (subjectId sleepId : Nat) (reason actor : String) (now : Nat) (db : SleepDb cfg.fl) :
    Except SleepError (SleepDb cfg.fl) := do
  raiseIf (strip reason = "") (.valueError "wake reason is required")
  raiseIf (strip actor = "") (.valueError "wake actor is required")
  let row ← getRow sleepId db
  if row.status = .complete then
    runFromRow cfg row
    .ok db
  else
    raiseIf (row.status ≠ .deepSleep) (.sleepStateConflict "early wake can begin only from deep sleep")
    let db ← transitionConnection subjectId .waking reason actor db
    let db ← transitionRun cfg row .waking reason none none now db
    let waking ← getRow sleepId db
    let db ← transitionConnection subjectId .active reason actor db
    finishRun cfg subjectId waking reason now db

/-- `release_retry_block`. -/
def releaseRetryBlock (subjectId blockId evidenceEventId now : Nat) (db : SleepDb cfg.fl) :
    Except SleepError (SleepDb cfg.fl) := do
  raiseIf ((db.event? evidenceEventId).all (fun e => e.subjectId ≠ subjectId))
    (.causalValidationError "source events are missing or belong to another subject")
  raiseIf (evidenceEventId ∈ db.withdrawn) (.causalValidationError "private source events have been withdrawn")
  let row ← orRaise ((db.retryBlocks.find? blockId).filter (fun b => b.subjectId = subjectId))
    (.notFoundError "retry block not found")
  if row.status = .released then .ok db
  else
    raiseIf ((db.rowid? evidenceEventId).all (fun n => n ≤ row.evidenceEventBoundary))
      (.sleepStateConflict "retry block release requires evidence recorded after the block")
    let hash := cfg.retryHash row.goalId row.strategyId row.tool row.target row.reason .released (some evidenceEventId)
      row.evidenceEventBoundary
    .ok { db with retryBlocks := db.retryBlocks.replace { row with
      status := .released, releaseEvidenceEventId := some evidenceEventId, stateHash := hash, releasedAt := some now } }

end Noyra.Sleep
