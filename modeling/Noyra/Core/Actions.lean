import Noyra.Lib.Json
import Noyra.Lib.Machine
import Noyra.Lib.Outcome
import Noyra.Lib.Table
import Noyra.Lib.Text

/-!
# The action ledger

`ActionLedger`: the intent of an action is recorded before it runs and its outcome afterwards, with a
revision of the action for every change and a behaviour log that is opened with the first outcome. Every
operation is one transaction.
-/

namespace Noyra.Core
open Noyra.Lib

inductive ActionError
  | valueError (message : String)
  | permissionError (message : String)
  | invalidTransitionError (message : String)
  | duplicateActionError (message : String)
  | integrityError (message : String)
  | notFoundError (message : String)
  | sqliteIntegrityError (message : String)
  deriving DecidableEq

/-- `ACTION_STATES`. -/
inductive ActionStatus
  | prepared | executing | succeeded | failed | unknown | cancelled
  deriving DecidableEq

namespace ActionStatus

def text : ActionStatus → String
  | prepared => "prepared"
  | executing => "executing"
  | succeeded => "succeeded"
  | failed => "failed"
  | unknown => "unknown"
  | cancelled => "cancelled"

/-- `EXECUTOR_COMPLETION_STATES`. -/
def isCompletion : ActionStatus → Bool
  | succeeded | failed | unknown | cancelled => true
  | _ => false

/-- `RECONCILIATION_STATES`. -/
def isReconciliation : ActionStatus → Bool
  | succeeded | failed | cancelled => true
  | _ => false

end ActionStatus

/-- The canonical JSON text of a dictionary. -/
structure JsonObject where
  text : String
  deriving DecidableEq

structure ActionRow where
  actionId : String
  subjectId : String
  goalId : Option String
  projectId : Option String
  phaseId : Option String
  strategyId : Option String
  actionType : String
  tool : String
  target : String
  inputHash : String
  idempotencyKey : String
  expectedOutcome : String
  sideEffect : Bool
  status : ActionStatus
  retryCount : Nat
  resourceCostJson : JsonObject
  resultJson : Option JsonObject
  preparedAt : String
  startedAt : Option String
  completedAt : Option String
  deriving DecidableEq

structure ActionRevision where
  revisionId : String
  actionId : String
  subjectId : String
  revisionNumber : Nat
  status : ActionStatus
  stateHash : String
  reason : String
  deriving DecidableEq

structure BehaviorLog where
  logId : String
  actionId : String
  subjectId : String
  occurredAt : String
  actionType : String
  publicGoalReference : Option String
  tool : String
  publicTarget : String
  resultStatus : ActionStatus
  sideEffectSummary : String
  resourceSummary : String
  publicExplanation : String
  redactionReason : Option String
  deriving DecidableEq

/-- What `behavior_log_state_hash` covers: the log as a revision states it, its number and its reason. -/
structure LogState where
  log : BehaviorLog
  revisionNumber : Nat
  reason : String
  deriving DecidableEq

structure LogRevision extends LogState where
  revisionId : String
  stateHash : String
  deriving DecidableEq

structure ActionTables where
  actions : Table ActionRow.actionId
  revisions : List ActionRevision
  logs : Table BehaviorLog.logId
  logRevisions : List LogRevision

/-- `content_hash` of the values it is used for. -/
structure ActionConfig where
  inputHash : JsonObject → String
  defaultKey : (subjectId actionType tool target : String) → JsonObject → String
  actionStateHash : ActionRow → String
  behaviorLogStateHash : LogState → String

/-- The clock and the fresh ids of one transaction. -/
structure ActionReading where
  now : String
  revisionId : String
  logId : String
  logRevisionId : String
  deriving DecidableEq

namespace ActionTables

variable (cfg : ActionConfig) (x : ActionReading) (db : ActionTables)

def revisionsOf (actionId : String) : List ActionRevision := db.revisions.filter (fun r => r.actionId = actionId)

def logRevisionsOf (logId : String) : List LogRevision := db.logRevisions.filter (fun r => r.log.logId = logId)

/-- `SELECT * FROM behavior_logs WHERE action_id = ?`. -/
def logOf (actionId : String) : Option BehaviorLog := db.logs.rows.find? (fun l => l.actionId = actionId)

/-- `UPDATE actions ... WHERE action_id = ?`. -/
def setAction (row : ActionRow) : ActionTables := { db with actions := db.actions.replace row }

/-- `_get_row`. -/
def getRow (actionId : String) : Except ActionError ActionRow :=
  orRaise (db.actions.find? actionId) (.notFoundError s!"action not found: {actionId}")

/-- One more than the largest revision number. -/
def nextNumber (numbers : List Nat) : Nat :=
  match numbers.max? with
  | none => 1
  | some n => n + 1

/-- `_record_revision`. -/
def recordRevision (actionId reason : String) : Except ActionError ActionTables := do
  let row ← db.getRow actionId
  raiseIf (db.revisions.any (fun r => r.revisionId = x.revisionId))
    (.sqliteIntegrityError "UNIQUE constraint failed: action_revisions.revision_id")
  .ok { db with
    revisions := db.revisions ++ [{
      revisionId := x.revisionId, actionId := row.actionId, subjectId := row.subjectId,
      revisionNumber := nextNumber ((db.revisionsOf actionId).map ActionRevision.revisionNumber),
      status := row.status, stateHash := cfg.actionStateHash row, reason }] }

/-- The contract that the insert trigger of `behavior_log_revisions` checks. -/
def revisionAllowed (s : LogState) : Bool :=
  (db.logs.find? s.log.logId).any (fun l =>
    l.actionId = s.log.actionId && l.subjectId = s.log.subjectId &&
    (db.actions.find? l.actionId).any (fun a => a.subjectId = s.log.subjectId && a.status = s.log.resultStatus)) &&
  (s.revisionNumber = 1 ||
    s.revisionNumber = 2 && s.log.resultStatus ≠ .unknown &&
    (db.logRevisionsOf s.log.logId).any (fun p =>
      p.revisionNumber = 1 && p.log.resultStatus = .unknown && p.log.actionType = s.log.actionType &&
      p.log.publicGoalReference = s.log.publicGoalReference && p.log.tool = s.log.tool &&
      p.log.publicTarget = s.log.publicTarget && p.log.resourceSummary = s.log.resourceSummary &&
      p.log.redactionReason = s.log.redactionReason))

/-- `_append_behavior_log_revision`. -/
def appendBehaviorLogRevision (source : BehaviorLog) (occurredAt : String) (resultStatus : ActionStatus)
    (sideEffectSummary publicExplanation reason : String) : Except ActionError ActionTables := do
  let state : LogState := {
    log := { source with occurredAt, resultStatus, sideEffectSummary, publicExplanation }
    revisionNumber := nextNumber ((db.logRevisionsOf source.logId).map (fun r => r.revisionNumber))
    reason }
  raiseIf (db.revisionAllowed state = false)
    (.sqliteIntegrityError "behavior log revision does not match reconciliation contract")
  raiseIf (db.logRevisions.any (fun r => r.revisionId = x.logRevisionId))
    (.sqliteIntegrityError "UNIQUE constraint failed: behavior_log_revisions.revision_id")
  .ok { db with
    logRevisions := db.logRevisions ++
      [{ toLogState := state, revisionId := x.logRevisionId, stateHash := cfg.behaviorLogStateHash state }] }

end ActionTables

/-- What the executor says about an outcome. -/
structure Publication where
  publicGoalReference : Option String
  publicTarget : Option String
  sideEffectSummary : String
  resourceSummary : String
  publicExplanation : String
  redactionReason : Option String
  deriving DecidableEq

def privatePublicTarget : String := "[private]"

/-- The log of an outcome, with the target withheld unless it is published. -/
def newLog (x : ActionReading) (row : ActionRow) (completedAt : String) (resultStatus : ActionStatus)
    (p : Publication) : BehaviorLog :=
  let targetIsPrivate := p.publicTarget.all (fun t => strip t = "")
  { logId := x.logId, actionId := row.actionId, subjectId := row.subjectId, occurredAt := completedAt,
    actionType := row.actionType, publicGoalReference := p.publicGoalReference, tool := row.tool,
    publicTarget := if targetIsPrivate then privatePublicTarget else p.publicTarget.getD privatePublicTarget,
    resultStatus, sideEffectSummary := p.sideEffectSummary, resourceSummary := p.resourceSummary,
    publicExplanation := p.publicExplanation,
    redactionReason :=
      if targetIsPrivate ∧ p.redactionReason = none then some "target withheld by default" else p.redactionReason }

section Operations

variable (cfg : ActionConfig) (x : ActionReading)

/-- `_insert_behavior_log`. -/
def insertBehaviorLog (db : ActionTables) (row : ActionRow) (completedAt : String) (resultStatus : ActionStatus)
    (p : Publication) : Except ActionError ActionTables := do
  let log := newLog x row completedAt resultStatus p
  raiseIf (db.logs.rows.any (fun l => l.actionId = log.actionId))
    (.sqliteIntegrityError "UNIQUE constraint failed: behavior_logs.action_id")
  let logs ← orRaise (db.logs.insert? log) (.sqliteIntegrityError "UNIQUE constraint failed: behavior_logs.log_id")
  { db with logs }.appendBehaviorLogRevision cfg x log completedAt resultStatus p.sideEffectSummary
    p.publicExplanation "initial outcome recorded"

/-- An outcome of an action that had none: its row, its log and its revision. -/
def settle (db : ActionTables) (row : ActionRow) (status : ActionStatus) (result : JsonObject) (p : Publication)
    (reason : String) : Except ActionError ActionTables := do
  let updated := db.setAction { row with status, resultJson := some result, completedAt := some x.now }
  let db' ← insertBehaviorLog cfg x updated row x.now status p
  db'.recordRevision cfg x row.actionId reason

structure PrepareInput where
  subjectId : String
  actionType : String
  tool : String
  target : String
  inputPayload : JsonObject
  goalId : Option String
  projectId : Option String
  phaseId : Option String
  strategyId : Option String
  expectedOutcome : String
  sideEffect : Bool
  resourceCost : JsonObject
  idempotencyKey : Option String
  deriving DecidableEq

/-- What `prepare` reads from the tables of other components. -/
structure PrepareReading extends ActionReading where
  actionId : String
  goalSubject : Option String
  projectSubject : Option String
  phase : Option (String × String)
  lifecycle : Option String
  blocked : Bool
  capacity : Option ActionError

/-- The key under which the action is unique. -/
def PrepareInput.key (i : PrepareInput) : String :=
  match i.idempotencyKey with
  | some key => if key = "" then cfg.defaultKey i.subjectId i.actionType i.tool i.target i.inputPayload else key
  | none => cfg.defaultKey i.subjectId i.actionType i.tool i.target i.inputPayload

/-- The goal, project and phase belong to the subject. -/
def checkOwnership (y : PrepareReading) (i : PrepareInput) : Except ActionError Unit := do
  raiseIf (i.goalId.isSome ∧ y.goalSubject ≠ some i.subjectId)
    (.permissionError "action goal is missing or belongs to another subject")
  raiseIf (i.projectId.isSome ∧ y.projectSubject ≠ some i.subjectId)
    (.permissionError "action project is missing or belongs to another subject")
  raiseIf (i.phaseId.isSome ∧ ¬y.phase.any (fun p => p.1 = i.subjectId && i.projectId.all (fun q => p.2 = q)))
    (.permissionError "action phase is missing or outside the subject project")

/-- `SELECT * FROM actions WHERE subject_id = ? AND idempotency_key = ?`. -/
def ActionTables.identified (db : ActionTables) (subjectId key : String) : Option ActionRow :=
  db.actions.rows.find? (fun a => a.subjectId = subjectId && a.idempotencyKey = key)

def newAction (y : PrepareReading) (i : PrepareInput) : ActionRow where
  actionId := y.actionId
  subjectId := i.subjectId
  goalId := i.goalId
  projectId := i.projectId
  phaseId := i.phaseId
  strategyId := i.strategyId
  actionType := i.actionType
  tool := i.tool
  target := i.target
  inputHash := cfg.inputHash i.inputPayload
  idempotencyKey := i.key cfg
  expectedOutcome := i.expectedOutcome
  sideEffect := i.sideEffect
  status := .prepared
  retryCount := 0
  resourceCostJson := i.resourceCost
  resultJson := none
  preparedAt := y.now
  startedAt := none
  completedAt := none

/-- The key is taken: the same action is returned, another one is refused. -/
def replayAction (i : PrepareInput) (existing : ActionRow) : Except ActionError ActionRow := do
  raiseIf (existing.actionType ≠ i.actionType ∨ existing.tool ≠ i.tool ∨ existing.target ≠ i.target ∨
      existing.inputHash ≠ cfg.inputHash i.inputPayload ∨ existing.sideEffect ≠ i.sideEffect ∨
      existing.projectId ≠ i.projectId ∨ existing.phaseId ≠ i.phaseId)
    (.duplicateActionError "idempotency key already identifies a different action")
  .ok existing

def insertAction (y : PrepareReading) (db : ActionTables) (i : PrepareInput) :
    Except ActionError (ActionRow × ActionTables) := do
  match y.capacity with
  | some e => .error e
  | none =>
    let row := newAction cfg y i
    let actions ← orRaise (db.actions.insert? row) (.sqliteIntegrityError "UNIQUE constraint failed: actions.action_id")
    let db' ← { db with actions }.recordRevision cfg y.toActionReading row.actionId "prepared"
    .ok (row, db')

def prepare (y : PrepareReading) (db : ActionTables) (i : PrepareInput) :
    Except ActionError (ActionRow × ActionTables) := do
  raiseIf (strip i.actionType = "" ∨ strip i.tool = "" ∨ strip i.target = "")
    (.valueError "action_type, tool and target are required")
  raiseIf (i.idempotencyKey.any (fun key => strip key = "")) (.valueError "idempotency_key cannot be blank")
  checkOwnership y i
  raiseIf (y.lifecycle.any (fun s => s ∈ ["winding_down", "reflective_sleep", "deep_sleep", "waking"]))
    (.invalidTransitionError ("new actions are disabled while lifecycle is " ++ y.lifecycle.getD ""))
  raiseIf y.blocked
    (.invalidTransitionError "this strategy is blocked until genuinely new evidence is recorded")
  match db.identified i.subjectId (i.key cfg) with
  | some existing => do
    let row ← replayAction cfg i existing
    .ok (row, db)
  | none => insertAction cfg y db i

def start (db : ActionTables) (actionId : String) : Except ActionError ActionTables := do
  let row ← db.getRow actionId
  raiseIf (row.status ≠ .prepared) (.invalidTransitionError s!"cannot start action in state {row.status.text}")
  let updated := db.setAction
    { row with status := .executing, retryCount := row.retryCount + 1, startedAt := some x.now, completedAt := none }
  updated.recordRevision cfg x actionId "started"

def finish (db : ActionTables) (actionId : String) (status : ActionStatus) (result : JsonObject) (p : Publication) :
    Except ActionError ActionTables := do
  raiseIf (status.isCompletion = false) (.valueError s!"invalid action completion status: {status.text}")
  let row ← db.getRow actionId
  raiseIf (row.status ≠ .executing) (.invalidTransitionError s!"cannot finish action in state {row.status.text}")
  settle cfg x db row status result p "finished"

def reasonObject (reason : String) : JsonObject :=
  ⟨"\x7b\"reason\":" ++ String.ofList (Json.string reason) ++ "\x7d"⟩

def cancel (db : ActionTables) (actionId reason : String) : Except ActionError ActionTables := do
  raiseIf (strip reason = "") (.valueError "cancellation reason is required")
  let row ← db.getRow actionId
  raiseIf (row.status ≠ .prepared) (.invalidTransitionError s!"cannot cancel action in state {row.status.text}")
  settle cfg x db row .cancelled (reasonObject reason)
    { publicGoalReference := none, publicTarget := none, sideEffectSummary := "none", resourceSummary := "none",
      publicExplanation := reason, redactionReason := none } "cancelled"

def recoveryObject (sideEffect : Bool) : JsonObject :=
  ⟨"\x7b\"recovery\":\"process ended before completion was durably recorded\",\"side_effect_may_have_occurred\":" ++
    (if sideEffect then "true" else "false") ++ "\x7d"⟩

/-- One interrupted action becomes unknown. -/
def recoverAction (db : ActionTables) (row : ActionRow) : Except ActionError ActionTables :=
  settle cfg x db row .unknown (recoveryObject row.sideEffect)
    { publicGoalReference := none, publicTarget := none,
      sideEffectSummary := if row.sideEffect then "completion unknown; side effect may have occurred"
        else "completion unknown"
      resourceSummary := "unavailable after interruption"
      publicExplanation := "Action outcome requires reconciliation after restart.", redactionReason := none }
    "recovered"

/-- The loop of `recover_interrupted`: the `n`-th action has its own clock reading and fresh ids. -/
def recoverActions (y : Nat → ActionReading) : Nat → List ActionRow → ActionTables → Except ActionError ActionTables
  | _, [], db => .ok db
  | n, row :: rows, db => do
    let db' ← recoverAction cfg (y n) db row
    recoverActions y (n + 1) rows db'

/-- `ORDER BY prepared_at, action_id`. -/
def preparedOrder (a b : ActionRow) : Bool :=
  decide (a.preparedAt < b.preparedAt) || a.preparedAt == b.preparedAt && (decide (a.actionId < b.actionId) ||
    a.actionId == b.actionId)

def recoverInterrupted (y : Nat → ActionReading) (db : ActionTables) (subjectId : String) :
    Except ActionError ActionTables :=
  recoverActions cfg y 0
    ((db.actions.rows.filter (fun a => a.subjectId = subjectId && a.status = .executing)).mergeSort preparedOrder) db

/-- The revision with the largest number. -/
def latestRevision (revisions : List LogRevision) : Option LogRevision :=
  (revisions.mergeSort (fun a b => a.revisionNumber ≤ b.revisionNumber)).getLast?

def reconcileUnknown (db : ActionTables) (actionId : String) (status : ActionStatus) (result : JsonObject)
    (publicExplanation : String) (sideEffectSummary : Option String) : Except ActionError ActionTables := do
  raiseIf (status.isReconciliation = false) (.valueError s!"invalid reconciliation status: {status.text}")
  let row ← db.getRow actionId
  raiseIf (row.status ≠ .unknown) (.invalidTransitionError s!"cannot reconcile action in state {row.status.text}")
  let log ← orRaise (db.logOf actionId) (.notFoundError s!"behavior log not found for action: {actionId}")
  let latest ← orRaise (latestRevision (db.logRevisionsOf log.logId))
    (.notFoundError s!"behavior log revision not found for action: {actionId}")
  let updated := db.setAction { row with status, resultJson := some result, completedAt := some x.now }
  let db' ← updated.appendBehaviorLogRevision cfg x latest.log x.now status
    (sideEffectSummary.getD latest.log.sideEffectSummary) publicExplanation "unknown outcome reconciled"
  db'.recordRevision cfg x actionId "reconciled"

end Operations

structure LedgerCounts where
  actions : Nat
  actionRevisions : Nat
  behaviorLogs : Nat
  behaviorLogRevisions : Nat
  deriving DecidableEq

section Verification

variable (cfg : ActionConfig) (db : ActionTables) (subjectId : String)

/-- The revisions of an action count from `expected`. -/
def checkRevisionSequence (actionId : String) : Nat → List ActionRevision → Except ActionError Unit
  | _, [] => .ok ()
  | expected, revision :: rest => do
    raiseIf (revision.revisionNumber ≠ expected)
      (.integrityError s!"action revision sequence mismatch: {actionId}")
    raiseIf (revision.subjectId ≠ subjectId) (.integrityError s!"action revision ownership mismatch: {actionId}")
    checkRevisionSequence actionId (expected + 1) rest

/-- The revisions of a behaviour log count from `expected` and carry their hashes. -/
def checkLogSequence (actionId : String) : Nat → List LogRevision → Except ActionError Unit
  | _, [] => .ok ()
  | expected, revision :: rest => do
    raiseIf (revision.revisionNumber ≠ expected)
      (.integrityError s!"behavior log revision sequence mismatch: {actionId}")
    raiseIf (revision.log.actionId ≠ actionId ∨ revision.log.subjectId ≠ subjectId ∨
        revision.stateHash ≠ cfg.behaviorLogStateHash revision.toLogState)
      (.integrityError s!"behavior log revision integrity mismatch: {actionId}")
    checkLogSequence actionId (expected + 1) rest

/-- A second revision reconciles an unknown outcome and keeps the stable fields. -/
def checkReconciliation (actionId : String) : List LogRevision → Except ActionError Unit
  | [baseline, reconciled] => do
    raiseIf (baseline.log.resultStatus ≠ .unknown ∨ reconciled.log.resultStatus = .unknown)
      (.integrityError s!"behavior log reconciliation baseline mismatch: {actionId}")
    raiseIf (baseline.log.actionType ≠ reconciled.log.actionType ∨
        baseline.log.publicGoalReference ≠ reconciled.log.publicGoalReference ∨
        baseline.log.tool ≠ reconciled.log.tool ∨ baseline.log.publicTarget ≠ reconciled.log.publicTarget ∨
        baseline.log.resourceSummary ≠ reconciled.log.resourceSummary ∨
        baseline.log.redactionReason ≠ reconciled.log.redactionReason)
      (.integrityError s!"behavior log reconciliation fields changed: {actionId}")
  | _ => .ok ()

/-- The log of an action and its history. -/
def checkLog (action : ActionRow) (log : BehaviorLog) : Except ActionError Unit := do
  let history := (db.logRevisions.filter (fun r => r.log.subjectId = subjectId && r.log.logId = log.logId)).mergeSort
    (fun a b => a.revisionNumber ≤ b.revisionNumber)
  let baseline ← orRaise history.head?
    (.integrityError s!"behavior log revision history is missing: {action.actionId}")
  raiseIf (history.length > 2) (.integrityError s!"behavior log revision count is invalid: {action.actionId}")
  checkLogSequence cfg subjectId action.actionId 1 history
  checkReconciliation action.actionId history
  raiseIf (baseline.log ≠ log) (.integrityError s!"behavior log baseline mismatch: {action.actionId}")
  raiseIf (history.getLast?.map (fun r => r.log.resultStatus) ≠ some action.status)
    (.integrityError s!"behavior log status mismatch: {action.actionId}")

def checkAction (action : ActionRow) : Except ActionError Unit := do
  let history := (db.revisions.filter (fun r => r.subjectId = subjectId && r.actionId = action.actionId)).mergeSort
    (fun a b => a.revisionNumber ≤ b.revisionNumber)
  let latest ← orRaise history.getLast?
    (.integrityError s!"action revision history is missing: {action.actionId}")
  checkRevisionSequence subjectId action.actionId 1 history
  raiseIf (latest.status ≠ action.status ∨ latest.stateHash ≠ cfg.actionStateHash action)
    (.integrityError s!"action revision hash mismatch: {action.actionId}")
  let logs := db.logs.rows.filter (fun l => l.subjectId = subjectId && l.actionId = action.actionId)
  raiseIf (action.status.isCompletion = true ∧ logs.length ≠ 1)
    (.integrityError s!"terminal action behavior log mismatch: {action.actionId}")
  raiseIf (action.status.isCompletion = false ∧ logs ≠ [])
    (.integrityError s!"nonterminal action has behavior log: {action.actionId}")
  match logs.head? with
  | some log => checkLog cfg db subjectId action log
  | none => .ok ()

/-- `verify_integrity`. -/
def verifyIntegrity : Except ActionError LedgerCounts := do
  let actions := (db.actions.rows.filter (fun a => a.subjectId = subjectId)).mergeSort preparedOrder
  let logs := db.logs.rows.filter (fun l => l.subjectId = subjectId)
  actions.forM (checkAction cfg db subjectId)
  logs.forM (fun log =>
    raiseIf (¬actions.any (fun a => a.actionId = log.actionId))
      (.integrityError s!"behavior log ownership mismatch: {log.actionId}"))
  .ok {
    actions := actions.length
    actionRevisions := (db.revisions.filter (fun r => r.subjectId = subjectId)).length
    behaviorLogs := logs.length
    behaviorLogRevisions := (db.logRevisions.filter (fun r => r.log.subjectId = subjectId)).length }

end Verification

inductive ActionOp
  | prepare (input : PrepareInput) (reading : PrepareReading)
  | start (actionId : String) (reading : ActionReading)
  | finish (actionId : String) (status : ActionStatus) (result : JsonObject) (p : Publication) (reading : ActionReading)
  | cancel (actionId reason : String) (reading : ActionReading)
  | recoverInterrupted (subjectId : String) (readings : Nat → ActionReading)
  | reconcileUnknown (actionId : String) (status : ActionStatus) (result : JsonObject) (publicExplanation : String)
      (sideEffectSummary : Option String) (reading : ActionReading)

def ActionOp.run (cfg : ActionConfig) (db : ActionTables) : ActionOp → Except ActionError ActionTables
  | .prepare input reading => (Core.prepare cfg reading db input).map Prod.snd
  | .start actionId reading => Core.start cfg reading db actionId
  | .finish actionId status result p reading => Core.finish cfg reading db actionId status result p
  | .cancel actionId reason reading => Core.cancel cfg reading db actionId reason
  | .recoverInterrupted subjectId readings => Core.recoverInterrupted cfg readings db subjectId
  | .reconcileUnknown actionId status result explanation summary reading =>
    Core.reconcileUnknown cfg reading db actionId status result explanation summary

/-- One transaction of any caller; one that raises is rolled back. -/
def actionStep (cfg : ActionConfig) (db : ActionTables) (op : ActionOp) : ActionTables :=
  match op.run cfg db with
  | .ok db' => db'
  | .error _ => db

def actionMachine (cfg : ActionConfig) : Machine ActionTables ActionOp where
  init db := db = ⟨.empty, [], .empty, []⟩
  step := actionStep cfg

end Noyra.Core
