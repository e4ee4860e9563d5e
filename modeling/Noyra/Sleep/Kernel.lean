import Mathlib.Data.List.Sort
import Noyra.Lib.Machine
import Noyra.Sleep.Engine

/-!
# The kernel, the snapshots and their runs

`SubjectKernel` starts and stops the runtime of a subject, `SnapshotStore` archives old checkpoints, and the
machine interleaves both with the calls of the engine. Calls may fail at any point, and processes restart.
-/

namespace Noyra.Sleep
open Noyra.Lib

/-- Where an error outside the tables interrupts a call of the kernel. -/
inductive Fault
  | absent | before | after
  deriving DecidableEq

/-- The tables and the subjects whose runtime lock is held. -/
structure SleepState (fl : Floats) where
  db : SleepDb fl
  owned : List Nat

/-- The tables after a transaction. -/
def settle {fl : Floats} (db : SleepDb fl) (r : Except SleepError (SleepDb fl)) : SleepDb fl :=
  match r with
  | .ok db' => db'
  | .error _ => db

/-- A transaction whose store may fail. -/
def attempt {fl : Floats} (fault : Bool) (db : SleepDb fl) (r : Except SleepError (SleepDb fl)) : SleepDb fl :=
  if fault then db else settle db r

/-- `recover_for_restart`. -/
def recoverForRestart {fl : Floats} (subjectId : Nat) (db : SleepDb fl) : Except SleepError (SleepDb fl) := do
  let state ← orRaise (db.lifecycle? subjectId) (.notFoundError "lifecycle state not found")
  match state with
  | .booting => .ok db
  | .stopped => .error (.invalidTransition .stopped .booting)
  | .resetting => .error (.invalidTransition .resetting .booting)
  | .paused => .ok db
  | .windingDown | .reflectiveSleep | .deepSleep | .waking => .ok (db.appendEvent subjectId .lifecycleRecovery)
  | .active | .orienting => .ok ((db.setLifecycle subjectId .booting).appendEvent subjectId .lifecycleRecovery)

/-- An interrupted action of the subject becomes unknown. -/
def ActionRow.quarantine (subjectId : Nat) (a : ActionRow) : ActionRow :=
  if a.subjectId = subjectId ∧ a.status = .executing then { a with status := .unknown } else a

theorem ActionRow.quarantine_actionId (subjectId : Nat) (a : ActionRow) :
    (a.quarantine subjectId).actionId = a.actionId := by
  unfold quarantine
  split <;> rfl

/-- `ActionLedger.recover_interrupted`. -/
def recoverActions {fl : Floats} (subjectId : Nat) (db : SleepDb fl) : SleepDb fl :=
  { db with actions := db.actions.mapRows (ActionRow.quarantine subjectId) (ActionRow.quarantine_actionId subjectId) }

/-- The lifecycle part of `recover_after_integrity`. -/
def recoverLifecycle {fl : Floats} (subjectId : Nat) (db : SleepDb fl) : Except SleepError (SleepDb fl) :=
  match db.lifecycle? subjectId with
  | none => .error (.notFoundError "lifecycle state not found")
  | some .booting => .ok db
  | some .stopped => transitionConnection subjectId .booting "process start" "supervisor" db
  | some _ => recoverForRestart subjectId db

namespace SleepState

variable {fl : Floats} (s : SleepState fl)

def release (subjectId : Nat) : SleepState fl := { s with owned := s.owned.filter (fun x => x ≠ subjectId) }

/-- `boot`. -/
def boot (subjectId : Nat) (fault : Fault) : SleepState fl :=
  if fault = .before then s.release subjectId
  else
    let db := recoverActions subjectId s.db
    match recoverLifecycle subjectId db with
    | .error _ => { s.release subjectId with db := db }
    | .ok db' =>
      if fault = .after then { s.release subjectId with db := db' }
      else ⟨db', subjectId :: (s.release subjectId).owned⟩

/-- A lifecycle transition by the kernel of a subject. -/
def transition (subjectId : Nat) (target : LifecycleState) (reason actor : String) (fault : Fault) : SleepState fl :=
  if subjectId ∉ s.owned ∨ fault = .before then s
  else { s with db := settle s.db (transitionConnection subjectId target reason actor s.db) }

/-- `orient`. -/
def orient (subjectId : Nat) (fault : Fault) : SleepState fl :=
  s.transition subjectId .orienting "initial orientation" "supervisor" fault

/-- `activate`. -/
def activate (subjectId : Nat) (fault : Fault) : SleepState fl :=
  s.transition subjectId .active "runtime ready" "supervisor" fault

/-- `pause`. -/
def pause (subjectId : Nat) (reason actor : String) (fault : Fault) : SleepState fl :=
  if s.db.lifecycle? subjectId = some .paused then s else s.transition subjectId .paused reason actor fault

/-- `resume`. -/
def resume (subjectId : Nat) (reason actor : String) (fault : Fault) : SleepState fl :=
  s.transition subjectId .active reason actor fault

/-- `stop`: whatever the transition does, the lock is released. -/
def stop (subjectId : Nat) (reason : String) (fault : Fault) : SleepState fl :=
  if subjectId ∉ s.owned then s
  else (s.transition subjectId .stopped reason "operator" fault).release subjectId

/-- `checkpoint`. -/
def checkpoint (subjectId bytes : Nat) (fault : Bool) : SleepState fl :=
  if subjectId ∉ s.owned then s
  else { s with db := attempt fault s.db (do
    let (db, _) ← saveCheckpoint subjectId bytes s.db
    .ok (db.appendEvent subjectId .stateCheckpoint)) }

end SleepState

/-- The arguments of `compact`. -/
structure CompactRequest where
  keepRecent : Int
  batchSize : Int
  maxBatchBytes : Int
  maxRows : Option Int
  maxBytes : Option Int

/-- `max(least, min(n, most))`. -/
def bounded (least most : Nat) (n : Int) : Nat := max least (min n most).toNat

/-- The rows that fit into the byte limit. -/
def takeBytes : Nat → List SnapshotRow → List SnapshotRow
  | _, [] => []
  | limit, x :: xs => if x.stateBytes ≤ limit then x :: takeBytes (limit - x.stateBytes) xs else []

/-- The snapshots of a subject, newest first. No two of them have one version. -/
def newestFirst {fl : Floats} (subjectId : Nat) (db : SleepDb fl) : List SnapshotRow :=
  (db.snapshots.rows.filter (fun x => x.subjectId = subjectId)).insertionSort
    (fun a b => b.stateVersion ≤ a.stateVersion)

/-- `_read_compaction_batch`. -/
def readCompactionBatch {fl : Floats} (subjectId keepRecent : Nat) (cursor : Option Nat) (rowLimit byteLimit : Nat)
    (db : SleepDb fl) : List SnapshotRow :=
  let recent := (newestFirst subjectId db).take (keepRecent + 1)
  if recent.length ≤ keepRecent then []
  else
    match recent[keepRecent - 1]? with
    | none => []
    | some cutoff =>
      let older := (newestFirst subjectId db).reverse.filter (fun x =>
        x.stateVersion < cutoff.stateVersion && cursor.all (fun c => c < x.stateVersion))
      takeBytes byteLimit (older.take rowLimit)

/-- A run or an identity refers to the snapshot, so it cannot be deleted. -/
def referred {fl : Floats} (db : SleepDb fl) (snapshotId : Nat) : Bool :=
  db.runs.rows.any (fun r => r.checkpointId = some snapshotId) ||
    db.identities.rows.any (fun i => i.lastCheckpoint = some snapshotId)

/-- `_publish_compaction_batch`. -/
def publishCompactionBatch {fl : Floats} (batch : List SnapshotRow) (db : SleepDb fl) :
    Except SleepError (SleepDb fl) := do
  raiseIf (batch.any (fun x => referred db x.snapshotId)) .sqliteIntegrityError
  .ok { db with snapshots := db.snapshots.keepRows (fun x => x ∉ batch) }

/-- The loop of `compact`: the tables after its batches, and the error that ended it. A batch removes a row, so
the loop needs no more turns than there are rows. -/
def compactLoop {fl : Floats} (subjectId keepRecent batchSize batchBytes : Nat) (maxRows maxBytes : Option Nat) :
    Nat → Nat → Nat → Option Nat → SleepDb fl → SleepDb fl × Option SleepError
  | 0, _, _, _, db => (db, none)
  | turns + 1, archived, consumed, cursor, db =>
    let rowLimit := maxRows.elim batchSize (fun m => min batchSize (m - archived))
    let byteLimit := maxBytes.elim batchBytes (fun m => min batchBytes (m - consumed))
    let batch := readCompactionBatch subjectId keepRecent cursor rowLimit byteLimit db
    let raw := (batch.map SnapshotRow.stateBytes).sum
    if rowLimit = 0 ∨ byteLimit = 0 ∨ maxBytes.any (fun m => m < consumed + raw) then (db, none)
    else
      match batch.getLast? with
      | none => (db, none)
      | some last =>
        match publishCompactionBatch batch db with
        | .error e => (db, some e)
        | .ok db' =>
          compactLoop subjectId keepRecent batchSize batchBytes maxRows maxBytes turns (archived + batch.length)
            (consumed + raw) (some last.stateVersion) db'

/-- `compact`. -/
def compact {fl : Floats} (subjectId : Nat) (q : CompactRequest) (db : SleepDb fl) : SleepDb fl × Option SleepError :=
  compactLoop subjectId (bounded 2 1000 q.keepRecent) (bounded 1 10000 q.batchSize)
    (bounded 1 128000000 q.maxBatchBytes) (q.maxRows.map Int.toNat) (q.maxBytes.map Int.toNat)
    (db.snapshots.rows.length + 1) 0 0 none db

variable (cfg : SleepConfig)

/-- The calls on the tables, each with what the environment decides: times, answers of other stores, and faults. -/
inductive EngineCall
  | start (subjectId : Nat) (q : StartRequest) (fault : Bool)
  | beginReflection (subjectId sleepId : Nat) (reason : String) (now : Nat) (fault : Bool)
  | commitReflection (subjectId sleepId : Nat) (plan : SleepReflectionPlan cfg.fl) (answers : PlanAnswers) (now : Nat)
      (fault : Bool)
  | enterDeepSleep (subjectId sleepId : Nat) (reason : String) (bytes now : Nat) (fault : Bool)
  | wake (subjectId sleepId : Nat) (reason : String) (force : Bool) (now : Nat) (fault : Bool)
  | completeWake (subjectId sleepId : Nat) (reason : String) (now : Nat) (fault : Bool)
  | wakeEarly (subjectId sleepId : Nat) (reason actor : String) (now : Nat) (fault : Bool)
  | assess (subjectId : Nat) (inputs : FatigueInputs cfg.fl) (reason : String) (exhausted fault : Bool)
  | restoreAfterSleep (subjectId : Nat) (hours : cfg.fl.F) (reason : String) (fault : Bool)
  | releaseRetryBlock (subjectId blockId evidenceEventId now : Nat) (fault : Bool)
  | compact (subjectId : Nat) (q : CompactRequest)
  | recordEvent (subjectId : Nat)
  | writeActions (actions : Table ActionRow.actionId)
  | writeSources (sources : List (Nat × Nat)) (withdrawn : List Nat)

/-- The steps of the system. -/
inductive SleepAction
  | boot (subjectId : Nat) (fault : Fault)
  | orient (subjectId : Nat) (fault : Fault)
  | activate (subjectId : Nat) (fault : Fault)
  | pause (subjectId : Nat) (reason actor : String) (fault : Fault)
  | resume (subjectId : Nat) (reason actor : String) (fault : Fault)
  | stop (subjectId : Nat) (reason : String) (fault : Fault)
  | restart
  | checkpoint (subjectId bytes : Nat) (fault : Bool)
  | engine (call : EngineCall cfg)

variable {cfg}

/-- `start`: the fatigue row is committed before the transaction of the run. -/
def startStep (subjectId : Nat) (q : StartRequest) (fault : Bool) (db : SleepDb cfg.fl) : SleepDb cfg.fl :=
  match startChecks cfg subjectId q db with
  | .error _ => db
  | .ok (db', row, wake) => attempt fault db' (startRun cfg subjectId q row wake db')

/-- One call on the tables. -/
def engineStep (db : SleepDb cfg.fl) : EngineCall cfg → SleepDb cfg.fl
  | .start subjectId q fault => startStep subjectId q fault db
  | .beginReflection subjectId sleepId reason now fault =>
    attempt fault db (beginReflection cfg subjectId sleepId reason now db)
  | .commitReflection subjectId sleepId plan answers now fault =>
    attempt fault db (commitReflection cfg answers subjectId sleepId plan now db)
  | .enterDeepSleep subjectId sleepId reason bytes now fault =>
    attempt fault db (enterDeepSleep cfg subjectId sleepId reason bytes now db)
  | .wake subjectId sleepId reason force now fault => attempt fault db (wake cfg subjectId sleepId reason force now db)
  | .completeWake subjectId sleepId reason now fault =>
    attempt fault db (completeWake cfg subjectId sleepId reason now db)
  | .wakeEarly subjectId sleepId reason actor now fault =>
    attempt fault db (wakeEarly cfg subjectId sleepId reason actor now db)
  | .assess subjectId inputs reason exhausted fault =>
    attempt fault db (assess cfg subjectId inputs reason exhausted db)
  | .restoreAfterSleep subjectId hours reason fault =>
    attempt fault db (restoreAfterSleep cfg subjectId hours reason db)
  | .releaseRetryBlock subjectId blockId evidenceEventId now fault =>
    attempt fault db (releaseRetryBlock cfg subjectId blockId evidenceEventId now db)
  | .compact subjectId q => (compact subjectId q db).1
  | .recordEvent subjectId => db.appendEvent subjectId .other
  | .writeActions actions => { db with actions := actions }
  | .writeSources sources withdrawn => { db with sources := sources, withdrawn := withdrawn }

/-- One step of the system. -/
def sleepStep (s : SleepState cfg.fl) : SleepAction cfg → SleepState cfg.fl
  | .boot subjectId fault => s.boot subjectId fault
  | .orient subjectId fault => s.orient subjectId fault
  | .activate subjectId fault => s.activate subjectId fault
  | .pause subjectId reason actor fault => s.pause subjectId reason actor fault
  | .resume subjectId reason actor fault => s.resume subjectId reason actor fault
  | .stop subjectId reason fault => s.stop subjectId reason fault
  | .restart => { s with owned := [] }
  | .checkpoint subjectId bytes fault => s.checkpoint subjectId bytes fault
  | .engine call => { s with db := engineStep s.db call }

/-- Subjects that were created and never ran. -/
structure SleepState.Initial {fl : Floats} (s : SleepState fl) : Prop where
  stopped : ∀ r ∈ s.db.runtimeStates, r.state = .stopped
  owned : s.owned = []
  runs : s.db.runs.rows = []
  transitions : s.db.transitions = []
  reflections : s.db.reflections.rows = []
  integrations : s.db.integrations = []
  fatigue : s.db.fatigue.rows = []
  fatigueTransitions : s.db.fatigueTransitions = []
  retryBlocks : s.db.retryBlocks.rows = []
  candidates : s.db.candidates.rows = []
  events : s.db.events = []
  snapshots : s.db.snapshots.rows = []
  identities : ∀ r ∈ s.db.runtimeStates, ∃ i ∈ s.db.identities, i.subjectId = r.subjectId
  unsaved : ∀ i ∈ s.db.identities, i.lastCheckpoint = none

variable (cfg)

def sleepMachine : Machine (SleepState cfg.fl) (SleepAction cfg) where
  init := SleepState.Initial
  step := sleepStep

end Noyra.Sleep
