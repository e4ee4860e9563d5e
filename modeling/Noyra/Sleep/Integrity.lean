import Noyra.Sleep.Engine

/-!
# The sleep audit

`SleepIntegrity.verify` reads the tables of a subject back: the history of its fatigue, its runs with their
transitions, reflections, checkpoints and integrations, its retry blocks and its personality candidates.
-/

namespace Noyra.Sleep
open Noyra.Lib

variable (cfg : SleepConfig)

/-- Every reference of a row of these tables names a row. -/
def foreignKeyCheck (db : SleepDb cfg.fl) : Bool :=
  db.runs.rows.all (fun r =>
    r.reflectionEventId.all (fun e => (db.event? e).isSome) &&
    r.checkpointId.all (fun c => (db.snapshots.find? c).isSome)) &&
  db.transitions.all (fun t => (db.runs.find? t.sleepId).isSome) &&
  db.reflections.rows.all (fun r => (db.runs.find? r.sleepId).isSome && (db.event? r.eventId).isSome) &&
  db.integrations.all (fun i => (db.runs.find? i.sleepId).isSome) &&
  db.retryBlocks.rows.all (fun b => b.releaseEvidenceEventId.all (fun e => (db.event? e).isSome)) &&
  db.identities.rows.all (fun i => i.lastCheckpoint.all (fun c => (db.snapshots.find? c).isSome))

/-- `_fatigue_from_row`. -/
def auditFatigueRow (fatigue : cfg.fl.F) (mode : FatigueMode) (inputs : FatigueInputs cfg.fl) (hash : Digest) :
    Except SleepError Unit := do
  raiseIf (cfg.fl.within 0 100 fatigue = false ∨ inputs.valid = false) (.integrityError "fatigue state is invalid")
  raiseIf (cfg.fatigueHash fatigue mode inputs ≠ hash) (.integrityError "fatigue state hash mismatch")
  raiseIf (mode ≠ modeFor cfg fatigue) (.integrityError "fatigue mode mismatch")

/-- The walk over the fatigue history, from the fatigue before it. -/
def auditFatigueHistory : cfg.fl.F → List (FatigueTransitionRow cfg.fl) → Except SleepError Unit
  | _, [] => .ok ()
  | previous, t :: ts => do
    raiseIf (cfg.fl.within 0 100 t.oldFatigue = false) (.integrityError "fatigue transition old_fatigue is invalid")
    raiseIf (cfg.fl.sameNumber t.oldFatigue previous = false) (.integrityError "fatigue transition sequence mismatch")
    auditFatigueRow cfg t.newFatigue t.mode t.inputs t.stateHash
    raiseIf (strip t.reason = "") (.integrityError "fatigue transition reason is invalid")
    auditFatigueHistory t.newFatigue ts

/-- The current fatigue of the subject agrees with its history. -/
def auditFatigueState (history : List (FatigueTransitionRow cfg.fl)) (row : FatigueRow cfg.fl) :
    Except SleepError Unit := do
  auditFatigueRow cfg row.fatigue row.mode row.inputs row.stateHash
  raiseIf (history.getLast?.any (fun t => !cfg.fl.sameNumber t.newFatigue row.fatigue || t.stateHash ≠ row.stateHash))
    (.integrityError "fatigue history mismatch")
  raiseIf (row.version ≠ history.length + 1) (.integrityError "fatigue version mismatch")

def auditFatigue (db : SleepDb cfg.fl) (subjectId : Nat) : Except SleepError Unit := do
  let history := db.fatigueTransitions.filter (fun t => t.subjectId = subjectId)
  auditFatigueHistory cfg (cfg.fl.ofInt 0) history
  match db.fatigue.find? subjectId with
  | none => raiseIf (history ≠ []) (.integrityError "fatigue history has no current state")
  | some row => auditFatigueState cfg history row

/-- The walk over the transitions of a run, from the status before them; it gives the status after them. -/
def auditTransitions : Option RunStatus → List SleepTransitionRow → Except SleepError (Option RunStatus)
  | expected, [] => .ok expected
  | expected, t :: ts => do
    raiseIf (t.fromStatus ≠ expected ∨ t.stateHash ≠ cfg.transitionHash t.fromStatus t.toStatus t.reason)
      (.integrityError "sleep transition mismatch")
    auditTransitions (some t.toStatus) ts

/-- `_verify_reflection`. -/
def auditReflection (row : SleepReflectionRow cfg.fl) : Except SleepError Unit := do
  raiseIf (cfg.planHash row.plan ≠ row.planHash) (.integrityError "sleep reflection plan mismatch")
  raiseIf (¬row.facts.Nodup ∨ ¬row.contradictions.Nodup ∨ ¬row.predictionErrors.Nodup ∨ ¬row.unresolvedQuestions.Nodup)
    (.integrityError "sleep reflection list is invalid")
  raiseIf (strip row.summary = "" ∨ row.planHash.text.length ≠ 64) (.integrityError "sleep reflection content invalid")
  raiseIf (row.plan.summary ≠ row.summary ∨ row.plan.facts ≠ row.facts ∨ row.plan.contradictions ≠ row.contradictions ∨
    row.plan.predictionErrors ≠ row.predictionErrors ∨ row.plan.unresolvedQuestions ≠ row.unresolvedQuestions ∨
    row.plan.publicDiaryCandidate ≠ row.publicDiaryCandidate) (.integrityError "sleep reflection projection mismatch")

/-- The reflection a run refers to. -/
def auditRunReflection (db : SleepDb cfg.fl) (subjectId : Nat) (row : SleepRunRow cfg.fl) : Except SleepError Unit :=
  match row.reflectionEventId with
  | none => raiseIf ((db.reflections.find? row.sleepId).isSome) (.integrityError "orphan sleep reflection")
  | some eventId => do
    let reflection ← orRaise (db.reflections.find? row.sleepId) (.integrityError "sleep reflection mismatch")
    raiseIf (reflection.eventId ≠ eventId) (.integrityError "sleep reflection mismatch")
    auditReflection cfg reflection
    raiseIf ((db.event? reflection.eventId).all (fun e => e.subjectId ≠ subjectId || e.eventType ≠ .sleepReflection))
      (.integrityError "sleep reflection event mismatch")

def auditIntegration (i : SleepIntegrationRow) : Except SleepError Unit := do
  raiseIf (i.sourceIds = [] ∨ ¬i.sourceIds.Nodup) (.integrityError "sleep integration list is invalid")
  raiseIf (i.resultHash.text.length ≠ 64) (.integrityError "sleep integration hash invalid")

/-- One run of the subject. -/
def auditRun (db : SleepDb cfg.fl) (subjectId : Nat) (row : SleepRunRow cfg.fl) : Except SleepError Unit := do
  raiseIf (cfg.fl.within 0 100 row.preSleepFatigue = false ∨ row.version < 1) (.integrityError "sleep run is invalid")
  runFromRow cfg row
  let transitions := db.transitions.filter (fun t => t.sleepId = row.sleepId)
  let reached ← auditTransitions cfg none transitions
  raiseIf (transitions = [] ∨ reached ≠ some row.status) (.integrityError "sleep current state mismatch")
  auditRunReflection cfg db subjectId row
  raiseIf ((row.status = .deepSleep ∨ row.status = .waking ∨ row.status = .complete) ∧
    (row.checkpointId.bind db.snapshots.find?).all (fun c => c.subjectId ≠ subjectId))
    (.integrityError "sleep checkpoint mismatch")
  raiseIf (row.version ≠ transitions.length + (if row.reflectionEventId.isSome then 1 else 0))
    (.integrityError "sleep version mismatch")
  (db.integrations.filter (fun i => i.sleepId = row.sleepId)).forM auditIntegration

/-- One retry block of the subject. -/
def auditRetryBlock (db : SleepDb cfg.fl) (subjectId : Nat) (row : RetryBlockRow) : Except SleepError Unit := do
  raiseIf (cfg.retryHash row.goalId row.strategyId row.tool row.target row.reason row.status row.releaseEvidenceEventId
    row.evidenceEventBoundary ≠ row.stateHash) (.integrityError "retry block mismatch")
  match row.status with
  | .active =>
    raiseIf (row.releaseEvidenceEventId ≠ none ∨ row.releasedAt ≠ none) (.integrityError "retry block release mismatch")
  | .released =>
    raiseIf (row.releasedAt = none ∨
      (row.releaseEvidenceEventId.bind db.event?).all (fun e => e.subjectId ≠ subjectId) ∨
      (row.releaseEvidenceEventId.bind db.rowid?).all (fun n => n ≤ row.evidenceEventBoundary))
      (.integrityError "retry block release mismatch")

/-- One personality candidate of the subject. -/
def auditCandidate (db : SleepDb cfg.fl) (subjectId : Nat) (row : CandidateRow cfg.fl) : Except SleepError Unit := do
  raiseIf (row.evidenceIds = [] ∨ ¬row.evidenceIds.Nodup) (.integrityError "personality candidate list is invalid")
  raiseIf (row.evidenceIds.any (fun id => (db.event? id).all (fun e => e.subjectId ≠ subjectId)))
    (.integrityError "personality candidate evidence mismatch")
  raiseIf (cfg.fl.within (-1) 1 row.direction = false ∨ cfg.fl.within 0 1 row.confidence = false)
    (.integrityError "personality candidate is invalid")
  raiseIf (cfg.candidateHash row.trait row.direction row.confidence row.evidenceIds row.status ≠ row.stateHash)
    (.integrityError "personality candidate mismatch")

/-- `SleepIntegrity.verify`. -/
def verify (db : SleepDb cfg.fl) (subjectId : Nat) : Except SleepError Unit := do
  raiseIf (foreignKeyCheck cfg db = false) (.integrityError "sleep state contains broken foreign keys")
  auditFatigue cfg db subjectId
  (db.runs.rows.filter (fun r => r.subjectId = subjectId)).forM (auditRun cfg db subjectId)
  (db.retryBlocks.rows.filter (fun b => b.subjectId = subjectId)).forM (auditRetryBlock cfg db subjectId)
  (db.candidates.rows.filter (fun c => c.subjectId = subjectId)).forM (auditCandidate cfg db subjectId)

end Noyra.Sleep
