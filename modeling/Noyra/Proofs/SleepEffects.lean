import Mathlib.Tactic.Lemma
import Noyra.Sleep.Kernel

/-!
# What the calls of the sleep engine do

Each transaction that succeeds is read back as the writes it made, and each call as one of a few changes of
the lifecycles and the runs.
-/

namespace Noyra.Sleep.Proofs
open Noyra.Lib

variable {fl : Floats} {cfg : SleepConfig}

lemma transitionConnection_ok {subjectId : Nat} {target : LifecycleState} {reason actor : String} {db db' : SleepDb fl}
    (h : transitionConnection subjectId target reason actor db = .ok db') :
    strip reason ≠ "" ∧ ∃ state, db.lifecycle? subjectId = some state ∧ target ∈ state.allowedTransitions ∧
      db' = (db.setLifecycle subjectId target).appendEvent subjectId .lifecycleTransition := by
  unfold transitionConnection at h
  obtain ⟨_, hreason, h⟩ := bind_eq_ok.mp h
  obtain ⟨_, -, h⟩ := bind_eq_ok.mp h
  obtain ⟨state, hstate, h⟩ := bind_eq_ok.mp h
  obtain ⟨_, hallowed, h⟩ := bind_eq_ok.mp h
  rw [raiseIf_eq_ok, not_not] at hallowed
  cases h
  exact ⟨raiseIf_eq_ok.mp hreason, state, orRaise_eq_ok.mp hstate, hallowed, rfl⟩

lemma transitionConnection_eq {subjectId : Nat} {target state : LifecycleState} {reason actor : String}
    {db : SleepDb fl}
    (hreason : strip reason ≠ "") (hactor : strip actor ≠ "") (hstate : db.lifecycle? subjectId = some state)
    (hallowed : target ∈ state.allowedTransitions) :
    transitionConnection subjectId target reason actor db =
      .ok ((db.setLifecycle subjectId target).appendEvent subjectId .lifecycleTransition) := by
  unfold transitionConnection
  rw [raiseIf_neg hreason, raiseIf_neg hactor, hstate]
  simp only [orRaise_some, ok_bind]
  rw [raiseIf_neg (not_not.mpr hallowed)]
  rfl

lemma transitionRun_ok {row : SleepRunRow cfg.fl} {toStatus : RunStatus} {reason : String}
    {checkpointId completedAt : Option Nat} {now : Nat} {db db' : SleepDb cfg.fl}
    (h : transitionRun cfg row toStatus reason checkpointId completedAt now db = .ok db') :
    toStatus ∈ row.status.sleepTransitions ∧
      db' = insertTransition cfg row.sleepId (some row.status) toStatus reason
        { db with runs := db.runs.replace (row.moved cfg toStatus checkpointId completedAt now) } := by
  unfold transitionRun at h
  obtain ⟨_, hallowed, h⟩ := bind_eq_ok.mp h
  rw [raiseIf_eq_ok, not_not] at hallowed
  cases h
  exact ⟨hallowed, rfl⟩

lemma transitionRun_eq {row : SleepRunRow cfg.fl} {toStatus : RunStatus} {reason : String}
    {checkpointId completedAt : Option Nat} {now : Nat} {db : SleepDb cfg.fl}
    (h : toStatus ∈ row.status.sleepTransitions) :
    transitionRun cfg row toStatus reason checkpointId completedAt now db =
      .ok (insertTransition cfg row.sleepId (some row.status) toStatus reason
        { db with runs := db.runs.replace (row.moved cfg toStatus checkpointId completedAt now) }) := by
  unfold transitionRun
  rw [raiseIf_neg (not_not.mpr h)]
  rfl

/-- The row of the fatigue after a change. -/
def fatigueChanged (cfg : SleepConfig) (row : FatigueRow cfg.fl) (fatigue : cfg.fl.F) (mode : FatigueMode)
    (inputs : FatigueInputs cfg.fl) : FatigueRow cfg.fl :=
  ⟨row.subjectId, cfg.fl.stored fatigue, mode, inputs.stored, cfg.fatigueHash fatigue mode inputs, row.version + 1⟩

/-- The tables after a change of the fatigue. -/
def fatigueWritten (cfg : SleepConfig) (row : FatigueRow cfg.fl) (fatigue : cfg.fl.F) (mode : FatigueMode)
    (inputs : FatigueInputs cfg.fl) (reason : String) (db : SleepDb cfg.fl) : SleepDb cfg.fl :=
  { db with
    fatigue := db.fatigue.replace (fatigueChanged cfg row fatigue mode inputs),
    fatigueTransitions := db.fatigueTransitions ++ [⟨row.subjectId, row.fatigue, cfg.fl.stored fatigue, mode,
      inputs.stored, reason, cfg.fatigueHash fatigue mode inputs⟩] }

lemma writeFatigue_ok {row : FatigueRow cfg.fl} {fatigue : cfg.fl.F} {mode : FatigueMode}
    {inputs : FatigueInputs cfg.fl}
    {reason : String} {db db' : SleepDb cfg.fl} (h : writeFatigue cfg row fatigue mode inputs reason db = .ok db') :
    cfg.fl.within 0 100 (cfg.fl.stored fatigue) = true ∧ inputs.stored.valid = true ∧
      db' = fatigueWritten cfg row fatigue mode inputs reason db := by
  unfold writeFatigue at h
  obtain ⟨_, hrange, h⟩ := bind_eq_ok.mp h
  rw [raiseIf_eq_ok, not_or, Bool.not_eq_false, Bool.not_eq_false] at hrange
  cases h
  exact ⟨hrange.1, hrange.2, rfl⟩

lemma writeFatigue_eq {row : FatigueRow cfg.fl} {fatigue : cfg.fl.F} {mode : FatigueMode}
    {inputs : FatigueInputs cfg.fl}
    {reason : String} {db : SleepDb cfg.fl} (hrange : cfg.fl.within 0 100 (cfg.fl.stored fatigue) = true)
    (hinputs : inputs.stored.valid = true) :
    writeFatigue cfg row fatigue mode inputs reason db = .ok
      (fatigueWritten cfg row fatigue mode inputs reason db) := by
  have hneg : ¬(cfg.fl.within 0 100 (cfg.fl.stored fatigue) = false ∨ inputs.stored.valid = false) := by
    simp [hrange, hinputs]
  simp only [writeFatigue, raiseIf_neg hneg, ok_bind]
  rfl

/-- The tables with a new checkpoint. -/
def checkpointSaved {fl : Floats} (subjectId version : Nat) (table : Table SnapshotRow.snapshotId)
    (db : SleepDb fl) : SleepDb fl :=
  { db with
    snapshots := table, identities := db.identities.replace ⟨subjectId, version, some db.nextId⟩,
    nextId := db.nextId + 1 }

lemma saveCheckpoint_ok {subjectId bytes : Nat} {db db' : SleepDb fl} {snapshotId : Nat}
    (h : saveCheckpoint subjectId bytes db = .ok (db', snapshotId)) :
    ∃ identity table, db.identities.find? subjectId = some identity ∧ snapshotId = db.nextId ∧
      (∀ x ∈ db.snapshots, x.subjectId = subjectId → x.stateVersion ≠ identity.stateVersion + 1) ∧
      db.snapshots.insert? ⟨db.nextId, subjectId, identity.stateVersion + 1, bytes⟩ = some table ∧
      db' = checkpointSaved subjectId (identity.stateVersion + 1) table db := by
  unfold saveCheckpoint at h
  obtain ⟨identity, hidentity, h⟩ := bind_eq_ok.mp h
  obtain ⟨_, hfree, h⟩ := bind_eq_ok.mp h
  obtain ⟨table, htable, h⟩ := bind_eq_ok.mp h
  rw [raiseIf_eq_ok] at hfree
  cases h
  refine ⟨identity, table, orRaise_eq_ok.mp hidentity, rfl, ?_, orRaise_eq_ok.mp htable, rfl⟩
  intro x hx hsub hversion
  apply hfree
  rw [List.any_eq_true]
  exact ⟨x, hx, by simp [hsub, hversion]⟩

lemma markFatigueSleeping_ok {subjectId : Nat} {reason : String} {db db' : SleepDb cfg.fl}
    (h : markFatigueSleeping cfg subjectId reason db = .ok db') :
    ∃ row, db.fatigue.find? subjectId = some row ∧ row.inputs.valid = true ∧
      cfg.fl.within 0 100 (cfg.fl.stored (cfg.fl.ofInt 100)) = true ∧ row.inputs.stored.valid = true ∧
      db' = fatigueWritten cfg row (cfg.fl.ofInt 100) .sleeping row.inputs reason db := by
  unfold markFatigueSleeping at h
  obtain ⟨row, hrow, h⟩ := bind_eq_ok.mp h
  obtain ⟨_, hvalid, h⟩ := bind_eq_ok.mp h
  rw [raiseIf_eq_ok, Bool.not_eq_false] at hvalid
  obtain ⟨hrange, hinputs, heq⟩ := writeFatigue_ok h
  exact ⟨row, orRaise_eq_ok.mp hrow, hvalid, hrange, hinputs, heq⟩

/-- The fatigue after sleep. -/
def restedFatigue (cfg : SleepConfig) (row : FatigueRow cfg.fl) (hours : cfg.fl.F) : cfg.fl.F :=
  cfg.fl.maxZero (cfg.fl.rested row.fatigue hours)

/-- The inputs after sleep. -/
def restedInputs (cfg : SleepConfig) (row : FatigueRow cfg.fl) (reset : Bool) : FatigueInputs cfg.fl :=
  FatigueInputs.rested (if reset then cfg.fl.ofInt 0 else row.inputs.resourcePressure)

lemma restoreFatigueConnection_ok {subjectId : Nat} {hours : cfg.fl.F} {reason : String} {reset : Bool}
    {db db' : SleepDb cfg.fl} (h : restoreFatigueConnection cfg subjectId hours reason reset db = .ok db') :
    ∃ row, db.fatigue.find? subjectId = some row ∧ (restedInputs cfg row reset).valid = true ∧
      cfg.fl.within 0 100 (cfg.fl.stored (restedFatigue cfg row hours)) = true ∧
      (restedInputs cfg row reset).stored.valid = true ∧
      db' = fatigueWritten cfg row (restedFatigue cfg row hours) (modeFor cfg (restedFatigue cfg row hours))
        (restedInputs cfg row reset) reason db := by
  unfold restoreFatigueConnection at h
  obtain ⟨row, hrow, h⟩ := bind_eq_ok.mp h
  obtain ⟨_, hvalid, h⟩ := bind_eq_ok.mp h
  rw [raiseIf_eq_ok, Bool.not_eq_false] at hvalid
  obtain ⟨hrange, hinputs, heq⟩ := writeFatigue_ok h
  exact ⟨row, orRaise_eq_ok.mp hrow, hvalid, hrange, hinputs, heq⟩

/-! ### Transactions -/

lemma getRow_ok {sleepId : Nat} {db : SleepDb fl} {row : SleepRunRow fl} (h : getRow sleepId db = .ok row) :
    db.runs.find? sleepId = some row :=
  orRaise_eq_ok.mp h

lemma startChecks_ok {subjectId : Nat} {q : StartRequest} {db db' : SleepDb cfg.fl} {row : FatigueRow cfg.fl}
    {wake : Option Nat} (h : startChecks cfg subjectId q db = .ok (db', row, wake)) :
    fatigueFromRow cfg row = .ok row ∧
      ((db.fatigue.find? subjectId = some row ∧ db' = db) ∨
        ∃ table, db.fatigue.insert? row = some table ∧ row = initialFatigue cfg subjectId ∧
          db' = { db with fatigue := table }) := by
  have hself : ∀ x y : FatigueRow cfg.fl, fatigueFromRow cfg x = .ok y → y = x := by
    intro x y hxy
    unfold fatigueFromRow at hxy
    obtain ⟨_, -, hxy⟩ := bind_eq_ok.mp hxy
    obtain ⟨_, -, hxy⟩ := bind_eq_ok.mp hxy
    obtain ⟨_, -, hxy⟩ := bind_eq_ok.mp hxy
    cases hxy
    rfl
  unfold startChecks at h
  obtain ⟨_, -, h⟩ := bind_eq_ok.mp h
  obtain ⟨_, -, h⟩ := bind_eq_ok.mp h
  obtain ⟨⟨mid, ensured⟩, hensure, h⟩ := bind_eq_ok.mp h
  cases h
  unfold ensureFatigue at hensure
  split at hensure
  · next found hfound =>
    obtain ⟨y, hy, hensure⟩ := bind_eq_ok.mp hensure
    cases hensure
    have hyx := hself _ _ hy
    subst hyx
    exact ⟨hy, .inl ⟨hfound, rfl⟩⟩
  · obtain ⟨table, htable, hensure⟩ := bind_eq_ok.mp hensure
    obtain ⟨y, hy, hensure⟩ := bind_eq_ok.mp hensure
    cases hensure
    have hyx := hself _ _ hy
    subst hyx
    exact ⟨hy, .inr ⟨table, orRaise_eq_ok.mp htable, rfl, rfl⟩⟩

/-- The row `start` inserts. -/
def openedRun (cfg : SleepConfig) (subjectId : Nat) (q : StartRequest) (fatigue : FatigueRow cfg.fl) (wake : Option Nat)
    (sleepId : Nat) : SleepRunRow cfg.fl :=
  ⟨sleepId, subjectId, .windingDown, q.triggerType, q.reason, q.emergency || q.triggerType = .emergency,
    fatigue.fatigue, wake, none, none,
    cfg.runHash .windingDown q.triggerType q.reason (q.emergency || q.triggerType = .emergency) fatigue.fatigue wake
      none
      none 1 none, 1, q.now, q.now, none⟩

lemma startRun_ok {subjectId : Nat} {q : StartRequest} {fatigue : FatigueRow cfg.fl} {wake : Option Nat}
    {db db' : SleepDb cfg.fl} (h : startRun cfg subjectId q fatigue wake db = .ok db') :
    db' = db ∨
      ∃ mid table, db.current subjectId = none ∧ db.quiescent subjectId = true ∧
      db.lifecycle? subjectId = some .active ∧
        transitionConnection subjectId .windingDown q.reason "subject" db = .ok mid ∧
        mid.runs.insert? (openedRun cfg subjectId q fatigue wake mid.nextId) = some table ∧
        db' = (insertTransition cfg mid.nextId none .windingDown q.reason
          { mid with runs := table, nextId := mid.nextId + 1 }).appendEvent subjectId .sleepReflectionBoundary := by
  unfold startRun at h
  obtain ⟨_, -, h⟩ := bind_eq_ok.mp h
  obtain ⟨_, -, h⟩ := bind_eq_ok.mp h
  split at h
  · obtain ⟨_, -, h⟩ := bind_eq_ok.mp h
    obtain ⟨_, -, h⟩ := bind_eq_ok.mp h
    cases h
    exact .inl rfl
  · next hcurrent =>
    obtain ⟨_, hquiescent, h⟩ := bind_eq_ok.mp h
    obtain ⟨_, hactive, h⟩ := bind_eq_ok.mp h
    obtain ⟨mid, hmid, h⟩ := bind_eq_ok.mp h
    obtain ⟨table, htable, h⟩ := bind_eq_ok.mp h
    rw [raiseIf_eq_ok, Bool.not_eq_false] at hquiescent
    rw [raiseIf_eq_ok, not_not] at hactive
    cases h
    exact .inr ⟨mid, table, hcurrent, hquiescent, hactive, hmid, orRaise_eq_ok.mp htable, rfl⟩

lemma beginReflection_ok {subjectId sleepId : Nat} {reason : String} {now : Nat} {db db' : SleepDb cfg.fl}
    (h : beginReflection cfg subjectId sleepId reason now db = .ok db') :
    (db' = db ∧ ∀ row, db.runs.find? sleepId = some row → row.status = .reflectiveSleep) ∨
      ∃ row mid, db.runs.find? sleepId = some row ∧ row.status = .windingDown ∧
        transitionConnection subjectId .reflectiveSleep reason "subject" db = .ok mid ∧
        transitionRun cfg row .reflectiveSleep reason none none now mid = .ok db' := by
  unfold beginReflection at h
  obtain ⟨row, hrow, h⟩ := bind_eq_ok.mp h
  split at h
  · next hstatus =>
    obtain ⟨_, -, h⟩ := bind_eq_ok.mp h
    cases h
    refine .inl ⟨rfl, fun row' hrow' => ?_⟩
    rw [← Option.some.inj ((getRow_ok hrow).symm.trans hrow')]
    exact hstatus
  · obtain ⟨_, hstatus, h⟩ := bind_eq_ok.mp h
    obtain ⟨_, -, h⟩ := bind_eq_ok.mp h
    obtain ⟨mid, hmid, h⟩ := bind_eq_ok.mp h
    rw [raiseIf_eq_ok, not_not] at hstatus
    exact .inr ⟨row, mid, getRow_ok hrow, hstatus, hmid, h⟩

/-- The reflection `commit_reflection` records. -/
def committedReflection (cfg : SleepConfig) (sleepId eventId : Nat) (plan : SleepReflectionPlan cfg.fl) :
    SleepReflectionRow cfg.fl :=
  ⟨sleepId, eventId, plan.summary, plan.facts, plan.contradictions, plan.predictionErrors, plan.unresolvedQuestions,
    plan.publicDiaryCandidate, plan, cfg.planHash plan⟩

lemma commitReflection_ok {answers : PlanAnswers} {subjectId sleepId : Nat} {plan : SleepReflectionPlan cfg.fl}
    {now : Nat}
    {db db' : SleepDb cfg.fl} (h : commitReflection cfg answers subjectId sleepId plan now db = .ok db') :
    plan.valid = true ∧
      ((db' = db ∧ db.reflections.find? sleepId ≠ none) ∨
        ∃ row table mid, db.runs.find? sleepId = some row ∧ row.status = .reflectiveSleep ∧
          db.reflections.insert? (committedReflection cfg sleepId db.nextId plan) = some table ∧
          applyPlan cfg answers subjectId sleepId db.nextId plan
            { db.appendEvent subjectId .sleepReflection with reflections := table } = .ok mid ∧
          db' = { mid with runs := mid.runs.replace (row.reflected cfg db.nextId now) }) := by
  unfold commitReflection at h
  obtain ⟨_, hvalid, h⟩ := bind_eq_ok.mp h
  obtain ⟨row, hrow, h⟩ := bind_eq_ok.mp h
  obtain ⟨_, hstatus, h⟩ := bind_eq_ok.mp h
  rw [raiseIf_eq_ok, Bool.not_eq_false] at hvalid
  rw [raiseIf_eq_ok, not_not] at hstatus
  refine ⟨hvalid, ?_⟩
  split at h
  · next hfound =>
    obtain ⟨_, -, h⟩ := bind_eq_ok.mp h
    obtain ⟨_, -, h⟩ := bind_eq_ok.mp h
    cases h
    refine .inl ⟨rfl, ?_⟩
    rw [hfound]
    simp
  · obtain ⟨table, htable, h⟩ := bind_eq_ok.mp h
    obtain ⟨mid, hmid, h⟩ := bind_eq_ok.mp h
    cases h
    exact .inr ⟨row, table, mid, getRow_ok hrow, hstatus, orRaise_eq_ok.mp htable, hmid, rfl⟩

lemma enterDeepSleep_ok {subjectId sleepId : Nat} {reason : String} {bytes now : Nat} {db db' : SleepDb cfg.fl}
    (h : enterDeepSleep cfg subjectId sleepId reason bytes now db = .ok db') :
    (db' = db ∧ ∀ row, db.runs.find? sleepId = some row → row.status = .deepSleep) ∨
      ∃ row saved snapshotId mid asleep, db.runs.find? sleepId = some row ∧ row.status = .reflectiveSleep ∧
        row.reflectionEventId ≠ none ∧ saveCheckpoint subjectId bytes db = .ok (saved, snapshotId) ∧
        transitionConnection subjectId .deepSleep reason "subject" saved = .ok mid ∧
        markFatigueSleeping cfg subjectId reason mid = .ok asleep ∧
        transitionRun cfg row .deepSleep reason (some snapshotId) none now asleep = .ok db' := by
  unfold enterDeepSleep at h
  obtain ⟨row, hrow, h⟩ := bind_eq_ok.mp h
  split at h
  · next hstatus =>
    obtain ⟨_, -, h⟩ := bind_eq_ok.mp h
    cases h
    refine .inl ⟨rfl, fun row' hrow' => ?_⟩
    rw [← Option.some.inj ((getRow_ok hrow).symm.trans hrow')]
    exact hstatus
  · obtain ⟨_, hstatus, h⟩ := bind_eq_ok.mp h
    obtain ⟨⟨saved, snapshotId⟩, hsaved, h⟩ := bind_eq_ok.mp h
    obtain ⟨mid, hmid, h⟩ := bind_eq_ok.mp h
    obtain ⟨asleep, hasleep, h⟩ := bind_eq_ok.mp h
    rw [raiseIf_eq_ok, not_or, not_not] at hstatus
    exact .inr ⟨row, saved, snapshotId, mid, asleep, getRow_ok hrow, hstatus.1, hstatus.2, hsaved, hmid, hasleep, h⟩

lemma wake_ok {subjectId sleepId : Nat} {reason : String} {force : Bool} {now : Nat} {db db' : SleepDb cfg.fl}
    (h : wake cfg subjectId sleepId reason force now db = .ok db') :
    db' = db ∨
      ∃ row mid, db.runs.find? sleepId = some row ∧ row.status = .deepSleep ∧
        transitionConnection subjectId .waking reason "subject" db = .ok mid ∧
        transitionRun cfg row .waking reason none none now mid = .ok db' := by
  unfold wake at h
  obtain ⟨_, -, h⟩ := bind_eq_ok.mp h
  obtain ⟨row, hrow, h⟩ := bind_eq_ok.mp h
  split at h
  · obtain ⟨_, -, h⟩ := bind_eq_ok.mp h
    cases h
    exact .inl rfl
  · obtain ⟨_, hstatus, h⟩ := bind_eq_ok.mp h
    obtain ⟨_, -, h⟩ := bind_eq_ok.mp h
    obtain ⟨mid, hmid, h⟩ := bind_eq_ok.mp h
    rw [raiseIf_eq_ok, not_not] at hstatus
    exact .inr ⟨row, mid, getRow_ok hrow, hstatus, hmid, h⟩

lemma finishRun_ok {subjectId : Nat} {row : SleepRunRow cfg.fl} {reason : String} {now : Nat} {db db' : SleepDb cfg.fl}
    (h : finishRun cfg subjectId row reason now db = .ok db') :
    ∃ hours reset mid, restoreFatigueConnection cfg subjectId hours reason reset db = .ok mid ∧
      transitionRun cfg row .complete reason none (some now) now mid = .ok db' := by
  unfold finishRun at h
  obtain ⟨mid, hmid, h⟩ := bind_eq_ok.mp h
  exact ⟨_, _, mid, hmid, h⟩

lemma completeWake_ok {subjectId sleepId : Nat} {reason : String} {now : Nat} {db db' : SleepDb cfg.fl}
    (h : completeWake cfg subjectId sleepId reason now db = .ok db') :
    (db' = db ∧ ∀ row, db.runs.find? sleepId = some row → row.status = .complete) ∨
      ∃ row mid, db.runs.find? sleepId = some row ∧ row.status = .waking ∧
        transitionConnection subjectId .active reason "subject" db = .ok mid ∧
        finishRun cfg subjectId row reason now mid = .ok db' := by
  unfold completeWake at h
  obtain ⟨row, hrow, h⟩ := bind_eq_ok.mp h
  split at h
  · next hstatus =>
    obtain ⟨_, -, h⟩ := bind_eq_ok.mp h
    cases h
    refine .inl ⟨rfl, fun row' hrow' => ?_⟩
    rw [← Option.some.inj ((getRow_ok hrow).symm.trans hrow')]
    exact hstatus
  · obtain ⟨_, hstatus, h⟩ := bind_eq_ok.mp h
    obtain ⟨mid, hmid, h⟩ := bind_eq_ok.mp h
    rw [raiseIf_eq_ok, not_not] at hstatus
    exact .inr ⟨row, mid, getRow_ok hrow, hstatus, hmid, h⟩

lemma wakeEarly_ok {subjectId sleepId : Nat} {reason actor : String} {now : Nat} {db db' : SleepDb cfg.fl}
    (h : wakeEarly cfg subjectId sleepId reason actor now db = .ok db') :
    (db' = db ∧ ∀ row, db.runs.find? sleepId = some row → row.status = .complete) ∨
      ∃ row mid moved woken, db.runs.find? sleepId = some row ∧ row.status = .deepSleep ∧
        transitionConnection subjectId .waking reason actor db = .ok mid ∧
        transitionRun cfg row .waking reason none none now mid = .ok moved ∧
        transitionConnection subjectId .active reason actor moved = .ok woken ∧
        finishRun cfg subjectId (row.moved cfg .waking none none now) reason now woken = .ok db' := by
  unfold wakeEarly at h
  obtain ⟨_, -, h⟩ := bind_eq_ok.mp h
  obtain ⟨_, -, h⟩ := bind_eq_ok.mp h
  obtain ⟨row, hrow, h⟩ := bind_eq_ok.mp h
  split at h
  · next hstatus =>
    obtain ⟨_, -, h⟩ := bind_eq_ok.mp h
    cases h
    refine .inl ⟨rfl, fun row' hrow' => ?_⟩
    rw [← Option.some.inj ((getRow_ok hrow).symm.trans hrow')]
    exact hstatus
  · obtain ⟨_, hstatus, h⟩ := bind_eq_ok.mp h
    obtain ⟨mid, hmid, h⟩ := bind_eq_ok.mp h
    obtain ⟨moved, hmoved, h⟩ := bind_eq_ok.mp h
    obtain ⟨waking, hwaking, h⟩ := bind_eq_ok.mp h
    obtain ⟨woken, hwoken, h⟩ := bind_eq_ok.mp h
    rw [raiseIf_eq_ok, not_not] at hstatus
    -- the run read back is the one that was just written
    have hrow' := getRow_ok hrow
    have hread : waking = row.moved cfg .waking none none now := by
      obtain ⟨-, state, -, -, rfl⟩ := transitionConnection_ok hmid
      obtain ⟨-, rfl⟩ := transitionRun_ok hmoved
      have hkey : (row.moved cfg .waking none none now).sleepId = sleepId := (Table.find?_eq_some.mp hrow').2
      have hfind : (db.runs.replace (row.moved cfg .waking none none now)).find?
          (row.moved cfg .waking none none now).sleepId = some (row.moved cfg .waking none none now) :=
        Table.find?_replace_self (hkey ▸ hrow')
      rw [hkey] at hfind
      exact Option.some.inj ((getRow_ok hwaking).symm.trans hfind)
    subst hread
    exact .inr ⟨row, mid, moved, woken, hrow', hstatus, hmid, hmoved, hwoken, h⟩

end Noyra.Sleep.Proofs
