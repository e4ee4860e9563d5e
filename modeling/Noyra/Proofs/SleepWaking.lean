import Noyra.Proofs.SleepRuns

/-!
# Waking up

From a state whose lifecycles wait for the runs that are asleep, a subject whose actions have settled can be
brought back to an active lifecycle without an unfinished run, and then falls asleep again.
-/

namespace Noyra.Sleep.Proofs
open Noyra.Lib

variable {cfg : SleepConfig}

/-- The calls of the engine and the kernel that a waking needs. -/
def SleepAction.operation : SleepAction cfg → Bool
  | .checkpoint _ _ _ => false
  | .engine (.assess _ _ _ _ _) => false
  | .engine (.restoreAfterSleep _ _ _ _) => false
  | .engine (.releaseRetryBlock _ _ _ _ _) => false
  | .engine (.compact _ _) => false
  | .engine (.recordEvent _) => false
  | .engine (.writeActions _) => false
  | .engine (.writeSources _ _) => false
  | _ => true

/-- The lifecycle is active and no run is unfinished. -/
def Awake {fl : Floats} (db : SleepDb fl) (subjectId : Nat) : Prop :=
  db.lifecycle? subjectId = some .active ∧ db.current subjectId = none

/-- Operations lead to an awake subject. -/
def CanWake (s : SleepState cfg.fl) (subjectId : Nat) : Prop :=
  ∃ as : List (SleepAction cfg), (∀ a ∈ as, SleepAction.operation a = true) ∧ Awake (as.foldl sleepStep s).db subjectId

lemma canWake_step {s : SleepState cfg.fl} {subjectId : Nat} {a : SleepAction cfg} (ha : SleepAction.operation a = true)
    (h : CanWake (sleepStep s a) subjectId) : CanWake s subjectId := by
  obtain ⟨as, hops, hawake⟩ := h
  refine ⟨a :: as, ?_, hawake⟩
  intro b hb
  rcases List.mem_cons.mp hb with rfl | hb
  · exact ha
  · exact hops b hb

/-! ### Calls that succeed -/

/-- The reason that the calls of a waking give. -/
def wakingReason : String := "wake"

lemma strip_wakingReason : strip wakingReason ≠ "" := by decide

lemma strip_subject : strip "subject" ≠ "" := by decide

lemma exists_insert {κ ρ : Type} [DecidableEq κ] {key : ρ → κ} {t : Table key} {new : ρ}
    (h : ∀ x ∈ t, key x ≠ key new) : ∃ t', t.insert? new = some t' := by
  unfold Table.insert?
  have hnot : key new ∉ t.rows.map key := by
    intro hmem
    obtain ⟨x, hx, hk⟩ := List.mem_map.mp hmem
    exact h x hx hk
  rw [dif_neg hnot]
  exact ⟨_, rfl⟩

lemma within_maxZero (x : cfg.fl.F) : cfg.fl.le (cfg.fl.ofInt 0) (cfg.fl.maxZero x) = true := by
  unfold Floats.maxZero
  split
  · next h => exact h.2
  · rw [cfg.fl.le_ofInt] <;> decide

lemma within_restedFatigue {row : FatigueRow cfg.fl} {hours : cfg.fl.F} (hrow : cfg.fl.within 0 100 row.fatigue = true)
    (hhours : cfg.fl.le (cfg.fl.ofInt 0) hours = true) : cfg.fl.within 0 100 (restedFatigue cfg row hours) = true := by
  rw [Floats.within, Bool.and_eq_true] at hrow ⊢
  refine ⟨within_maxZero _, ?_⟩
  unfold restedFatigue Floats.maxZero
  split
  · exact cfg.fl.rested_le _ _ hrow.2 hhours
  · rw [cfg.fl.le_ofInt] <;> decide

section Success

variable {subjectId sleepId : Nat} {db : SleepDb cfg.fl} {row : SleepRunRow cfg.fl}

lemma restoreFatigueConnection_succeeds (h : Books cfg db) (hfatigue : (db.fatigue.find? subjectId).isSome)
    {hours : cfg.fl.F} (hhours : cfg.fl.le (cfg.fl.ofInt 0) hours = true) (reason : String) (reset : Bool) :
    ∃ y, restoreFatigueConnection cfg subjectId hours reason reset db = .ok y := by
  obtain ⟨f, hf⟩ := Option.isSome_iff_exists.mp hfatigue
  have hbooked := h.fatigue subjectId
  have haudit := auditFatigueRow_ok.mp (hbooked.row f hf)
  have hkept := hbooked.kept f hf
  have hpressure : cfg.fl.within 0 1 f.inputs.resourcePressure = true := by
    have hvalid := haudit.2.1
    simp only [FatigueInputs.valid, Bool.and_eq_true] at hvalid
    exact hvalid.1.1.1.1
  have hinputs : (restedInputs cfg f reset).valid = true ∧ (restedInputs cfg f reset).stored =
      restedInputs cfg f reset := by
    unfold restedInputs
    split
    · exact ⟨valid_rested (within_of_int (by omega)), stored_rested stored_zero⟩
    · exact ⟨valid_rested hpressure, stored_rested (congrArg FatigueInputs.resourcePressure hkept)⟩
  have hrange : cfg.fl.within 0 100 (cfg.fl.stored (restedFatigue cfg f hours)) = true := by
    rw [restedFatigue, stored_maxZero]
    exact within_restedFatigue haudit.1 hhours
  refine ⟨fatigueWritten cfg f (restedFatigue cfg f hours) (modeFor cfg (restedFatigue cfg f hours))
    (restedInputs cfg f reset) reason db, ?_⟩
  unfold restoreFatigueConnection
  rw [hf, orRaise_some, ok_bind]
  have hneg : ¬((restedInputs cfg f reset).valid = false) := by simp [hinputs.1]
  have hwrite : writeFatigue cfg f (restedFatigue cfg f hours) (modeFor cfg (restedFatigue cfg f hours))
      (restedInputs cfg f reset) reason db = .ok (fatigueWritten cfg f (restedFatigue cfg f hours)
        (modeFor cfg (restedFatigue cfg f hours)) (restedInputs cfg f reset) reason db) :=
    writeFatigue_eq hrange (hinputs.2.symm ▸ hinputs.1)
  exact (congrArg (fun r => r >>= _) (raiseIf_neg hneg)).trans hwrite

lemma finishRun_succeeds (h : Books cfg db) (hfatigue : (db.fatigue.find? subjectId).isSome)
    (hstatus : row.status = .waking)
    (reason : String) (now : Nat) : ∃ y, finishRun cfg subjectId row reason now db = .ok y := by
  obtain ⟨mid, hmid⟩ := restoreFatigueConnection_succeeds h hfatigue
    (within_maxZero (cfg.fl.hours row.startedAt now)) reason
    (row.triggerType = .budget && dayOf row.startedAt < dayOf now)
  have hcomplete : RunStatus.complete ∈ row.status.sleepTransitions := by
    rw [hstatus]
    decide
  obtain ⟨y, hy⟩ : ∃ y, transitionRun cfg row .complete reason none (some now) now mid = .ok y :=
    ⟨_, transitionRun_eq hcomplete⟩
  refine ⟨y, ?_⟩
  unfold finishRun
  simp only [hmid, ok_bind]
  exact hy

lemma completeWake_succeeds (h : Books cfg db) {state : LifecycleState} (hrow : db.runs.find? sleepId = some row)
    (hsubject : row.subjectId = subjectId) (hstatus : row.status = .waking)
    (hstate : db.lifecycle? subjectId = some state) (hallowed : .active ∈ state.allowedTransitions) (now : Nat) :
    ∃ y, completeWake cfg subjectId sleepId wakingReason now db = .ok y := by
  have hmid := transitionConnection_eq strip_wakingReason strip_subject hstate hallowed
  have hbooks := books_transitionConnection h hmid
  have hfatigue : (db.fatigue.find? subjectId).isSome := hsubject ▸ (h.runs row (Table.find?_eq_some.mp hrow).1).rested
  obtain ⟨y, hy⟩ := finishRun_succeeds hbooks hfatigue hstatus wakingReason now
  refine ⟨y, ?_⟩
  have hne : ¬(row.status = .complete) := by simp [hstatus]
  unfold completeWake getRow
  rw [hrow, orRaise_some, ok_bind, if_neg hne, raiseIf_neg (not_not.mpr hstatus), ok_bind, hmid, ok_bind]
  exact hy

lemma wakeEarly_succeeds (h : Books cfg db) (hrow : db.runs.find? sleepId = some row)
    (hsubject : row.subjectId = subjectId)
    (hstatus : row.status = .deepSleep) (hstate : db.lifecycle? subjectId = some .deepSleep) (now : Nat) :
    ∃ y, wakeEarly cfg subjectId sleepId wakingReason wakingReason now db = .ok y := by
  obtain ⟨hmem, hid⟩ := Table.find?_eq_some.mp hrow
  subst hid
  have hmid := transitionConnection_eq strip_wakingReason strip_wakingReason hstate
    (by decide : LifecycleState.waking ∈ LifecycleState.deepSleep.allowedTransitions)
  have hbooks := books_transitionConnection h hmid
  have hallowed : RunStatus.waking ∈ row.status.sleepTransitions := by
    rw [hstatus]
    decide
  have hmoved : transitionRun cfg row .waking wakingReason none none now
      ((db.setLifecycle subjectId .waking).appendEvent subjectId .lifecycleTransition) = .ok _ :=
    transitionRun_eq hallowed
  have hbooks' := books_transitionRun_of_checkpointed hbooks hrow (.inl hstatus) hmoved
  -- the lifecycle after the first transition
  have hwaking : (insertTransition cfg row.sleepId (some row.status) .waking wakingReason
      { (db.setLifecycle subjectId .waking).appendEvent subjectId .lifecycleTransition with
        runs := db.runs.replace (row.moved cfg .waking none none now) }).lifecycle? subjectId = some .waking :=
    (lifecycle?_replace hstate rfl subjectId).trans (if_pos rfl)
  have hwoken := transitionConnection_eq strip_wakingReason strip_wakingReason hwaking
    (by decide : LifecycleState.active ∈ LifecycleState.waking.allowedTransitions)
  have hbooks'' := books_transitionConnection hbooks' hwoken
  have hfatigue : (db.fatigue.find? subjectId).isSome := hsubject ▸ (h.runs row hmem).rested
  obtain ⟨y, hy⟩ : ∃ y, finishRun cfg subjectId (row.moved cfg .waking none none now) wakingReason now _ = .ok y :=
    finishRun_succeeds hbooks'' hfatigue rfl wakingReason now
  refine ⟨y, ?_⟩
  have hkey : db.runs.find? (row.moved cfg .waking none none now).sleepId = some row := hrow
  have hread : (db.runs.replace (row.moved cfg .waking none none now)).find? row.sleepId =
      some (row.moved cfg .waking none none now) := Table.find?_replace_self hkey
  have hne : ¬(row.status = .complete) := by simp [hstatus]
  unfold wakeEarly getRow
  rw [raiseIf_neg strip_wakingReason, ok_bind, raiseIf_neg strip_wakingReason, ok_bind, hrow, orRaise_some, ok_bind,
    if_neg hne, raiseIf_neg (not_not.mpr hstatus), ok_bind, hmid, ok_bind, hmoved, ok_bind]
  have hgot : orRaise ((insertTransition cfg row.sleepId (some row.status) .waking wakingReason
      { (db.setLifecycle subjectId .waking).appendEvent subjectId .lifecycleTransition with
        runs := db.runs.replace (row.moved cfg .waking none none now) }).runs.find? row.sleepId)
      (SleepError.notFoundError "sleep run not found") = .ok (row.moved cfg .waking none none now) :=
    orRaise_eq_ok.mpr hread
  exact (congrArg (fun r => r >>= _) hgot).trans ((congrArg (fun r => r >>= _) hwoken).trans hy)

lemma beginReflection_succeeds (hrow : db.runs.find? sleepId = some row) (hstatus : row.status = .windingDown)
    (hstate : db.lifecycle? subjectId = some .windingDown) (hquiescent : db.quiescent subjectId = true) (now : Nat) :
    ∃ y, beginReflection cfg subjectId sleepId wakingReason now db = .ok y := by
  have hmid := transitionConnection_eq strip_wakingReason strip_subject hstate
    (by decide : LifecycleState.reflectiveSleep ∈ LifecycleState.windingDown.allowedTransitions)
  have hallowed : RunStatus.reflectiveSleep ∈ row.status.sleepTransitions := by
    rw [hstatus]
    decide
  obtain ⟨y, hy⟩ : ∃ y, transitionRun cfg row .reflectiveSleep wakingReason none none now
      ((db.setLifecycle subjectId .reflectiveSleep).appendEvent subjectId .lifecycleTransition) = .ok y :=
    ⟨_, transitionRun_eq hallowed⟩
  refine ⟨y, ?_⟩
  have hne : ¬(row.status = .reflectiveSleep) := by simp [hstatus]
  unfold beginReflection getRow
  rw [hrow, orRaise_some, ok_bind, if_neg hne, raiseIf_neg (not_not.mpr hstatus), ok_bind,
    raiseIf_neg (by simp [hquiescent]), ok_bind, hmid, ok_bind]
  exact hy

/-- A reflection that changes nothing else. -/
def quietPlan : SleepReflectionPlan cfg.fl := ⟨wakingReason, [], [], [], [], none, [], [], [], [], []⟩

lemma quietPlan_valid : (quietPlan : SleepReflectionPlan cfg.fl).valid = true := by
  have hsummary : nonblankText 1 20000 wakingReason = true := by decide
  simp [SleepReflectionPlan.valid, quietPlan, hsummary, validReflectionList]

def quietAnswers : PlanAnswers := ⟨fun _ => none, fun _ => none, fun _ => none⟩

lemma commitReflection_succeeds (h : Books cfg db) (hrow : db.runs.find? sleepId = some row)
    (hstatus : row.status = .reflectiveSleep) (hnone : row.reflectionEventId = none) (now : Nat) :
    ∃ y, commitReflection cfg quietAnswers subjectId sleepId quietPlan now db = .ok y := by
  obtain ⟨hmem, hid⟩ := Table.find?_eq_some.mp hrow
  have hbooked := (h.runs row hmem).reflection
  rw [ReflectionBooked, hnone, hid] at hbooked
  obtain ⟨table, htable⟩ : ∃ table, db.reflections.insert?
      (committedReflection cfg sleepId db.nextId quietPlan) = some table :=
    exists_insert (Table.find?_eq_none.mp hbooked)
  refine ⟨{ { db.appendEvent subjectId .sleepReflection with reflections := table } with
    runs := db.runs.replace (row.reflected cfg db.nextId now) }, ?_⟩
  unfold commitReflection getRow
  rw [raiseIf_neg (by simp [quietPlan_valid]), ok_bind, hrow, orRaise_some, ok_bind, raiseIf_neg (not_not.mpr hstatus),
    ok_bind]
  simp only [hbooked]
  have hgot : orRaise ((db.appendEvent subjectId .sleepReflection).reflections.insert?
      (committedReflection cfg sleepId db.nextId quietPlan)) SleepError.sqliteIntegrityError = .ok table :=
    orRaise_eq_ok.mpr htable
  exact congrArg (fun r => r >>= _) hgot

lemma saveCheckpoint_succeeds (h : Books cfg db) {state : LifecycleState}
    (hstate : db.lifecycle? subjectId = some state)
    (bytes : Nat) : ∃ y snapshotId, saveCheckpoint subjectId bytes db = .ok (y, snapshotId) := by
  obtain ⟨identity, hidentity⟩ := Option.isSome_iff_exists.mp (h.known subjectId (by rw [hstate]; rfl))
  obtain ⟨hmem, hid⟩ := Table.find?_eq_some.mp hidentity
  have hfree : ¬(db.snapshots.rows.any (fun x => x.subjectId = subjectId && x.stateVersion = identity.stateVersion +
      1) =
      true) := by
    rw [List.any_eq_true]
    rintro ⟨x, hx, hver⟩
    rw [Bool.and_eq_true, decide_eq_true_eq, decide_eq_true_eq] at hver
    have := (h.identities identity hmem).newest x hx (hver.1.trans hid.symm)
    omega
  obtain ⟨table, htable⟩ : ∃ table, db.snapshots.insert?
      ⟨db.nextId, subjectId, identity.stateVersion + 1, bytes⟩ = some table := by
    apply exists_insert
    intro x hx
    exact Nat.ne_of_lt (h.ids.snapshots x hx)
  refine ⟨checkpointSaved subjectId (identity.stateVersion + 1) table db, db.nextId, ?_⟩
  unfold saveCheckpoint
  rw [hidentity, orRaise_some, ok_bind]
  simp only [raiseIf_neg hfree, ok_bind, htable, orRaise_some]
  rfl

lemma markFatigueSleeping_succeeds (h : Books cfg db) (hfatigue : (db.fatigue.find? subjectId).isSome)
    (reason : String) :
    ∃ y, markFatigueSleeping cfg subjectId reason db = .ok y := by
  obtain ⟨f, hf⟩ := Option.isSome_iff_exists.mp hfatigue
  have haudit := auditFatigueRow_ok.mp ((h.fatigue subjectId).row f hf)
  have hkept := (h.fatigue subjectId).kept f hf
  have hrange : cfg.fl.within 0 100 (cfg.fl.stored (cfg.fl.ofInt 100)) = true := by
    rw [cfg.fl.stored_ofInt 100 (by omega) (by omega)]
    exact within_of_int (by omega)
  refine ⟨fatigueWritten cfg f (cfg.fl.ofInt 100) .sleeping f.inputs reason db, ?_⟩
  unfold markFatigueSleeping
  rw [hf, orRaise_some, ok_bind, raiseIf_neg (by simp [haudit.2.1]), ok_bind]
  exact writeFatigue_eq hrange (hkept.symm ▸ haudit.2.1)

lemma enterDeepSleep_succeeds (h : Books cfg db) (hrow : db.runs.find? sleepId = some row)
    (hsubject : row.subjectId = subjectId)
    (hstatus : row.status = .reflectiveSleep) (hsome : row.reflectionEventId ≠ none)
    (hstate : db.lifecycle? subjectId = some .reflectiveSleep) (bytes now : Nat) :
    ∃ y, enterDeepSleep cfg subjectId sleepId wakingReason bytes now db = .ok y := by
  obtain ⟨hmem, hid⟩ := Table.find?_eq_some.mp hrow
  obtain ⟨saved, snapshotId, hsaved⟩ := saveCheckpoint_succeeds h hstate bytes
  have hbooks := (books_saveCheckpoint h hsaved).1
  have hfatigue : (db.fatigue.find? subjectId).isSome := hsubject ▸ (h.runs row hmem).rested
  have hlife : saved.lifecycle? subjectId = some .reflectiveSleep ∧ (saved.fatigue.find? subjectId).isSome := by
    obtain ⟨_, _, _, _, _, _, rfl⟩ := saveCheckpoint_ok hsaved
    exact ⟨hstate, hfatigue⟩
  have hmid := transitionConnection_eq strip_wakingReason strip_subject hlife.1
    (by decide : LifecycleState.deepSleep ∈ LifecycleState.reflectiveSleep.allowedTransitions)
  obtain ⟨asleep, hasleep⟩ : ∃ y, markFatigueSleeping cfg subjectId wakingReason
      ((saved.setLifecycle subjectId .deepSleep).appendEvent subjectId .lifecycleTransition) = .ok y :=
    markFatigueSleeping_succeeds (books_transitionConnection hbooks hmid) hlife.2 wakingReason
  have hallowed : RunStatus.deepSleep ∈ row.status.sleepTransitions := by
    rw [hstatus]
    decide
  obtain ⟨y, hy⟩ : ∃ y, transitionRun cfg row .deepSleep wakingReason (some snapshotId) none now asleep = .ok y :=
    ⟨_, transitionRun_eq hallowed⟩
  refine ⟨y, ?_⟩
  have hne : ¬(row.status = .deepSleep) := by simp [hstatus]
  unfold enterDeepSleep getRow
  rw [hrow, orRaise_some, ok_bind, if_neg hne, raiseIf_neg (by simp [hstatus, hsome]), ok_bind, hsaved, ok_bind]
  simp only [hmid, ok_bind, hasleep]
  exact hy

lemma fatigueFromRow_succeeds {f : FatigueRow cfg.fl}
    (h : auditFatigueRow cfg f.fatigue f.mode f.inputs f.stateHash = .ok ()) :
    fatigueFromRow cfg f = .ok f := by
  obtain ⟨-, hvalid, hhash, hmode⟩ := auditFatigueRow_ok.mp h
  unfold fatigueFromRow
  rw [raiseIf_neg (by simp [hvalid]), ok_bind, raiseIf_neg (not_not.mpr hhash), ok_bind,
    raiseIf_neg (not_not.mpr hmode)]
  rfl

lemma ensureFatigue_succeeds (h : Books cfg db) : ∃ y f, ensureFatigue cfg subjectId db = .ok (y, f) := by
  unfold ensureFatigue
  cases hfind : db.fatigue.find? subjectId with
  | some f =>
    have hfrom := fatigueFromRow_succeeds ((h.fatigue subjectId).row f hfind)
    exact ⟨db, f, by simp only [hfrom, ok_bind]⟩
  | none =>
    obtain ⟨table, htable⟩ := exists_insert (Table.find?_eq_none.mp hfind : ∀ x ∈ db.fatigue,
      FatigueRow.subjectId x ≠ (initialFatigue cfg subjectId).subjectId)
    have hfrom : fatigueFromRow cfg (initialFatigue cfg subjectId) = .ok (initialFatigue cfg subjectId) :=
      fatigueFromRow_succeeds (auditFatigueRow_initialFatigue subjectId)
    refine ⟨{ db with fatigue := table }, initialFatigue cfg subjectId, ?_⟩
    simp only [htable, orRaise_some, hfrom, ok_bind]

/-- A request to sleep by the subject's own choice. -/
def restRequest (now : Nat) : StartRequest := ⟨.subjectChoice, wakingReason, none, false, now⟩

/-- An awake subject whose actions have settled falls asleep. -/
lemma start_succeeds (h : Books cfg db) (hawake : Awake db subjectId) (hquiescent : db.quiescent subjectId = true)
    (now : Nat) : (startStep subjectId (restRequest now) false db).lifecycle? subjectId = some .windingDown := by
  obtain ⟨ensured, f, hensured⟩ : ∃ y f, ensureFatigue cfg subjectId db = .ok (y, f) := ensureFatigue_succeeds h
  have hreason : ¬(strip (restRequest now).reason = "" ∨ 10000 < (restRequest now).reason.length) :=
    (by decide : ¬(strip wakingReason = "" ∨ 10000 < wakingReason.length))
  have hchecks : startChecks cfg subjectId (restRequest now) db = .ok (ensured, f, none) := by
    unfold startChecks
    rw [raiseIf_neg hreason, ok_bind]
    simp only [normalizeOptionalFuture, restRequest, ok_bind, hensured]
  obtain ⟨-, hensure⟩ := startChecks_ok hchecks
  have hsame : ensured.runtimeStates = db.runtimeStates ∧ ensured.runs = db.runs ∧ ensured.actions = db.actions ∧
      ensured.nextId = db.nextId := by
    obtain ⟨-, rfl⟩ | ⟨_, _, _, rfl⟩ := hensure
    · exact ⟨rfl, rfl, rfl, rfl⟩
    · exact ⟨rfl, rfl, rfl, rfl⟩
  have hlife : ensured.lifecycle? subjectId = some .active := by
    rw [SleepDb.lifecycle?, hsame.1]
    exact hawake.1
  have hcurrent : ensured.current subjectId = none := by
    rw [SleepDb.current, hsame.2.1]
    exact hawake.2
  have hsettled : ensured.quiescent subjectId = true := by
    rw [SleepDb.quiescent, hsame.2.2.1]
    exact hquiescent
  have hmid := transitionConnection_eq strip_wakingReason strip_subject hlife
    (by decide : LifecycleState.windingDown ∈ LifecycleState.active.allowedTransitions)
  have hfresh : ∀ x ∈ ensured.runs, SleepRunRow.sleepId x ≠
      (openedRun cfg subjectId (restRequest now) f none (ensured.nextId + 1)).sleepId := by
    intro x hx heq
    have hlt := h.ids.runs x (hsame.2.1 ▸ hx)
    rw [← hsame.2.2.2, heq] at hlt
    exact absurd hlt (by simp [openedRun])
  obtain ⟨table, htable⟩ := exists_insert hfresh
  have hrun : startRun cfg subjectId (restRequest now) f none ensured =
      .ok ((insertTransition cfg (ensured.nextId + 1) none .windingDown wakingReason
        { (ensured.setLifecycle subjectId .windingDown).appendEvent subjectId .lifecycleTransition with
          runs := table, nextId := ensured.nextId + 1 + 1 }).appendEvent subjectId .sleepReflectionBoundary) := by
    unfold startRun
    rw [raiseIf_neg (by simp [restRequest]), ok_bind, raiseIf_neg (by simp [restRequest]), ok_bind, hcurrent]
    simp only
    rw [raiseIf_neg (by simp [hsettled]), ok_bind, raiseIf_neg (by simp [hlife]), ok_bind]
    refine (congrArg (fun r => r >>= _) hmid).trans ?_
    rw [ok_bind]
    exact congrArg (fun r => r >>= _) (orRaise_eq_ok.mpr htable)
  unfold startStep
  simp only [hchecks, hrun, attempt, settle]
  exact (lifecycle?_replace hlife rfl subjectId).trans (if_pos rfl)

end Success

/-! ### Stages of a waking -/

/-- A run of the subject, in a state whose books are kept. -/
structure RunAt (s : SleepState cfg.fl) (subjectId : Nat) (row : SleepRunRow cfg.fl) : Prop where
  books : Books cfg s.db
  one : OneUnfinished s.db
  found : s.db.runs.find? row.sleepId = some row
  subject : row.subjectId = subjectId

variable {s : SleepState cfg.fl} {subjectId : Nat} {row : SleepRunRow cfg.fl}

lemma attempt_ok {fl : Floats} {db y : SleepDb fl} {r : Except SleepError (SleepDb fl)} (h : r = .ok y) :
    attempt false db r = y := by
  rw [h]
  rfl

/-- A call that replaces the run leads to the run that it wrote. -/
lemma RunAt.next (h : RunAt s subjectId row) (call : EngineCall cfg) {new : SleepRunRow cfg.fl}
    (hid : new.sleepId = row.sleepId) (hsubject : new.subjectId = row.subjectId)
    (hruns : (engineStep s.db call).runs = s.db.runs.replace new) :
    RunAt (sleepStep s (.engine call)) subjectId new where
  books := books_sleepStep h.books _
  one := by
    obtain ⟨_, hc⟩ := change_sleepStep s (.engine call)
    exact oneUnfinished_change h.one hc
  found := by
    change (engineStep s.db call).runs.find? new.sleepId = some new
    rw [hruns]
    exact Table.find?_replace_self (hid ▸ h.found)
  subject := hsubject.trans h.subject

/-- The last unfinished run of the subject is completed. -/
lemma RunAt.current_eq_none (h : RunAt s subjectId row) (hun : row.status.unfinished = true) {db' : SleepDb cfg.fl}
    {new : SleepRunRow cfg.fl} (hid : new.sleepId = row.sleepId) (hstatus : new.status = .complete)
    (hruns : db'.runs = s.db.runs.replace new) : db'.current subjectId = none := by
  obtain ⟨hmem, -⟩ := Table.find?_eq_some.mp h.found
  unfold SleepDb.current
  rw [List.find?_eq_none]
  intro r hr hmatch
  rw [Bool.and_eq_true, decide_eq_true_eq] at hmatch
  have hr' : r ∈ db'.runs := hr
  rw [hruns] at hr'
  rcases Table.mem_replace.mp hr' with ⟨rfl, -⟩ | ⟨hr', hne⟩
  · rw [hstatus] at hmatch
    exact absurd hmatch.2 (by decide)
  · have heq := h.one r hr' row hmem (hmatch.1.trans h.subject.symm) hmatch.2 hun
    exact hne (by rw [heq, hid])

lemma canWake_deepSleep (h : RunAt s subjectId row) (hstatus : row.status = .deepSleep)
    (hstate : s.db.lifecycle? subjectId = some .deepSleep) : CanWake s subjectId := by
  obtain ⟨y, hy⟩ := wakeEarly_succeeds h.books h.found h.subject hstatus hstate 0
  refine ⟨[.engine (.wakeEarly subjectId row.sleepId wakingReason wakingReason 0 false)], ?_, ?_⟩
  · intro a ha
    rw [List.mem_singleton.mp ha]
    rfl
  · have hstep : [SleepAction.engine (.wakeEarly subjectId row.sleepId wakingReason wakingReason 0 false)].foldl
        sleepStep s = { s with db := y } :=
      congrArg (fun db => SleepState.mk db s.owned) (attempt_ok hy)
    rw [hstep]
    rcases wakeEarly_ok hy with ⟨rfl, hdone⟩ | ⟨row', mid, moved, woken, hrow, -, hmid, hmoved, hwoken, hfinish⟩
    · rw [hdone row h.found] at hstatus
      cases hstatus
    · have heq : row' = row := Option.some.inj (hrow.symm.trans h.found)
      subst heq
      obtain ⟨-, _, -, -, rfl⟩ := transitionConnection_ok hmid
      obtain ⟨-, rfl⟩ := transitionRun_ok hmoved
      obtain ⟨-, _, -, -, rfl⟩ := transitionConnection_ok hwoken
      obtain ⟨_, _, _, hrestored, hrun⟩ := finishRun_ok hfinish
      obtain ⟨_, _, _, _, _, rfl⟩ := restoreFatigueConnection_ok hrestored
      obtain ⟨-, rfl⟩ := transitionRun_ok hrun
      refine ⟨?_, ?_⟩
      · refine (lifecycle?_replace hstate ?_ subjectId).trans (if_pos rfl)
        exact replace_replace s.db.runtimeStates rfl
      · have hid : ((row'.moved cfg .waking none none 0).moved cfg .complete none (some 0) 0).sleepId = row'.sleepId :=
            rfl
        exact h.current_eq_none (by rw [hstatus]; rfl) hid rfl (replace_replace s.db.runs rfl)

lemma canWake_reflected (h : RunAt s subjectId row) (hstatus : row.status = .reflectiveSleep)
    (hsome : row.reflectionEventId ≠ none) (hstate : s.db.lifecycle? subjectId = some .reflectiveSleep) :
    CanWake s subjectId := by
  obtain ⟨y, hy⟩ := enterDeepSleep_succeeds h.books h.found h.subject hstatus hsome hstate 0 0
  have hstep : engineStep s.db (.enterDeepSleep subjectId row.sleepId wakingReason 0 0 false) = y := attempt_ok hy
  rcases enterDeepSleep_ok hy with ⟨rfl, hdone⟩ | ⟨row', saved, snapshotId, mid, asleep, hrow, -, -, hsaved, hmid,
    hasleep, hrun⟩
  · rw [hdone row h.found] at hstatus
    cases hstatus
  · have heq : row' = row := Option.some.inj (hrow.symm.trans h.found)
    subst heq
    obtain ⟨_, _, -, rfl, -, -, rfl⟩ := saveCheckpoint_ok hsaved
    obtain ⟨-, _, -, -, rfl⟩ := transitionConnection_ok hmid
    obtain ⟨_, _, _, _, _, rfl⟩ := markFatigueSleeping_ok hasleep
    obtain ⟨-, rfl⟩ := transitionRun_ok hrun
    apply canWake_step (a := .engine (.enterDeepSleep subjectId row'.sleepId wakingReason 0 0 false)) rfl
    have hnext : RunAt (sleepStep s (.engine (.enterDeepSleep subjectId row'.sleepId wakingReason 0 0 false))) subjectId
        (row'.moved cfg .deepSleep (some s.db.nextId) none 0) := by
      refine h.next _ rfl rfl ?_
      rw [hstep]
      rfl
    apply canWake_deepSleep hnext rfl
    change (engineStep s.db _).lifecycle? subjectId = _
    rw [hstep]
    exact (lifecycle?_replace hstate rfl subjectId).trans (if_pos rfl)

lemma canWake_reflectiveSleep (h : RunAt s subjectId row) (hstatus : row.status = .reflectiveSleep)
    (hstate : s.db.lifecycle? subjectId = some .reflectiveSleep) : CanWake s subjectId := by
  by_cases hnone : row.reflectionEventId = none
  · obtain ⟨y, hy⟩ := commitReflection_succeeds h.books h.found hstatus hnone 0
    have hstep : engineStep s.db (.commitReflection subjectId row.sleepId quietPlan quietAnswers 0 false) = y :=
      attempt_ok hy
    have hbooked := (h.books.runs row (Table.find?_eq_some.mp h.found).1).reflection
    rw [ReflectionBooked, hnone] at hbooked
    obtain ⟨hvalid, ⟨-, hdone⟩ | ⟨row', table, mid, hrow, -, -, hplan, rfl⟩⟩ := commitReflection_ok hy
    · exact absurd hbooked hdone
    · have heq : row' = row := Option.some.inj (hrow.symm.trans h.found)
      subst heq
      obtain ⟨_, _, _, _, rfl, -⟩ := applyPlan_ok hvalid hplan
      apply canWake_step (a := .engine (.commitReflection subjectId row'.sleepId quietPlan quietAnswers 0 false)) rfl
      have hnext : RunAt (sleepStep s (.engine (.commitReflection subjectId row'.sleepId quietPlan quietAnswers 0
          false)))
          subjectId (row'.reflected cfg s.db.nextId 0) := by
        refine h.next _ rfl rfl ?_
        rw [hstep]
        rfl
      apply canWake_reflected hnext hstatus (by simp [SleepRunRow.reflected, SleepRunRow.hashed])
      change (engineStep s.db _).lifecycle? subjectId = _
      rw [hstep]
      exact hstate
  · exact canWake_reflected h hstatus hnone hstate

lemma canWake_windingDown (h : RunAt s subjectId row) (hstatus : row.status = .windingDown)
    (hstate : s.db.lifecycle? subjectId = some .windingDown) (hquiescent : s.db.quiescent subjectId = true) :
    CanWake s subjectId := by
  obtain ⟨y, hy⟩ := beginReflection_succeeds h.found hstatus hstate hquiescent 0
  have hstep : engineStep s.db (.beginReflection subjectId row.sleepId wakingReason 0 false) = y := attempt_ok hy
  rcases beginReflection_ok hy with ⟨rfl, hdone⟩ | ⟨row', mid, hrow, -, hmid, hrun⟩
  · rw [hdone row h.found] at hstatus
    cases hstatus
  · have heq : row' = row := Option.some.inj (hrow.symm.trans h.found)
    subst heq
    obtain ⟨-, _, -, -, rfl⟩ := transitionConnection_ok hmid
    obtain ⟨-, rfl⟩ := transitionRun_ok hrun
    apply canWake_step (a := .engine (.beginReflection subjectId row'.sleepId wakingReason 0 false)) rfl
    have hnext : RunAt (sleepStep s (.engine (.beginReflection subjectId row'.sleepId wakingReason 0 false))) subjectId
        (row'.moved cfg .reflectiveSleep none none 0) := by
      refine h.next _ rfl rfl ?_
      rw [hstep]
      rfl
    apply canWake_reflectiveSleep hnext rfl
    change (engineStep s.db _).lifecycle? subjectId = _
    rw [hstep]
    exact (lifecycle?_replace hstate rfl subjectId).trans (if_pos rfl)

/-- The lifecycle after a start of the runtime. -/
def bootState : LifecycleState → LifecycleState
  | .stopped => .booting
  | .active => .booting
  | .orienting => .booting
  | l => l

lemma boot_succeeds {state : LifecycleState} (hstate : s.db.lifecycle? subjectId = some state)
    (hreset : state ≠ .resetting) :
    (s.boot subjectId .absent).db.lifecycle? subjectId = some (bootState state) ∧
      subjectId ∈ (s.boot subjectId .absent).owned ∧ (s.boot subjectId .absent).db.runs = s.db.runs := by
  have hbooted : ∀ db', recoverLifecycle subjectId (recoverActions subjectId s.db) = .ok db' →
      s.boot subjectId .absent = ⟨db', subjectId :: (s.release subjectId).owned⟩ := by
    intro db' hdb'
    unfold SleepState.boot
    rw [if_neg (by decide)]
    simp only [hdb']
    rw [if_neg (by decide)]
  have hmember : subjectId ∈ subjectId :: (s.release subjectId).owned := List.mem_cons_self
  have hsame : (recoverActions subjectId s.db).lifecycle? subjectId = some state := hstate
  have hmoved : ((recoverActions subjectId s.db).setLifecycle subjectId .booting).lifecycle? subjectId =
      some .booting :=
    (lifecycle?_replace hsame rfl subjectId).trans (if_pos rfl)
  cases state with
  | resetting => exact absurd rfl hreset
  | stopped =>
    have hstart : strip "process start" ≠ "" := by decide
    have hsupervisor : strip "supervisor" ≠ "" := by decide
    have hrecovered := transitionConnection_eq hstart hsupervisor hsame
      (by decide : LifecycleState.booting ∈ LifecycleState.stopped.allowedTransitions)
    rw [hbooted _ (by rw [recoverLifecycle, hsame]; exact hrecovered)]
    exact ⟨hmoved, hmember, rfl⟩
  | active =>
    rw [hbooted _ (by rw [recoverLifecycle, hsame]; simp only [recoverForRestart, hsame, orRaise_some, ok_bind]; rfl)]
    exact ⟨hmoved, hmember, rfl⟩
  | orienting =>
    rw [hbooted _ (by rw [recoverLifecycle, hsame]; simp only [recoverForRestart, hsame, orRaise_some, ok_bind]; rfl)]
    exact ⟨hmoved, hmember, rfl⟩
  | booting =>
    rw [hbooted _ (by rw [recoverLifecycle, hsame])]
    exact ⟨hstate, hmember, rfl⟩
  | paused =>
    rw [hbooted _ (by rw [recoverLifecycle, hsame]; simp only [recoverForRestart, hsame, orRaise_some, ok_bind]; rfl)]
    exact ⟨hstate, hmember, rfl⟩
  | windingDown =>
    rw [hbooted _ (by rw [recoverLifecycle, hsame]; simp only [recoverForRestart, hsame, orRaise_some, ok_bind]; rfl)]
    exact ⟨hstate, hmember, rfl⟩
  | reflectiveSleep =>
    rw [hbooted _ (by rw [recoverLifecycle, hsame]; simp only [recoverForRestart, hsame, orRaise_some, ok_bind]; rfl)]
    exact ⟨hstate, hmember, rfl⟩
  | deepSleep =>
    rw [hbooted _ (by rw [recoverLifecycle, hsame]; simp only [recoverForRestart, hsame, orRaise_some, ok_bind]; rfl)]
    exact ⟨hstate, hmember, rfl⟩
  | waking =>
    rw [hbooted _ (by rw [recoverLifecycle, hsame]; simp only [recoverForRestart, hsame, orRaise_some, ok_bind]; rfl)]
    exact ⟨hstate, hmember, rfl⟩

/-- A run that is waking is completed after a start of the runtime, whatever became of the lifecycle. -/
lemma canWake_waking (h : RunAt s subjectId row) (hstatus : row.status = .waking) {state : LifecycleState}
    (hstate : s.db.lifecycle? subjectId = some state) (hreset : state ≠ .resetting)
    (hsleeping : state.sleeping = true → state = .waking) : CanWake s subjectId := by
  obtain ⟨hlife, -, hruns⟩ := boot_succeeds hstate hreset
  have hat : RunAt (sleepStep s (.boot subjectId .absent)) subjectId row := by
    refine ⟨books_sleepStep h.books _, ?_, ?_, h.subject⟩
    · obtain ⟨_, hc⟩ := change_sleepStep s (.boot subjectId .absent)
      exact oneUnfinished_change h.one hc
    · change (s.boot subjectId .absent).db.runs.find? row.sleepId = some row
      rw [hruns]
      exact h.found
  have hallowed : LifecycleState.active ∈ (bootState state).allowedTransitions := by
    cases state <;> simp_all [bootState, LifecycleState.allowedTransitions, LifecycleState.sleeping]
  obtain ⟨y, hy⟩ := completeWake_succeeds hat.books hat.found hat.subject hstatus hlife hallowed 0
  refine ⟨[.boot subjectId .absent, .engine (.completeWake subjectId row.sleepId wakingReason 0 false)], ?_, ?_⟩
  · intro a ha
    rcases List.mem_cons.mp ha with rfl | ha
    · rfl
    · rw [List.mem_singleton.mp ha]
      rfl
  · have hstep : [SleepAction.boot subjectId .absent,
        .engine (.completeWake subjectId row.sleepId wakingReason 0 false)].foldl sleepStep s =
          { sleepStep s (.boot subjectId .absent) with db := y } :=
      congrArg (fun db => SleepState.mk db (s.boot subjectId .absent).owned) (attempt_ok hy)
    rw [hstep]
    rcases completeWake_ok hy with ⟨rfl, hdone⟩ | ⟨row', mid, hrow, -, hmid, hfinish⟩
    · rw [hdone row hat.found] at hstatus
      cases hstatus
    · have heq : row' = row := Option.some.inj (hrow.symm.trans hat.found)
      subst heq
      obtain ⟨-, _, -, -, rfl⟩ := transitionConnection_ok hmid
      obtain ⟨_, _, _, hrestored, hrun⟩ := finishRun_ok hfinish
      obtain ⟨_, _, _, _, _, rfl⟩ := restoreFatigueConnection_ok hrestored
      obtain ⟨-, rfl⟩ := transitionRun_ok hrun
      refine ⟨?_, ?_⟩
      · exact (lifecycle?_replace hlife rfl subjectId).trans (if_pos rfl)
      · have hid : (row'.moved cfg .complete none (some 0) 0).sleepId = row'.sleepId := rfl
        exact hat.current_eq_none (by rw [hstatus]; rfl) hid rfl rfl

/-- Without an unfinished run the runtime is started and activated. -/
lemma canWake_finished {state : LifecycleState}
    (hcurrent : s.db.current subjectId = none) (hstate : s.db.lifecycle? subjectId = some state)
    (hreset : state ≠ .resetting) (hsleeping : state.sleeping = false) : CanWake s subjectId := by
  obtain ⟨hlife, howned, hruns⟩ := boot_succeeds hstate hreset
  have hallowed : LifecycleState.active ∈ (bootState state).allowedTransitions := by
    cases state <;> simp_all [bootState, LifecycleState.allowedTransitions, LifecycleState.sleeping]
  have hready : strip "runtime ready" ≠ "" := by decide
  have hsupervisor : strip "supervisor" ≠ "" := by decide
  have htransition := transitionConnection_eq hready hsupervisor hlife hallowed
  refine ⟨[.boot subjectId .absent, .activate subjectId .absent], ?_, ?_⟩
  · intro a ha
    rcases List.mem_cons.mp ha with rfl | ha
    · rfl
    · rw [List.mem_singleton.mp ha]
      rfl
  · have hstep : ([SleepAction.boot subjectId .absent, .activate subjectId .absent].foldl sleepStep s).db =
        (((s.boot subjectId .absent).db.setLifecycle subjectId .active).appendEvent subjectId
          .lifecycleTransition) := by
      change ((s.boot subjectId .absent).transition subjectId .active "runtime ready" "supervisor" .absent).db = _
      unfold SleepState.transition
      rw [if_neg (by simp [howned]), htransition]
      rfl
    rw [hstep]
    refine ⟨?_, ?_⟩
    · exact (lifecycle?_replace hlife rfl subjectId).trans (if_pos rfl)
    · change (s.boot subjectId .absent).db.current subjectId = none
      rw [SleepDb.current, hruns]
      exact hcurrent

/-- What runs of restful steps keep. -/
structure Tied (s : SleepState cfg.fl) : Prop where
  one : OneUnfinished s.db
  asleep : Asleep s.db
  awaited : Awaited s.db
  settled : Settled s.db
  reset : ∀ i, s.db.lifecycle? i ≠ some .resetting

lemma tied_initial {s : SleepState cfg.fl} (h : s.Initial) : Tied s := by
  have hnone : ∀ r, r ∉ s.db.runs := by
    intro r hr
    rw [Table.mem_def, h.runs] at hr
    cases hr
  have hstopped : ∀ i state, s.db.lifecycle? i = some state → state = .stopped := by
    intro i state hi
    obtain ⟨r, hr, rfl⟩ := Option.map_eq_some_iff.mp hi
    exact h.stopped r (Table.find?_eq_some.mp hr).1
  refine ⟨fun r hr => absurd hr (hnone r), ?_, fun r hr => absurd hr (hnone r), ?_, ?_⟩
  · intro i state hi hs
    rw [hstopped i state hi] at hs
    cases hs
  · intro i hi
    have := hstopped i _ hi
    cases this
  · intro i hi
    have := hstopped i _ hi
    cases this

lemma tied_step {s : SleepState cfg.fl} {a : SleepAction cfg} (h : Tied s) (ha : restful s a = true) :
    Tied (sleepStep s a) := by
  obtain ⟨subjectId, hc⟩ := change_sleepStep s a
  exact ⟨oneUnfinished_change h.one hc, asleep_change ha h.asleep hc, awaited_change ha h.one h.awaited hc,
    settled_change ha h.settled hc, lifecycle?_ne_resetting_change h.reset hc⟩

lemma canWake_of_tied (hbooks : Books cfg s.db) (h : Tied s) {state : LifecycleState}
    (hstate : s.db.lifecycle? subjectId = some state) : CanWake s subjectId := by
  have hreset : state ≠ .resetting := fun heq => h.reset subjectId (heq ▸ hstate)
  cases hcurrent : s.db.current subjectId with
  | none =>
    refine canWake_finished hcurrent hstate hreset ?_
    by_contra hsleeping
    rw [Bool.not_eq_false] at hsleeping
    obtain ⟨r, hr, hsub, hst⟩ := h.asleep subjectId state hstate hsleeping
    have := unfinished_of_current hcurrent hr hsub
    rw [(unfinished_of_lifecycle? hst).1] at this
    cases this
  | some row =>
    have hmem : row ∈ s.db.runs := List.mem_of_find?_eq_some hcurrent
    have hmatch := List.find?_some hcurrent
    rw [Bool.and_eq_true, decide_eq_true_eq] at hmatch
    have hat : RunAt s subjectId row := ⟨hbooks, h.one, Table.find?_key hmem, hmatch.1⟩
    have hawaited := h.awaited row hmem
    rw [hmatch.1] at hawaited
    cases hst : row.status with
    | windingDown =>
      have hdown : s.db.lifecycle? subjectId = some .windingDown := by
        rw [hawaited (by rw [hst]; rfl), hst]
        rfl
      exact canWake_windingDown hat hst hdown (h.settled subjectId hdown)
    | reflectiveSleep => exact canWake_reflectiveSleep hat hst (by rw [hawaited (by rw [hst]; rfl), hst]; rfl)
    | deepSleep => exact canWake_deepSleep hat hst (by rw [hawaited (by rw [hst]; rfl), hst]; rfl)
    | waking =>
      refine canWake_waking hat hst hstate hreset ?_
      intro hsleeping
      -- a sleeping lifecycle has the status of the one unfinished run
      obtain ⟨r, hr, hsub, hlife⟩ := h.asleep subjectId state hstate hsleeping
      have heq := h.one r hr row hmem (hsub.trans hmatch.1.symm) (unfinished_of_lifecycle? hlife).1 hmatch.2
      rw [heq, hst] at hlife
      exact (Option.some.inj hlife).symm
    | complete =>
      rw [hst] at hmatch
      exact absurd hmatch.2 (by decide)
    | failed =>
      rw [hst] at hmatch
      exact absurd hmatch.2 (by decide)

end Noyra.Sleep.Proofs
