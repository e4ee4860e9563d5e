import Noyra.Proofs.SleepBooks

/-!
# Sleep and the lifecycle

A call changes the lifecycle of one subject and at most one run. From the list of these changes it follows that
a subject has one unfinished run, that a sleeping lifecycle agrees with it and, as long as no runtime is stopped
while its run has not woken, that the run can be brought to its end.
-/

namespace Noyra.Sleep.Proofs
open Noyra.Lib

variable {fl : Floats} {cfg : SleepConfig}

/-! ### Changes -/

/-- The actions of a subject that winds down stay settled. -/
def Quiet (db db' : SleepDb fl) : Prop :=
  ∀ i, db.lifecycle? i = some .windingDown → db.quiescent i = true → db'.quiescent i = true

lemma quiet_of_eq {own : Prop} {db db' : SleepDb fl} (h : db'.actions = db.actions) : own → Quiet db db' := by
  intro _ i _ hq
  rw [SleepDb.quiescent, h]
  exact hq

/-- What a call does to the lifecycles and the runs. Under `restful` the call keeps to the runs of its subject and
leaves no run behind asleep. -/
inductive Change (restful : Prop) (subjectId : Nat) (db db' : SleepDb fl) : Prop
  | unchanged (hlife : db'.runtimeStates = db.runtimeStates) (hruns : db'.runs = db.runs)
      (hquiet : restful → Quiet db db')
  | shifted (state target : LifecycleState) (hstate : db.lifecycle? subjectId = some state)
      (hawake : target.sleeping = false) (hreset : target ≠ .resetting)
      (hrestful : restful → state.sleeping = true → state = .waking)
      (hlife : db'.runtimeStates = db.runtimeStates.replace ⟨subjectId, target⟩) (hruns : db'.runs = db.runs)
      (hquiet : restful → Quiet db db')
  | opened (row : SleepRunRow fl) (hstate : db.lifecycle? subjectId = some .active)
      (hcurrent : db.current subjectId = none) (hsubject : row.subjectId = subjectId)
        (hstatus : row.status = .windingDown)
      (hlife : db'.runtimeStates = db.runtimeStates.replace ⟨subjectId, .windingDown⟩)
      (hruns : db.runs.insert? row = some db'.runs) (hquiescent : db.quiescent subjectId = true)
      (hactions : db'.actions = db.actions)
  | reflected (row new : SleepRunRow fl) (hrow : db.runs.find? new.sleepId = some row)
      (hsubject : new.subjectId = row.subjectId) (hstatus : new.status = row.status)
      (hlife : db'.runtimeStates = db.runtimeStates) (hruns : db'.runs = db.runs.replace new)
      (hactions : db'.actions = db.actions)
  | advanced (row new : SleepRunRow fl) (state target : LifecycleState) (hrow : db.runs.find? new.sleepId = some row)
      (hsubject : new.subjectId = row.subjectId) (hrestful : restful → row.subjectId = subjectId)
      (hstate : db.lifecycle? subjectId = some state) (hasleep : row.status.asleep = true)
      (hfrom : row.status.lifecycle? = some state) (hto : new.status.lifecycle? = some target)
      (hdown : target ≠ .windingDown) (hlife : db'.runtimeStates = db.runtimeStates.replace ⟨subjectId, target⟩)
      (hruns : db'.runs = db.runs.replace new) (hactions : db'.actions = db.actions)
  | finished (row new : SleepRunRow fl) (state : LifecycleState) (hrow : db.runs.find? new.sleepId = some row)
      (hsubject : new.subjectId = row.subjectId) (hrestful : restful → row.subjectId = subjectId)
      (hstate : db.lifecycle? subjectId = some state) (hunfinished : row.status.unfinished = true)
      (hfrom : row.status.asleep = true → row.status.lifecycle? = some state)
      (hpath : state.sleeping = true → row.status.lifecycle? = some state) (hstatus : new.status = .complete)
      (hlife : db'.runtimeStates = db.runtimeStates.replace ⟨subjectId, .active⟩)
        (hruns : db'.runs = db.runs.replace new)
      (hactions : db'.actions = db.actions)

/-- The call keeps to the runs of its subject. -/
def ownRun (db : SleepDb fl) (subjectId sleepId : Nat) : Bool :=
  (db.runs.find? sleepId).all (fun r => r.subjectId = subjectId)

/-- The actions leave nothing pending for a subject that winds down: `prepare` refuses while the lifecycle sleeps. -/
def settled (db : SleepDb fl) (actions : Table ActionRow.actionId) : Bool :=
  db.runtimeStates.rows.all (fun r => r.state ≠ .windingDown || { db with actions := actions }.quiescent r.subjectId)

/-- A step that does not stop a runtime whose run is asleep, keeps to the runs of its subject, and prepares no
action while the lifecycle winds down. -/
def restful (s : SleepState cfg.fl) : SleepAction cfg → Bool
  | .stop subjectId _ fault => subjectId ∉ s.owned || fault = .before ||
      (s.db.lifecycle? subjectId).all (fun l => !l.sleeping || l = .waking)
  | .engine (.beginReflection subjectId sleepId _ _ _) => ownRun s.db subjectId sleepId
  | .engine (.enterDeepSleep subjectId sleepId _ _ _ _) => ownRun s.db subjectId sleepId
  | .engine (.wake subjectId sleepId _ _ _ _) => ownRun s.db subjectId sleepId
  | .engine (.completeWake subjectId sleepId _ _ _) => ownRun s.db subjectId sleepId
  | .engine (.wakeEarly subjectId sleepId _ _ _ _) => ownRun s.db subjectId sleepId
  | .engine (.writeActions actions) => settled s.db actions
  | _ => true

lemma ownRun_eq {db : SleepDb fl} {subjectId sleepId : Nat} {row : SleepRunRow fl}
    (h : ownRun db subjectId sleepId = true)
    (hrow : db.runs.find? sleepId = some row) : row.subjectId = subjectId := by
  rw [ownRun, hrow, Option.all_some, decide_eq_true_eq] at h
  exact h

/-- The only ways into the states of sleep. -/
lemma quiescent_of_settled {db : SleepDb fl} {actions : Table ActionRow.actionId} (h : settled db actions = true)
    {i : Nat} (hi : db.lifecycle? i = some .windingDown) : { db with actions := actions }.quiescent i = true := by
  obtain ⟨r, hr, hstate⟩ := Option.map_eq_some_iff.mp hi
  obtain ⟨hmem, rfl⟩ := Table.find?_eq_some.mp hr
  have hall := List.all_eq_true.mp h r hmem
  simpa [hstate] using hall

lemma quiescent_recoverActions {db : SleepDb fl} {subjectId : Nat} {i : Nat} (h : db.quiescent i = true) :
    (recoverActions subjectId db).quiescent i = true := by
  unfold SleepDb.quiescent at h ⊢
  rw [List.all_eq_true] at h ⊢
  intro a ha
  obtain ⟨b, hb, rfl⟩ : ∃ b ∈ db.actions.rows, b.quarantine subjectId = a := List.mem_map.mp ha
  unfold ActionRow.quarantine
  split
  · simp
  · exact h b hb

lemma of_mem_allowedTransitions {state target : LifecycleState} (h : target ∈ state.allowedTransitions) :
    (target = .reflectiveSleep → state = .windingDown) ∧ (target = .deepSleep → state = .reflectiveSleep) ∧
      (target = .waking → state = .deepSleep) ∧
      (target = .active → state.sleeping = true → state = .waking) ∧
      (target = .orienting ∨ target = .paused ∨ target = .booting → state.sleeping = false) := by
  cases state <;> cases target <;> simp_all [LifecycleState.allowedTransitions, LifecycleState.sleeping]

section Calls

variable {subjectId sleepId : Nat} {db db' : SleepDb cfg.fl}

/-- A run that takes a transition together with the lifecycle. -/
lemma change_moved {row : SleepRunRow cfg.fl} {state target : LifecycleState} {toStatus : RunStatus}
    {checkpointId completedAt : Option Nat} {now : Nat} (hrow : db.runs.find? sleepId = some row)
    (hstate : db.lifecycle? subjectId = some state) (hasleep : row.status.asleep = true)
    (hfrom : row.status.lifecycle? = some state) (hto : toStatus.lifecycle? = some target)
    (hdown : target ≠ .windingDown) (hlife : db'.runtimeStates = db.runtimeStates.replace ⟨subjectId, target⟩)
    (hruns : db'.runs = db.runs.replace (row.moved cfg toStatus checkpointId completedAt now))
    (hactions : db'.actions = db.actions) :
    Change (ownRun db subjectId sleepId = true) subjectId db db' := by
  have hid := (Table.find?_eq_some.mp hrow).2
  refine .advanced row (row.moved cfg toStatus checkpointId completedAt now) state target ?_ rfl ?_ hstate hasleep
    hfrom hto
    hdown hlife hruns hactions
  · exact hid ▸ hrow
  · exact fun hown => ownRun_eq hown hrow

lemma change_beginReflection {reason : String} {now : Nat}
    (h : beginReflection cfg subjectId sleepId reason now db = .ok db') :
    Change (ownRun db subjectId sleepId = true) subjectId db db' := by
  rcases beginReflection_ok h with ⟨rfl, -⟩ | ⟨row, mid, hrow, hstatus, hmid, hrun⟩
  · exact .unchanged rfl rfl (quiet_of_eq rfl)
  · obtain ⟨-, state, hstate, hallowed, rfl⟩ := transitionConnection_ok hmid
    obtain ⟨-, rfl⟩ := transitionRun_ok hrun
    have heq := (of_mem_allowedTransitions hallowed).1 rfl
    subst heq
    exact change_moved hrow hstate (by simp [hstatus, RunStatus.asleep]) (by rw [hstatus]; rfl) rfl (by decide) rfl rfl
      rfl

lemma change_enterDeepSleep {reason : String} {bytes now : Nat}
    (h : enterDeepSleep cfg subjectId sleepId reason bytes now db = .ok db') :
    Change (ownRun db subjectId sleepId = true) subjectId db db' := by
  rcases enterDeepSleep_ok h with ⟨rfl, -⟩ | ⟨row, saved, snapshotId, mid, asleep, hrow, hstatus, -, hsaved, hmid,
    hasleep, hrun⟩
  · exact .unchanged rfl rfl (quiet_of_eq rfl)
  · obtain ⟨identity, table, -, rfl, -, -, rfl⟩ := saveCheckpoint_ok hsaved
    obtain ⟨-, state, hstate, hallowed, rfl⟩ := transitionConnection_ok hmid
    obtain ⟨_, _, _, _, _, rfl⟩ := markFatigueSleeping_ok hasleep
    obtain ⟨-, rfl⟩ := transitionRun_ok hrun
    have heq := (of_mem_allowedTransitions hallowed).2.1 rfl
    subst heq
    exact change_moved hrow hstate (by simp [hstatus, RunStatus.asleep]) (by rw [hstatus]; rfl) rfl (by decide) rfl rfl
      rfl

lemma change_wake {reason : String} {force : Bool} {now : Nat}
    (h : wake cfg subjectId sleepId reason force now db = .ok db') :
    Change (ownRun db subjectId sleepId = true) subjectId db db' := by
  rcases wake_ok h with rfl | ⟨row, mid, hrow, hstatus, hmid, hrun⟩
  · exact .unchanged rfl rfl (quiet_of_eq rfl)
  · obtain ⟨-, state, hstate, hallowed, rfl⟩ := transitionConnection_ok hmid
    obtain ⟨-, rfl⟩ := transitionRun_ok hrun
    have heq := (of_mem_allowedTransitions hallowed).2.2.1 rfl
    subst heq
    exact change_moved hrow hstate (by simp [hstatus, RunStatus.asleep]) (by rw [hstatus]; rfl) rfl (by decide) rfl rfl
      rfl

lemma change_completeWake {reason : String} {now : Nat}
    (h : completeWake cfg subjectId sleepId reason now db = .ok db') :
    Change (ownRun db subjectId sleepId = true) subjectId db db' := by
  rcases completeWake_ok h with ⟨rfl, -⟩ | ⟨row, mid, hrow, hstatus, hmid, hfinish⟩
  · exact .unchanged rfl rfl (quiet_of_eq rfl)
  · obtain ⟨-, state, hstate, hallowed, rfl⟩ := transitionConnection_ok hmid
    obtain ⟨_, _, restored, hrestored, hrun⟩ := finishRun_ok hfinish
    obtain ⟨_, _, _, _, _, rfl⟩ := restoreFatigueConnection_ok hrestored
    obtain ⟨-, rfl⟩ := transitionRun_ok hrun
    have hid := (Table.find?_eq_some.mp hrow).2
    refine .finished row (row.moved cfg .complete none (some now) now) state (hid ▸ hrow) rfl
      (fun hown => ownRun_eq hown hrow) hstate (by simp [hstatus, RunStatus.unfinished])
      (by simp [hstatus, RunStatus.asleep]) ?_ rfl rfl rfl rfl
    intro hsleeping
    rw [hstatus, (of_mem_allowedTransitions hallowed).2.2.2.1 rfl hsleeping]
    rfl

lemma replace_replace {κ ρ : Type} [DecidableEq κ] {key : ρ → κ} (t : Table key) {a b : ρ} (h : key a = key b) :
    (t.replace a).replace b = t.replace b := by
  unfold Table.replace
  congr 1
  rw [List.map_map]
  apply List.map_congr_left
  intro x _
  by_cases hx : key x = key b
  · simp [h, hx]
  · simp [h, hx]

lemma change_wakeEarly {reason actor : String} {now : Nat}
    (h : wakeEarly cfg subjectId sleepId reason actor now db = .ok db') :
    Change (ownRun db subjectId sleepId = true) subjectId db db' := by
  rcases wakeEarly_ok h with ⟨rfl, -⟩ | ⟨row, mid, moved, woken, hrow, hstatus, hmid, hmoved, hwoken, hfinish⟩
  · exact .unchanged rfl rfl (quiet_of_eq rfl)
  · obtain ⟨-, state, hstate, hallowed, rfl⟩ := transitionConnection_ok hmid
    obtain ⟨-, rfl⟩ := transitionRun_ok hmoved
    obtain ⟨-, _, -, -, rfl⟩ := transitionConnection_ok hwoken
    obtain ⟨_, _, restored, hrestored, hrun⟩ := finishRun_ok hfinish
    obtain ⟨_, _, _, _, _, rfl⟩ := restoreFatigueConnection_ok hrestored
    obtain ⟨-, rfl⟩ := transitionRun_ok hrun
    have hid := (Table.find?_eq_some.mp hrow).2
    have heq := (of_mem_allowedTransitions hallowed).2.2.1 rfl
    subst heq
    refine .finished row ((row.moved cfg .waking none none now).moved cfg .complete none (some now) now) .deepSleep
      (hid ▸ hrow) rfl (fun hown => ownRun_eq hown hrow) hstate (by simp [hstatus, RunStatus.unfinished])
      (fun _ => by rw [hstatus]; rfl) (fun _ => by rw [hstatus]; rfl) rfl ?_ ?_ rfl
    · exact replace_replace db.runtimeStates rfl
    · exact replace_replace db.runs rfl

lemma change_commitReflection {answers : PlanAnswers} {plan : SleepReflectionPlan cfg.fl} {now : Nat} {own : Prop}
    (h : commitReflection cfg answers subjectId sleepId plan now db = .ok db') : Change own subjectId db db' := by
  obtain ⟨hvalid, ⟨rfl, -⟩ | ⟨row, table, mid, hrow, -, -, hplan, rfl⟩⟩ := commitReflection_ok h
  · exact .unchanged rfl rfl (quiet_of_eq rfl)
  · obtain ⟨_, _, _, _, rfl, -⟩ := applyPlan_ok hvalid hplan
    have hid := (Table.find?_eq_some.mp hrow).2
    exact .reflected row (row.reflected cfg db.nextId now) (hid ▸ hrow) rfl rfl rfl rfl rfl

lemma change_startStep {q : StartRequest} {fault : Bool} {own : Prop} :
    Change own subjectId db (startStep subjectId q fault db) := by
  unfold startStep
  split
  · exact .unchanged rfl rfl (quiet_of_eq rfl)
  · next ensured row wake hchecks =>
    have hsame : ensured.runtimeStates = db.runtimeStates ∧ ensured.runs = db.runs ∧ ensured.actions = db.actions := by
      obtain ⟨-, ⟨-, rfl⟩ | ⟨_, _, _, rfl⟩⟩ := startChecks_ok hchecks
      · exact ⟨rfl, rfl, rfl⟩
      · exact ⟨rfl, rfl, rfl⟩
    unfold attempt settle
    split
    · exact .unchanged hsame.1 hsame.2.1 (quiet_of_eq hsame.2.2)
    · split
      · next hok =>
        rcases startRun_ok hok with rfl | ⟨mid, table, hcurrent, hquiescent, hactive, hmid, hinsert, rfl⟩
        · exact .unchanged hsame.1 hsame.2.1 (quiet_of_eq hsame.2.2)
        · obtain ⟨-, _, -, -, rfl⟩ := transitionConnection_ok hmid
          rw [SleepDb.lifecycle?, hsame.1] at hactive
          rw [SleepDb.current, hsame.2.1] at hcurrent
          rw [SleepDb.quiescent, hsame.2.2] at hquiescent
          refine .opened (openedRun cfg subjectId q row wake (ensured.nextId + 1)) hactive hcurrent rfl rfl ?_ ?_
            hquiescent hsame.2.2
          · exact congrArg (fun t => Table.replace t ⟨subjectId, .windingDown⟩) hsame.1
          · exact hsame.2.1 ▸ hinsert
      · exact .unchanged hsame.1 hsame.2.1 (quiet_of_eq hsame.2.2)

lemma compactLoop_frame {keepRecent batchSize batchBytes : Nat} {maxRows maxBytes : Option Nat} (turns : Nat) :
    ∀ (archived consumed : Nat) (cursor : Option Nat) (db : SleepDb cfg.fl),
      (compactLoop subjectId keepRecent batchSize batchBytes maxRows maxBytes turns archived consumed cursor
        db).1.runtimeStates = db.runtimeStates ∧
      (compactLoop subjectId keepRecent batchSize batchBytes maxRows maxBytes turns archived consumed cursor
        db).1.runs = db.runs ∧
      (compactLoop subjectId keepRecent batchSize batchBytes maxRows maxBytes turns archived consumed cursor
        db).1.actions = db.actions := by
  induction turns with
  | zero => exact fun _ _ _ _ => ⟨rfl, rfl, rfl⟩
  | succ turns ih =>
    intro archived consumed cursor db
    unfold compactLoop
    simp only
    split
    · exact ⟨rfl, rfl, rfl⟩
    · split
      · exact ⟨rfl, rfl, rfl⟩
      · split
        · exact ⟨rfl, rfl, rfl⟩
        · next hok =>
          unfold publishCompactionBatch at hok
          obtain ⟨_, -, hok⟩ := bind_eq_ok.mp hok
          cases hok
          exact ih _ _ _ _

lemma fatigueRow_frame {row : FatigueRow cfg.fl} (h : fatigueRow cfg subjectId db = .ok (db', row)) :
    ∃ t, db' = { db with fatigue := t } := by
  unfold fatigueRow at h
  split at h
  · cases h
    exact ⟨db.fatigue, rfl⟩
  · obtain ⟨t, -, h⟩ := bind_eq_ok.mp h
    cases h
    exact ⟨t, rfl⟩

lemma change_assess {inputs : FatigueInputs cfg.fl} {reason : String} {exhausted : Bool} {own : Prop}
    (h : assess cfg subjectId inputs reason exhausted db = .ok db') : Change own subjectId db db' := by
  unfold assess at h
  obtain ⟨_, -, h⟩ := bind_eq_ok.mp h
  obtain ⟨_, -, h⟩ := bind_eq_ok.mp h
  obtain ⟨⟨mid, row⟩, hmid, h⟩ := bind_eq_ok.mp h
  obtain ⟨written, hwrite, h⟩ := bind_eq_ok.mp h
  obtain ⟨_, -, h⟩ := bind_eq_ok.mp h
  cases h
  obtain ⟨-, -, rfl⟩ := writeFatigue_ok hwrite
  obtain ⟨_, rfl⟩ := fatigueRow_frame hmid
  exact .unchanged rfl rfl (quiet_of_eq rfl)

lemma change_restoreAfterSleep {hours : cfg.fl.F} {reason : String} {own : Prop}
    (h : restoreAfterSleep cfg subjectId hours reason db = .ok db') : Change own subjectId db db' := by
  unfold restoreAfterSleep at h
  obtain ⟨_, -, h⟩ := bind_eq_ok.mp h
  obtain ⟨⟨mid, row⟩, hmid, h⟩ := bind_eq_ok.mp h
  obtain ⟨written, hwrite, h⟩ := bind_eq_ok.mp h
  obtain ⟨_, -, h⟩ := bind_eq_ok.mp h
  cases h
  obtain ⟨-, -, rfl⟩ := writeFatigue_ok hwrite
  obtain ⟨_, rfl⟩ := fatigueRow_frame hmid
  exact .unchanged rfl rfl (quiet_of_eq rfl)

lemma change_releaseRetryBlock {blockId evidenceEventId now : Nat} {own : Prop}
    (h : releaseRetryBlock cfg subjectId blockId evidenceEventId now db = .ok db') : Change own subjectId db db' := by
  unfold releaseRetryBlock at h
  obtain ⟨_, -, h⟩ := bind_eq_ok.mp h
  obtain ⟨_, -, h⟩ := bind_eq_ok.mp h
  obtain ⟨_, -, h⟩ := bind_eq_ok.mp h
  split at h
  · cases h
    exact .unchanged rfl rfl (quiet_of_eq rfl)
  · obtain ⟨_, -, h⟩ := bind_eq_ok.mp h
    cases h
    exact .unchanged rfl rfl (quiet_of_eq rfl)

lemma change_attempt {fault : Bool} {r : Except SleepError (SleepDb cfg.fl)} {own : Prop}
    (h : ∀ y, r = .ok y → Change own subjectId db y) : Change own subjectId db (attempt fault db r) := by
  unfold attempt settle
  split
  · exact .unchanged rfl rfl (quiet_of_eq rfl)
  · split
    · exact h _ rfl
    · exact .unchanged rfl rfl (quiet_of_eq rfl)

end Calls

lemma change_engineStep {s : SleepState cfg.fl} (call : EngineCall cfg) :
    ∃ subjectId, Change (restful s (.engine call) = true) subjectId s.db (engineStep s.db call) := by
  cases call with
  | start subjectId q fault => exact ⟨subjectId, change_startStep⟩
  | beginReflection subjectId sleepId reason now fault =>
    exact ⟨subjectId, change_attempt (fun _ => change_beginReflection)⟩
  | commitReflection subjectId sleepId plan answers now fault =>
    exact ⟨subjectId, change_attempt (fun _ => change_commitReflection)⟩
  | enterDeepSleep subjectId sleepId reason bytes now fault =>
    exact ⟨subjectId, change_attempt (fun _ => change_enterDeepSleep)⟩
  | wake subjectId sleepId reason force now fault => exact ⟨subjectId, change_attempt (fun _ => change_wake)⟩
  | completeWake subjectId sleepId reason now fault => exact ⟨subjectId, change_attempt (fun _ => change_completeWake)⟩
  | wakeEarly subjectId sleepId reason actor now fault => exact ⟨subjectId, change_attempt (fun _ => change_wakeEarly)⟩
  | assess subjectId inputs reason exhausted fault => exact ⟨subjectId, change_attempt (fun _ => change_assess)⟩
  | restoreAfterSleep subjectId hours reason fault =>
    exact ⟨subjectId, change_attempt (fun _ => change_restoreAfterSleep)⟩
  | releaseRetryBlock subjectId blockId evidenceEventId now fault =>
    exact ⟨subjectId, change_attempt (fun _ => change_releaseRetryBlock)⟩
  | compact subjectId q =>
    have hframe : (compact subjectId q s.db).1.runtimeStates = s.db.runtimeStates ∧
        (compact subjectId q s.db).1.runs = s.db.runs ∧ (compact subjectId q s.db).1.actions = s.db.actions :=
      compactLoop_frame _ _ _ _ s.db
    exact ⟨subjectId, .unchanged hframe.1 hframe.2.1 (quiet_of_eq hframe.2.2)⟩
  | recordEvent subjectId => exact ⟨subjectId, .unchanged rfl rfl (quiet_of_eq rfl)⟩
  | writeActions actions => exact ⟨0, .unchanged rfl rfl (fun hrest i hi _ => quiescent_of_settled hrest hi)⟩
  | writeSources sources withdrawn => exact ⟨0, .unchanged rfl rfl (quiet_of_eq rfl)⟩

/-- A transition by the kernel leads out of sleep, and from a run that is asleep only to a stop. -/
lemma change_transition {s : SleepState cfg.fl} {subjectId : Nat} {target : LifecycleState} {reason actor : String}
    {fault : Fault} {own : Prop} (hawake : target.sleeping = false) (hreset : target ≠ .resetting)
    (hown : own → subjectId ∈ s.owned → fault ≠ .before → ∀ state, s.db.lifecycle? subjectId = some state →
      target ∈ state.allowedTransitions → state.sleeping = true → state = .waking) :
    Change own subjectId s.db (s.transition subjectId target reason actor fault).db := by
  unfold SleepState.transition settle
  split
  · exact .unchanged rfl rfl (quiet_of_eq rfl)
  · next heffect =>
    rw [not_or, not_not] at heffect
    split
    · next hok =>
      obtain ⟨-, state, hstate, hallowed, rfl⟩ := transitionConnection_ok hok
      exact .shifted state target hstate hawake hreset
        (fun ho hs => hown ho heffect.1 heffect.2 state hstate hallowed hs) rfl rfl (quiet_of_eq rfl)
    · exact .unchanged rfl rfl (quiet_of_eq rfl)

lemma change_boot {s : SleepState cfg.fl} {subjectId : Nat} {fault : Fault} {own : Prop} :
    Change own subjectId s.db (s.boot subjectId fault).db := by
  have hrecovered : ∀ y, recoverLifecycle subjectId (recoverActions subjectId s.db) = .ok y →
      Change own subjectId s.db y := by
    intro y hy
    have hquiet : ∀ z : SleepDb cfg.fl, z.actions = (recoverActions subjectId s.db).actions → own → Quiet s.db z := by
      intro z hz _ i _ hq
      rw [SleepDb.quiescent, hz]
      exact quiescent_recoverActions hq
    unfold recoverLifecycle at hy
    split at hy
    · cases hy
    · cases hy
      exact .unchanged rfl rfl (hquiet _ rfl)
    · next hstopped =>
      obtain ⟨-, state, hstate, -, rfl⟩ := transitionConnection_ok hy
      have heq : state = .stopped := Option.some.inj (hstate.symm.trans hstopped)
      subst heq
      exact .shifted .stopped .booting hstopped rfl (by decide) (fun _ h => by cases h) rfl rfl (hquiet _ rfl)
    · unfold recoverForRestart at hy
      obtain ⟨state, hstate, hy⟩ := bind_eq_ok.mp hy
      have hsome := orRaise_eq_ok.mp hstate
      cases state with
      | booting => cases hy; exact .unchanged rfl rfl (hquiet _ rfl)
      | stopped => cases hy
      | resetting => cases hy
      | paused => cases hy; exact .unchanged rfl rfl (hquiet _ rfl)
      | windingDown => cases hy; exact .unchanged rfl rfl (hquiet _ rfl)
      | reflectiveSleep => cases hy; exact .unchanged rfl rfl (hquiet _ rfl)
      | deepSleep => cases hy; exact .unchanged rfl rfl (hquiet _ rfl)
      | waking => cases hy; exact .unchanged rfl rfl (hquiet _ rfl)
      | active =>
        cases hy; exact .shifted .active .booting hsome rfl (by decide) (fun _ h => by cases h) rfl rfl (hquiet _ rfl)
      | orienting =>
        cases hy; exact .shifted .orienting .booting hsome rfl (by decide) (fun _ h => by cases h) rfl rfl
          (hquiet _ rfl)
  unfold SleepState.boot
  split
  · exact .unchanged rfl rfl (quiet_of_eq rfl)
  · simp only
    split
    · exact .unchanged rfl rfl (fun _ _ _ hq => quiescent_recoverActions hq)
    · next hok =>
      split
      · exact hrecovered _ hok
      · exact hrecovered _ hok

/-- Every step is one of the changes. -/
lemma change_sleepStep (s : SleepState cfg.fl) (a : SleepAction cfg) :
    ∃ subjectId, Change (restful s a = true) subjectId s.db (sleepStep s a).db := by
  cases a with
  | boot subjectId fault => exact ⟨subjectId, change_boot⟩
  | orient subjectId fault =>
    refine ⟨subjectId, change_transition rfl (by decide) ?_⟩
    intro _ _ _ state _ hallowed hsleeping
    rw [(of_mem_allowedTransitions hallowed).2.2.2.2 (.inl rfl)] at hsleeping
    cases hsleeping
  | activate subjectId fault =>
    exact ⟨subjectId, change_transition rfl (by decide)
      (fun _ _ _ state _ hallowed => (of_mem_allowedTransitions hallowed).2.2.2.1 rfl)⟩
  | pause subjectId reason actor fault =>
    refine ⟨subjectId, ?_⟩
    change Change _ subjectId s.db (s.pause subjectId reason actor fault).db
    unfold SleepState.pause
    split
    · exact .unchanged rfl rfl (quiet_of_eq rfl)
    · refine change_transition rfl (by decide) ?_
      intro _ _ _ state _ hallowed hsleeping
      rw [(of_mem_allowedTransitions hallowed).2.2.2.2 (.inr (.inl rfl))] at hsleeping
      cases hsleeping
  | resume subjectId reason actor fault =>
    exact ⟨subjectId, change_transition rfl (by decide)
      (fun _ _ _ state _ hallowed => (of_mem_allowedTransitions hallowed).2.2.2.1 rfl)⟩
  | stop subjectId reason fault =>
    refine ⟨subjectId, ?_⟩
    change Change _ subjectId s.db (s.stop subjectId reason fault).db
    unfold SleepState.stop
    split
    · exact .unchanged rfl rfl (quiet_of_eq rfl)
    · change Change _ subjectId s.db (s.transition subjectId .stopped reason "operator" fault).db
      refine change_transition rfl (by decide) ?_
      intro hrest howned hfault state hstate _ hsleeping
      simpa [restful, howned, hfault, hstate, hsleeping] using hrest
  | restart => exact ⟨0, .unchanged rfl rfl (quiet_of_eq rfl)⟩
  | checkpoint subjectId bytes fault =>
    refine ⟨subjectId, ?_⟩
    change Change _ subjectId s.db (s.checkpoint subjectId bytes fault).db
    unfold SleepState.checkpoint
    split
    · exact .unchanged rfl rfl (quiet_of_eq rfl)
    · apply change_attempt
      intro y hy
      obtain ⟨⟨saved, _⟩, hsaved, hy⟩ := bind_eq_ok.mp hy
      cases hy
      obtain ⟨_, _, -, -, -, -, rfl⟩ := saveCheckpoint_ok hsaved
      exact .unchanged rfl rfl (quiet_of_eq rfl)
  | engine call => exact change_engineStep call

/-! ### The ties between runs and lifecycles -/

/-- A subject has at most one unfinished run. -/
def OneUnfinished (db : SleepDb fl) : Prop :=
  ∀ r ∈ db.runs, ∀ r' ∈ db.runs, r.subjectId = r'.subjectId → r.status.unfinished = true → r'.status.unfinished = true →
    r = r'

/-- A sleeping lifecycle has the status of an unfinished run of its subject. -/
def Asleep (db : SleepDb fl) : Prop :=
  ∀ i state, db.lifecycle? i = some state → state.sleeping = true →
    ∃ r ∈ db.runs, r.subjectId = i ∧ r.status.lifecycle? = some state

/-- The lifecycle waits for every run that is asleep. -/
def Awaited (db : SleepDb fl) : Prop :=
  ∀ r ∈ db.runs, r.status.asleep = true → db.lifecycle? r.subjectId = r.status.lifecycle?

lemma unfinished_of_lifecycle? {status : RunStatus} {state : LifecycleState} (h : status.lifecycle? = some state) :
    status.unfinished = true ∧ state.sleeping = true := by
  cases status <;> simp_all [RunStatus.lifecycle?, RunStatus.unfinished] <;> subst h <;> rfl

lemma unfinished_of_asleep {status : RunStatus} (h : status.asleep = true) : status.unfinished = true := by
  cases status <;> simp_all [RunStatus.asleep, RunStatus.unfinished]

lemma asleep_of_lifecycle? {status : RunStatus} {state : LifecycleState} (hs : status.asleep = true)
    (h : status.lifecycle? = some state) : state.sleeping = true ∧ state ≠ .waking := by
  cases status <;> simp_all [RunStatus.lifecycle?, RunStatus.asleep] <;> subst h <;> exact ⟨rfl, by decide⟩

/-- A run that keeps its subject and does not come back keeps the number of unfinished runs. -/
lemma oneUnfinished_replace {db : SleepDb fl} (h : OneUnfinished db) {row new : SleepRunRow fl}
    (hrow : db.runs.find? new.sleepId = some row) (hsubject : new.subjectId = row.subjectId)
    (hstatus : new.status.unfinished = true → row.status.unfinished = true) {db' : SleepDb fl}
    (hruns : db'.runs = db.runs.replace new) : OneUnfinished db' := by
  obtain ⟨hmem, hid⟩ := Table.find?_eq_some.mp hrow
  intro r hr r' hr' hsub hun hun'
  rw [hruns] at hr hr'
  rcases Table.mem_replace.mp hr with ⟨rfl, -⟩ | ⟨hold, hne⟩
  · rcases Table.mem_replace.mp hr' with ⟨rfl, -⟩ | ⟨hold', hne'⟩
    · rfl
    · have heq := h row hmem r' hold' (hsubject ▸ hsub) (hstatus hun) hun'
      exact absurd (heq ▸ hid) hne'
  · rcases Table.mem_replace.mp hr' with ⟨rfl, -⟩ | ⟨hold', hne'⟩
    · have heq := h row hmem r hold (hsubject ▸ hsub.symm) (hstatus hun') hun
      exact absurd (heq ▸ hid) hne
    · exact h r hold r' hold' hsub hun hun'

lemma unfinished_of_current {db : SleepDb fl} {subjectId : Nat} (h : db.current subjectId = none) {r : SleepRunRow fl}
    (hr : r ∈ db.runs) (hs : r.subjectId = subjectId) : r.status.unfinished = false := by
  have := List.find?_eq_none.mp h r hr
  simpa [hs] using this

lemma oneUnfinished_change {own : Prop} {subjectId : Nat} {db db' : SleepDb fl} (h : OneUnfinished db)
    (hc : Change own subjectId db db') : OneUnfinished db' := by
  cases hc with
  | unchanged hlife hruns hquiet =>
    unfold OneUnfinished
    rw [hruns]
    exact h
  | shifted state target hstate hawake hreset hrestful hlife hruns hquiet =>
    unfold OneUnfinished
    rw [hruns]
    exact h
  | opened row hstate hcurrent hsubject hstatus hlife hruns hquiescent hactions =>
    intro r hr r' hr' hsub hun hun'
    rcases mem_insert hruns hr with hr | rfl
    · rcases mem_insert hruns hr' with hr' | rfl
      · exact h r hr r' hr' hsub hun hun'
      · rw [unfinished_of_current hcurrent hr (hsub.trans hsubject)] at hun
        cases hun
    · rcases mem_insert hruns hr' with hr' | rfl
      · rw [unfinished_of_current hcurrent hr' (hsub.symm.trans hsubject)] at hun'
        cases hun'
      · rfl
  | reflected row new hrow hsubject hstatus hlife hruns hactions =>
    exact oneUnfinished_replace h hrow hsubject (fun hun => hstatus ▸ hun) hruns
  | advanced row new state target hrow hsubject hrestful hstate hasleep hfrom hto hdown hlife hruns hactions =>
    exact oneUnfinished_replace h hrow hsubject (fun _ => unfinished_of_asleep hasleep) hruns
  | finished row new state hrow hsubject hrestful hstate hunfinished hfrom hpath hstatus hlife hruns hactions =>
    exact oneUnfinished_replace h hrow hsubject (fun _ => hunfinished) hruns

lemma lifecycle?_of_eq {db db' : SleepDb fl} (h : db'.runtimeStates = db.runtimeStates) (i : Nat) :
    db'.lifecycle? i = db.lifecycle? i := by
  rw [SleepDb.lifecycle?, h]
  rfl

/-- A sleeping lifecycle agrees with its run after every change that keeps to the runs of its subject. -/
lemma asleep_change {own : Prop} {subjectId : Nat} {db db' : SleepDb fl} (hown : own) (h : Asleep db)
    (hc : Change own subjectId db db') : Asleep db' := by
  intro i state' hi hsleeping
  cases hc with
  | unchanged hlife hruns hquiet =>
    rw [lifecycle?_of_eq hlife] at hi
    rw [hruns]
    exact h i state' hi hsleeping
  | shifted state target hstate hawake hreset hrestful hlife hruns hquiet =>
    have hfind : db'.lifecycle? i = if i = subjectId then some target else db.lifecycle? i :=
      lifecycle?_replace hstate hlife i
    rw [hfind] at hi
    rw [hruns]
    split at hi
    · cases hi
      rw [hawake] at hsleeping
      cases hsleeping
    · exact h i state' hi hsleeping
  | opened row hstate hcurrent hsubject hstatus hlife hruns hquiescent hactions =>
    have hfind : db'.lifecycle? i = if i = subjectId then some .windingDown else db.lifecycle? i :=
      lifecycle?_replace hstate hlife i
    have hrows := (Table.insert?_eq_some.mp hruns).2
    rw [hfind] at hi
    split at hi
    · next heq =>
      cases hi
      refine ⟨row, ?_, hsubject.trans heq.symm, by rw [hstatus]; rfl⟩
      rw [Table.mem_def, hrows]
      exact List.mem_append_right _ (List.mem_singleton_self row)
    · obtain ⟨r, hr, hsub, hst⟩ := h i state' hi hsleeping
      refine ⟨r, ?_, hsub, hst⟩
      rw [Table.mem_def, hrows]
      exact List.mem_append_left _ hr
  | reflected row new hrow hsubject hstatus hlife hruns hactions =>
    rw [lifecycle?_of_eq hlife] at hi
    obtain ⟨hmem, hid⟩ := Table.find?_eq_some.mp hrow
    obtain ⟨r, hr, hsub, hst⟩ := h i state' hi hsleeping
    rw [hruns]
    by_cases hk : r.sleepId = new.sleepId
    · have heq : r = row := Table.eq_of_key hr hmem (hk.trans hid.symm)
      subst heq
      exact ⟨new, Table.mem_replace.mpr (.inl ⟨rfl, r, hr, hk⟩), hsubject.trans hsub, by rw [hstatus]; exact hst⟩
    · exact ⟨r, Table.mem_replace.mpr (.inr ⟨hr, hk⟩), hsub, hst⟩
  | advanced row new state target hrow hsubject hrestful hstate hasleep hfrom hto hdown hlife hruns hactions =>
    have hfind : db'.lifecycle? i = if i = subjectId then some target else db.lifecycle? i :=
      lifecycle?_replace hstate hlife i
    obtain ⟨hmem, hid⟩ := Table.find?_eq_some.mp hrow
    rw [hfind] at hi
    rw [hruns]
    split at hi
    · next heq =>
      cases hi
      exact ⟨new, Table.mem_replace.mpr (.inl ⟨rfl, row, hmem, hid⟩),
        (hsubject.trans (hrestful hown)).trans heq.symm, hto⟩
    · next hne =>
      obtain ⟨r, hr, hsub, hst⟩ := h i state' hi hsleeping
      refine ⟨r, Table.mem_replace.mpr (.inr ⟨hr, ?_⟩), hsub, hst⟩
      intro hk
      have heq : r = row := Table.eq_of_key hr hmem (hk.trans hid.symm)
      exact hne (hsub.symm.trans (heq ▸ hrestful hown))
  | finished row new state hrow hsubject hrestful hstate hunfinished hfrom hpath hstatus hlife hruns hactions =>
    have hfind : db'.lifecycle? i = if i = subjectId then some .active else db.lifecycle? i :=
      lifecycle?_replace hstate hlife i
    obtain ⟨hmem, hid⟩ := Table.find?_eq_some.mp hrow
    rw [hfind] at hi
    rw [hruns]
    split at hi
    · cases hi
      cases hsleeping
    · next hne =>
      obtain ⟨r, hr, hsub, hst⟩ := h i state' hi hsleeping
      refine ⟨r, Table.mem_replace.mpr (.inr ⟨hr, ?_⟩), hsub, hst⟩
      intro hk
      have heq : r = row := Table.eq_of_key hr hmem (hk.trans hid.symm)
      exact hne (hsub.symm.trans (heq ▸ hrestful hown))

/-- The lifecycle goes on waiting for the runs that are asleep, as long as no change leaves one behind. -/
lemma awaited_change {own : Prop} {subjectId : Nat} {db db' : SleepDb fl} (hown : own) (hone : OneUnfinished db)
    (h : Awaited db) (hc : Change own subjectId db db') : Awaited db' := by
  intro r hr hasleep'
  cases hc with
  | unchanged hlife hruns hquiet =>
    rw [lifecycle?_of_eq hlife]
    exact h r (hruns ▸ hr) hasleep'
  | shifted state target hstate hawake hreset hrestful hlife hruns hquiet =>
    have hbefore := h r (hruns ▸ hr) hasleep'
    have hfind : db'.lifecycle? r.subjectId = if r.subjectId = subjectId then some target else db.lifecycle?
        r.subjectId :=
      lifecycle?_replace hstate hlife r.subjectId
    rw [hfind]
    split
    · next heq =>
      rw [heq, hstate] at hbefore
      obtain ⟨hsleeping, hne⟩ := asleep_of_lifecycle? hasleep' hbefore.symm
      exact absurd (hrestful hown hsleeping) hne
    · exact hbefore
  | opened row hstate hcurrent hsubject hstatus hlife hruns hquiescent hactions =>
    have hfind : db'.lifecycle? r.subjectId =
        if r.subjectId = subjectId then some .windingDown else db.lifecycle? r.subjectId :=
      lifecycle?_replace hstate hlife r.subjectId
    rw [hfind]
    rcases mem_insert hruns hr with hr | rfl
    · split
      · next heq =>
        have := unfinished_of_current hcurrent hr heq
        rw [unfinished_of_asleep hasleep'] at this
        cases this
      · exact h r hr hasleep'
    · rw [if_pos hsubject, hstatus]
      rfl
  | reflected row new hrow hsubject hstatus hlife hruns hactions =>
    rw [lifecycle?_of_eq hlife]
    obtain ⟨hmem, -⟩ := Table.find?_eq_some.mp hrow
    rw [hruns] at hr
    rcases Table.mem_replace.mp hr with ⟨rfl, -⟩ | ⟨hr, -⟩
    · rw [hsubject, hstatus]
      exact h row hmem (hstatus ▸ hasleep')
    · exact h r hr hasleep'
  | advanced row new state target hrow hsubject hrestful hstate hasleep hfrom hto hdown hlife hruns hactions =>
    have hfind : db'.lifecycle? r.subjectId = if r.subjectId = subjectId then some target else db.lifecycle?
        r.subjectId :=
      lifecycle?_replace hstate hlife r.subjectId
    obtain ⟨hmem, hid⟩ := Table.find?_eq_some.mp hrow
    rw [hfind]
    rw [hruns] at hr
    rcases Table.mem_replace.mp hr with ⟨rfl, -⟩ | ⟨hr, hne⟩
    · rw [if_pos (hsubject.trans (hrestful hown)), hto]
    · split
      · next heq =>
        have hsame := hone r hr row hmem (heq.trans (hrestful hown).symm) (unfinished_of_asleep hasleep')
          (unfinished_of_asleep hasleep)
        exact absurd (hsame ▸ hid) hne
      · exact h r hr hasleep'
  | finished row new state hrow hsubject hrestful hstate hunfinished hfrom hpath hstatus hlife hruns hactions =>
    have hfind : db'.lifecycle? r.subjectId = if r.subjectId = subjectId then some .active else db.lifecycle?
        r.subjectId :=
      lifecycle?_replace hstate hlife r.subjectId
    obtain ⟨hmem, hid⟩ := Table.find?_eq_some.mp hrow
    rw [hfind]
    rw [hruns] at hr
    rcases Table.mem_replace.mp hr with ⟨rfl, -⟩ | ⟨hr, hne⟩
    · rw [hstatus] at hasleep'
      cases hasleep'
    · split
      · next heq =>
        have hsame := hone r hr row hmem (heq.trans (hrestful hown).symm) (unfinished_of_asleep hasleep') hunfinished
        exact absurd (hsame ▸ hid) hne
      · exact h r hr hasleep'

/-- A subject that winds down has no pending action. -/
def Settled (db : SleepDb fl) : Prop := ∀ i, db.lifecycle? i = some .windingDown → db.quiescent i = true

lemma settled_change {own : Prop} {subjectId : Nat} {db db' : SleepDb fl} (hown : own) (h : Settled db)
    (hc : Change own subjectId db db') : Settled db' := by
  -- a lifecycle that the change moves elsewhere does not wind down afterwards
  have hmoved : ∀ {state target : LifecycleState}, db.lifecycle? subjectId = some state → target ≠ .windingDown →
      db'.runtimeStates = db.runtimeStates.replace ⟨subjectId, target⟩ → Quiet db db' → Settled db' := by
    intro state target hstate htarget hlife hquiet i hi
    have hfind : db'.lifecycle? i = if i = subjectId then some target else db.lifecycle? i :=
      lifecycle?_replace hstate hlife i
    rw [hfind] at hi
    split at hi
    · exact absurd (Option.some.inj hi) htarget
    · exact hquiet i hi (h i hi)
  cases hc with
  | unchanged hlife hruns hquiet =>
    intro i hi
    rw [lifecycle?_of_eq hlife] at hi
    exact hquiet hown i hi (h i hi)
  | shifted state target hstate hawake hreset hrestful hlife hruns hquiet =>
    refine hmoved hstate ?_ hlife (hquiet hown)
    rintro rfl
    cases hawake
  | opened row hstate hcurrent hsubject hstatus hlife hruns hquiescent hactions =>
    intro i hi
    have hfind : db'.lifecycle? i = if i = subjectId then some .windingDown else db.lifecycle? i :=
      lifecycle?_replace hstate hlife i
    rw [SleepDb.quiescent, hactions]
    rw [hfind] at hi
    split at hi
    · next heq => exact heq ▸ hquiescent
    · exact h i hi
  | reflected row new hrow hsubject hstatus hlife hruns hactions =>
    intro i hi
    rw [lifecycle?_of_eq hlife] at hi
    exact quiet_of_eq hactions hown i hi (h i hi)
  | advanced row new state target hrow hsubject hrestful hstate hasleep hfrom hto hdown hlife hruns hactions =>
    exact hmoved hstate hdown hlife (quiet_of_eq hactions hown)
  | finished row new state hrow hsubject hrestful hstate hunfinished hfrom hpath hstatus hlife hruns hactions =>
    exact hmoved hstate (by decide) hlife (quiet_of_eq hactions hown)

/-- No call resets a subject. -/
lemma lifecycle?_ne_resetting_change {own : Prop} {subjectId : Nat} {db db' : SleepDb fl}
    (h : ∀ i, db.lifecycle? i ≠ some .resetting) (hc : Change own subjectId db db') (i : Nat) :
    db'.lifecycle? i ≠ some .resetting := by
  have hmoved : ∀ {state target : LifecycleState}, db.lifecycle? subjectId = some state → target ≠ .resetting →
      db'.runtimeStates = db.runtimeStates.replace ⟨subjectId, target⟩ → db'.lifecycle? i ≠ some .resetting := by
    intro state target hstate htarget hlife
    have hfind : db'.lifecycle? i = if i = subjectId then some target else db.lifecycle? i :=
      lifecycle?_replace hstate hlife i
    rw [hfind]
    split
    · exact fun heq => htarget (Option.some.inj heq)
    · exact h i
  cases hc with
  | unchanged hlife hruns hquiet =>
    rw [lifecycle?_of_eq hlife]
    exact h i
  | shifted state target hstate hawake hreset hrestful hlife hruns hquiet => exact hmoved hstate hreset hlife
  | opened row hstate hcurrent hsubject hstatus hlife hruns hquiescent hactions => exact hmoved hstate (by decide) hlife
  | reflected row new hrow hsubject hstatus hlife hruns hactions =>
    rw [lifecycle?_of_eq hlife]
    exact h i
  | advanced row new state target hrow hsubject hrestful hstate hasleep hfrom hto hdown hlife hruns hactions =>
    refine hmoved hstate ?_ hlife
    rintro rfl
    have := (unfinished_of_lifecycle? hto).2
    cases this
  | finished row new state hrow hsubject hrestful hstate hunfinished hfrom hpath hstatus hlife hruns hactions =>
    exact hmoved hstate (by decide) hlife

end Noyra.Sleep.Proofs
