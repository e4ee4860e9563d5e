import Noyra.Proofs.SleepWaking

/-!
# Sleep ends

As long as no runtime is stopped while its run is asleep, every subject can be woken and falls asleep again. A
stop in that time leaves a run behind that nothing ever finishes.
-/

namespace Noyra.Sleep.Proofs
open Noyra.Lib

variable {cfg : SleepConfig}

/-- A state whose lifecycles and runs agree, and from which operations wake a subject so that it can sleep again. -/
structure Restful (s : SleepState cfg.fl) : Prop where
  one : OneUnfinished s.db
  asleep : Asleep s.db
  wakes : ∀ i, (s.db.lifecycle? i).isSome → ∃ as : List (SleepAction cfg),
    (∀ a ∈ as, SleepAction.operation a = true) ∧ Awake (as.foldl sleepStep s).db i ∧
      ((as.foldl sleepStep s).db.quiescent i = true → ∃ q,
        (sleepStep (as.foldl sleepStep s) (.engine (.start i q false))).db.lifecycle? i = some .windingDown)

lemma books_foldl {s : SleepState cfg.fl} (h : Books cfg s.db) (as : List (SleepAction cfg)) :
    Books cfg (as.foldl sleepStep s).db := by
  induction as generalizing s with
  | nil => exact h
  | cons a as ih => exact ih (books_sleepStep h a)

lemma restful_of_tied {s : SleepState cfg.fl} (hbooks : Books cfg s.db) (h : Tied s) : Restful s := by
  refine ⟨h.one, h.asleep, ?_⟩
  intro i hi
  obtain ⟨state, hstate⟩ := Option.isSome_iff_exists.mp hi
  obtain ⟨as, hops, hawake⟩ := canWake_of_tied hbooks h hstate
  exact ⟨as, hops, hawake, fun hquiescent =>
    ⟨restRequest 0, start_succeeds (books_foldl hbooks as) hawake hquiescent 0⟩⟩

/-- Runs whose stops leave no run asleep and whose calls keep to the runs of their subject. -/
theorem sleep_never_wedges {s : SleepState cfg.fl}
    (h : (sleepMachine cfg).ReachableUnder (fun s a => restful s a = true) s) : Restful s := by
  have htied : Tied s := h.invariant (I := Tied) (fun _ => tied_initial) (fun _ _ ht ha => tied_step ht ha)
  exact restful_of_tied (reachable_books h.reachable) htied

/-- The run of the only subject is asleep, and the lifecycle does not wait for it. -/
structure Orphan {fl : Floats} (db : SleepDb fl) (i : Nat) : Prop where
  alone : ∀ j, (db.lifecycle? j).isSome → j = i
  known : ∃ state, db.lifecycle? i = some state ∧ state.sleeping = false
  run : ∃ r ∈ db.runs, r.subjectId = i ∧ r.status.asleep = true

lemma orphan_change {fl : Floats} {own : Prop} {subjectId i : Nat} {db db' : SleepDb fl} (h : Orphan db i)
    (hc : Change own subjectId db db') : Orphan db' i := by
  obtain ⟨state₀, hstate₀, hsleeping₀⟩ := h.known
  obtain ⟨r, hr, hsub, hasleep⟩ := h.run
  -- the one lifecycle moves to a state that is awake, and the run stays
  have hmoved : ∀ {state target : LifecycleState}, db.lifecycle? subjectId = some state → target.sleeping = false →
      db'.runtimeStates = db.runtimeStates.replace ⟨subjectId, target⟩ → r ∈ db'.runs → Orphan db' i := by
    intro state target hstate htarget hlife hr'
    have hsame : subjectId = i := h.alone subjectId (by rw [hstate]; rfl)
    have hfind : ∀ j, db'.lifecycle? j = if j = subjectId then some target else db.lifecycle? j :=
      lifecycle?_replace hstate hlife
    refine ⟨?_, ⟨target, by rw [hfind, if_pos hsame.symm], htarget⟩, r, hr', hsub, hasleep⟩
    intro j hj
    rw [hfind] at hj
    split at hj
    · next heq => exact heq.trans hsame
    · exact h.alone j hj
  -- no run advances while the lifecycle is awake
  have hawake : ∀ {state : LifecycleState} {status : RunStatus}, db.lifecycle? subjectId = some state →
      status.asleep = true → status.lifecycle? = some state → False := by
    intro state status hstate hs hlife
    have hsame : subjectId = i := h.alone subjectId (by rw [hstate]; rfl)
    rw [hsame, hstate₀] at hstate
    cases hstate
    rw [(asleep_of_lifecycle? hs hlife).1] at hsleeping₀
    cases hsleeping₀
  cases hc with
  | unchanged hlife hruns hquiet =>
    refine ⟨?_, ⟨state₀, by rw [lifecycle?_of_eq hlife]; exact hstate₀, hsleeping₀⟩, r, hruns ▸ hr, hsub, hasleep⟩
    intro j hj
    rw [lifecycle?_of_eq hlife] at hj
    exact h.alone j hj
  | shifted state target hstate hawake hreset hrestful hlife hruns hquiet =>
    exact hmoved hstate hawake hlife (hruns ▸ hr)
  | opened row hstate hcurrent hsubject hstatus hlife hruns hquiescent hactions =>
    have hsame : subjectId = i := h.alone subjectId (by rw [hstate]; rfl)
    have hdone := unfinished_of_current hcurrent hr (hsub.trans hsame.symm)
    rw [unfinished_of_asleep hasleep] at hdone
    cases hdone
  | reflected row new hrow hsubject hstatus hlife hruns hactions =>
    obtain ⟨hmem, hid⟩ := Table.find?_eq_some.mp hrow
    have hrun : ∃ r' ∈ db'.runs, r'.subjectId = i ∧ r'.status.asleep = true := by
      rw [hruns]
      by_cases hk : r.sleepId = new.sleepId
      · have heq : r = row := Table.eq_of_key hr hmem (hk.trans hid.symm)
        subst heq
        exact ⟨new, Table.mem_replace.mpr (.inl ⟨rfl, r, hr, hk⟩), hsubject.trans hsub, by rw [hstatus]; exact hasleep⟩
      · exact ⟨r, Table.mem_replace.mpr (.inr ⟨hr, hk⟩), hsub, hasleep⟩
    refine ⟨?_, ⟨state₀, by rw [lifecycle?_of_eq hlife]; exact hstate₀, hsleeping₀⟩, hrun⟩
    intro j hj
    rw [lifecycle?_of_eq hlife] at hj
    exact h.alone j hj
  | advanced row new state target hrow hsubject hrestful hstate hasl hfrom hto hdown hlife hruns hactions =>
    exact (hawake hstate hasl hfrom).elim
  | finished row new state hrow hsubject hrestful hstate hunfinished hfrom hpath hstatus hlife hruns hactions =>
    obtain ⟨hmem, hid⟩ := Table.find?_eq_some.mp hrow
    refine hmoved hstate rfl hlife ?_
    rw [hruns]
    refine Table.mem_replace.mpr (.inr ⟨hr, ?_⟩)
    intro hk
    have heq : r = row := Table.eq_of_key hr hmem (hk.trans hid.symm)
    subst heq
    exact hawake hstate hasleep (hfrom hasleep)

/-- A run that is left behind is never finished. -/
lemma orphan_foldl {s : SleepState cfg.fl} {i : Nat} (h : Orphan s.db i) (as : List (SleepAction cfg)) :
    Orphan (as.foldl sleepStep s).db i := by
  induction as generalizing s with
  | nil => exact h
  | cons a as ih =>
    obtain ⟨_, hc⟩ := change_sleepStep s a
    exact ih (orphan_change h hc)

lemma not_awake_of_orphan {fl : Floats} {db : SleepDb fl} {i : Nat} (h : Orphan db i) : ¬Awake db i := by
  intro hawake
  obtain ⟨r, hr, hsub, hasleep⟩ := h.run
  have hdone := unfinished_of_current hawake.2 hr hsub
  rw [unfinished_of_asleep hasleep] at hdone
  cases hdone

/-- Numbers of the kind `float` as thousandths. -/
def thousandths : Floats where
  F := Int
  decEq := inferInstance
  ofInt n := 1000 * n
  le a b := decide (a ≤ b)
  stored := id
  decayed x := x * 96 / 100
  rested x hours := x - min 100000 (hours * 18)
  weighted a b c d e := 45 * a + 20 * b + 20 * c + 10 * d + 5 * e
  hours a b := ((b : Int) - a) / 3600000
  le_ofInt a b _ _ _ _ := by
    rw [decide_eq_decide]
    omega
  le_right_self a b _ := by simp
  stored_ofInt _ _ _ := rfl
  stored_pos _ _ _ := rfl
  stored_stored _ := rfl
  rested_le a h ha hh := by
    simp only [decide_eq_true_eq] at ha hh ⊢
    omega

/-- A digest that stands for every hash. -/
def zeroDigest : Digest := ⟨String.ofList (List.replicate 64 '0'), by rw [String.length_ofList, List.length_replicate]⟩

def plainSleep : SleepConfig where
  fl := thousandths
  fatigueHash _ _ _ := zeroDigest
  runHash _ _ _ _ _ _ _ _ _ _ := zeroDigest
  transitionHash _ _ _ := zeroDigest
  retryHash _ _ _ _ _ _ _ _ := zeroDigest
  candidateHash _ _ _ _ _ := zeroDigest
  planHash _ := zeroDigest

/-- One subject that never ran. -/
def freshSubject : SleepState plainSleep.fl where
  db := {
    runtimeStates := ⟨[⟨1, .stopped⟩], by decide⟩
    runs := ⟨[], by simp⟩
    transitions := []
    reflections := ⟨[], by simp⟩
    integrations := []
    fatigue := ⟨[], by simp⟩
    fatigueTransitions := []
    retryBlocks := ⟨[], by decide⟩
    candidates := ⟨[], by simp⟩
    events := []
    snapshots := ⟨[], by decide⟩
    identities := ⟨[⟨1, 0, none⟩], by decide⟩
    actions := ⟨[], by decide⟩
    sources := []
    withdrawn := []
    nextId := 2 }
  owned := []

lemma initial_freshSubject : freshSubject.Initial := by
  refine ⟨?_, rfl, rfl, rfl, rfl, rfl, rfl, rfl, rfl, rfl, rfl, rfl, ?_, ?_⟩
  · exact (by decide : ∀ r ∈ freshSubject.db.runtimeStates.rows, r.state = .stopped)
  · exact (by decide : ∀ r ∈ freshSubject.db.runtimeStates.rows, ∃ i ∈ freshSubject.db.identities.rows,
      i.subjectId = r.subjectId)
  · exact (by decide : ∀ i ∈ freshSubject.db.identities.rows, i.lastCheckpoint = none)

/-- The subject falls asleep. -/
def fallAsleep : List (SleepAction plainSleep) :=
  [.boot 1 .absent, .activate 1 .absent, .engine (.start 1 (restRequest 0) false)]

theorem sleep_never_wedges_asleep :
    ((fallAsleep.foldl sleepStep freshSubject).db.lifecycle? 1 = some .windingDown) ∧
      Restful (fallAsleep.foldl sleepStep freshSubject) :=
  ⟨by decide, sleep_never_wedges (Machine.reachableUnder_foldl (M := sleepMachine plainSleep) initial_freshSubject
    fallAsleep (by decide))⟩

/-- The runtime is stopped while the run winds down. -/
def stopAsleep : List (SleepAction plainSleep) := fallAsleep ++ [.stop 1 "maintenance" .absent]

lemma orphan_stopAsleep : Orphan (stopAsleep.foldl sleepStep freshSubject).db 1 := by
  refine ⟨?_, ⟨.stopped, by decide, rfl⟩, ?_⟩
  · intro j hj
    obtain ⟨state, hstate⟩ := Option.isSome_iff_exists.mp hj
    obtain ⟨row, hrow, -⟩ := Option.map_eq_some_iff.mp hstate
    obtain ⟨hmem, rfl⟩ := Table.find?_eq_some.mp hrow
    have honly : ∀ x ∈ (stopAsleep.foldl sleepStep freshSubject).db.runtimeStates.rows, x.subjectId = 1 := by decide
    exact honly row hmem
  · exact (by decide : ∃ r ∈ (stopAsleep.foldl sleepStep freshSubject).db.runs.rows, r.subjectId = 1 ∧
      r.status.asleep = true)

theorem stopped_sleep_never_ends : (sleepMachine plainSleep).Reachable (stopAsleep.foldl sleepStep freshSubject) ∧
    ∀ as : List (SleepAction plainSleep), ¬Awake (as.foldl sleepStep (stopAsleep.foldl sleepStep freshSubject)).db 1 :=
  ⟨Machine.reachable_foldl (M := sleepMachine plainSleep) initial_freshSubject stopAsleep,
    fun as => not_awake_of_orphan (orphan_foldl orphan_stopAsleep as)⟩

end Noyra.Sleep.Proofs
