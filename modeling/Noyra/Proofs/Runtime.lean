import Noyra.Core.Runtime
import Mathlib.Tactic.Lemma

/-!
# Admission and the lifecycle

The gate accepts operations only while the durable lifecycle is active, as long as no migration fence is
cleared and no restart is recorded behind the back of the other: clearing a fence reopens the gate without
asking for the lifecycle, and recovery after a restart moves the lifecycle without asking for the gate.
-/

namespace Noyra.Core.Proofs
open Noyra.Lib Noyra.Core

variable {α β : Type}

/-- The gate accepts only while the subject is active. -/
def Aligned (k : Kernel) : Prop := k.gate.accepting = true → k.lifecycle = .active

/-- The condition on the steps of a run: a fence is cleared only while the subject is active, unless the gate is
quarantined, and a restart is recorded only while the gate does not accept. -/
def Coordinated (s : KernelStep) (x : KernelReading) (k : Kernel) : Prop :=
  match s with
  | .clearMigrationFence fence =>
    (∀ r, KernelStep.exec (.clearMigrationFence fence) x k ≠ .ok r) ∨ k.lifecycle = .active ∨ k.gate.quarantined = true
  | .recoverForRestart => (∀ r, KernelStep.exec .recoverForRestart x k ≠ .ok r) ∨ k.gate.accepting = false
  | _ => True

instance Coordinated.decidable (s : KernelStep) (x : KernelReading) (k : Kernel) : Decidable (Coordinated s x k) := by
  cases s with
  | clearMigrationFence fence => exact inferInstanceAs (Decidable ((∀ r, _ ≠ _) ∨ _ = _ ∨ _ = _))
  | recoverForRestart => exact inferInstanceAs (Decidable ((∀ r, _ ≠ _) ∨ _ = _))
  | _ => exact .isTrue trivial

/-- What the calls make sure of before each step; `held` tells whether the call is one of those that take turns. -/
def Prepares (held : Bool) (s : KernelStep) (k : Kernel) : Prop :=
  match s with
  | .begin _ _ | .finish | .newProcess => True
  | .transition state =>
    held = true ∧ (state = .active ∨ k.gate.accepting = false ∨ state ∉ LifecycleState.active.allowed)
  | .pauseWithoutEvent => held = true ∧ k.gate.accepting = false
  | .reopen _ => held = true ∧ k.lifecycle = .active
  | _ => held = true

/-- What operations of other threads leave alone. -/
def KeepsClosed (k k' : Kernel) : Prop :=
  k'.lifecycle = k.lifecycle ∧ (k.gate.accepting = false → k'.gate.accepting = false)

lemma exec_run {s : KernelStep} {x : KernelReading} {k : Kernel} {r : s.Reply × Kernel}
    (h : s.exec x k = .ok r) : KernelStep.run k x s = .ok r := by
  unfold KernelStep.exec at h
  split at h
  · split at h
    · exact h
    · cases h
  · exact h

lemma gateSection_ok {k k' : Kernel} {g : Except GateError Gate} {r : Unit}
    (h : KernelStep.gateSection k g = .ok (r, k')) : ∃ gate, g = .ok gate ∧ k' = { k with gate } := by
  cases g with
  | error e => cases h
  | ok gate =>
    cases h
    exact ⟨gate, rfl, rfl⟩

lemma enterControl_accepting {g g' : Gate} {owned : Option Bool} (h : g.enterControl owned = .ok g') :
    g'.accepting = g.accepting := by
  obtain ⟨-, -, h⟩ := bind_eq_ok.mp h
  obtain ⟨-, -, h⟩ := bind_eq_ok.mp h
  obtain ⟨-, -, h⟩ := bind_eq_ok.mp h
  obtain ⟨-, -, h⟩ := bind_eq_ok.mp h
  cases h
  rfl

lemma raiseFence_accepting {g g' : Gate} (h : g.raiseFence = .ok g') : g'.accepting = false := by
  obtain ⟨-, -, h⟩ := bind_eq_ok.mp h
  obtain ⟨-, -, h⟩ := bind_eq_ok.mp h
  cases h
  rfl

lemma clearMigrationFence_accepting {g g' : Gate} {fence : Int} {clear : Option Bool}
    (h : g.clearMigrationFence fence clear = .ok g') : g'.accepting = !g.quarantined := by
  obtain ⟨-, -, h⟩ := bind_eq_ok.mp h
  obtain ⟨-, -, h⟩ := bind_eq_ok.mp h
  obtain ⟨-, -, h⟩ := bind_eq_ok.mp h
  obtain ⟨-, -, h⟩ := bind_eq_ok.mp h
  cases h
  rfl

/-- An ordinary operation is begun only at a gate that accepts. -/
lemma start_accepting {g g' : Gate} {kind operationId : String} {allowQuarantine : Bool} {owned : Option Bool}
    {lease : OperationLease} (h : g.start kind operationId allowQuarantine owned = .ok (lease, g')) :
    g'.accepting = g.accepting ∧ (allowQuarantine = false → g.accepting = true) := by
  simp only [Gate.start, bind_eq_ok, raiseIf_eq_ok, Except.ok.injEq, Prod.mk.injEq] at h
  obtain ⟨-, -, -, -, -, -, -, -, -, hopen, -, -, -, rfl⟩ := h
  refine ⟨rfl, ?_⟩
  intro hallow
  simpa [hallow] using hopen

lemma exec_aligned {held : Bool} {s : KernelStep} {x : KernelReading} {k k' : Kernel} {r : s.Reply} (hi : Aligned k)
    (hp : Prepares held s k) (hg : Coordinated s x k) (h : s.exec x k = .ok (r, k')) :
    Aligned k' ∧ (held = false → KeepsClosed k k') := by
  have hrun := exec_run h
  cases s with
  | acquireOwnership =>
    cases hrun
    exact ⟨hi, by simp [show held = true from hp]⟩
  | release =>
    cases hrun
    exact ⟨hi, by simp [show held = true from hp]⟩
  | requireOwnership =>
    obtain ⟨-, -, hrun⟩ := bind_eq_ok.mp hrun
    cases hrun
    exact ⟨hi, by simp [show held = true from hp]⟩
  | work =>
    cases hrun
    exact ⟨hi, by simp [show held = true from hp]⟩
  | current =>
    cases hrun
    exact ⟨hi, by simp [show held = true from hp]⟩
  | transition state =>
    obtain ⟨_, hallowed, hrun⟩ := bind_eq_ok.mp hrun
    rw [raiseIf_eq_ok, Decidable.not_not] at hallowed
    cases hrun
    refine ⟨?_, by simp [hp.1]⟩
    intro haccepting
    rcases hp.2 with hactive | hclosed | hrefused
    · exact hactive
    · simp [show k.gate.accepting = true from haccepting] at hclosed
    · rw [hi haccepting] at hallowed
      exact absurd hallowed hrefused
  | recoverForRestart =>
    rcases hg with hrefused | hclosed
    · exact absurd h (hrefused _)
    · obtain ⟨state, -, hrun⟩ := bind_eq_ok.mp hrun
      cases hrun
      refine ⟨?_, by simp [show held = true from hp]⟩
      intro haccepting
      simp [show k.gate.accepting = true from haccepting] at hclosed
  | pauseWithoutEvent =>
    obtain ⟨-, -, hrun⟩ := bind_eq_ok.mp hrun
    cases hrun
    refine ⟨?_, by simp [hp.1]⟩
    intro haccepting
    have hclosed := hp.2
    simp [show k.gate.accepting = true from haccepting] at hclosed
  | reopen atVersion =>
    obtain ⟨gate, -, rfl⟩ := gateSection_ok hrun
    exact ⟨fun _ => hp.2, by simp [hp.1]⟩
  | invalidate =>
    cases hrun
    refine ⟨?_, by simp [show held = true from hp]⟩
    intro haccepting
    simp [Gate.invalidate] at haccepting
  | quarantine =>
    cases hrun
    refine ⟨?_, by simp [show held = true from hp]⟩
    intro haccepting
    simp [Gate.quarantine, Gate.invalidate] at haccepting
  | beginDrain =>
    cases hrun
    refine ⟨?_, by simp [show held = true from hp]⟩
    intro haccepting
    simp [Gate.beginDrain, Gate.invalidate] at haccepting
  | enterControl =>
    obtain ⟨gate, hgate, rfl⟩ := gateSection_ok hrun
    refine ⟨?_, by simp [show held = true from hp]⟩
    intro haccepting
    exact hi (by rw [← enterControl_accepting hgate]; exact haccepting)
  | leaveControl =>
    cases hrun
    exact ⟨hi, by simp [show held = true from hp]⟩
  | fenceForMigration =>
    cases hf : k.gate.raiseFence with
    | error e => simp [KernelStep.run, hf] at hrun
    | ok gate =>
      simp only [KernelStep.run, hf, Except.ok.injEq] at hrun
      cases hrun
      refine ⟨?_, by simp [show held = true from hp]⟩
      intro haccepting
      simp [raiseFence_accepting hf] at haccepting
  | fenceEpoch =>
    cases hrun
    exact ⟨hi, by simp [show held = true from hp]⟩
  | clearMigrationFence fence =>
    obtain ⟨gate, hgate, rfl⟩ := gateSection_ok hrun
    refine ⟨?_, by simp [show held = true from hp]⟩
    intro haccepting
    rcases hg with hrefused | hactive | hquarantined
    · exact absurd h (hrefused _)
    · exact hactive
    · simp [clearMigrationFence_accepting hgate, hquarantined] at haccepting
  | begin kind allowQuarantine =>
    cases hs : k.gate.start kind x.operationId allowQuarantine (KernelStep.owned k x) with
    | error e => simp [KernelStep.run, hs] at hrun
    | ok lg =>
      obtain ⟨lease, gate⟩ := lg
      simp only [KernelStep.run, hs, Except.ok.injEq] at hrun
      cases hrun
      have hsame := (start_accepting hs).1
      refine ⟨?_, fun _ => ⟨rfl, ?_⟩⟩
      · intro haccepting
        exact hi (hsame ▸ haccepting)
      · intro hclosed
        exact hsame.trans hclosed
  | finish =>
    cases hrun
    exact ⟨hi, fun _ => ⟨rfl, id⟩⟩
  | newProcess =>
    cases hrun
    refine ⟨?_, fun _ => ⟨rfl, fun _ => rfl⟩⟩
    intro haccepting
    simp [Gate.initial] at haccepting

lemma kernel_sound : kernelStore.Sound Coordinated Aligned Prepares (fun _ _ => True) KeepsClosed where
  rely_refl := fun _ => trivial
  rely_trans := fun _ _ => trivial
  section_refl := fun _ => ⟨rfl, id⟩
  section_trans := fun h h' => ⟨h'.1.trans h.1, fun hc => h'.2 (h.2 hc)⟩
  exec := by
    intro held c x s r s' hi hp hg he
    obtain ⟨hi', hkeep⟩ := exec_aligned hi hp hg he
    exact ⟨hi', trivial, hkeep⟩

/-! ### The calls -/

/-- The rest of a call whose turn it is. -/
def Fit (call : KernelCall α) (k : Kernel) : Prop :=
  kernelStore.Fits Coordinated Aligned Prepares (fun _ _ => True) KeepsClosed (fun held _ _ => held = true) true call k

lemma fit_done (r : Except KernelError α) (k : Kernel) : Fit (.done r) k := fun _ _ _ => rfl

lemma fit_ite {c : Prop} [Decidable c] {call other : KernelCall α} {k : Kernel} (h : c → Fit call k)
    (h' : ¬c → Fit other k) : Fit (if c then call else other) k := by
  split
  · next hc => exact h hc
  · next hc => exact h' hc

lemma fit_andThen {call : KernelCall α} {f : Except KernelError α → KernelCall β} {k : Kernel} (hi : Aligned k)
    (h : Fit call k) (hf : ∀ r k', Aligned k' → Fit (f r) k') : Fit (call.andThen f) k := by
  refine kernel_sound.fits_andThen hi ?_
  refine Store.fits_mono ?_ h
  rintro held r s hs rfl
  exact hf r s hs

lemma fit_bind {call : KernelCall α} {f : α → KernelCall β} {k : Kernel} (hi : Aligned k) (h : Fit call k)
    (hf : ∀ a k', Aligned k' → Fit (f a) k') : Fit (call >>= f) k := by
  refine fit_andThen hi h ?_
  intro r k' hk'
  cases r with
  | ok a => exact hf a k' hk'
  | error e => exact fit_done _ _

/-- One step and what follows it. -/
lemma fit_step_bind {s : KernelStep} {f : s.Reply → KernelCall α} {k : Kernel}
    (hp : ∀ k', KeepsClosed k k' → Aligned k' → Prepares true s k')
    (hf : ∀ k' x r k'', KeepsClosed k k' → s.exec x k' = .ok (r, k'') → Aligned k'' → Fit (f r) k'') :
    Fit (SubjectKernel.step s >>= f) k := by
  intro k' hr hi
  refine ⟨hp k' hr hi, ?_, ?_⟩
  · intro x r k'' _ he hi'
    exact hf k' x r k'' hr he hi'
  · intro e
    exact fit_done _ _

lemma fit_step {s : KernelStep} {k : Kernel} (hp : ∀ k', KeepsClosed k k' → Aligned k' → Prepares true s k') :
    Fit (SubjectKernel.step s) k := by
  intro k' hr hi
  refine ⟨hp k' hr hi, ?_, ?_⟩
  · intro x r k'' _ he hi'
    exact fit_done _ _
  · intro e
    exact fit_done _ _

lemma fit_onRaise {body : KernelCall α} {cleanup : KernelCall Unit} {k : Kernel} (hi : Aligned k) (h : Fit body k)
    (hc : ∀ k', Aligned k' → Fit cleanup k') : Fit (body.onRaise cleanup) k := by
  refine fit_andThen hi h ?_
  intro r k' hk'
  cases r with
  | ok a => exact fit_done _ _
  | error e => exact fit_andThen hk' (hc k' hk') (fun _ _ _ => fit_done _ _)

lemma fit_ensuring {body close : KernelCall Unit} {k : Kernel} (hi : Aligned k) (h : Fit body k)
    (hc : ∀ k', Aligned k' → Fit close k') : Fit (SubjectKernel.ensuring body close) k := by
  refine fit_andThen hi h ?_
  intro r k' hk'
  exact fit_andThen hk' (hc k' hk') (fun _ _ _ => fit_done _ _)

/-- Steps that need no preparation. -/
def Plain (s : KernelStep) : Prop := ∀ k, Prepares true s k

lemma fit_plain_bind {s : KernelStep} {f : s.Reply → KernelCall α} {k : Kernel} (hs : Plain s)
    (hf : ∀ r k', Aligned k' → Fit (f r) k') : Fit (SubjectKernel.step s >>= f) k :=
  fit_step_bind (fun k' _ _ => hs k') (fun _ _ r k'' _ _ hi => hf r k'' hi)

lemma fit_plain {s : KernelStep} {k : Kernel} (hs : Plain s) : Fit (SubjectKernel.step s) k :=
  fit_step (fun k' _ _ => hs k')

/-- A state that an active subject cannot move to. -/
lemma plain_transition {state : LifecycleState} (h : state ∉ LifecycleState.active.allowed) :
    Plain (.transition state) := fun _ => ⟨rfl, .inr (.inr h)⟩

lemma plain_activate : Plain (.transition .active) := fun _ => ⟨rfl, .inl rfl⟩

lemma exec_accepting_of_invalidate {x : KernelReading} {k k' : Kernel} {s : KernelStep} {r : s.Reply}
    (hs : s = .invalidate ∨ s = .quarantine ∨ s = .beginDrain) (h : s.exec x k = .ok (r, k')) :
    k'.gate.accepting = false := by
  have hrun := exec_run h
  rcases hs with rfl | rfl | rfl <;> cases hrun <;> rfl

/-- A step that reads. -/
lemma exec_same {x : KernelReading} {k k' : Kernel} {s : KernelStep} {r : s.Reply}
    (hs : s = .work ∨ s = .current) (h : s.exec x k = .ok (r, k')) : k' = k := by
  have hrun := exec_run h
  rcases hs with rfl | rfl <;> cases hrun <;> rfl

lemma exec_current {x : KernelReading} {k k' : Kernel} {r : LifecycleState}
    (h : KernelStep.exec .current x k = .ok (r, k')) : r = k.lifecycle ∧ k' = k := by
  have hrun := exec_run h
  cases hrun
  exact ⟨rfl, rfl⟩

lemma exec_transition {x : KernelReading} {k k' : Kernel} {state : LifecycleState} {r : Unit}
    (h : KernelStep.exec (.transition state) x k = .ok (r, k')) : k'.lifecycle = state ∧ k'.gate = k.gate := by
  obtain ⟨-, -, hrun⟩ := bind_eq_ok.mp (exec_run h)
  cases hrun
  exact ⟨rfl, rfl⟩

lemma fit_recoverFrom (current : LifecycleState) {k : Kernel} : Fit (SubjectKernel.recoverFrom current) k := by
  refine fit_ite (fun _ => fit_done _ _) (fun _ => fit_ite ?_ ?_)
  · intro _
    exact fit_plain (plain_transition (by decide))
  · intro _
    exact fit_plain (fun _ => rfl)

lemma fit_boot {k : Kernel} : Fit SubjectKernel.boot k := by
  refine fit_plain_bind (fun _ => rfl) ?_
  intro _ k₁ hi₁
  refine fit_onRaise hi₁ ?_ (fun _ _ => fit_plain (fun _ => rfl))
  refine fit_plain_bind (fun _ => rfl) ?_
  intro _ k₂ _
  refine fit_plain_bind (fun _ => rfl) ?_
  intro _ k₃ _
  refine fit_plain_bind (fun _ => rfl) ?_
  intro _ k₄ _
  refine fit_plain_bind (fun _ => rfl) ?_
  intro current k₅ hi₅
  exact fit_bind hi₅ (fit_recoverFrom current) (fun _ _ _ => fit_plain (fun _ => rfl))

lemma fit_orient {k : Kernel} : Fit SubjectKernel.orient k := by
  refine fit_plain_bind (fun _ => rfl) ?_
  intro _ k₁ _
  refine fit_plain_bind (plain_transition (by decide)) ?_
  intro _ k₂ _
  exact fit_plain (fun _ => rfl)

/-- The gate is opened after the lifecycle has become active. -/
lemma fit_activate {k : Kernel} : Fit SubjectKernel.activate k := by
  refine fit_plain_bind (fun _ => rfl) ?_
  intro _ k₁ _
  refine fit_step_bind (fun k' _ _ => plain_activate k') ?_
  intro k₁' x r k₂ _ he _
  have hactive := (exec_transition he).1
  refine fit_step_bind (fun _ _ _ => rfl) ?_
  intro k₂' y r' k₃ hkeep he' _
  have hsame := exec_same (.inl rfl) he'
  refine fit_step ?_
  intro k₃' hkeep' _
  refine ⟨rfl, ?_⟩
  rw [hkeep'.1, hsame, hkeep.1, hactive]

lemma fit_reopenActive {k : Kernel} : Fit SubjectKernel.reopenActive k := by
  refine fit_step_bind (fun _ _ _ => rfl) ?_
  intro k' x (r : LifecycleState) k₁ _ he _
  obtain ⟨hr, rfl⟩ := exec_current he
  refine fit_ite ?_ (fun _ => fit_done _ _)
  intro hactive
  refine fit_step ?_
  intro k₂ hkeep _
  exact ⟨rfl, by rw [hkeep.1, ← hr, hactive]⟩

/-- The lifecycle leaves `active` after the gate has been closed. -/
lemma fit_pause {k : Kernel} : Fit SubjectKernel.pause k := by
  refine fit_plain_bind (fun _ => rfl) ?_
  intro _ k₁ _
  refine fit_step_bind (fun _ _ _ => rfl) ?_
  intro k₁' x r k₂ _ he _
  have hclosed := exec_accepting_of_invalidate (.inl rfl) he
  refine fit_step_bind (fun _ _ _ => rfl) ?_
  intro k₂' y (current : LifecycleState) k₃ hkeep he' hi₃
  have hsame := exec_same (.inr rfl) he'
  have hclosed₃ : k₃.gate.accepting = false := by
    rw [hsame]
    exact hkeep.2 hclosed
  refine fit_ite (fun _ => fit_done _ _) ?_
  intro _
  refine fit_onRaise hi₃ ?_ (fun _ _ => fit_reopenActive)
  refine fit_step_bind ?_ (fun _ _ _ _ _ _ _ => fit_plain (fun _ => rfl))
  intro k₄ hkeep' _
  exact ⟨rfl, .inr (.inl (hkeep'.2 hclosed₃))⟩

lemma fit_safePauseFrom (current : LifecycleState) {k : Kernel} (hclosed : k.gate.accepting = false) :
    Fit (SubjectKernel.safePauseFrom current) k := by
  refine fit_ite (fun _ => fit_done _ _) (fun _ => fit_ite (fun _ => fit_done _ _) ?_)
  intro _ k' hkeep hi
  refine ⟨⟨rfl, .inr (.inl (hkeep.2 hclosed))⟩, ?_, ?_⟩
  · intro x r k'' _ _ _
    exact fit_done _ _
  · intro e
    refine fit_ite ?_ (fun _ => fit_done _ _)
    intro _
    refine fit_step ?_
    intro k'' hkeep' _
    exact ⟨rfl, hkeep'.2 (hkeep.2 hclosed)⟩

lemma fit_safePause {k : Kernel} : Fit SubjectKernel.safePause k := by
  refine fit_plain_bind (fun _ => rfl) ?_
  intro _ k₁ _
  refine fit_step_bind (fun _ _ _ => rfl) ?_
  intro k₁' x r k₂ _ he _
  have hclosed := exec_accepting_of_invalidate (.inr (.inl rfl)) he
  refine fit_step_bind (fun _ _ _ => rfl) ?_
  intro k₂' y (current : LifecycleState) k₃ hkeep he' hi₃
  have hsame := exec_same (.inr rfl) he'
  have hclosed₃ : k₃.gate.accepting = false := by
    rw [hsame]
    exact hkeep.2 hclosed
  exact fit_bind hi₃ (fit_safePauseFrom current hclosed₃) (fun _ _ _ => fit_plain (fun _ => rfl))

lemma fit_close {k : Kernel} : Fit SubjectKernel.close k :=
  fit_plain_bind (fun _ => rfl) (fun _ _ _ => fit_plain (fun _ => rfl))

lemma fit_stop {k : Kernel} : Fit SubjectKernel.stop k := by
  refine fit_plain_bind (fun _ => rfl) ?_
  intro _ k₁ _
  refine fit_step_bind (fun _ _ _ => rfl) ?_
  intro k₁' x r k₂ _ he hi₂
  have hclosed := exec_accepting_of_invalidate (.inr (.inr rfl)) he
  refine fit_ensuring hi₂ ?_ (fun _ _ => fit_close)
  refine fit_step_bind ?_ (fun _ _ _ _ _ _ _ => fit_plain (fun _ => rfl))
  intro k₃ hkeep _
  exact ⟨rfl, .inr (.inl (hkeep.2 hclosed))⟩

lemma fit_controlled {body : KernelCall Unit} {k : Kernel} (h : ∀ k', Aligned k' → Fit body k') :
    Fit (CutoverCalls.controlled body) k := by
  refine fit_plain_bind (fun _ => rfl) ?_
  intro _ k₁ hi₁
  exact fit_ensuring hi₁ (h k₁ hi₁) (fun _ _ => fit_plain (fun _ => rfl))

lemma fit_run {k : Kernel} : Fit CutoverCalls.run k := by
  refine fit_plain_bind (fun _ => rfl) ?_
  intro _ k₁ _
  refine fit_controlled ?_
  intro k₂ _
  refine fit_plain_bind (fun _ => rfl) ?_
  intro fence k₃ hi₃
  refine fit_bind hi₃ ?_ (fun _ _ _ => fit_plain (fun _ => rfl))
  exact fit_onRaise hi₃ (fit_plain (fun _ => rfl)) (fun _ _ => fit_plain (fun _ => rfl))

lemma fit_commit {k : Kernel} : Fit CutoverCalls.commit k := by
  refine fit_plain_bind (fun _ => rfl) ?_
  intro _ k₁ _
  refine fit_controlled ?_
  intro k₂ _
  refine fit_plain_bind (fun _ => rfl) ?_
  intro _ k₃ _
  exact fit_plain_bind (fun _ => rfl) (fun _ _ _ => fit_plain (fun _ => rfl))

lemma fit_rollback {k : Kernel} : Fit CutoverCalls.rollback k := by
  refine fit_controlled ?_
  intro k₁ _
  refine fit_plain_bind (fun _ => rfl) ?_
  intro _ k₂ _
  refine fit_plain_bind (fun _ => rfl) ?_
  intro fence k₃ _
  cases fence with
  | none => exact fit_done _ _
  | some fence => exact fit_plain (fun _ => rfl)

lemma fit_control (c : ControlCall) {k : Kernel} : Fit c.call k := by
  cases c with
  | boot => exact fit_boot
  | orient => exact fit_orient
  | activate => exact fit_activate
  | pause => exact fit_pause
  | safePause => exact fit_safePause
  | resume => exact fit_activate
  | stop => exact fit_stop
  | close => exact fit_close
  | run => exact fit_run
  | commit => exact fit_commit
  | rollback => exact fit_rollback

lemma fits_entry (e : KernelEntry) (k : Kernel) :
    kernelStore.Fits Coordinated Aligned Prepares (fun _ _ => True) KeepsClosed (fun _ _ _ => True) false e.call k := by
  have hfree : ∀ s : KernelStep, (∀ k', Prepares false s k') →
      kernelStore.Fits Coordinated Aligned Prepares (fun _ _ => True) KeepsClosed (fun _ _ _ => True) false
        (SubjectKernel.step s) k := by
    intro s hs
    exact Store.fits_command (fun _ _ _ => trivial) (fun k' _ _ => hs k') (fun _ _ _ _ _ _ _ _ _ _ _ => trivial)
  cases e with
  | control c =>
    refine Store.fits_exclusively kernel_sound (fun _ _ => trivial) ?_
    intro k' _ _
    exact Store.fits_mono (fun _ _ _ _ _ => trivial) (fit_control c)
  | begin kind allowQuarantine => exact hfree _ (fun _ => trivial)
  | finish => exact hfree _ (fun _ => trivial)
  | newProcess => exact hfree _ (fun _ => trivial)

/-! ### Runs -/

/-- The gate admits an ordinary operation. -/
def Admits (k : Kernel) : Prop :=
  ∃ kind operationId owned lease gate, k.gate.start kind operationId false owned = .ok (lease, gate)

/-- In a run whose fences are cleared and restarts recorded in coordination, an ordinary operation is admitted
only while the subject is active. -/
theorem admission_follows_lifecycle
    {s : Store.Running Kernel KernelReading KernelStep.Reply KernelError}
    (h : kernelMachine.ReachableUnder (Store.Guarded Coordinated) s) (ha : Admits s.state) :
    s.state.lifecycle = .active := by
  have hinit : ∀ k : Kernel,
      (∃ subjectId lifecycle version, k = ⟨.initial subjectId false, lifecycle, version, false⟩) → Aligned k := by
    rintro k ⟨subjectId, lifecycle, version, rfl⟩ haccepting
    simp [Gate.initial] at haccepting
  have hhealthy := Store.healthy_of_reachable kernel_sound hinit (fun e k _ => fits_entry e k) h
  obtain ⟨kind, operationId, owned, lease, gate, hstart⟩ := ha
  exact hhealthy.state ((start_accepting hstart).2 rfl)

/-- The environment lets the step succeed. -/
def fine : KernelReading := ⟨none, true, "operation"⟩

/-- The environment lets the step raise. -/
def failing : KernelReading := ⟨some .other, true, "operation"⟩

def newKernel : Store.Running Kernel KernelReading KernelStep.Reply KernelError :=
  ⟨⟨.initial "subject" false, .stopped, 0, false⟩, [], none, []⟩

lemma newKernel_init : kernelMachine.init newKernel := ⟨⟨"subject", .stopped, 0, rfl⟩, rfl, rfl, rfl⟩

/-- The call is the `i`-th one and takes these steps, entering and leaving its turn included. -/
def turn (i : Nat) (c : ControlCall) (readings : List KernelReading) : List (Store.Move KernelEntry KernelReading) :=
  .start (.control c) :: readings.map (.advance i)

def activated : List (Store.Move KernelEntry KernelReading) :=
  turn 0 .boot (List.replicate 9 fine) ++ turn 1 .activate (List.replicate 6 fine)

/-- After a pause, the reservation of a migration fails and the fence is cleared. -/
def failedMigration : List (Store.Move KernelEntry KernelReading) :=
  activated ++ turn 2 .pause (List.replicate 7 fine) ++
    turn 3 .run [fine, fine, fine, fine, failing, fine, fine, fine]

lemma failedMigration_state : (failedMigration.foldl kernelMachine.step newKernel).state =
    ⟨⟨"subject", 4, 0, true, false, false, false, none, false⟩, .paused, 3, true⟩ := by
  decide

theorem paused_subject_admits :
    ¬∀ s, kernelMachine.Reachable s → Admits s.state → s.state.lifecycle = .active := by
  intro h
  have hactive := h _ (Machine.reachable_foldl newKernel_init failedMigration)
  rw [failedMigration_state] at hactive
  have hadmits : Admits ⟨⟨"subject", 4, 0, true, false, false, false, none, false⟩, .paused, 3, true⟩ :=
    ⟨"work", "operation", some true, _, _, rfl⟩
  exact absurd (hactive hadmits) (by decide)

lemma activated_state : (activated.foldl kernelMachine.step newKernel).state =
    ⟨⟨"subject", 2, 0, true, false, false, false, none, false⟩, .active, 2, true⟩ := by
  decide

theorem admission_follows_lifecycle_activated :
    Admits (activated.foldl kernelMachine.step newKernel).state ∧
      (activated.foldl kernelMachine.step newKernel).state.lifecycle = .active := by
  have hadmits : Admits (activated.foldl kernelMachine.step newKernel).state := by
    rw [activated_state]
    exact ⟨"work", "operation", some true, _, _, rfl⟩
  refine ⟨hadmits, admission_follows_lifecycle ?_ hadmits⟩
  exact Machine.reachableUnder_foldl newKernel_init activated (by decide)

end Noyra.Core.Proofs
