import Noyra.Core.Admission

/-!
# Leases do not survive a fence

The epoch of the gate never decreases and every fencing section increases it, so that a lease begun
before one is behind the epoch for good, whatever epoch the gate is reopened with.
-/

namespace Noyra.Core.Proofs
open Noyra.Lib Noyra.Core

/-- The sections that fence the leases begun so far. -/
def Fences (s : Threads) : GateOp → Prop
  | .invalidate _ _ => True
  | .quarantine => True
  | .beginDrain => True
  | .fenceForMigration => ∃ g, s.gate.raiseFence = .ok g
  | _ => False

/-- A lease that can no longer become current. -/
def Stale (s : Threads) (lease : OperationLease) : Prop := lease.epoch < s.gate.epoch

structure Fenced (s : Threads) : Prop where
  counted : s.gate.active = s.unfinished.length
  behind : ∀ lease ∈ s.begun, lease.epoch ≤ s.gate.epoch
  fence : s.gate.migrationFenced = true ↔ s.gate.migrationFenceEpoch ≠ none
  fence_epoch : ∀ e, s.gate.migrationFenceEpoch = some e → e ≤ s.gate.epoch
  waiting_epoch : ∀ w ∈ s.waiting, w.2 ≤ s.gate.epoch
  returned_epoch : ∀ e ∈ s.returned, e ≤ s.gate.epoch
  drained : ∀ e ∈ s.returned, s.gate.migrationFenceEpoch = some e → s.unfinished = []

theorem reopen_ok {g g' : Gate} {clear : Option Bool} {epoch : Option Int} (h : g.reopen clear epoch = .ok g') :
    g.epoch ≤ g'.epoch ∧ g'.active = g.active ∧ g'.migrationFenced = false ∧ g'.migrationFenceEpoch = none := by
  obtain ⟨-, -, h⟩ := bind_eq_ok.mp h
  cases h
  refine ⟨?_, rfl, rfl, rfl⟩
  cases epoch with
  | none => exact le_rfl
  | some e => exact le_max_left g.epoch e

theorem raiseFence_ok {g g' : Gate} (h : g.raiseFence = .ok g') :
    g'.epoch = g.epoch + 1 ∧ g'.active = g.active ∧ g'.migrationFenced = true ∧
      g'.migrationFenceEpoch = some (g.epoch + 1) := by
  obtain ⟨-, -, h⟩ := bind_eq_ok.mp h
  obtain ⟨-, -, h⟩ := bind_eq_ok.mp h
  cases h
  exact ⟨rfl, rfl, rfl, rfl⟩

theorem clearQuarantine_ok {g g' : Gate} (h : g.clearQuarantine = .ok g') :
    g'.epoch = g.epoch ∧ g'.active = g.active ∧ g'.migrationFenced = g.migrationFenced ∧
      g'.migrationFenceEpoch = g.migrationFenceEpoch := by
  obtain ⟨-, -, h⟩ := bind_eq_ok.mp h
  cases h
  exact ⟨rfl, rfl, rfl, rfl⟩

theorem enterControl_ok {g g' : Gate} {owned : Option Bool} (h : g.enterControl owned = .ok g') :
    g'.epoch = g.epoch ∧ g'.active = g.active ∧ g'.migrationFenced = g.migrationFenced ∧
      g'.migrationFenceEpoch = g.migrationFenceEpoch := by
  obtain ⟨-, -, h⟩ := bind_eq_ok.mp h
  obtain ⟨-, -, h⟩ := bind_eq_ok.mp h
  obtain ⟨-, -, h⟩ := bind_eq_ok.mp h
  obtain ⟨-, -, h⟩ := bind_eq_ok.mp h
  cases h
  exact ⟨rfl, rfl, rfl, rfl⟩

theorem clearMigrationFence_ok {g g' : Gate} {fenceEpoch : Int} {clear : Option Bool}
    (h : g.clearMigrationFence fenceEpoch clear = .ok g') :
    g'.epoch = g.epoch ∧ g'.active = g.active ∧ g'.migrationFenced = false ∧ g'.migrationFenceEpoch = none := by
  obtain ⟨-, -, h⟩ := bind_eq_ok.mp h
  obtain ⟨-, -, h⟩ := bind_eq_ok.mp h
  obtain ⟨-, -, h⟩ := bind_eq_ok.mp h
  obtain ⟨-, -, h⟩ := bind_eq_ok.mp h
  cases h
  exact ⟨rfl, rfl, rfl, rfl⟩

theorem start_ok {g g' : Gate} {kind operationId : String} {allowQuarantine : Bool} {owned : Option Bool}
    {lease : OperationLease} (h : g.start kind operationId allowQuarantine owned = .ok (lease, g')) :
    g.migrationFenced = false ∧ lease.epoch = g.epoch ∧ g' = { g with active := g.active + 1 } := by
  obtain ⟨-, -, h⟩ := bind_eq_ok.mp h
  obtain ⟨-, -, h⟩ := bind_eq_ok.mp h
  obtain ⟨-, -, h⟩ := bind_eq_ok.mp h
  obtain ⟨_, hfence, h⟩ := bind_eq_ok.mp h
  obtain ⟨-, -, h⟩ := bind_eq_ok.mp h
  obtain ⟨-, -, h⟩ := bind_eq_ok.mp h
  cases h
  exact ⟨by simpa using hfence, rfl, rfl⟩

theorem assertCurrent_epoch {g : Gate} {lease : OperationLease} {owned : Option Bool} {u : Unit}
    (h : g.assertCurrent lease owned = .ok u) : lease.epoch = g.epoch := by
  obtain ⟨-, -, h⟩ := bind_eq_ok.mp h
  obtain ⟨-, -, h⟩ := bind_eq_ok.mp h
  obtain ⟨_, hepoch, h⟩ := bind_eq_ok.mp h
  exact not_not.mp (raiseIf_eq_ok.mp hepoch)

/-- The fence is left as it is, or taken down. -/
def KeepsFence (g g' : Gate) : Prop :=
  (g'.migrationFenced = g.migrationFenced ∧ g'.migrationFenceEpoch = g.migrationFenceEpoch) ∨
    (g'.migrationFenced = false ∧ g'.migrationFenceEpoch = none)

/-- Everything a section does to leases, fences and the epoch. -/
inductive Section (s : Threads) : Threads → Prop
  | quiet {s' : Threads} (epoch : s.gate.epoch ≤ s'.gate.epoch) (active : s'.gate.active = s.gate.active)
      (begun : s'.begun = s.begun) (unfinished : s'.unfinished = s.unfinished) (waiting : s'.waiting ⊆ s.waiting)
      (returned : s'.returned = s.returned) (fence : KeepsFence s.gate s'.gate) : Section s s'
  | began (lease : OperationLease) (unfenced : s.gate.migrationFenced = false) (epoch : lease.epoch = s.gate.epoch) :
      Section s { s with
        gate := { s.gate with active := s.gate.active + 1 }, begun := s.begun ++ [lease],
        unfinished := s.unfinished ++ [lease] }
  | finished (lease : OperationLease) (open_ : lease ∈ s.unfinished) :
      Section s { s with gate := s.gate.finish, unfinished := s.unfinished.erase lease }
  | raised (thread : Nat) (g : Gate) (ok : s.gate.raiseFence = .ok g) :
      Section s { s with gate := g, waiting := (thread, g.epoch) :: s.waiting }
  | returns (thread : Nat) (epoch : Int) (drained : s.gate.active = 0) (waited : (thread, epoch) ∈ s.waiting) :
      Section s { s with
        waiting := s.waiting.eraseP (fun w => w.1 == thread), returned := s.returned ++ [epoch] }

theorem Section.refl (s : Threads) : Section s s :=
  .quiet le_rfl rfl rfl rfl (fun _ h => h) rfl (.inl ⟨rfl, rfl⟩)

/-- A section on the gate alone, which may raise. -/
theorem section_attempt {s : Threads} {x : Except GateError Gate}
    (h : ∀ g, x = .ok g → s.gate.epoch ≤ g.epoch ∧ g.active = s.gate.active ∧ KeepsFence s.gate g) :
    Section s (s.attempt x) := by
  cases x with
  | error e => exact .refl s
  | ok g =>
    obtain ⟨hepoch, hactive, hfence⟩ := h g rfl
    exact .quiet hepoch hactive rfl rfl (fun _ h => h) rfl hfence

theorem section_invalidate (s : Threads) (quarantined closed : Bool) :
    Section s { s with gate := s.gate.invalidate quarantined closed } := by
  refine .quiet ?_ rfl rfl rfl (fun _ h => h) rfl (.inl ⟨rfl, rfl⟩)
  change s.gate.epoch ≤ s.gate.epoch + 1
  omega

theorem run_section (s : Threads) (thread : Nat) (op : GateOp) : Section s (s.run thread op) := by
  cases op with
  | begin kind operationId allowQuarantine owned =>
    simp only [Threads.run]
    split
    · next lease gate h =>
      obtain ⟨hfence, hepoch, rfl⟩ := start_ok h
      exact .began lease hfence hepoch
    · exact .refl s
  | finish lease =>
    simp only [Threads.run]
    split
    · next h => exact .finished lease h
    · exact .refl s
  | reopen epoch clear =>
    refine section_attempt fun g hg => ?_
    obtain ⟨hepoch, hactive, hfence⟩ := reopen_ok hg
    exact ⟨hepoch, hactive, .inr hfence⟩
  | invalidate quarantined closed => exact section_invalidate s quarantined closed
  | quarantine => exact section_invalidate s true false
  | beginDrain => exact section_invalidate s false true
  | clearQuarantine =>
    refine section_attempt fun g hg => ?_
    obtain ⟨hepoch, hactive, hfence⟩ := clearQuarantine_ok hg
    exact ⟨hepoch.ge, hactive, .inl hfence⟩
  | enterControl owned =>
    refine section_attempt fun g hg => ?_
    obtain ⟨hepoch, hactive, hfence⟩ := enterControl_ok hg
    exact ⟨hepoch.ge, hactive, .inl hfence⟩
  | leaveControl => exact .quiet le_rfl rfl rfl rfl (fun _ h => h) rfl (.inl ⟨rfl, rfl⟩)
  | fenceForMigration =>
    simp only [Threads.run]
    split
    · next g h => exact .raised thread g h
    · exact .refl s
  | drained =>
    simp only [Threads.run, Threads.fenceReturns]
    split
    · next epoch h =>
      split at h
      · next hactive =>
        obtain ⟨⟨u, e⟩, hw, rfl⟩ := Option.map_eq_some_iff.mp h
        have hu : u = thread := by simpa using List.find?_some hw
        exact .returns thread e hactive (hu ▸ List.mem_of_find?_eq_some hw)
      · cases h
    · exact .refl s
  | drainTimeout => exact .quiet le_rfl rfl rfl rfl (fun _ h => List.mem_of_mem_eraseP h) rfl (.inl ⟨rfl, rfl⟩)
  | clearMigrationFence fenceEpoch clear =>
    refine section_attempt fun g hg => ?_
    obtain ⟨hepoch, hactive, hfence⟩ := clearMigrationFence_ok hg
    exact ⟨hepoch.ge, hactive, .inr hfence⟩
  | enterScope kind lease owned =>
    simp only [Threads.run]
    split
    · exact .quiet le_rfl rfl rfl rfl (fun _ h => h) rfl (.inl ⟨rfl, rfl⟩)
    · exact .refl s
  | leaveScope => exact .quiet le_rfl rfl rfl rfl (fun _ h => h) rfl (.inl ⟨rfl, rfl⟩)

theorem step_section (s : Threads) (a : GateAction) : Section s (s.step a) := by
  unfold Threads.step
  split
  · exact .refl s
  · exact run_section s a.thread a.op

/-- No section lowers the epoch. -/
theorem Section.epoch_le {s s' : Threads} (h : Section s s') : s.gate.epoch ≤ s'.gate.epoch := by
  cases h with
  | quiet epoch => exact epoch
  | began => exact le_rfl
  | finished => exact le_rfl
  | raised thread g ok =>
    have := (raiseFence_ok ok).1
    change s.gate.epoch ≤ g.epoch
    omega
  | returns => exact le_rfl

theorem run_fences {s : Threads} {op : GateOp} (h : Fences s op) (thread : Nat) :
    s.gate.epoch < (s.run thread op).gate.epoch := by
  have hnext : s.gate.epoch < s.gate.epoch + 1 := by omega
  cases op with
  | invalidate quarantined closed => exact hnext
  | quarantine => exact hnext
  | beginDrain => exact hnext
  | fenceForMigration =>
    obtain ⟨g, hg⟩ := h
    simp only [Threads.run, hg, (raiseFence_ok hg).1]
    exact hnext
  | _ => exact absurd h id

/-- Whatever happens next, a lease behind the epoch stays behind. -/
theorem stale_run {s : Threads} {lease : OperationLease} (h : Stale s lease) (as : List GateAction) :
    Stale (as.foldl Threads.step s) lease := by
  induction as generalizing s with
  | nil => exact h
  | cons a as ih => exact ih (lt_of_lt_of_le h (step_section s a).epoch_le)

theorem assertCurrent_stale {s : Threads} {lease : OperationLease} (h : Stale s lease) (owned : Option Bool) :
    ∃ e, s.gate.assertCurrent lease owned = .error e := by
  cases hc : s.gate.assertCurrent lease owned with
  | error e => exact ⟨e, rfl⟩
  | ok u => exact absurd (assertCurrent_epoch hc) (ne_of_lt h)

theorem fenced_initial (subjectId : String) (accepting : Bool) :
    Fenced ⟨.initial subjectId accepting, [], [], [], [], []⟩ := by
  constructor <;> simp [Gate.initial]

theorem Fenced.quiet {s s' : Threads} (h : Fenced s) (hepoch : s.gate.epoch ≤ s'.gate.epoch)
    (hactive : s'.gate.active = s.gate.active) (hbegun : s'.begun = s.begun)
    (hunfinished : s'.unfinished = s.unfinished) (hwaiting : s'.waiting ⊆ s.waiting)
    (hreturned : s'.returned = s.returned) (hfence : KeepsFence s.gate s'.gate) : Fenced s' where
  counted := by rw [hactive, hunfinished, h.counted]
  behind := by
    intro lease hl
    exact (h.behind lease (hbegun ▸ hl)).trans hepoch
  fence := by
    rcases hfence with ⟨hf, he⟩ | ⟨hf, he⟩
    · rw [hf, he]
      exact h.fence
    · simp [hf, he]
  fence_epoch := by
    intro e he
    rcases hfence with ⟨-, hs⟩ | ⟨-, hs⟩
    · exact (h.fence_epoch e (hs ▸ he)).trans hepoch
    · rw [hs] at he
      cases he
  waiting_epoch := by
    intro v hv
    exact (h.waiting_epoch v (hwaiting hv)).trans hepoch
  returned_epoch := by
    intro e he
    exact (h.returned_epoch e (hreturned ▸ he)).trans hepoch
  drained := by
    intro e he hf
    rw [hunfinished]
    rcases hfence with ⟨-, hs⟩ | ⟨-, hs⟩
    · exact h.drained e (hreturned ▸ he) (hs ▸ hf)
    · rw [hs] at hf
      cases hf

theorem Fenced.began {s : Threads} (h : Fenced s) (lease : OperationLease)
    (hf : s.gate.migrationFenced = false) (he : lease.epoch = s.gate.epoch) :
    Fenced { s with
      gate := { s.gate with active := s.gate.active + 1 }, begun := s.begun ++ [lease],
      unfinished := s.unfinished ++ [lease] } where
  counted := by simp [h.counted]
  behind := by
    intro l hl
    rcases List.mem_append.mp hl with hl | hl
    · exact h.behind l hl
    · rw [List.mem_singleton.mp hl]
      exact he.le
  fence := h.fence
  fence_epoch := h.fence_epoch
  waiting_epoch := h.waiting_epoch
  returned_epoch := h.returned_epoch
  drained := by
    intro e _ hs
    have hup := h.fence.mpr (by rw [hs]; simp)
    rw [hf] at hup
    cases hup

theorem Fenced.finished {s : Threads} (h : Fenced s) (lease : OperationLease) (hl : lease ∈ s.unfinished) :
    Fenced { s with gate := s.gate.finish, unfinished := s.unfinished.erase lease } where
  counted := by
    change s.gate.active - 1 = (s.unfinished.erase lease).length
    rw [List.length_erase_of_mem hl, h.counted]
  behind := h.behind
  fence := h.fence
  fence_epoch := h.fence_epoch
  waiting_epoch := h.waiting_epoch
  returned_epoch := h.returned_epoch
  drained := by
    intro e he hs
    have hnone := h.drained e he hs
    rw [hnone] at hl
    cases hl

/-- A new fence has an epoch of its own, so that no earlier return speaks about it. -/
theorem Fenced.raised {s : Threads} (h : Fenced s) (thread : Nat) (g : Gate) (hg : s.gate.raiseFence = .ok g) :
    Fenced { s with gate := g, waiting := (thread, g.epoch) :: s.waiting } := by
  obtain ⟨hepoch, hactive, hfenced, hfence⟩ := raiseFence_ok hg
  have hle : s.gate.epoch ≤ g.epoch := by omega
  refine ⟨hactive.trans h.counted, ?_, ?_, ?_, ?_, ?_, ?_⟩
  · intro lease hl
    exact (h.behind lease hl).trans hle
  · simp [hfenced, hfence]
  · intro e he
    rw [hfence] at he
    cases he
    exact hepoch.ge
  · intro v hv
    rcases List.mem_cons.mp hv with rfl | hv
    · exact le_rfl
    · exact (h.waiting_epoch v hv).trans hle
  · intro e he
    exact (h.returned_epoch e he).trans hle
  · intro e he hs
    have hold := h.returned_epoch e he
    rw [hfence] at hs
    cases hs
    omega

theorem Fenced.returns {s : Threads} (h : Fenced s) (thread : Nat) (epoch : Int) (hactive : s.gate.active = 0)
    (hw : (thread, epoch) ∈ s.waiting) :
    Fenced { s with
      waiting := s.waiting.eraseP (fun w => w.1 == thread), returned := s.returned ++ [epoch] } where
  counted := h.counted
  behind := h.behind
  fence := h.fence
  fence_epoch := h.fence_epoch
  waiting_epoch := fun v hv => h.waiting_epoch v (List.mem_of_mem_eraseP hv)
  returned_epoch := by
    intro e he
    rcases List.mem_append.mp he with he | he
    · exact h.returned_epoch e he
    · rw [List.mem_singleton.mp he]
      exact h.waiting_epoch _ hw
  drained := by
    intro e _ _
    exact List.eq_nil_of_length_eq_zero (h.counted.symm.trans hactive)

theorem Fenced.next {s s' : Threads} (h : Fenced s) (hs : Section s s') : Fenced s' := by
  cases hs with
  | quiet epoch active begun unfinished waiting returned fence =>
    exact h.quiet epoch active begun unfinished waiting returned fence
  | began lease unfenced epoch => exact h.began lease unfenced epoch
  | finished lease open_ => exact h.finished lease open_
  | raised thread g ok => exact h.raised thread g ok
  | returns thread epoch drained waited => exact h.returns thread epoch drained waited

theorem reachable_fenced {s : Threads} (h : gateMachine.Reachable s) : Fenced s := by
  refine h.invariant ?_ ?_
  · rintro s ⟨subjectId, accepting, rfl⟩
    exact fenced_initial subjectId accepting
  · intro s a hs _
    exact hs.next (step_section s a)

/-- A fencing section makes every lease begun before it stale for good; `fence_for_migration` returns only when
no lease is unfinished, which stays so until its fence is taken down; behind a fence no lease begins. -/
theorem leases_fenced (s : Threads) (h : gateMachine.Reachable s) :
    (∀ a : GateAction, s.blocked a.thread = false → Fences s a.op → ∀ lease ∈ s.begun, ∀ (as : List GateAction)
      (owned : Option Bool), ∃ e, (as.foldl Threads.step (s.step a)).gate.assertCurrent lease owned = .error e) ∧
    (∀ thread epoch, s.fenceReturns thread = some epoch → s.unfinished = []) ∧
    (∀ epoch ∈ s.returned, s.gate.migrationFenceEpoch = some epoch → s.unfinished = []) ∧
    (s.gate.migrationFenced = true → ∀ kind operationId allowQuarantine owned,
      ∃ e, s.gate.start kind operationId allowQuarantine owned = .error e) := by
  have hs := reachable_fenced h
  refine ⟨?_, ?_, hs.drained, ?_⟩
  · intro a hfree hf lease hl as owned
    refine assertCurrent_stale (stale_run ?_ as) owned
    have hbehind := hs.behind lease hl
    have hnext := run_fences hf a.thread
    unfold Stale Threads.step
    rw [if_neg (by simp [hfree])]
    omega
  · intro thread epoch hr
    unfold Threads.fenceReturns at hr
    split at hr
    · next hactive => exact List.eq_nil_of_length_eq_zero (hs.counted.symm.trans hactive)
    · cases hr
  · intro hf kind operationId allowQuarantine owned
    cases hr : s.gate.start kind operationId allowQuarantine owned with
    | error e => exact ⟨e, rfl⟩
    | ok p =>
      have := (start_ok hr).1
      rw [hf] at this
      cases this

/-- Two threads: one begins a lease and finishes it after another has raised the fence and waits for it. -/
def sampleDrain : List GateAction :=
  [⟨0, .begin "tick" "op-1" false none⟩, ⟨1, .enterControl none⟩, ⟨1, .fenceForMigration⟩,
    ⟨0, .enterScope .commit ⟨"subject-1", 0, "op-1", "tick", false⟩ none⟩,
    ⟨0, .finish ⟨"subject-1", 0, "op-1", "tick", false⟩⟩]

def sampleThreads (actions : List GateAction) : Threads :=
  actions.foldl Threads.step ⟨.initial "subject-1" true, [], [], [], [], []⟩

theorem sampleThreads_reachable (actions : List GateAction) : gateMachine.Reachable (sampleThreads actions) :=
  Machine.reachable_foldl (M := gateMachine) ⟨"subject-1", true, rfl⟩ actions

theorem leases_fenced_after_drain :
    (sampleThreads (sampleDrain.take 3)).fenceReturns 1 = none ∧ (sampleThreads sampleDrain).scopes = [] ∧
      (sampleThreads sampleDrain).fenceReturns 1 = some 1 ∧ (sampleThreads sampleDrain).unfinished = [] :=
  ⟨by decide, by decide, by decide,
    (leases_fenced (sampleThreads sampleDrain) (sampleThreads_reachable sampleDrain)).2.1 1 1 (by decide)⟩

end Noyra.Core.Proofs
