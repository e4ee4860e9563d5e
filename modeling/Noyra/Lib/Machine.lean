import Mathlib.Logic.Basic

/-!
# Labelled machines and their guarded runs

A machine takes one action at a time from an initial state. A run may be restricted by a guard
on the action and the state it is taken from; the invariant rule is stated for guarded runs and
specialises to all runs when the guard is trivial.
-/

namespace Noyra.Lib

/-- A deterministic labelled machine. Nondeterminism of the environment is part of the label. -/
structure Machine (σ α : Type) where
  init : σ → Prop
  step : σ → α → σ

namespace Machine

variable {σ α : Type} (M : Machine σ α)

/-- `Run guard as s`: the actions `as`, in this order and each meeting `guard` in the state it
is taken from, lead from an initial state to `s`. -/
inductive Run (guard : σ → α → Prop) : List α → σ → Prop
  | start {s : σ} : M.init s → Run guard [] s
  | next {as : List α} {s : σ} {a : α} : Run guard as s → guard s a → Run guard (as ++ [a]) (M.step s a)

/-- Reachable by some run all of whose steps meet the guard. -/
def ReachableUnder (guard : σ → α → Prop) (s : σ) : Prop := ∃ as, M.Run guard as s

/-- Reachable by some run. -/
def Reachable (s : σ) : Prop := M.ReachableUnder (fun _ _ => True) s

variable {M}

/-- The invariant rule for guarded runs. -/
theorem ReachableUnder.invariant {guard : σ → α → Prop} {I : σ → Prop} (hinit : ∀ s, M.init s → I s)
    (hstep : ∀ s a, I s → guard s a → I (M.step s a)) {s : σ} (h : M.ReachableUnder guard s) : I s := by
  obtain ⟨as, hr⟩ := h
  induction hr with
  | start h0 => exact hinit _ h0
  | next _ hg ih => exact hstep _ _ ih hg

theorem ReachableUnder.mono {guard guard' : σ → α → Prop} (hg : ∀ s a, guard s a → guard' s a)
    {s : σ} (h : M.ReachableUnder guard s) : M.ReachableUnder guard' s := by
  obtain ⟨as, hr⟩ := h
  refine ⟨as, ?_⟩
  induction hr with
  | start h0 => exact .start h0
  | next _ h' ih => exact .next ih (hg _ _ h')

theorem ReachableUnder.reachable {guard : σ → α → Prop} {s : σ} (h : M.ReachableUnder guard s) :
    M.Reachable s :=
  h.mono (fun _ _ _ => trivial)

variable (M)

/-- Every action meets the guard in the state it is taken from. -/
def Meets (guard : σ → α → Prop) : σ → List α → Prop
  | _, [] => True
  | s, a :: as => guard s a ∧ Meets guard (M.step s a) as

instance Meets.decidable (guard : σ → α → Prop) [∀ s a, Decidable (guard s a)] :
    ∀ s as, Decidable (M.Meets guard s as)
  | _, [] => inferInstanceAs (Decidable True)
  | s, a :: as =>
    have := Meets.decidable guard (M.step s a) as
    inferInstanceAs (Decidable (guard s a ∧ M.Meets guard (M.step s a) as))

variable {M}

/-- A guard on the actions alone is checked action by action. -/
theorem Meets.and {guard : σ → α → Prop} {allowed : α → Prop} {s : σ} {as : List α} (h : M.Meets guard s as)
    (ha : ∀ a ∈ as, allowed a) : M.Meets (fun s a => guard s a ∧ allowed a) s as := by
  induction as generalizing s with
  | nil => trivial
  | cons a as ih =>
    exact ⟨⟨h.1, ha a List.mem_cons_self⟩, ih h.2 (fun x hx => ha x (List.mem_cons_of_mem a hx))⟩

theorem Meets.of_forall {guard : σ → α → Prop} {s : σ} {as : List α} (h : ∀ a ∈ as, ∀ s, guard s a) :
    M.Meets guard s as := by
  induction as generalizing s with
  | nil => trivial
  | cons a as ih => exact ⟨h a List.mem_cons_self s, ih (fun x hx => h x (List.mem_cons_of_mem a hx))⟩

/-- Running a list of actions that meet the guard reaches its end. -/
theorem run_foldl {guard : σ → α → Prop} {before : List α} {s : σ} (h : M.Run guard before s) (as : List α)
    (hg : M.Meets guard s as) : M.Run guard (before ++ as) (as.foldl M.step s) := by
  induction as generalizing before s with
  | nil => simpa using h
  | cons a as ih =>
    have hnext := ih (.next h hg.1) hg.2
    rwa [List.append_assoc] at hnext

theorem reachableUnder_foldl {guard : σ → α → Prop} {s₀ : σ} (h : M.init s₀) (as : List α)
    (hg : M.Meets guard s₀ as) : M.ReachableUnder guard (as.foldl M.step s₀) :=
  ⟨[] ++ as, run_foldl (.start h) as hg⟩

theorem reachable_foldl {s₀ : σ} (h : M.init s₀) (as : List α) : M.Reachable (as.foldl M.step s₀) := by
  refine reachableUnder_foldl h as ?_
  clear h
  induction as generalizing s₀ with
  | nil => trivial
  | cons a as ih => exact ⟨trivial, ih⟩

end Machine

end Noyra.Lib
