import Mathlib.Algebra.BigOperators.Group.List.Basic
import Mathlib.Algebra.Group.Int.Defs
import Mathlib.Algebra.Order.BigOperators.Group.List
import Mathlib.Algebra.Order.Group.Nat
import Mathlib.Algebra.Ring.Nat
import Mathlib.Data.List.Sort
import Mathlib.Tactic.Lemma

/-!
# Limits over a sliding window

Events start at an instant and are charged until the window has passed. A history each of whose events fitted when it
started never exceeds the limit in any window, in whatever order the events started. A full history is released by the
first event, in the order of the starts, after which the rest fits.
-/

namespace Noyra.Lib

section SlidingWindow
variable {ρ : Type} (start : ρ → ℤ) (cost : ρ → ℕ) (window : ℤ)

/-- What the events still inside the window at `t` cost, later ones included. -/
def load (rows : List ρ) (t : ℤ) : ℕ := ((rows.filter (fun r => decide (t < start r + window))).map cost).sum

/-- What the events that started in the window before `t` cost. -/
def windowLoad (rows : List ρ) (t : ℤ) : ℕ :=
  ((rows.filter (fun r => decide (t - window < start r) && decide (start r ≤ t))).map cost).sum

/-- Each event fitted when it started, among those recorded before it, and costs at most what was charged for it. -/
inductive Paced (limit charge : ℕ) : List ρ → Prop
  | nil : Paced limit charge []
  | snoc {rows : List ρ} {r : ρ} : Paced limit charge rows → load start cost window rows (start r) + charge ≤ limit →
      cost r ≤ charge → Paced limit charge (rows ++ [r])

variable {start cost window}

lemma load_cons (r : ρ) (rows : List ρ) (t : ℤ) :
    load start cost window (r :: rows) t =
      (if t < start r + window then cost r else 0) + load start cost window rows t := by
  unfold load
  rw [List.filter_cons]
  by_cases h : t < start r + window
  · rw [if_pos (decide_eq_true h), List.map_cons, List.sum_cons, if_pos h]
  · rw [if_neg (by rwa [decide_eq_true_eq]), if_neg h, Nat.zero_add]

lemma load_perm {rows rows' : List ρ} (h : rows.Perm rows') (t : ℤ) :
    load start cost window rows t = load start cost window rows' t := ((h.filter _).map cost).sum_eq

lemma load_le_total (rows : List ρ) (t : ℤ) : load start cost window rows t ≤ (rows.map cost).sum := by
  induction rows with
  | nil => exact Nat.le_refl 0
  | cons r rows ih =>
    rw [load_cons, List.map_cons, List.sum_cons]
    split <;> omega

/-- Before any event leaves the window, all of them are charged. -/
lemma load_eq_total {rows : List ρ} {t : ℤ} (h : ∀ r ∈ rows, t < start r + window) :
    load start cost window rows t = (rows.map cost).sum := by
  unfold load
  rw [List.filter_eq_self.mpr (fun r hr => decide_eq_true (h r hr))]

/-- A window that ends no earlier than an event starts is charged when the event starts. -/
lemma windowLoad_le_load (rows : List ρ) {t u : ℤ} (h : u ≤ t) :
    windowLoad start cost window rows t ≤ load start cost window rows u := by
  unfold windowLoad load
  have hsub : List.Sublist (rows.filter (fun r => decide (t - window < start r) && decide (start r ≤ t)))
      (rows.filter (fun r => decide (u < start r + window))) := by
    refine List.monotone_filter_right rows fun r hr => ?_
    rw [Bool.and_eq_true, decide_eq_true_eq, decide_eq_true_eq] at hr
    exact decide_eq_true (by omega)
  exact (hsub.map cost).sum_le_sum (fun _ _ => Nat.zero_le _)

/-- The limit holds in every window. The last event recorded in it was charged with all the others. -/
theorem Paced.windowLoad_le {limit charge : ℕ} {rows : List ρ} (h : Paced start cost window limit charge rows) (t : ℤ) :
    windowLoad start cost window rows t ≤ limit := by
  induction h with
  | nil => exact Nat.zero_le _
  | @snoc rows r _ hfits hcost ih =>
    have hsplit : windowLoad start cost window (rows ++ [r]) t =
        windowLoad start cost window rows t + windowLoad start cost window [r] t := by
      unfold windowLoad
      rw [List.filter_append, List.map_append, List.sum_append]
    rw [hsplit]
    by_cases hin : t - window < start r ∧ start r ≤ t
    · have hone : windowLoad start cost window [r] t ≤ cost r := by
        unfold windowLoad
        rw [List.filter_singleton, decide_eq_true hin.1, decide_eq_true hin.2]
        simp
      have hrest : windowLoad start cost window rows t ≤ load start cost window rows (start r) :=
        windowLoad_le_load rows hin.2
      omega
    · have hzero : windowLoad start cost window [r] t = 0 := by
        unfold windowLoad
        rw [List.filter_singleton, ← Bool.decide_and, decide_eq_false hin]
        rfl
      omega

lemma load_map_le {rows : List ρ} {f : ρ → ρ} (h : ∀ r ∈ rows, start (f r) = start r ∧ cost (f r) ≤ cost r) (t : ℤ) :
    load start cost window (rows.map f) t ≤ load start cost window rows t := by
  induction rows with
  | nil => exact Nat.le_refl _
  | cons r rows ih =>
    obtain ⟨hstart, hcost⟩ := h r List.mem_cons_self
    have hrest := ih (fun x hx => h x (List.mem_cons_of_mem r hx))
    rw [List.map_cons, load_cons, load_cons, hstart]
    split <;> omega

/-- Events may become cheaper afterwards. -/
theorem Paced.map {limit charge : ℕ} {rows : List ρ} (h : Paced start cost window limit charge rows) {f : ρ → ρ}
    (hf : ∀ r ∈ rows, start (f r) = start r ∧ cost (f r) ≤ cost r) :
    Paced start cost window limit charge (rows.map f) := by
  induction h with
  | nil => exact .nil
  | @snoc rows r _ hfits hle ih =>
    have hrows : ∀ x ∈ rows, start (f x) = start x ∧ cost (f x) ≤ cost x := fun x hx => hf x (List.mem_append_left _ hx)
    obtain ⟨hstart, hcost⟩ := hf r (List.mem_append_right _ (List.mem_singleton_self r))
    rw [List.map_append, List.map_singleton]
    refine .snoc (ih hrows) ?_ (hcost.trans hle)
    rw [hstart]
    exact (Nat.add_le_add_right (load_map_le hrows _) _).trans hfits

/-- The first event, in this order, after which the rest of the charges fits. -/
def release (cost : ρ → ℕ) (limit charge : ℕ) : ℕ → List ρ → Option ρ
  | _, [] => none
  | outstanding, r :: rest =>
    if outstanding - cost r + charge ≤ limit then some r else release cost limit charge (outstanding - cost r) rest

/-- A full history fits from the instant on at which the released event leaves the window, and not before. -/
theorem release_spec {limit charge : ℕ} (hcharge : charge ≤ limit) {rows : List ρ}
    (hsorted : rows.Pairwise (fun a b => start a ≤ start b)) (hfull : limit < (rows.map cost).sum + charge) :
    ∃ r ∈ rows, release cost limit charge (rows.map cost).sum rows = some r ∧
      ∀ t, load start cost window rows t + charge ≤ limit ↔ start r + window ≤ t := by
  induction rows with
  | nil =>
    rw [List.map_nil, List.sum_nil] at hfull
    omega
  | cons r rest ih =>
    obtain ⟨hfirst, hrest⟩ := List.pairwise_cons.mp hsorted
    have hleft : ((r :: rest).map cost).sum - cost r = (rest.map cost).sum := by
      rw [List.map_cons, List.sum_cons]
      omega
    -- before the first event leaves the window nothing has left it
    have hearly : ∀ t, t < start r + window → ¬load start cost window (r :: rest) t + charge ≤ limit := by
      intro t ht
      rw [load_eq_total (fun x hx => ?_)]
      · omega
      · rcases List.mem_cons.mp hx with rfl | hx
        · exact ht
        · have := hfirst x hx
          omega
    unfold release
    rw [hleft]
    by_cases hfits : (rest.map cost).sum + charge ≤ limit
    · rw [if_pos hfits]
      refine ⟨r, List.mem_cons_self, rfl, fun t => ?_⟩
      constructor
      · intro hload
        by_contra hlt
        exact hearly t (by omega) hload
      · intro hle
        rw [load_cons, if_neg (by omega)]
        have htotal : load start cost window rest t ≤ (rest.map cost).sum := load_le_total rest t
        omega
    · rw [if_neg hfits]
      obtain ⟨r', hr', hrelease, hiff⟩ := ih hrest (by omega)
      refine ⟨r', List.mem_cons_of_mem r hr', hrelease, fun t => ?_⟩
      have hle := hfirst r' hr'
      constructor
      · intro hload
        by_contra hlt
        by_cases ht : t < start r + window
        · exact hearly t ht hload
        · rw [load_cons, if_neg ht, Nat.zero_add, hiff] at hload
          exact hlt hload
      · intro ht
        rw [load_cons, if_neg (by omega), Nat.zero_add, hiff]
        exact ht

end SlidingWindow

end Noyra.Lib
