import Mathlib.Data.List.Sort
import Mathlib.Data.List.Perm.Subperm
import Mathlib.Tactic.Lemma

/-!
# Ranks in lists

The rank of an element is the number of elements that come before it. In a list sorted by a strict order it is the
position, so the first elements are those of small rank; and a rank does not grow when elements are left out.
-/

namespace Noyra.Lib

variable {α : Type}

/-- The number of elements of the list before `a`. -/
def rank (before : α → α → Bool) (l : List α) (a : α) : Nat := l.countP (fun x => before x a)

lemma rank_perm {before : α → α → Bool} {l l' : List α} (h : l.Perm l') (a : α) : rank before l a = rank before l' a :=
  h.countP_eq _

/-- Leaving elements out does not raise a rank. -/
lemma rank_le_of_subset {before : α → α → Bool} {l l' : List α} (hnodup : l'.Nodup) (h : l' ⊆ l) (a : α) :
    rank before l' a ≤ rank before l a := by
  have hsub : l'.Subperm l := List.subperm_of_subset hnodup h
  exact hsub.countP_le _

/-- The first elements of a sorted list are those of small rank. -/
theorem mem_take_iff_rank {before : α → α → Bool} (hirrefl : ∀ a, before a a = false)
    (hasymm : ∀ a b, before a b = true → before b a = false) {l : List α}
    (hsorted : l.Pairwise (fun a b => before a b = true))
    (m : Nat) (a : α) : a ∈ l.take m ↔ a ∈ l ∧ rank before l a < m := by
  induction l generalizing m with
  | nil => simp
  | cons b l ih =>
    obtain ⟨hb, hl⟩ := List.pairwise_cons.mp hsorted
    cases m with
    | zero => simp
    | succ m =>
      rw [List.take_succ_cons, List.mem_cons, List.mem_cons, ih hl m]
      have hrank : rank before (b :: l) a = rank before l a + if before b a then 1 else 0 := List.countP_cons
      constructor
      · rintro (rfl | ⟨ha, hlt⟩)
        · -- nothing comes before the head
          have hzero : rank before (a :: l) a = 0 := by
            unfold rank
            rw [List.countP_eq_zero]
            intro x hx
            rcases List.mem_cons.mp hx with rfl | hx
            · simp [hirrefl x]
            · simp [hasymm _ _ (hb x hx)]
          exact ⟨.inl rfl, by omega⟩
        · rw [hrank, if_pos (hb a ha)]
          exact ⟨.inr ha, by omega⟩
      · rintro ⟨rfl | ha, hlt⟩
        · exact .inl rfl
        · rw [hrank, if_pos (hb a ha)] at hlt
          exact .inr ⟨ha, by omega⟩

end Noyra.Lib
