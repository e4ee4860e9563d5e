import Mathlib.Data.List.Induction
import Mathlib.Tactic.Lemma

/-!
# Hash chains

A chain over a list of entries: the hash of each link covers its number, the hash of the link before it
and its entry. Where links do not collide, the last hash and the number of links determine the entries.
-/

namespace Noyra.Lib.HashChain

variable {α η : Type} (link : Nat → Option η → α → η)

/-- The last hash of the chain of `entries`, continued after `n` links of which the last has the hash
`previous`. -/
def root : Nat → Option η → List α → Option η
  | _, previous, [] => previous
  | n, previous, a :: entries => root (n + 1) (some (link (n + 1) previous a)) entries

@[simp] lemma root_nil (n : Nat) (previous : Option η) : root link n previous [] = previous := rfl

lemma root_append (n : Nat) (previous : Option η) (entries : List α) (a : α) :
    root link n previous (entries ++ [a]) =
      some (link (n + entries.length + 1) (root link n previous entries) a) := by
  induction entries generalizing n previous with
  | nil => rfl
  | cons b entries ih =>
    simp only [List.cons_append, root, List.length_cons, ih]
    congr 2
    omega

/-- Links do not collide. -/
def Binding : Prop := ∀ m n p q a b, link m p a = link n q b → p = q ∧ a = b

/-- The last hash binds every entry of the chain. -/
theorem entries_of_root (h : Binding link) {n : Nat} {previous : Option η} {entries entries' : List α}
    (hlen : entries.length = entries'.length)
    (hroot : root link n previous entries = root link n previous entries') : entries = entries' := by
  induction entries using List.reverseRecOn generalizing entries' with
  | nil => exact (List.length_eq_zero_iff.mp hlen.symm).symm
  | append_singleton entries a ih =>
    induction entries' using List.reverseRecOn with
    | nil => simp at hlen
    | append_singleton entries' b _ =>
      rw [root_append, root_append] at hroot
      obtain ⟨hprevious, hab⟩ := h _ _ _ _ _ _ (Option.some.inj hroot)
      have hlength : entries.length = entries'.length := by simpa using hlen
      rw [ih hlength hprevious, hab]

end Noyra.Lib.HashChain
