import Mathlib.Tactic.Lemma
import Noyra.Lib.Table

/-!
# Rows that count their changes

Some columns of a row are fixed, and a version counts its changes. A table evolves when every row is kept under its
key and a row that has not counted a change has not changed; so whoever has read a version can tell whether it is
still the last.
-/

namespace Noyra.Lib

variable {κ ρ γ : Type} [DecidableEq κ] {key : ρ → κ}

/-- Every row is kept with its fixed columns, its version does not go back, and with the same version it is the same
row. -/
def Evolves (version : ρ → ℕ) (fixed : ρ → γ) (t t' : Table key) : Prop :=
  ∀ k r, t.find? k = some r → ∃ r', t'.find? k = some r' ∧ fixed r' = fixed r ∧ version r ≤ version r' ∧
    (version r' = version r → r' = r)

namespace Evolves

variable {version : ρ → ℕ} {fixed : ρ → γ} {t t' t'' : Table key}

lemma refl (t : Table key) : Evolves version fixed t t := fun _ r h => ⟨r, h, rfl, Nat.le_refl _, fun _ => rfl⟩

lemma trans (h : Evolves version fixed t t') (h' : Evolves version fixed t' t'') : Evolves version fixed t t'' := by
  intro k r hr
  obtain ⟨r', hr', hfixed, hle, hsame⟩ := h k r hr
  obtain ⟨r'', hr'', hfixed', hle', hsame'⟩ := h' k r' hr'
  refine ⟨r'', hr'', hfixed'.trans hfixed, Nat.le_trans hle hle', fun heq => ?_⟩
  have hmiddle : version r' = version r := by omega
  rw [hsame' (by omega), hsame hmiddle]

lemma insert {r : ρ} (h : t.insert? r = some t') : Evolves version fixed t t' := by
  intro k x hx
  have hne : k ≠ key r := by
    intro hk
    have hfree := Table.find?_eq_none.mpr (Table.insert?_eq_some.mp h).1
    rw [← hk, hx] at hfree
    cases hfree
  refine ⟨x, ?_, rfl, Nat.le_refl _, fun _ => rfl⟩
  rw [Table.find?_insert h, if_neg hne, hx]

lemma replace {old new : ρ} (h : t.find? (key new) = some old) (hfixed : fixed new = fixed old)
    (hversion : version old < version new) :
    Evolves version fixed t (t.replace new) := by
  intro k x hx
  by_cases hk : k = key new
  · subst hk
    rw [h] at hx
    cases hx
    exact ⟨new, Table.find?_replace_self h, hfixed, Nat.le_of_lt hversion, fun heq => by omega⟩
  · exact ⟨x, (Table.find?_replace_ne hk).trans hx, rfl, Nat.le_refl _, fun _ => rfl⟩

/-- A version read before and found again names the same row. -/
lemma unchanged (h : Evolves version fixed t t') {k : κ} {r r' : ρ} (hr : t.find? k = some r)
    (hr' : t'.find? k = some r') (hversion : version r' = version r) : r' = r := by
  obtain ⟨x, hx, -, -, hsame⟩ := h k r hr
  rw [hr'] at hx
  cases hx
  exact hsame hversion

end Evolves

end Noyra.Lib
