import Mathlib.Data.List.Infix
import Mathlib.Tactic.Lemma

/-!
# Text replacement

`text.replace(pattern, new)` on lists: matches are taken from the left and do not overlap.
-/

namespace Noyra.Lib

section
variable {α : Type} [DecidableEq α]

/-- The replacement behind items that belong to a match. -/
def replaceFrom (pattern new : List α) : Nat → List α → List α
  | _, [] => []
  | skip + 1, _ :: text => replaceFrom pattern new skip text
  | 0, c :: text =>
    if pattern.isPrefixOf (c :: text) then new ++ replaceFrom pattern new (pattern.length - 1) text
    else c :: replaceFrom pattern new 0 text

def replaceText (pattern new text : List α) : List α := replaceFrom pattern new 0 text

variable {pattern new text : List α}

lemma replaceFrom_append (before text : List α) : replaceFrom pattern new before.length
    (before ++ text) = replaceText pattern new text := by
  induction before with
  | nil => rfl
  | cons c before ih => rw [List.length_cons, List.cons_append, replaceFrom, ih]

lemma replaceText_hit (hp : pattern ≠ []) (text : List α) :
    replaceText pattern new (pattern ++ text) = new ++ replaceText pattern new text := by
  cases pattern with
  | nil => exact absurd rfl hp
  | cons c rest =>
    have hmatch : (c :: rest).isPrefixOf (c :: (rest ++ text)) = true := by simp
    rw [List.cons_append]
    unfold replaceText
    rw [replaceFrom, if_pos hmatch, List.length_cons, Nat.add_sub_cancel, replaceFrom_append]
    rfl

lemma replaceText_miss {c : α} (h : ¬ pattern <+: c :: text) :
    replaceText pattern new (c :: text) = c :: replaceText pattern new text := by
  unfold replaceText
  rw [replaceFrom, if_neg (by simpa using h)]

/-- What holds of a text and its replacement, by matches and single items. -/
theorem replaceText_rec {P : List α → List α → Prop} (hp : pattern ≠ []) (nil : P [] [])
    (hit : ∀ text, P text (replaceText pattern new text) → P (pattern ++ text) (new ++ replaceText pattern new text))
    (miss : ∀ c text, ¬ pattern <+: c :: text → P text (replaceText pattern new text) →
      P (c :: text) (c :: replaceText pattern new text))
    (text : List α) : P text (replaceText pattern new text) := by
  have hpos : 0 < pattern.length := List.length_pos_iff.mpr hp
  have hstrong : ∀ n (text : List α), text.length ≤ n → P text (replaceText pattern new text) := by
    intro n
    induction n with
    | zero =>
      intro text hlength
      rw [List.length_eq_zero_iff.mp (Nat.le_zero.mp hlength)]
      exact nil
    | succ n ih =>
      intro text hlength
      by_cases hmatch : pattern <+: text
      · obtain ⟨rest, rfl⟩ := hmatch
        rw [List.length_append] at hlength
        rw [replaceText_hit hp]
        exact hit rest (ih rest (by omega))
      · cases text with
        | nil => exact nil
        | cons c text =>
          rw [List.length_cons] at hlength
          rw [replaceText_miss hmatch]
          exact miss c text hmatch (ih text (by omega))
  exact hstrong text.length text le_rfl

lemma replaceText_of_absent (h : ¬ pattern <:+: text) : replaceText pattern new text = text := by
  induction text with
  | nil => rfl
  | cons c text ih =>
    rw [List.infix_cons_iff, not_or] at h
    rw [replaceText_miss h.1, ih h.2]

end

section
variable {α : Type} {w a x b : List α}

lemma infix_of_append_left (hne : w ≠ []) (h : ∀ c ∈ w, c ∉ a) (hin : w <:+: a ++ b) : w <:+: b := by
  induction a with
  | nil => exact hin
  | cons d a ih =>
    rw [List.cons_append, List.infix_cons_iff] at hin
    rcases hin with hhead | hin
    · cases w with
      | nil => exact absurd rfl hne
      | cons c w =>
        rw [List.cons_prefix_cons] at hhead
        exact absurd (hhead.1 ▸ List.mem_cons_self) (h c List.mem_cons_self)
    · exact ih (fun c hc hmem => h c hc (List.mem_cons_of_mem _ hmem)) hin

/-- A prefix that avoids the middle part ends before it. -/
lemma prefix_of_append_middle (hx : x ≠ []) (h : ∀ c ∈ w, c ∉ x) (hpre : w <+: a ++ (x ++ b)) : w <+: a := by
  by_cases hle : w.length ≤ a.length
  · exact List.prefix_of_prefix_length_le hpre (List.prefix_append _ _) hle
  · cases x with
    | nil => exact absurd rfl hx
    | cons d x =>
      have hlong : a ++ [d] <+: w := by
        apply List.prefix_of_prefix_length_le _ hpre
        · rw [List.length_append, List.length_singleton]
          omega
        · exact ⟨x ++ b, by simp⟩
      have hmem : d ∈ w := hlong.subset (List.mem_append_right _ (List.mem_singleton_self d))
      exact absurd List.mem_cons_self (h d hmem)

lemma infix_of_append_middle (hne : w ≠ []) (hx : x ≠ []) (h : ∀ c ∈ w, c ∉ x) (hin : w <:+: a ++ (x ++ b)) :
    w <:+: a ∨ w <:+: b := by
  induction a with
  | nil => exact .inr (infix_of_append_left hne h hin)
  | cons d a ih =>
    rw [List.cons_append, List.infix_cons_iff] at hin
    rcases hin with hhead | hin
    · exact .inl (prefix_of_append_middle hx h hhead).isInfix
    · rcases ih hin with hin | hin
      · exact .inl (List.infix_cons hin)
      · exact .inr hin

end

end Noyra.Lib
