import Mathlib.Data.List.Basic
import Mathlib.Tactic.IntervalCases
import Mathlib.Tactic.Lemma
import Noyra.Lib.Replace
import Noyra.Lib.Text

/-!
# Strings as JSON

What `json.dumps` writes for a string, and for a list of strings, with `ensure_ascii=False` and the separators `,`
and `:`, and how `json.loads` reads a string. A string is also read back when characters inside it are spelled by
their code.
-/

namespace Noyra.Lib.Json

def mark : Char := Char.ofNat 34

def slash : Char := Char.ofNat 92

/-- One character inside a string. -/
def escape (c : Char) : List Char :=
  if c = mark then [slash, mark]
  else if c = slash then [slash, slash]
  else if c.toNat = 8 then [slash, 'b']
  else if c.toNat = 9 then [slash, 't']
  else if c.toNat = 10 then [slash, 'n']
  else if c.toNat = 12 then [slash, 'f']
  else if c.toNat = 13 then [slash, 'r']
  else if c.toNat < 32 then [slash, 'u', '0', '0', hexDigitChar (c.toNat / 16), hexDigitChar (c.toNat % 16)]
  else [c]

def string (s : String) : List Char := mark :: (s.toList.flatMap escape ++ [mark])

def array : List String → List Char
  | [] => ['[', ']']
  | s :: rest => '[' :: (string s ++ (rest.flatMap (fun t => ',' :: string t) ++ [']']))

def codeOf (a b c d : Char) : Option Nat := do
  let a ← hexDigitValue a
  let b ← hexDigitValue b
  let c ← hexDigitValue c
  let d ← hexDigitValue d
  some (4096 * a + 256 * b + 16 * c + d)

def readEscape (c : Char) : Option Char :=
  if c = mark ∨ c = slash ∨ c = '/' then some c
  else if c = 'b' then some (Char.ofNat 8)
  else if c = 't' then some (Char.ofNat 9)
  else if c = 'n' then some (Char.ofNat 10)
  else if c = 'f' then some (Char.ofNat 12)
  else if c = 'r' then some (Char.ofNat 13)
  else none

/-- The character with a code, for two codes of surrogates the character they stand for together. -/
def readCode (n : Nat) (rest : List Char) : Option (Char × List Char) :=
  if 0xd800 ≤ n ∧ n ≤ 0xdbff then
    match rest with
    | s :: 'u' :: a :: b :: c :: d :: rest => do
      let m ← codeOf a b c d
      if s = slash ∧ 0xdc00 ≤ m ∧ m ≤ 0xdfff then some (Char.ofNat (0x10000 + 1024 * (n - 0xd800) + (m - 0xdc00)),
        rest) else none
    | _ => none
  else if 0xdc00 ≤ n ∧ n ≤ 0xdfff then none
  else some (Char.ofNat n, rest)

/-- One character of a string. -/
def readChar : List Char → Option (Char × List Char)
  | [] => none
  | c :: rest =>
    if c.toNat < 32 then none
    else if c = slash then
      match rest with
      | 'u' :: a :: b :: c :: d :: rest => (codeOf a b c d).bind (fun n => readCode n rest)
      | e :: rest => (readEscape e).map (fun c => (c, rest))
      | [] => none
    else some (c, rest)

/-- The characters up to the closing mark. -/
def readChars : Nat → List Char → Option (List Char × List Char)
  | 0, _ => none
  | _ + 1, [] => none
  | fuel + 1, c :: text =>
    if c = mark then some ([], text)
    else do
      let (d, rest) ← readChar (c :: text)
      let (s, rest) ← readChars fuel rest
      some (d :: s, rest)

/-- A string behind its opening mark. -/
def readString (text : List Char) : Option (String × List Char) :=
  (readChars text.length text).map (fun r => (String.ofList r.1, r.2))

/-- The four digits of a code below `0x10000`. -/
def spelled (c : Char) : List Char :=
  [slash, 'u', hexDigitChar (c.toNat / 4096 % 16), hexDigitChar (c.toNat / 256 % 16), hexDigitChar (c.toNat / 16 % 16),
    hexDigitChar (c.toNat % 16)]

/-- The characters of a text that stand outside of strings or in escapes. -/
def isMarkup (c : Char) : Bool :=
  c.toNat < 32 || c.isDigit || c.isLower || [mark, slash, '{', '}', '[', ']', ':', ',', '-', '+', '.'].contains c

/-- Characters that are spelled inside strings. -/
structure Soft where
  test : Char → Bool
  plain : ∀ c, test c = true → isMarkup c = false
  code : ∀ c, test c = true → c.toNat < 0xd800

/-- The second text spells some of the soft characters of the first one. -/
inductive Respelled (soft : Soft) : List Char → List Char → Prop
  | nil : Respelled soft [] []
  | keep (c : Char) {s t : List Char} : Respelled soft s t → Respelled soft (c :: s) (c :: t)
  | spell (c : Char) {s t : List Char} : soft.test c = true → Respelled soft s t →
    Respelled soft (c :: s) (spelled c ++ t)

namespace Respelled

variable {soft : Soft} {s t u : List Char}

lemma refl (s : List Char) : Respelled soft s s := by
  induction s with
  | nil => exact nil
  | cons c s ih => exact keep c ih

lemma append (h : Respelled soft s t) {s' t' : List Char} (h' : Respelled soft s' t') :
    Respelled soft (s ++ s') (t ++ t') := by
  induction h with
  | nil => exact h'
  | keep c _ ih => exact keep c ih
  | spell c hc _ ih =>
    rw [List.append_assoc]
    exact spell c hc ih

lemma of_append {s' : List Char} (h : Respelled soft (s ++ s') t) :
    ∃ u v, t = u ++ v ∧ Respelled soft s u ∧ Respelled soft s' v := by
  induction s generalizing t with
  | nil => exact ⟨[], t, rfl, nil, h⟩
  | cons c s ih =>
    rw [List.cons_append] at h
    cases h with
    | keep _ h =>
      obtain ⟨u, v, rfl, hu, hv⟩ := ih h
      exact ⟨c :: u, v, rfl, keep c hu, hv⟩
    | spell _ hc h =>
      obtain ⟨u, v, rfl, hu, hv⟩ := ih h
      exact ⟨spelled c ++ u, v, (List.append_assoc ..).symm, spell c hc hu, hv⟩

/-- A text without characters that may be spelled. -/
lemma eq_of_hard (hs : ∀ c ∈ s, soft.test c = false) (h : Respelled soft s t) : t = s := by
  induction h with
  | nil => rfl
  | keep c _ ih => rw [ih (fun d hd => hs d (List.mem_cons_of_mem _ hd))]
  | spell c hc _ ih =>
    rw [hs c List.mem_cons_self] at hc
    cases hc

/-- A character that may not be spelled comes first. -/
lemma of_cons {c : Char} (hc : soft.test c = false) (h : Respelled soft (c :: s) t) :
    ∃ v, t = c :: v ∧ Respelled soft s v := by
  cases h with
  | keep _ h => exact ⟨_, rfl, h⟩
  | spell _ hsoft _ =>
    rw [hc] at hsoft
    cases hsoft

end Respelled

lemma hexDigitValue_hexDigitChar {n : Nat} (h : n < 16) : hexDigitValue (hexDigitChar n) = some n := by
  interval_cases n <;> rfl

lemma readChar_spelled {c : Char} (hc : c.toNat < 0xd800) (rest : List Char) :
    readChar (spelled c ++ rest) = some (c, rest) := by
  have hcode : codeOf (hexDigitChar (c.toNat / 4096 % 16)) (hexDigitChar (c.toNat / 256 % 16))
      (hexDigitChar (c.toNat / 16 % 16)) (hexDigitChar (c.toNat % 16)) = some c.toNat := by
    unfold codeOf
    rw [hexDigitValue_hexDigitChar (Nat.mod_lt _ (by decide)), hexDigitValue_hexDigitChar (Nat.mod_lt _ (by decide)),
      hexDigitValue_hexDigitChar (Nat.mod_lt _ (by decide)), hexDigitValue_hexDigitChar (Nat.mod_lt _ (by decide))]
    have hsum : 4096 * (c.toNat / 4096 % 16) + 256 * (c.toNat / 256 % 16) + 16 * (c.toNat / 16 % 16) + c.toNat % 16 =
        c.toNat := by
      omega
    dsimp only [Option.bind_eq_bind, Option.bind_some]
    rw [hsum]
  unfold spelled
  simp only [List.cons_append, List.nil_append]
  rw [readChar, if_neg (by decide), if_pos rfl, hcode, Option.bind_some]
  unfold readCode
  rw [if_neg (by omega), if_neg (by omega), Char.ofNat_toNat]

lemma readChar_escape (c : Char) (rest : List Char) : readChar (escape c ++ rest) = some (c, rest) := by
  by_cases hc : c.toNat < 32
  · have hof : c = Char.ofNat c.toNat := (Char.ofNat_toNat c).symm
    generalize c.toNat = n at hc hof
    subst hof
    interval_cases n <;> rfl
  · unfold escape
    split
    · next h => subst h; rfl
    · next hm =>
      split
      · next h => subst h; rfl
      · next hs =>
        rw [if_neg (by omega), if_neg (by omega), if_neg (by omega), if_neg (by omega), if_neg (by omega),
          List.singleton_append]
        unfold readChar
        dsimp only
        rw [if_neg hc, if_neg hs]

lemma escape_cons (c : Char) : ∃ d w, escape c = d :: w ∧ d ≠ mark := by
  unfold escape
  by_cases hc : c = mark
  · rw [if_pos hc]
    exact ⟨slash, _, rfl, by decide⟩
  · rw [if_neg hc]
    split_ifs
    all_goals first
      | exact ⟨slash, _, rfl, by decide⟩
      | exact ⟨c, _, rfl, hc⟩

/-- An escape is one character, or all of it is markup. -/
lemma escape_shape (c : Char) : escape c = [c] ∨ ∀ d ∈ escape c, isMarkup d = true := by
  by_cases hc : c.toNat < 32
  · right
    have hof : c = Char.ofNat c.toNat := (Char.ofNat_toNat c).symm
    generalize c.toNat = n at hc hof
    subst hof
    interval_cases n <;> exact List.all_eq_true.mp (by decide)
  · unfold escape
    split
    · next h =>
      subst h
      right
      exact List.all_eq_true.mp (by decide)
    · split
      · next h =>
        subst h
        right
        exact List.all_eq_true.mp (by decide)
      · left
        rw [if_neg (by omega), if_neg (by omega), if_neg (by omega), if_neg (by omega), if_neg (by omega)]

variable {soft : Soft}

lemma hard_of_markup {c : Char} (hc : isMarkup c = true) : soft.test c = false := by
  by_contra h
  rw [Bool.not_eq_false] at h
  rw [soft.plain c h] at hc
  cases hc

/-- The characters of a string are read back. -/
lemma readChars_respelled {s u : List Char} (h : Respelled soft (s.flatMap escape) u) (rest : List Char) {fuel : Nat}
    (hfuel : u.length < fuel) : readChars fuel (u ++ mark :: rest) = some (s, rest) := by
  induction s generalizing u fuel with
  | nil =>
    cases h
    obtain ⟨fuel, rfl⟩ : ∃ k, fuel = k + 1 := ⟨fuel - 1, by omega⟩
    rw [List.nil_append, readChars, if_pos rfl]
  | cons c s ih =>
    obtain ⟨u, v, rfl, hu, hv⟩ := Respelled.of_append h
    rw [List.length_append] at hfuel
    -- the first character is read, whichever way it is written
    obtain ⟨d, w, hdw, hd, hread⟩ : ∃ d w, u = d :: w ∧ d ≠ mark ∧ ∀ tail, readChar (u ++ tail) = some (c, tail) := by
      have hplain : u = escape c → ∃ d w, u = d :: w ∧ d ≠ mark ∧ ∀ tail, readChar (u ++ tail) = some (c, tail) := by
        intro hu
        obtain ⟨d, w, hescape, hd⟩ := escape_cons c
        exact ⟨d, w, hu.trans hescape, hd, fun tail => by rw [hu, readChar_escape]⟩
      rcases escape_shape c with hone | hall
      · rw [hone] at hu
        cases hu with
        | keep _ hnil =>
          cases hnil
          exact hplain hone.symm
        | spell _ hc hnil =>
          cases hnil
          refine ⟨slash, _, rfl, by decide, fun tail => ?_⟩
          rw [List.append_nil]
          exact readChar_spelled (soft.code c hc) tail
      · exact hplain (Respelled.eq_of_hard (fun d hd => hard_of_markup (hall d hd)) hu)
    obtain ⟨fuel, rfl⟩ : ∃ k, fuel = k + 1 := ⟨fuel - 1, by omega⟩
    have hlength : u.length = w.length + 1 := by rw [hdw, List.length_cons]
    have hwhole : u ++ v ++ mark :: rest = d :: (w ++ (v ++ mark :: rest)) := by
      rw [hdw, List.append_assoc, List.cons_append]
    rw [hwhole, readChars, if_neg hd, ← List.cons_append, ← hdw, hread]
    dsimp only [Option.bind_eq_bind, Option.bind_some]
    rw [ih hv (by omega), Option.bind_some]

lemma readString_respelled {s : String} {u : List Char} (h : Respelled soft (string s) u) :
    ∃ v, u = mark :: v ∧ ∀ rest, readString (v ++ rest) = some (s, rest) := by
  unfold string at h
  obtain ⟨v, rfl, hv⟩ := Respelled.of_cons (hard_of_markup (by decide)) h
  obtain ⟨w, m, rfl, hw, hm⟩ := Respelled.of_append hv
  obtain ⟨n, rfl, hn⟩ := Respelled.of_cons (hard_of_markup (by decide)) hm
  cases hn
  refine ⟨w ++ [mark], rfl, fun rest => ?_⟩
  unfold readString
  rw [List.append_assoc, List.singleton_append,
    readChars_respelled hw rest (by rw [List.length_append, List.length_cons]; omega), Option.map_some,
      String.ofList_toList]

lemma markup_spelled (c : Char) : ∀ d ∈ spelled c, isMarkup d = true := by
  have hdigit : ∀ n < 16, isMarkup (hexDigitChar n) = true := by decide
  have hmod : ∀ n : Nat, isMarkup (hexDigitChar (n % 16)) = true := fun n => hdigit _ (Nat.mod_lt _ (by decide))
  intro d hd
  unfold spelled at hd
  rcases List.mem_cons.mp hd with rfl | hd
  · decide
  rcases List.mem_cons.mp hd with rfl | hd
  · decide
  rcases List.mem_cons.mp hd with rfl | hd
  · exact hmod _
  rcases List.mem_cons.mp hd with rfl | hd
  · exact hmod _
  rcases List.mem_cons.mp hd with rfl | hd
  · exact hmod _
  · rw [List.mem_singleton.mp hd]
    exact hmod _

lemma Respelled.trans {s t u : List Char} (h : Respelled soft s t) (h' : Respelled soft t u) : Respelled soft s u := by
  induction h generalizing u with
  | nil => exact h'
  | keep c h ih =>
    cases h' with
    | keep _ h' => exact keep c (ih h')
    | spell _ hc h' => exact spell c hc (ih h')
  | spell c hc h ih =>
    obtain ⟨v, w, rfl, hv, hw⟩ := h'.of_append
    rw [Respelled.eq_of_hard (fun d hd => hard_of_markup (markup_spelled c d hd)) hv]
    exact spell c hc (ih hw)

/-- What is not markup was there before the spelling. -/
lemma Respelled.prefix_of {s t w : List Char} (h : Respelled soft s t) (hw : ∀ c ∈ w, isMarkup c = false)
    (hpre : w <+: t) :
    w <+: s := by
  induction h generalizing w with
  | nil => exact hpre
  | keep c h ih =>
    cases w with
    | nil => exact ⟨_, rfl⟩
    | cons d w =>
      rw [List.cons_prefix_cons] at hpre ⊢
      exact ⟨hpre.1, ih (fun e he => hw e (List.mem_cons_of_mem _ he)) hpre.2⟩
  | spell c hc h ih =>
    cases w with
    | nil => exact ⟨_, rfl⟩
    | cons d w =>
      unfold spelled at hpre
      rw [List.cons_append, List.cons_prefix_cons] at hpre
      have hslash := hw d List.mem_cons_self
      rw [hpre.1] at hslash
      cases hslash

lemma avoids_spelled {w : List Char} (hw : ∀ c ∈ w, isMarkup c = false) (c : Char) : ∀ d ∈ w, d ∉ spelled c := by
  intro d hd hmem
  have hmarkup := markup_spelled c d hmem
  rw [hw d hd] at hmarkup
  cases hmarkup

lemma Respelled.infix_of {s t w : List Char} (h : Respelled soft s t) (hne : w ≠ []) (hw : ∀ c ∈ w, isMarkup c = false)
    (hin : w <:+: t) : w <:+: s := by
  induction h with
  | nil => exact hin
  | keep c h ih =>
    rw [List.infix_cons_iff] at hin ⊢
    rcases hin with hpre | hin
    · exact .inl ((keep c h).prefix_of hw hpre)
    · exact .inr (ih hin)
  | spell c hc h ih => exact List.infix_cons (ih (infix_of_append_left hne (avoids_spelled hw c) hin))

section
variable {init : List Char} {z : Char}

/-- Spelling the last character of a pattern wherever the pattern occurs. -/
lemma respelled_replaceText (hz : soft.test z = true) (text : List Char) :
    Respelled soft text (replaceText (init ++ [z]) (init ++ spelled z) text) := by
  apply replaceText_rec (P := Respelled soft) (by simp)
  · exact .nil
  · intro text h
    rw [List.append_assoc, List.append_assoc]
    exact (Respelled.refl init).append (.spell z hz h)
  · intro c text _ h
    exact .keep c h

/-- The pattern does not occur any more. -/
lemma not_infix_replaceText (hz : soft.test z = true) (hw : ∀ c ∈ init ++ [z], isMarkup c = false) (text : List Char) :
    ¬ init ++ [z] <:+: replaceText (init ++ [z]) (init ++ spelled z) text := by
  have hne : init ++ [z] ≠ [] := by simp
  apply replaceText_rec (P := fun _ result => ¬ init ++ [z] <:+: result) hne
  · intro h
    exact hne (List.infix_nil.mp h)
  · intro text ih hin
    rw [List.append_assoc] at hin
    rcases infix_of_append_middle hne (by unfold spelled; simp) (avoids_spelled hw z) hin with h | h
    · have hlength := h.length_le
      rw [List.length_append, List.length_singleton] at hlength
      omega
    · exact ih h
  · intro c text hmiss ih hin
    rcases List.infix_cons_iff.mp hin with h | h
    · exact hmiss ((Respelled.keep c (respelled_replaceText hz text)).prefix_of hw h)
    · exact ih h

end

lemma hard_plain (c : Char) (h : false = true) : isMarkup c = false := absurd h Bool.false_ne_true

lemma hard_code (c : Char) (h : false = true) : c.toNat < 0xd800 := absurd h Bool.false_ne_true

/-- No character is spelled another way. -/
def hard : Soft := ⟨fun _ => false, hard_plain, hard_code⟩

lemma string_append {s t : String} {u v : List Char} (h : string s ++ u = string t ++ v) : s = t ∧ u = v := by
  obtain ⟨s', hs, hread⟩ := @readString_respelled hard s _ (Respelled.refl _)
  obtain ⟨t', ht, hread'⟩ := @readString_respelled hard t _ (Respelled.refl _)
  rw [hs, ht, List.cons_append, List.cons_append] at h
  have hboth := hread u
  rw [(List.cons.inj h).2, hread'] at hboth
  obtain ⟨hst, huv⟩ := Prod.mk.inj (Option.some.inj hboth)
  exact ⟨hst.symm, huv.symm⟩

lemma tail_injective {xs ys : List String}
    (h : xs.flatMap (fun t => ',' :: string t) ++ [']'] = ys.flatMap (fun t => ',' :: string t) ++ [']']) :
    xs = ys := by
  induction xs generalizing ys with
  | nil =>
    cases ys with
    | nil => rfl
    | cons y ys => simp at h
  | cons x xs ih =>
    cases ys with
    | nil => simp at h
    | cons y ys =>
      simp only [List.flatMap_cons, List.cons_append, List.append_assoc, List.cons.injEq, true_and] at h
      obtain ⟨hxy, hrest⟩ := string_append h
      rw [hxy, ih hrest]

theorem array_injective : Function.Injective array := by
  intro xs ys h
  cases xs with
  | nil =>
    cases ys with
    | nil => rfl
    | cons y ys => simp [array, string, mark] at h
  | cons x xs =>
    cases ys with
    | nil => simp [array, string, mark] at h
    | cons y ys =>
      simp only [array, List.cons.injEq, true_and] at h
      obtain ⟨hxy, hrest⟩ := string_append h
      rw [hxy, tail_injective hrest]

end Noyra.Lib.Json
