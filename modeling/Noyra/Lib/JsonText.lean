import Mathlib.Tactic.Positivity
import Noyra.Lib.Document
import Noyra.Lib.Json

/-!
# JSON text

What `json.dumps` writes for a document with `ensure_ascii=False` and the separators `,` and `:`, and how
`json.loads` reads a text. A text is also read back when characters inside its strings are spelled by their code.
-/

namespace Noyra.Lib.JsonText
open Noyra.Lib.Json

/-! ### Numbers -/

/-- A number as JSON writes it. -/
structure Literal where
  negative : Bool
  whole : List Char
  fraction : List Char
  /-- The sign and the digits. -/
  exponent : Option (Char × List Char)
  whole_digits : whole.all Char.isDigit = true
  whole_shape : whole = ['0'] ∨ (whole ≠ [] ∧ whole.head? ≠ some '0')
  fraction_digits : fraction.all Char.isDigit = true
  exponent_shape : ∀ e ∈ exponent, (e.1 = '+' ∨ e.1 = '-') ∧ e.2 ≠ [] ∧ e.2.all Char.isDigit = true

namespace Literal

variable (l : Literal)

def signText : List Char := if l.negative then ['-'] else []

def fractionText : List Char := if l.fraction = [] then [] else '.' :: l.fraction

def exponentText : List Char :=
  match l.exponent with
  | none => []
  | some (sign, digits) => 'e' :: sign :: digits

def text : List Char := l.signText ++ (l.whole ++ (l.fractionText ++ l.exponentText))

end Literal

lemma head_toDigits {n : Nat} (h : n ≠ 0) : (Nat.toDigits 10 n).head? ≠ some '0' := by
  induction n using Nat.base_induction 10 (by decide) with
  | single m hm =>
    rw [Nat.toDigits_of_lt_base hm]
    intro hhead
    have hdigit : ∀ m < 10, m ≠ 0 → m.digitChar ≠ '0' := by decide
    exact hdigit m hm h (Option.some.inj hhead)
  | digit m k hk hm ih =>
    rw [← Nat.toDigits_append_toDigits (by decide) hm hk, List.head?_append_of_ne_nil _ Nat.toDigits_ne_nil]
    exact ih (by omega)

/-- The text of an integer. -/
def intLiteral (i : Int) : Literal where
  negative := i < 0
  whole := Nat.toDigits 10 i.natAbs
  fraction := []
  exponent := none
  whole_digits := by
    rw [List.all_eq_true]
    intro c hc
    exact Nat.isDigit_of_mem_toDigits (by decide) (by decide) hc
  whole_shape := by
    by_cases h : i.natAbs = 0
    · left
      rw [h]
      rfl
    · right
      exact ⟨Nat.toDigits_ne_nil, head_toDigits h⟩
  fraction_digits := rfl
  exponent_shape := by
    intro e he
    cases he

/-- `float.__repr__` and `float` on the text of a number. -/
structure Floats where
  repr : Double → Literal
  /-- The text of a float does not look like an integer. -/
  marked : ∀ x, (repr x).fraction ≠ [] ∨ (repr x).exponent ≠ none
  value : List Char → Double
  value_repr : ∀ x, value (repr x).text = x

/-- The characters that a scanned number matches, and what follows. -/
def scanSign : List Char → List Char × List Char
  | '-' :: rest => (['-'], rest)
  | text => ([], text)

/-- `0|[1-9][0-9]*`. -/
def scanWhole : List Char → Option (List Char × List Char)
  | [] => none
  | c :: rest =>
    if c = '0' then some (['0'], rest)
    else if c.isDigit then some (c :: rest.takeWhile Char.isDigit, rest.dropWhile Char.isDigit)
    else none

/-- `(\.[0-9]+)?`. -/
def scanFraction : List Char → List Char × List Char
  | '.' :: rest =>
    if rest.takeWhile Char.isDigit = [] then ([], '.' :: rest)
    else ('.' :: rest.takeWhile Char.isDigit, rest.dropWhile Char.isDigit)
  | text => ([], text)

/-- `[-+]?`. -/
def scanExponentSign : List Char → List Char × List Char
  | '+' :: rest => (['+'], rest)
  | '-' :: rest => (['-'], rest)
  | text => ([], text)

/-- `([eE][-+]?[0-9]+)?`. -/
def scanExponent : List Char → List Char × List Char
  | [] => ([], [])
  | c :: rest =>
    if c = 'e' ∨ c = 'E' then
      let signed := scanExponentSign rest
      if signed.2.takeWhile Char.isDigit = [] then ([], c :: rest)
      else (c :: (signed.1 ++ signed.2.takeWhile Char.isDigit), signed.2.dropWhile Char.isDigit)
    else ([], c :: rest)

/-- A number: its integer part, its fraction and exponent, and the rest. -/
def scanNumber (text : List Char) : Option (List Char × List Char × List Char) := do
  let signed := scanSign text
  let (whole, rest) ← scanWhole signed.2
  let fraction := scanFraction rest
  let exponent := scanExponent fraction.2
  some (signed.1 ++ whole, fraction.1 ++ exponent.1, exponent.2)

/-- `int(text)`. -/
def intValue : List Char → Int
  | '-' :: digits => -(Nat.ofDigitChars 10 digits 0 : Int)
  | digits => (Nat.ofDigitChars 10 digits 0 : Int)

/-- What may stand behind a value. -/
def Ends (rest : List Char) : Prop := ∀ c ∈ rest.head?, c = ',' ∨ c = ']' ∨ c = '}'

lemma digits_append {digits rest : List Char} (h : digits.all Char.isDigit = true)
    (hrest : ∀ c ∈ rest.head?, c.isDigit = false) :
    (digits ++ rest).takeWhile Char.isDigit = digits ∧ (digits ++ rest).dropWhile Char.isDigit = rest := by
  have hall : ∀ c ∈ digits, c.isDigit = true := List.all_eq_true.mp h
  have hstop : rest.takeWhile Char.isDigit = [] ∧ rest.dropWhile Char.isDigit = rest := by
    cases rest with
    | nil => exact ⟨rfl, rfl⟩
    | cons c rest =>
      have hc := hrest c rfl
      simp [hc]
  rw [List.takeWhile_append_of_pos hall, List.dropWhile_append_of_pos hall, hstop.1, hstop.2, List.append_nil]
  exact ⟨rfl, rfl⟩

section
variable (l : Literal) {rest : List Char}

lemma scanSign_text (tail : List Char) : scanSign (l.signText ++ (l.whole ++ tail)) =
    (l.signText, l.whole ++ tail) := by
  unfold Literal.signText
  by_cases h : l.negative
  · rw [if_pos h]
    rfl
  · rw [if_neg h, List.nil_append]
    have hhead : ∀ c w, l.whole = c :: w → c ≠ '-' := by
      rintro c w hw rfl
      have hdigits := l.whole_digits
      rw [hw] at hdigits
      cases hdigits
    cases hwhole : l.whole with
    | nil =>
      rcases l.whole_shape with h | h
      · rw [hwhole] at h
        cases h
      · exact absurd hwhole h.1
    | cons c w =>
      have hc := hhead c w hwhole
      rw [List.cons_append]
      unfold scanSign
      split
      next heq => exact absurd (List.cons.inj heq).1 hc
      next => rfl

lemma scanWhole_text {tail : List Char} (htail : ∀ c ∈ tail.head?, c.isDigit = false) :
    scanWhole (l.whole ++ tail) = some (l.whole, tail) := by
  rcases l.whole_shape with h | ⟨hne, hzero⟩
  · rw [h]
    rfl
  · cases hwhole : l.whole with
    | nil => exact absurd hwhole hne
    | cons c w =>
      rw [hwhole] at hzero
      have hdigits := l.whole_digits
      rw [hwhole, List.all_cons, Bool.and_eq_true] at hdigits
      have hc : c ≠ '0' := fun heq => hzero (by rw [heq]; rfl)
      have happend := digits_append hdigits.2 htail
      rw [List.cons_append, scanWhole, if_neg hc, if_pos hdigits.1, happend.1, happend.2]

lemma scanFraction_text {tail : List Char} (htail : ∀ c ∈ tail.head?, c.isDigit = false ∧ c ≠ '.') :
    scanFraction (l.fractionText ++ tail) = (l.fractionText, tail) := by
  unfold Literal.fractionText
  by_cases h : l.fraction = []
  · rw [if_pos h, List.nil_append]
    cases tail with
    | nil => rfl
    | cons c tail =>
      have hc := (htail c rfl).2
      unfold scanFraction
      split
      next heq => exact absurd (List.cons.inj heq).1 hc
      next => rfl
  · have happend := digits_append l.fraction_digits (fun c hc => (htail c hc).1)
    rw [if_neg h, List.cons_append, scanFraction, happend.1, happend.2, if_neg h]

lemma scanExponent_text (hrest : Ends rest) : scanExponent (l.exponentText ++ rest) = (l.exponentText, rest) := by
  have hdigit : ∀ c ∈ rest.head?, c.isDigit = false := by
    intro c hc
    rcases hrest c hc with rfl | rfl | rfl <;> decide
  unfold Literal.exponentText
  cases h : l.exponent with
  | none =>
    dsimp only
    cases rest with
    | nil => rfl
    | cons c rest =>
      have hc : ¬(c = 'e' ∨ c = 'E') := by
        rcases hrest c rfl with rfl | rfl | rfl <;> decide
      rw [List.nil_append, scanExponent, if_neg hc]
  | some e =>
    obtain ⟨sign, digits⟩ := e
    obtain ⟨hsign, hne, hdigits⟩ := l.exponent_shape _ h
    dsimp only at hsign hne hdigits ⊢
    have happend := digits_append hdigits hdigit
    have hstep : scanExponentSign (sign :: (digits ++ rest)) = ([sign], digits ++ rest) := by
      rcases hsign with rfl | rfl <;> rfl
    rw [List.cons_append, List.cons_append, scanExponent, if_pos (.inl rfl), hstep]
    dsimp only
    rw [happend.1, happend.2, if_neg hne]
    rfl

/-- A number is read back. -/
theorem scanNumber_text (hrest : Ends rest) :
    scanNumber (l.text ++ rest) = some (l.signText ++ l.whole, l.fractionText ++ l.exponentText, rest) := by
  have hexponent : ∀ c ∈ (l.exponentText ++ rest).head?, c.isDigit = false ∧ c ≠ '.' := by
    intro c hc
    unfold Literal.exponentText at hc
    cases h : l.exponent with
    | none =>
      rw [h] at hc
      rcases hrest c hc with rfl | rfl | rfl <;> decide
    | some e =>
      rw [h] at hc
      cases hc
      decide
  have hfraction : ∀ c ∈ (l.fractionText ++ (l.exponentText ++ rest)).head?, c.isDigit = false := by
    intro c hc
    unfold Literal.fractionText at hc
    by_cases h : l.fraction = []
    · rw [if_pos h, List.nil_append] at hc
      exact (hexponent c hc).1
    · rw [if_neg h] at hc
      cases hc
      decide
  have htext : l.text ++ rest = l.signText ++ (l.whole ++ (l.fractionText ++ (l.exponentText ++ rest))) := by
    unfold Literal.text
    simp only [List.append_assoc]
  unfold scanNumber
  rw [htext, scanSign_text]
  dsimp only
  rw [scanWhole_text l hfraction]
  dsimp only [Option.bind_eq_bind, Option.bind_some]
  rw [scanFraction_text l hexponent]
  dsimp only
  rw [scanExponent_text l hrest]

end

lemma intValue_text (i : Int) : intValue (intLiteral i).text = i := by
  have htext : (intLiteral i).text = (intLiteral i).signText ++ Nat.toDigits 10 i.natAbs := by
    unfold Literal.text
    have htail : (intLiteral i).fractionText ++ (intLiteral i).exponentText = [] := rfl
    rw [htail, List.append_nil]
    rfl
  have hsign : (intLiteral i).negative = decide (i < 0) := rfl
  rw [htext]
  unfold Literal.signText
  rw [hsign]
  by_cases h : i < 0
  · rw [if_pos (decide_eq_true h)]
    have hvalue := Nat.ofDigitChars_ten_toDigits (n := i.natAbs)
    rw [List.singleton_append, intValue, hvalue]
    omega
  · rw [if_neg (fun hneg => h (of_decide_eq_true hneg)), List.nil_append]
    have hvalue := Nat.ofDigitChars_ten_toDigits (n := i.natAbs)
    unfold intValue
    split
    next digits heq =>
      have hmem : '-' ∈ Nat.toDigits 10 i.natAbs := by
        rw [heq]
        exact List.mem_cons_self
      exact absurd (Nat.isDigit_of_mem_toDigits (by decide) (by decide) hmem) (by decide)
    next =>
      rw [hvalue]
      omega

/-! ### Writing -/

section
variable (floats : Floats)

mutual

/-- `json.dumps` of a document with its keys in place. -/
def write : Document → List Char
  | .null => ['n', 'u', 'l', 'l']
  | .bool true => ['t', 'r', 'u', 'e']
  | .bool false => ['f', 'a', 'l', 's', 'e']
  | .int i => (intLiteral i).text
  | .float x => (floats.repr x).text
  | .str s => Json.string s
  | .arr [] => ['[', ']']
  | .arr (x :: xs) => '[' :: (write x ++ writeItems xs)
  | .obj [] => ['{', '}']
  | .obj (e :: es) => '{' :: (writeEntry e ++ writeEntries es)
termination_by structural x => x

/-- The items after the first one. -/
def writeItems : List Document → List Char
  | [] => [']']
  | x :: xs => ',' :: (write x ++ writeItems xs)
termination_by structural x => x

/-- The entries after the first one. -/
def writeEntries : Document.Entries → List Char
  | [] => ['}']
  | e :: es => ',' :: (writeEntry e ++ writeEntries es)
termination_by structural x => x

def writeEntry : String × Document → List Char
  | (key, x) => Json.string key ++ ':' :: write x
termination_by structural x => x

end

/-- `canonical_json`. -/
def canonicalJson (x : Document) : List Char := write floats x.sorted

/-- `[ \t\n\r]`. -/
def isSpace (c : Char) : Bool := c = ' ' || c.toNat = 9 || c.toNat = 10 || c.toNat = 13

def skipSpace (text : List Char) : List Char := text.dropWhile isSpace

/-- `null`, `true`, `false` or a number. -/
def readWord (text : List Char) : Option (Document × List Char) :=
  match text with
  | 'n' :: 'u' :: 'l' :: 'l' :: rest => some (.null, rest)
  | 't' :: 'r' :: 'u' :: 'e' :: rest => some (.bool true, rest)
  | 'f' :: 'a' :: 'l' :: 's' :: 'e' :: rest => some (.bool false, rest)
  | text => do
    let (whole, tail, rest) ← scanNumber text
    if tail = [] then some (.int (intValue whole), rest) else some (.float (floats.value (whole ++ tail)), rest)

mutual

def readValue : Nat → List Char → Option (Document × List Char)
  | 0, _ => none
  | _ + 1, [] => none
  | fuel + 1, c :: text =>
    if c = mark then (readString text).map (fun r => (.str r.1, r.2))
    else if c = '[' then
      if (skipSpace text).head? = some ']' then some (.arr [], (skipSpace text).tail)
      else do
        let (x, rest) ← readValue fuel (skipSpace text)
        let (xs, rest) ← readItems fuel (skipSpace rest)
        some (.arr (x :: xs), rest)
    else if c = '{' then
      if (skipSpace text).head? = some '}' then some (.obj [], (skipSpace text).tail)
      else do
        let (e, rest) ← readEntry fuel (skipSpace text)
        let (es, rest) ← readEntries fuel (skipSpace rest)
        -- of entries with one key the last counts
        some (.obj (Document.update [] (e :: es)), rest)
    else readWord floats (c :: text)

/-- The items after the first one. -/
def readItems : Nat → List Char → Option (List Document × List Char)
  | 0, _ => none
  | _ + 1, [] => none
  | fuel + 1, c :: text =>
    if c = ']' then some ([], text)
    else if c = ',' then do
      let (x, rest) ← readValue fuel (skipSpace text)
      let (xs, rest) ← readItems fuel (skipSpace rest)
      some (x :: xs, rest)
    else none

/-- The entries after the first one. -/
def readEntries : Nat → List Char → Option (Document.Entries × List Char)
  | 0, _ => none
  | _ + 1, [] => none
  | fuel + 1, c :: text =>
    if c = '}' then some ([], text)
    else if c = ',' then do
      let (e, rest) ← readEntry fuel (skipSpace text)
      let (es, rest) ← readEntries fuel (skipSpace rest)
      some (e :: es, rest)
    else none

def readEntry : Nat → List Char → Option ((String × Document) × List Char)
  | 0, _ => none
  | _ + 1, [] => none
  | fuel + 1, c :: text =>
    if c = mark then do
      let (key, rest) ← readString text
      if (skipSpace rest).head? = some ':' then do
        let (x, rest) ← readValue fuel (skipSpace (skipSpace rest).tail)
        some ((key, x), rest)
      else none
    else none

end

/-- `json.loads`, without the constants `NaN` and `Infinity` and without lone surrogates. -/
def loads (text : List Char) : Option Document := do
  let (x, rest) ← readValue floats (text.length + 1) (skipSpace text)
  if skipSpace rest = [] then some x else none

end

section
variable {soft : Soft}

variable {floats : Floats}

lemma skipSpace_cons {c : Char} (h : isSpace c = false) (text : List Char) : skipSpace (c :: text) = c :: text := by
  unfold skipSpace
  rw [List.dropWhile_cons, if_neg (by rw [h]; decide)]

lemma isMarkup_of_isDigit {c : Char} (h : c.isDigit = true) : isMarkup c = true := by
  unfold isMarkup
  rw [h]
  simp

lemma Literal.markup (l : Literal) : ∀ c ∈ l.text, isMarkup c = true := by
  intro c hc
  have hdigits : ∀ ds : List Char, ds.all Char.isDigit = true → c ∈ ds → isMarkup c = true :=
    fun ds hds hmem => isMarkup_of_isDigit (List.all_eq_true.mp hds c hmem)
  unfold Literal.text at hc
  rw [List.mem_append, List.mem_append, List.mem_append] at hc
  rcases hc with hc | hc | hc | hc
  · unfold Literal.signText at hc
    split at hc
    · rw [List.mem_singleton.mp hc]
      decide
    · cases hc
  · exact hdigits _ l.whole_digits hc
  · unfold Literal.fractionText at hc
    split at hc
    · cases hc
    · rcases List.mem_cons.mp hc with rfl | hc
      · decide
      · exact hdigits _ l.fraction_digits hc
  · unfold Literal.exponentText at hc
    cases h : l.exponent with
    | none =>
      rw [h] at hc
      cases hc
    | some e =>
      rw [h] at hc
      obtain ⟨hsign, -, hds⟩ := l.exponent_shape _ h
      rcases List.mem_cons.mp hc with rfl | hc
      · decide
      · rcases List.mem_cons.mp hc with rfl | hc
        · rcases hsign with h | h <;> rw [h] <;> decide
        · exact hdigits _ hds hc

lemma Literal.head (l : Literal) : ∃ c w, l.text = c :: w ∧ (c = '-' ∨ c.isDigit = true) := by
  unfold Literal.text Literal.signText
  by_cases h : l.negative
  · rw [if_pos h]
    exact ⟨'-', _, rfl, .inl rfl⟩
  · rw [if_neg h, List.nil_append]
    have hdigits := l.whole_digits
    cases hwhole : l.whole with
    | nil =>
      rcases l.whole_shape with hshape | hshape
      · rw [hwhole] at hshape
        cases hshape
      · exact absurd hwhole hshape.1
    | cons c w =>
      rw [hwhole, List.all_cons, Bool.and_eq_true] at hdigits
      exact ⟨c, _, rfl, .inr hdigits.1⟩

/-- A character with which the text of a value begins. -/
def Starts (c : Char) : Prop := isMarkup c = true ∧ isSpace c = false ∧ c ≠ ']' ∧ c ≠ '}'

lemma starts_of_number {c : Char} (h : c = '-' ∨ c.isDigit = true) : Starts c := by
  rcases h with rfl | h
  · exact ⟨by decide, by decide, by decide, by decide⟩
  · have hne : ∀ d : Char, d.isDigit = false → c ≠ d := by
      rintro d hd rfl
      rw [hd] at h
      cases h
    refine ⟨isMarkup_of_isDigit h, ?_, hne _ (by decide), hne _ (by decide)⟩
    have hcode : 48 ≤ c.toNat := by
      have hrange := Char.isDigit_iff_toNat.mp h
      exact hrange.1
    have hspace := hne ' ' (by decide)
    unfold isSpace
    simp only [Bool.or_eq_false_iff, decide_eq_false_iff_not]
    exact ⟨⟨⟨hspace, by omega⟩, by omega⟩, by omega⟩

lemma write_head (x : Document) : ∃ c w, write floats x = c :: w ∧ Starts c := by
  have hnumber : ∀ l : Literal, ∃ c w, l.text = c :: w ∧ Starts c := by
    intro l
    obtain ⟨c, w, hl, hc⟩ := l.head
    exact ⟨c, w, hl, starts_of_number hc⟩
  have hmarkup : ∀ (c : Char) (w : List Char), (isMarkup c && !isSpace c && c != ']' && c != '}') = true →
      ∃ c' w', c :: w = c' :: w' ∧ Starts c' := by
    intro c w h
    simp only [Bool.and_eq_true, Bool.not_eq_true', bne_iff_ne] at h
    exact ⟨c, w, rfl, h.1.1.1, h.1.1.2, h.1.2, h.2⟩
  cases x with
  | null => exact hmarkup _ _ (by decide)
  | bool b => cases b <;> exact hmarkup _ _ (by decide)
  | int i => exact hnumber _
  | float x => exact hnumber _
  | str s => exact hmarkup _ _ (by decide)
  | arr xs => cases xs <;> exact hmarkup _ _ (by decide)
  | obj es => cases es <;> exact hmarkup _ _ (by decide)

lemma respelled_head {x : Document} {u : List Char} (h : Respelled soft (write floats x) u) :
    ∃ c w, u = c :: w ∧ Starts c := by
  obtain ⟨c, w, hx, hc⟩ := @write_head floats x
  rw [hx] at h
  obtain ⟨v, rfl, -⟩ := Respelled.of_cons (hard_of_markup hc.1) h
  exact ⟨c, v, rfl, hc⟩

lemma writeEntry_head {e : String × Document} {u : List Char} (h : Respelled soft (writeEntry floats e) u) :
    ∃ w, u = mark :: w := by
  obtain ⟨key, x⟩ := e
  rw [writeEntry, Json.string, List.cons_append] at h
  obtain ⟨v, rfl, -⟩ := Respelled.of_cons (hard_of_markup (by decide)) h
  exact ⟨v, rfl⟩

/-- The items behind a value begin with what may stand there. -/
lemma writeItems_head {xs : List Document} {u : List Char} (h : Respelled soft (writeItems floats xs) u) :
    ∃ c w, u = c :: w ∧ (c = ',' ∨ c = ']') := by
  cases xs with
  | nil =>
    obtain ⟨v, rfl, -⟩ := Respelled.of_cons (hard_of_markup (by decide)) h
    exact ⟨_, v, rfl, .inr rfl⟩
  | cons x xs =>
    obtain ⟨v, rfl, -⟩ := Respelled.of_cons (hard_of_markup (by decide)) h
    exact ⟨_, v, rfl, .inl rfl⟩

lemma writeEntries_head {es : Document.Entries} {u : List Char} (h : Respelled soft (writeEntries floats es) u) :
    ∃ c w, u = c :: w ∧ (c = ',' ∨ c = '}') := by
  cases es with
  | nil =>
    obtain ⟨v, rfl, -⟩ := Respelled.of_cons (hard_of_markup (by decide)) h
    exact ⟨_, v, rfl, .inr rfl⟩
  | cons e es =>
    obtain ⟨v, rfl, -⟩ := Respelled.of_cons (hard_of_markup (by decide)) h
    exact ⟨_, v, rfl, .inl rfl⟩

/-- A number is read by its literal. -/
lemma readWord_literal (l : Literal) {rest : List Char} (hrest : Ends rest) :
    readWord floats (l.text ++ rest) =
      if l.fractionText ++ l.exponentText = [] then some (.int (intValue (l.signText ++ l.whole)), rest)
      else some (.float (floats.value l.text), rest) := by
  obtain ⟨c, w, hl, hc⟩ := l.head
  have hne : ∀ d : Char, d.isDigit = false → d ≠ '-' → c ≠ d := by
    rintro d hd hminus rfl
    rcases hc with hc | hc
    · exact hminus hc
    · rw [hd] at hc
      cases hc
  have hscan := scanNumber_text l hrest
  have htext : l.signText ++ l.whole ++ (l.fractionText ++ l.exponentText) = l.text := by
    unfold Literal.text
    rw [List.append_assoc]
  unfold readWord
  split
  next heq =>
    rw [hl, List.cons_append] at heq
    exact absurd (List.cons.inj heq).1 (hne 'n' (by decide) (by decide))
  next heq =>
    rw [hl, List.cons_append] at heq
    exact absurd (List.cons.inj heq).1 (hne 't' (by decide) (by decide))
  next heq =>
    rw [hl, List.cons_append] at heq
    exact absurd (List.cons.inj heq).1 (hne 'f' (by decide) (by decide))
  next =>
    rw [hscan]
    dsimp only [Option.bind_eq_bind, Option.bind_some]
    rw [htext]

lemma readValue_literal (l : Literal) {rest : List Char} (fuel : Nat) :
    readValue floats (fuel + 1) (l.text ++ rest) = readWord floats (l.text ++ rest) := by
  obtain ⟨c, w, hl, hc⟩ := l.head
  have hne : ∀ d : Char, d.isDigit = false → d ≠ '-' → c ≠ d := by
    rintro d hd hminus rfl
    rcases hc with hc | hc
    · exact hminus hc
    · rw [hd] at hc
      cases hc
  rw [hl, List.cons_append, readValue, if_neg (hne _ (by decide) (by decide)), if_neg (hne _ (by decide) (by decide)),
    if_neg (hne _ (by decide) (by decide))]

lemma eq_of_closed {s u : List Char} (hs : ∀ c ∈ s, isMarkup c = true) (h : Respelled soft s u) : u = s :=
  Respelled.eq_of_hard (fun c hc => hard_of_markup (hs c hc)) h

lemma ends_of_head {rest : List Char} {c : Char} {w : List Char} (h : rest = c :: w)
    (hc : c = ',' ∨ c = ']' ∨ c = '}') : Ends rest := by
  intro d hd
  rw [h] at hd
  cases hd
  exact hc

lemma skipSpace_starts {u w tail : List Char} {c : Char} (h : u = c :: w) (hc : isSpace c = false) :
    skipSpace (u ++ tail) = u ++ tail := by
  rw [h, List.cons_append, skipSpace_cons hc]

/-- The entries of a dictionary, put one after the other. -/
lemma update_nil {es : Document.Entries} (h : (es.map Prod.fst).Nodup) : Document.update [] es = es := by
  have hstep : ∀ (fs : Document.Entries), ((fs ++ es).map Prod.fst).Nodup → Document.update fs es = fs ++ es := by
    induction es with
    | nil =>
      intro fs _
      rw [List.append_nil]
      rfl
    | cons e es ih =>
      intro fs hnodup
      have hput : Document.put fs e.1 e.2 = fs ++ [e] := by
        have hfresh : e.1 ∉ fs.map Prod.fst := by
          rw [List.map_append, List.map_cons] at hnodup
          intro hmem
          exact (List.nodup_append.mp hnodup).2.2 _ hmem _ List.mem_cons_self rfl
        clear ih hnodup h
        induction fs with
        | nil => rfl
        | cons f fs ih =>
          rw [List.map_cons, List.mem_cons, not_or] at hfresh
          rw [Document.put, if_neg (fun heq => hfresh.1 heq.symm), ih hfresh.2, List.cons_append]
      have hsplit : fs ++ e :: es = fs ++ [e] ++ es := by simp
      have hrest := ih (List.nodup_cons.mp h).2 (fs ++ [e]) (by rw [← hsplit]; exact hnodup)
      have hunfold : Document.update fs (e :: es) = Document.update (Document.put fs e.1 e.2) es := rfl
      rw [hunfold, hput, hrest, hsplit]
  exact hstep [] (by rw [List.nil_append]; exact h)

mutual

/-- A document is read back from its text, whichever characters of its strings are spelled; an object ends by itself. -/
theorem readValue_respelled : (x : Document) → x.keyed = true → ∀ {u rest : List Char} {fuel : Nat},
    Respelled soft (write floats x) u → u.length < fuel → ((∀ es, x ≠ .obj es) → Ends rest) → readValue floats fuel
      (u ++ rest) = some (x, rest)
  | x, hkeyed, u, rest, 0, h, hfuel, hrest => absurd hfuel (Nat.not_lt_zero _)
  | .null, _, u, rest, fuel + 1, h, hfuel, hrest => by
    rw [write] at h
    rw [eq_of_closed (List.all_eq_true.mp (by decide)) h]
    rfl
  | .bool b, _, u, rest, fuel + 1, h, hfuel, hrest => by
    cases b with
    | true =>
      rw [write] at h
      rw [eq_of_closed (List.all_eq_true.mp (by decide)) h]
      rfl
    | false =>
      rw [write] at h
      rw [eq_of_closed (List.all_eq_true.mp (by decide)) h]
      rfl
  | .int i, _, u, rest, fuel + 1, h, hfuel, hrest => by
    have hshort : (intLiteral i).fractionText ++ (intLiteral i).exponentText = [] := rfl
    have hvalue := intValue_text i
    unfold Literal.text at hvalue
    rw [hshort, List.append_nil] at hvalue
    rw [write] at h
    rw [eq_of_closed (intLiteral i).markup h, readValue_literal, readWord_literal _ (hrest (fun _ heq => by cases heq)),
      if_pos hshort, hvalue]
  | .float d, _, u, rest, fuel + 1, h, hfuel, hrest => by
    have hlong : (floats.repr d).fractionText ++ (floats.repr d).exponentText ≠ [] := by
      intro hnil
      obtain ⟨hfraction, hexponent⟩ := List.append_eq_nil_iff.mp hnil
      unfold Literal.fractionText at hfraction
      unfold Literal.exponentText at hexponent
      rcases floats.marked d with hm | hm
      · rw [if_neg hm] at hfraction
        cases hfraction
      · cases he : (floats.repr d).exponent with
        | none => exact hm he
        | some e =>
          rw [he] at hexponent
          cases hexponent
    rw [write] at h
    rw [eq_of_closed (floats.repr d).markup h, readValue_literal,
      readWord_literal _ (hrest (fun _ heq => by cases heq)),
      if_neg hlong, floats.value_repr]
  | .str s, _, u, rest, fuel + 1, h, hfuel, hrest => by
    rw [write] at h
    obtain ⟨v, rfl, hread⟩ := readString_respelled h
    rw [List.cons_append, readValue, if_pos rfl, hread, Option.map_some]
  | .arr [], _, u, rest, fuel + 1, h, hfuel, hrest => by
    rw [write] at h
    rw [eq_of_closed (List.all_eq_true.mp (by decide)) h]
    rfl
  | .arr (x :: xs), hkeyed, u, rest, fuel + 1, h, hfuel, hrest => by
    have hkeys := Document.keyed_arr.mp hkeyed
    rw [write] at h
    obtain ⟨v, rfl, hv⟩ := Respelled.of_cons (hard_of_markup (by decide)) h
    obtain ⟨v, w, rfl, hv, hw⟩ := Respelled.of_append hv
    obtain ⟨c, v', hhead, hstarts⟩ := respelled_head hv
    obtain ⟨d, w', hitems, hd⟩ := writeItems_head hw
    have hspace : isSpace d = false := by rcases hd with rfl | rfl <;> decide
    have hends : Ends (w ++ rest) := ends_of_head (by rw [hitems, List.cons_append]) (by tauto)
    have hlength : v.length + w.length < fuel := by
      rw [List.length_cons, List.length_append] at hfuel
      omega
    have hnonempty : ((v ++ (w ++ rest)).head? = some ']') = False := by
      rw [hhead, List.cons_append, List.head?_cons]
      exact eq_false (fun heq => hstarts.2.2.1 (Option.some.inj heq))
    rw [List.cons_append, List.append_assoc, readValue, if_neg (by decide), if_pos rfl,
      skipSpace_starts hhead hstarts.2.1, if_neg (by rw [hnonempty]; exact id),
      readValue_respelled x (hkeys x List.mem_cons_self) hv (by omega) (fun _ => hends)]
    dsimp only [Option.bind_eq_bind, Option.bind_some]
    rw [skipSpace_starts hitems hspace, readItems_respelled xs (fun y hy => hkeys y (List.mem_cons_of_mem _ hy))
      hw (by omega), Option.bind_some]
  | .obj [], _, u, rest, fuel + 1, h, hfuel, hrest => by
    rw [write] at h
    rw [eq_of_closed (List.all_eq_true.mp (by decide)) h]
    rfl
  | .obj (e :: es), hkeyed, u, rest, fuel + 1, h, hfuel, hrest => by
    obtain ⟨hnodup, hkeys⟩ := Document.keyed_obj.mp hkeyed
    rw [write] at h
    obtain ⟨v, rfl, hv⟩ := Respelled.of_cons (hard_of_markup (by decide)) h
    obtain ⟨v, w, rfl, hv, hw⟩ := Respelled.of_append hv
    obtain ⟨v', hhead⟩ := writeEntry_head hv
    obtain ⟨d, w', hitems, hd⟩ := writeEntries_head hw
    have hspace : isSpace d = false := by rcases hd with rfl | rfl <;> decide
    have hends : Ends (w ++ rest) := ends_of_head (by rw [hitems, List.cons_append]) (by tauto)
    have hlength : v.length + w.length < fuel := by
      rw [List.length_cons, List.length_append] at hfuel
      omega
    have hnonempty : ((v ++ (w ++ rest)).head? = some '}') = False := by
      rw [hhead, List.cons_append, List.head?_cons]
      exact eq_false (by decide)
    rw [List.cons_append, List.append_assoc, readValue, if_neg (by decide), if_neg (by decide), if_pos rfl,
      skipSpace_starts hhead (by decide), if_neg (by rw [hnonempty]; exact id),
      readEntry_respelled e (hkeys e List.mem_cons_self) hv (by omega) hends]
    dsimp only [Option.bind_eq_bind, Option.bind_some]
    rw [skipSpace_starts hitems hspace, readEntries_respelled es (fun f hf => hkeys f (List.mem_cons_of_mem _ hf))
      hw (by omega)]
    dsimp only [Option.bind_some]
    rw [update_nil hnodup]

theorem readItems_respelled : (xs : List Document) → (∀ x ∈ xs, x.keyed = true) → ∀ {u rest : List Char} {fuel : Nat},
    Respelled soft (writeItems floats xs) u → u.length < fuel → readItems floats fuel (u ++ rest) = some (xs, rest)
  | xs, _, u, rest, 0, h, hfuel => absurd hfuel (Nat.not_lt_zero _)
  | [], _, u, rest, fuel + 1, h, hfuel => by
    rw [writeItems] at h
    rw [eq_of_closed (List.all_eq_true.mp (by decide)) h]
    rfl
  | x :: xs, hkeys, u, rest, fuel + 1, h, hfuel => by
    rw [writeItems] at h
    obtain ⟨v, rfl, hv⟩ := Respelled.of_cons (hard_of_markup (by decide)) h
    obtain ⟨v, w, rfl, hv, hw⟩ := Respelled.of_append hv
    obtain ⟨c, v', hhead, hstarts⟩ := respelled_head hv
    obtain ⟨d, w', hitems, hd⟩ := writeItems_head hw
    have hspace : isSpace d = false := by rcases hd with rfl | rfl <;> decide
    have hends : Ends (w ++ rest) := ends_of_head (by rw [hitems, List.cons_append]) (by tauto)
    have hlength : v.length + w.length < fuel := by
      rw [List.length_cons, List.length_append] at hfuel
      omega
    rw [List.cons_append, List.append_assoc, readItems, if_neg (by decide), if_pos rfl,
      skipSpace_starts hhead hstarts.2.1,
      readValue_respelled x (hkeys x List.mem_cons_self) hv (by omega) (fun _ => hends)]
    dsimp only [Option.bind_eq_bind, Option.bind_some]
    rw [skipSpace_starts hitems hspace, readItems_respelled xs (fun y hy => hkeys y (List.mem_cons_of_mem _ hy))
      hw (by omega), Option.bind_some]

theorem readEntries_respelled : (es : Document.Entries) → (∀ e ∈ es, e.2.keyed = true) → ∀ {u rest : List Char}
    {fuel : Nat},
    Respelled soft (writeEntries floats es) u → u.length < fuel → readEntries floats fuel (u ++ rest) = some (es, rest)
  | es, _, u, rest, 0, h, hfuel => absurd hfuel (Nat.not_lt_zero _)
  | [], _, u, rest, fuel + 1, h, hfuel => by
    rw [writeEntries] at h
    rw [eq_of_closed (List.all_eq_true.mp (by decide)) h]
    rfl
  | e :: es, hkeys, u, rest, fuel + 1, h, hfuel => by
    rw [writeEntries] at h
    obtain ⟨v, rfl, hv⟩ := Respelled.of_cons (hard_of_markup (by decide)) h
    obtain ⟨v, w, rfl, hv, hw⟩ := Respelled.of_append hv
    obtain ⟨v', hhead⟩ := writeEntry_head hv
    obtain ⟨d, w', hitems, hd⟩ := writeEntries_head hw
    have hspace : isSpace d = false := by rcases hd with rfl | rfl <;> decide
    have hends : Ends (w ++ rest) := ends_of_head (by rw [hitems, List.cons_append]) (by tauto)
    have hlength : v.length + w.length < fuel := by
      rw [List.length_cons, List.length_append] at hfuel
      omega
    rw [List.cons_append, List.append_assoc, readEntries, if_neg (by decide), if_pos rfl,
      skipSpace_starts hhead (by decide), readEntry_respelled e (hkeys e List.mem_cons_self) hv (by omega) hends]
    dsimp only [Option.bind_eq_bind, Option.bind_some]
    rw [skipSpace_starts hitems hspace, readEntries_respelled es (fun f hf => hkeys f (List.mem_cons_of_mem _ hf))
      hw (by omega), Option.bind_some]

theorem readEntry_respelled : (e : String × Document) → e.2.keyed = true → ∀ {u rest : List Char} {fuel : Nat},
    Respelled soft (writeEntry floats e) u → u.length < fuel → Ends rest → readEntry floats fuel (u ++ rest) = some
      (e, rest)
  | e, _, u, rest, 0, h, hfuel, hrest => absurd hfuel (Nat.not_lt_zero _)
  | (key, x), hkeyed, u, rest, fuel + 1, h, hfuel, hrest => by
    rw [writeEntry] at h
    obtain ⟨v, w, rfl, hv, hw⟩ := Respelled.of_append h
    obtain ⟨v, rfl, hread⟩ := readString_respelled hv
    obtain ⟨w, rfl, hvalue⟩ := Respelled.of_cons (hard_of_markup (by decide)) hw
    obtain ⟨c, w', hhead, hstarts⟩ := respelled_head hvalue
    have hlength : w.length < fuel := by
      rw [List.length_append, List.length_cons, List.length_cons] at hfuel
      omega
    rw [List.cons_append, List.cons_append, List.append_assoc, readEntry, if_pos rfl, hread]
    dsimp only [Option.bind_eq_bind, Option.bind_some]
    rw [List.cons_append, skipSpace_cons (by decide), List.head?_cons, if_pos rfl, List.tail_cons,
      skipSpace_starts hhead hstarts.2.1, readValue_respelled x hkeyed hvalue hlength (fun _ => hrest)]
    rfl

end

/-- The whole text of a document. -/
theorem loads_respelled {x : Document} (hkeyed : x.keyed = true) {u : List Char}
    (h : Respelled soft (write floats x) u) :
    loads floats u = some x := by
  obtain ⟨c, w, hhead, hstarts⟩ := respelled_head h
  have hread := @readValue_respelled soft floats x hkeyed u [] (u.length + 1) h (Nat.lt_succ_self _)
    (fun _ c hc => by cases hc)
  have hskip : skipSpace u = u := by
    rw [hhead, skipSpace_cons hstarts.2.1]
  rw [List.append_nil] at hread
  unfold loads
  rw [hskip, hread]
  rfl

/-- No object's text begins another one's. -/
theorem write_object_complete {es fs : Document.Entries} (hes : (Document.obj es).keyed = true)
    (hfs : (Document.obj fs).keyed = true)
    (h : write floats (.obj es) <+: write floats (.obj fs)) : es = fs := by
  obtain ⟨rest, hrest⟩ := h
  have hread := @readValue_respelled hard floats _ hes _ rest _ (Respelled.refl _)
    (Nat.lt_succ_of_le (List.IsPrefix.length_le ⟨rest, hrest⟩)) (fun hne => absurd rfl (hne es))
  have hread' := @readValue_respelled hard floats _ hfs _ [] _ (Respelled.refl _) (Nat.lt_succ_self _)
      (fun hne => absurd rfl (hne fs))
  rw [List.append_nil] at hread'
  rw [hrest, hread'] at hread
  exact (Document.obj.inj (Prod.mk.inj (Option.some.inj hread)).1).symm

/-- Two dictionaries of one canonical text read the same at every key. -/
theorem get?_of_canonicalJson {es fs : Document.Entries} (hes : (Document.obj es).keyed = true)
    (hfs : (Document.obj fs).keyed = true)
    (h : canonicalJson floats (.obj es) = canonicalJson floats (.obj fs)) (key : String) :
    (Document.get? es key).map Document.sorted = (Document.get? fs key).map Document.sorted := by
  have hload := @loads_respelled hard floats _ (Document.keyed_sorted _ hes) _ (Respelled.refl _)
  have hload' := @loads_respelled hard floats _ (Document.keyed_sorted _ hfs) _ (Respelled.refl _)
  unfold canonicalJson at h
  rw [h, hload'] at hload
  have hsorted := Option.some.inj hload
  rw [Document.sorted_obj, Document.sorted_obj] at hsorted
  rw [← Document.get?_sorted (Document.keyed_obj.mp hes).1, ← Document.get?_sorted (Document.keyed_obj.mp hfs).1,
    Document.obj.inj hsorted]

end

/-! ### Floats by numerator and denominator -/

/-- The denominator behind the point: nothing but a zero for one. -/
def denominatorText (d : Nat) : List Char := '0' :: (if d = 1 then [] else Nat.toDigits 10 d)

def fractionLiteral (x : Double) : Literal where
  negative := x.negative
  whole := Nat.toDigits 10 x.value.num.natAbs
  fraction := denominatorText x.value.den
  exponent := none
  whole_digits := (intLiteral x.value.num).whole_digits
  whole_shape := (intLiteral x.value.num).whole_shape
  fraction_digits := by
    unfold denominatorText
    rw [List.all_cons, Bool.and_eq_true]
    refine ⟨by decide, ?_⟩
    split
    · rfl
    · exact (intLiteral x.value.den).whole_digits
  exponent_shape := by
    intro e he
    cases he

def signedFraction (negative : Bool) (m d : Nat) : Double where
  value := if negative then -((m : ℚ) / d) else (m : ℚ) / d
  negative := negative
  sign := by
    have hpos : 0 ≤ (m : ℚ) / d := by positivity
    intro h
    cases negative with
    | true =>
      rw [if_pos rfl] at h ⊢
      have hne : (m : ℚ) / d ≠ 0 := fun h0 => h (by rw [h0, neg_zero])
      simp only [true_iff, Left.neg_neg_iff]
      exact lt_of_le_of_ne hpos hne.symm
    | false =>
      simp only [Bool.false_eq_true, if_false, false_iff, not_lt]
      exact hpos

def readFraction (text : List Char) : Double :=
  let signed := scanSign text
  let digits := (signed.2.dropWhile Char.isDigit).drop 2
  signedFraction (signed.1 ≠ []) (Nat.ofDigitChars 10 (signed.2.takeWhile Char.isDigit) 0)
    (if digits = [] then 1 else Nat.ofDigitChars 10 digits 0)

lemma signed_abs {q : ℚ} {negative : Bool} (h : q ≠ 0 → (negative = true ↔ q < 0)) :
    (if negative then -|q| else |q|) = q := by
  by_cases hzero : q = 0
  · rw [hzero, abs_zero, neg_zero, ite_self]
  · have hiff := h hzero
    by_cases hneg : q < 0
    · rw [if_pos (hiff.mpr hneg), abs_of_neg hneg, neg_neg]
    · rw [if_neg (fun h => hneg (hiff.mp h)), abs_of_nonneg (not_lt.mp hneg)]

lemma signedFraction_value (x : Double) : signedFraction x.negative x.value.num.natAbs x.value.den = x := by
  obtain ⟨q, negative, hq⟩ := x
  have habs : ((q.num.natAbs : ℕ) : ℚ) / q.den = |q| := by
    have hdiv : |q| = |(q.num : ℚ) / q.den| := by rw [Rat.num_div_den]
    rw [hdiv, abs_div, Nat.abs_cast, Nat.cast_natAbs, Int.cast_abs]
  unfold signedFraction
  congr 1
  dsimp only
  rw [habs]
  exact signed_abs hq

lemma readFraction_text (x : Double) : readFraction (fractionLiteral x).text = x := by
  have htext : (fractionLiteral x).text =
      (fractionLiteral x).signText ++ ((fractionLiteral x).whole ++ ('.' :: denominatorText x.value.den)) := by
    unfold Literal.text
    have hexponent : (fractionLiteral x).exponentText = [] := rfl
    have hfraction : (fractionLiteral x).fractionText = '.' :: denominatorText x.value.den := rfl
    rw [hexponent, hfraction, List.append_nil]
  have hdigits := @digits_append _ ('.' :: denominatorText x.value.den) (fractionLiteral x).whole_digits (by
    intro c hc
    cases hc
    decide)
  have hden : (if List.drop 2 ('.' :: denominatorText x.value.den) = [] then 1
      else Nat.ofDigitChars 10 (List.drop 2 ('.' :: denominatorText x.value.den)) 0) = x.value.den := by
    unfold denominatorText
    by_cases h : x.value.den = 1
    · rw [if_pos h, h]
      rfl
    · have hdrop : List.drop 2 ('.' :: '0' :: Nat.toDigits 10 x.value.den) = Nat.toDigits 10 x.value.den := rfl
      rw [if_neg h, hdrop, if_neg Nat.toDigits_ne_nil, Nat.ofDigitChars_ten_toDigits]
  have hwhole : Nat.ofDigitChars 10 (fractionLiteral x).whole 0 = x.value.num.natAbs := Nat.ofDigitChars_ten_toDigits
  have hsign : decide ((fractionLiteral x).signText ≠ []) = x.negative := by
    unfold Literal.signText
    have hneg : (fractionLiteral x).negative = x.negative := rfl
    rw [hneg]
    cases x.negative <;> rfl
  unfold readFraction
  rw [htext, scanSign_text]
  dsimp only
  rw [hdigits.1, hdigits.2, hden, hwhole, hsign, signedFraction_value]

/-- A way to write floats that agrees with Python's on small whole numbers. -/
def Floats.fractions : Floats where
  repr := fractionLiteral
  marked _ := .inl (List.cons_ne_nil _ _)
  value := readFraction
  value_repr := readFraction_text

end Noyra.Lib.JsonText
