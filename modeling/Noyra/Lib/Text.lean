import Mathlib.Data.List.Basic
import Mathlib.Data.List.TakeWhile
import Mathlib.Tactic.IntervalCases
import Mathlib.Tactic.Lemma

/-!
# Text as the service language has it

Stripping of Unicode whitespace, hexadecimal shapes, and fixed-width hexadecimal numerals. Shapes of
ASCII text are tested on the UTF-8 bytes.
-/

namespace Noyra.Lib

def bytes (s : String) : List UInt8 := s.toByteArray.data.toList

/-- `n < len(s)`; a text has no more characters than bytes. -/
def longerThan (n : Nat) (s : String) : Bool := decide (n < s.utf8ByteSize) && decide (n < s.length)

/-- The characters removed by `str.strip()`. -/
def isSpace (c : Char) : Bool :=
  let n := c.toNat
  (9 ≤ n && n ≤ 13) || (28 ≤ n && n ≤ 32) || n == 133 || n == 160 || n == 5760 ||
    (8192 ≤ n && n ≤ 8202) || n == 8232 || n == 8233 || n == 8239 || n == 8287 || n == 12288

/-- An ASCII byte that is neither a blank nor a control character. -/
def isGraphic (b : UInt8) : Bool := decide (33 ≤ b.toNat) && decide (b.toNat ≤ 126)

/-- `str.strip()`; nothing is removed from a text that begins and ends with a graphic character. -/
def strip (s : String) : String :=
  if (bytes s).head?.any isGraphic && (bytes s).getLast?.any isGraphic then s
  else String.ofList ((s.toList.dropWhile isSpace).reverse.dropWhile isSpace).reverse

def isUpper (b : UInt8) : Bool := decide (65 ≤ b.toNat) && decide (b.toNat ≤ 90)

def isHexDigit (b : UInt8) : Bool :=
  (decide (48 ≤ b.toNat) && decide (b.toNat ≤ 57)) || (decide (97 ≤ b.toNat) && decide (b.toNat ≤ 102)) ||
    (decide (65 ≤ b.toNat) && decide (b.toNat ≤ 70))

/-- `0x` followed by exactly `digits` hexadecimal digits. -/
def isHex (digits : Nat) (s : String) : Bool :=
  match bytes s with
  | 48 :: 120 :: ds => ds.length == digits && ds.all isHexDigit
  | _ => false

def lowerChar (b : UInt8) : Char := Char.ofNat (if isUpper b then b.toNat + 32 else b.toNat)

/-- Lower case of ASCII text. -/
def lower (s : String) : String :=
  if (bytes s).any isUpper then String.ofList ((bytes s).map lowerChar) else s

def padLeft (width : Nat) (fill : Char) (s : String) : String :=
  String.ofList (List.replicate (width - s.toList.length) fill ++ s.toList)

/-- `format(n, "064x")`. -/
def hexWord (n : Nat) : String := padLeft 64 '0' (String.ofList (Nat.toDigits 16 n))

def hexDigitChar (n : Nat) : Char := Char.ofNat (if n < 10 then 48 + n else 87 + n)

/-- `"0x" + data.hex()`. -/
def hexText (data : List UInt8) : String :=
  String.ofList ('0' :: 'x' :: data.flatMap (fun b => [hexDigitChar (b.toNat / 16), hexDigitChar (b.toNat % 16)]))

def hexDigitValue (c : Char) : Option Nat :=
  let n := c.toNat
  if 48 ≤ n ∧ n ≤ 57 then some (n - 48)
  else if 97 ≤ n ∧ n ≤ 102 then some (n - 87)
  else if 65 ≤ n ∧ n ≤ 70 then some (n - 55)
  else none

/-- Digits with single underscores before or between them, read after the digits of `acc`. -/
def readHexDigits : Nat → List Char → Option Nat
  | acc, [] => some acc
  | acc, '_' :: c :: cs => (hexDigitValue c).bind (fun d => readHexDigits (16 * acc + d) cs)
  | acc, c :: cs => (hexDigitValue c).bind (fun d => readHexDigits (16 * acc + d) cs)

/-- `int(s, 16)` of a text that begins with `0x`. -/
def readHex (s : String) : Option Nat :=
  match (strip s).toList with
  | '0' :: 'x' :: c :: cs => readHexDigits 0 (c :: cs)
  | _ => none

/-- Numbered names built from one stem are distinct. -/
theorem stem_injective (stem : String) {m n : Nat} (h : stem ++ toString m = stem ++ toString n) :
    m = n := by
  have hs : toString m = toString n := (String.append_right_inj stem).mp h
  rw [Nat.toString_eq_ofList_toDigits, Nat.toString_eq_ofList_toDigits] at hs
  have hd : Nat.toDigits 10 m = Nat.toDigits 10 n := String.ofList_injective hs
  rw [← Nat.ofDigitChars_toDigits (b := 10) (n := m) (by omega) (by omega), hd,
    Nat.ofDigitChars_toDigits (by omega) (by omega)]

theorem bytes_ofList (l : List Char) : bytes (String.ofList l) = l.flatMap String.utf8EncodeChar := by
  simp [bytes, List.utf8Encode]

/-- The lower case of a hexadecimal digit is one byte, a hexadecimal digit and not in upper case. -/
theorem encode_lowerChar {b : UInt8} (h : isHexDigit b = true) :
    ∃ c, String.utf8EncodeChar (lowerChar b) = [c] ∧ isHexDigit c = true ∧ isUpper c = false := by
  have hb : ∀ n : Nat, n < 256 → isHexDigit (UInt8.ofNat n) = true →
      ∃ c, String.utf8EncodeChar (lowerChar (UInt8.ofNat n)) = [c] ∧ isHexDigit c = true ∧
        isUpper c = false := by
    intro n hn hx
    have hv : (48 ≤ n ∧ n ≤ 57) ∨ (97 ≤ n ∧ n ≤ 102) ∨ (65 ≤ n ∧ n ≤ 70) := by
      simp only [isHexDigit, Bool.or_eq_true, Bool.and_eq_true, decide_eq_true_eq,
        UInt8.toNat_ofNat_of_lt' hn] at hx
      tauto
    rcases hv with ⟨h1, h2⟩ | ⟨h1, h2⟩ | ⟨h1, h2⟩ <;> interval_cases n <;> exact ⟨_, rfl, rfl, rfl⟩
  have := hb b.toNat b.toNat_lt
  simpa using this (by simpa using h)

theorem lowerDigits {ds : List UInt8} (h : ds.all isHexDigit = true) :
    ∃ ds', (ds.map lowerChar).flatMap String.utf8EncodeChar = ds' ∧ ds'.length = ds.length ∧
      ds'.all isHexDigit = true ∧ ds'.any isUpper = false := by
  induction ds with
  | nil => exact ⟨[], rfl, rfl, rfl, rfl⟩
  | cons d ds ih =>
    simp only [List.all_cons, Bool.and_eq_true] at h
    obtain ⟨c, hc, hhex, hup⟩ := encode_lowerChar h.1
    obtain ⟨ds', hds, hlen, hall, hany⟩ := ih h.2
    refine ⟨c :: ds', ?_, by simp [hlen], by simp [hhex, hall], by simp [hup, hany]⟩
    simp [hc, ← hds]

/-- Lower case keeps the hexadecimal shape and leaves no upper case digit. -/
theorem isHex_lower {n : Nat} {s : String} (h : isHex n s = true) :
    isHex n (lower s) = true ∧ lower (lower s) = lower s := by
  by_cases hup : (bytes s).any isUpper = true
  · unfold isHex at h
    split at h
    · next ds hs =>
      simp only [Bool.and_eq_true, beq_iff_eq] at h
      obtain ⟨ds', hds, hlen, hall, hany⟩ := lowerDigits h.2
      have hb : bytes (lower s) = 48 :: 120 :: ds' := by
        rw [lower, if_pos hup, bytes_ofList, hs, ← hds]
        rfl
      refine ⟨?_, ?_⟩
      · unfold isHex
        rw [hb]
        simp [hlen, h.1, hall]
      · have hn : (bytes (lower s)).any isUpper = false := by
          rw [hb]
          simp only [List.any_cons, hany, Bool.or_false]
          rfl
        rw [lower, hn]
        rfl
    · simp at h
  · have hl : lower s = s := by simp [lower, hup]
    rw [hl]
    exact ⟨h, hl⟩

/-- Bytes are printed in lower case. -/
theorem lower_hexText (data : List UInt8) : lower (hexText data) = hexText data := by
  have hdigit : ∀ n < 16, ∀ x ∈ String.utf8EncodeChar (hexDigitChar n), isUpper x = false := by
    decide +kernel
  have hbytes : (bytes (hexText data)).any isUpper = false := by
    rw [hexText, bytes_ofList]
    simp only [List.any_eq_false, Bool.not_eq_true, List.mem_flatMap, List.mem_cons, List.not_mem_nil, or_false]
    rintro x ⟨c, rfl | rfl | ⟨b, -, rfl | rfl⟩, hx⟩
    · exact hdigit 0 (by omega) x hx
    · revert x
      decide +kernel
    · have hb := b.toNat_lt
      exact hdigit _ (by omega) x hx
    · exact hdigit _ (by omega) x hx
  rw [lower, hbytes]
  rfl

/-- A character whose encoding begins with a graphic byte is that byte. -/
lemma isSpace_of_isGraphic {c : Char} (h : (String.utf8EncodeChar c).head?.any isGraphic = true) :
    isSpace c = false := by
  have hspace : ∀ n : Nat, c.toNat = n → 33 ≤ n → n ≤ 126 → isSpace c = false := by
    intro n hn h1 h2
    unfold isSpace
    simp only [hn]
    simp
    omega
  -- only the first form of an encoding begins with a byte below 128
  have hbyte : ∀ b : UInt8, isGraphic b = true → 33 ≤ b.toNat ∧ b.toNat ≤ 126 := by
    intro b hb
    simpa [isGraphic] using hb
  unfold String.utf8EncodeChar at h
  simp only at h
  split at h
  · next hle =>
    have hg := hbyte _ h
    rw [UInt8.toNat_ofNat_of_lt' (by change _ < 256; omega)] at hg
    exact hspace _ rfl hg.1 hg.2
  · split at h
    · have hg := hbyte _ h
      rw [UInt8.toNat_ofNat_of_lt' (by change _ < 256; omega)] at hg
      omega
    · split at h
      · have hg := hbyte _ h
        rw [UInt8.toNat_ofNat_of_lt' (by change _ < 256; omega)] at hg
        omega
      · have hg := hbyte _ h
        rw [UInt8.toNat_ofNat_of_lt' (by change _ < 256; omega)] at hg
        omega

lemma head_of_graphic {s : String} (h : (bytes s).head?.any isGraphic = true) :
    ∃ c cs, s.toList = c :: cs ∧ isSpace c = false := by
  have hs : bytes s = s.toList.flatMap String.utf8EncodeChar := by
    rw [← bytes_ofList, String.ofList_toList]
  rw [hs] at h
  cases hl : s.toList with
  | nil =>
    rw [hl] at h
    exact absurd h (by simp)
  | cons c cs =>
    refine ⟨c, cs, rfl, isSpace_of_isGraphic ?_⟩
    rw [hl, List.flatMap_cons] at h
    have hne : String.utf8EncodeChar c ≠ [] := by simp
    rwa [List.head?_append_of_ne_nil _ hne] at h

/-- A text that is not blank begins with a character that is not a space, once stripped. -/
lemma strip_head {s : String} (h : strip s ≠ "") : ∃ c cs, (strip s).toList = c :: cs ∧ isSpace c = false := by
  unfold strip at h ⊢
  split
  · next hg =>
    rw [Bool.and_eq_true] at hg
    exact head_of_graphic hg.1
  · next hg =>
    rw [if_neg hg] at h
    rw [String.toList_ofList]
    have hne : ((s.toList.dropWhile isSpace).reverse.dropWhile isSpace).reverse ≠ [] := by
      intro hnil
      rw [hnil] at h
      exact h rfl
    obtain ⟨c, cs, hc⟩ := List.exists_cons_of_ne_nil hne
    have hpre : c :: cs <+: s.toList.dropWhile isSpace := by
      rw [← hc, ← List.reverse_suffix, List.reverse_reverse]
      exact List.dropWhile_suffix _
    obtain ⟨rest, hrest⟩ := hpre
    refine ⟨c, cs, hc, ?_⟩
    have := List.head?_dropWhile_not isSpace s.toList
    rw [← hrest] at this
    simpa using this

/-- A text that begins with a character other than a space is not blank. -/
lemma strip_ne_empty {s : String} {c : Char} {cs : List Char} (hs : s.toList = c :: cs) (hc : isSpace c = false) :
    strip s ≠ "" := by
  unfold strip
  split
  · intro he
    rw [he] at hs
    exact absurd hs (by simp)
  · intro he
    have hnil := congrArg String.toList he
    have hmem : c ∈ (s.toList.dropWhile isSpace).reverse := by simp [hs, hc]
    rw [String.toList_ofList, String.toList_empty, List.reverse_eq_nil_iff, List.dropWhile_eq_nil_iff] at hnil
    rw [hnil c hmem] at hc
    exact absurd hc (by decide)

lemma length_strip_le (s : String) : (strip s).length ≤ s.length := by
  unfold strip
  split
  · exact Nat.le_refl _
  · have hlist : ∀ l : List Char, ((l.dropWhile isSpace).reverse.dropWhile isSpace).reverse.length ≤ l.length := by
      intro l
      have h1 := (List.dropWhile_suffix isSpace (l := l)).length_le
      have h2 := (List.dropWhile_suffix isSpace (l := (l.dropWhile isSpace).reverse)).length_le
      rw [List.length_reverse] at h2 ⊢
      omega
    rw [String.length_ofList, ← String.length_toList (s := s)]
    exact hlist s.toList

/-- What is left of a text that is not blank is not blank either. -/
lemma strip_strip_ne_empty {s : String} (h : strip s ≠ "") : strip (strip s) ≠ "" := by
  obtain ⟨c, cs, hs, hc⟩ := strip_head h
  exact strip_ne_empty hs hc

end Noyra.Lib
