import Mathlib.Algebra.Group.Nat.Defs
import Noyra.Lib.Time

/-!
# Reading ISO 8601 texts

`datetime.fromisoformat` on the UTC texts that `isoformat` writes: a date, a time of day, a fraction of three or six
digits where there is one, and the offset `+00:00`.
-/

namespace Noyra.Lib

/-- Days before a year. -/
def daysBeforeYear (year : Nat) : Nat := (year - 1) * 365 + (year - 1) / 4 - (year - 1) / 100 + (year - 1) / 400

/-- Days of a year before a month. -/
def daysBeforeMonth (year : Nat) : Nat → Nat
  | 0 => 0
  | 1 => 0
  | month + 2 => daysBeforeMonth year (month + 1) + daysInMonth year (month + 1)

lemma isLeapYear_iff {year : Nat} : isLeapYear year = true ↔ 4 ∣ year ∧ (¬100 ∣ year ∨ 400 ∣ year) := by
  simp [isLeapYear, Nat.dvd_iff_mod_eq_zero]

lemma daysBeforeYear_succ {year : Nat} (h : 1 ≤ year) :
    daysBeforeYear (year + 1) = daysBeforeYear year + 365 + (if isLeapYear year then 1 else 0) := by
  obtain ⟨y, rfl⟩ : ∃ y, year = y + 1 := ⟨year - 1, by omega⟩
  have hcenturies : y / 100 ≤ y / 4 := Nat.div_le_div_left (by omega) (by omega)
  have hcentury : 100 ∣ y + 1 → 4 ∣ y + 1 := Nat.dvd_trans (by decide)
  have hgregorian : 400 ∣ y + 1 → 100 ∣ y + 1 := Nat.dvd_trans (by decide)
  have hleap : (if isLeapYear (y + 1) then 1 else 0) + (if 100 ∣ y + 1 then 1 else 0) =
      (if 4 ∣ y + 1 then 1 else 0) + (if 400 ∣ y + 1 then 1 else 0) := by
    by_cases h4 : 4 ∣ y + 1
    · by_cases h100 : 100 ∣ y + 1
      · by_cases h400 : 400 ∣ y + 1
        · simp [isLeapYear_iff, h4, h100, h400]
        · simp [isLeapYear_iff, h4, h100, h400]
      · have h400 : ¬400 ∣ y + 1 := fun h400 => h100 (hgregorian h400)
        simp [isLeapYear_iff, h4, h100, h400]
    · have h100 : ¬100 ∣ y + 1 := fun h100 => h4 (hcentury h100)
      have h400 : ¬400 ∣ y + 1 := fun h400 => h100 (hgregorian h400)
      simp [isLeapYear_iff, h4, h100, h400]
  have hone : (if 100 ∣ y + 1 then 1 else 0) ≤ 1 := by split <;> decide
  unfold daysBeforeYear
  simp only [Nat.add_sub_cancel, Nat.succ_div]
  generalize (if isLeapYear (y + 1) then 1 else 0) = l at hleap ⊢
  generalize (if 4 ∣ y + 1 then 1 else 0) = a at hleap ⊢
  generalize (if 100 ∣ y + 1 then 1 else 0) = b at hleap hone ⊢
  generalize (if 400 ∣ y + 1 then 1 else 0) = c at hleap ⊢
  generalize y / 4 = q at hcenturies ⊢
  generalize y / 100 = r at hcenturies ⊢
  generalize y / 400 = t
  clear hcentury hgregorian
  omega

lemma daysBeforeMonth_succ {year month : Nat} (h : 1 ≤ month) :
    daysBeforeMonth year (month + 1) = daysBeforeMonth year month + daysInMonth year month := by
  obtain ⟨m, rfl⟩ : ∃ m, month = m + 1 := ⟨month - 1, by omega⟩
  rfl

lemma daysBeforeMonth_december (year : Nat) :
    daysBeforeMonth year 12 + daysInMonth year 12 = 365 + (if isLeapYear year then 1 else 0) := by
  have hfebruary : daysInMonth year 2 = 28 + (if isLeapYear year then 1 else 0) := by
    unfold daysInMonth
    rw [if_pos rfl]
    cases isLeapYear year <;> rfl
  have hmonths : daysBeforeMonth year 12 + daysInMonth year 12 = daysInMonth year 1 + daysInMonth year 2 +
      daysInMonth year 3 +
      daysInMonth year 4 + daysInMonth year 5 + daysInMonth year 6 + daysInMonth year 7 + daysInMonth year 8 +
      daysInMonth year 9 + daysInMonth year 10 + daysInMonth year 11 + daysInMonth year 12 := by
    simp [daysBeforeMonth]
  have hlengths : daysInMonth year 1 = 31 ∧ daysInMonth year 3 = 31 ∧ daysInMonth year 4 = 30 ∧
      daysInMonth year 5 = 31 ∧
      daysInMonth year 6 = 30 ∧ daysInMonth year 7 = 31 ∧ daysInMonth year 8 = 31 ∧ daysInMonth year 9 = 30 ∧
      daysInMonth year 10 = 31 ∧ daysInMonth year 11 = 30 ∧ daysInMonth year 12 = 31 := by
    simp [daysInMonth]
  omega

namespace Date

/-- `date.toordinal`, from 0. -/
def ordinal (d : Date) : Nat := daysBeforeYear d.year + daysBeforeMonth d.year d.month + (d.day - 1)

/-- What makes a `date`. -/
def Valid (d : Date) : Prop :=
  1 ≤ d.year ∧ 1 ≤ d.month ∧ d.month ≤ 12 ∧ 1 ≤ d.day ∧ d.day ≤ daysInMonth d.year d.month

instance (d : Date) : Decidable d.Valid := inferInstanceAs (Decidable (_ ∧ _))

lemma one_le_daysInMonth (year month : Nat) : 1 ≤ daysInMonth year month := by
  unfold daysInMonth
  split
  · split <;> omega
  · split <;> omega

lemma valid_next {d : Date} (h : d.Valid) : d.next.Valid := by
  obtain ⟨hy, hm, hm', hd, hd'⟩ := h
  unfold next
  split
  · exact ⟨hy, hm, hm', by simp, by simpa⟩
  · split
    · next hmonth => exact ⟨hy, by simp, hmonth, by simp, one_le_daysInMonth _ _⟩
    · exact ⟨by simp, by simp, by simp, by simp, one_le_daysInMonth _ _⟩

lemma ordinal_next {d : Date} (h : d.Valid) : d.next.ordinal = d.ordinal + 1 := by
  obtain ⟨hy, hm, hm', hd, hd'⟩ := h
  unfold next ordinal
  split
  · simp only
    omega
  · next hlast =>
    have hday : d.day = daysInMonth d.year d.month := by omega
    split
    · simp only [daysBeforeMonth_succ hm]
      omega
    · have hdecember : d.month = 12 := by omega
      have hyear := daysBeforeMonth_december d.year
      rw [← hdecember] at hyear
      simp only [daysBeforeYear_succ hy, daysBeforeMonth]
      omega

/-- Counting days from the year 1 gives valid dates, and counts back. -/
lemma ordinal_after (n : Nat) : (after ⟨1, 1, 1⟩ n).Valid ∧ (after ⟨1, 1, 1⟩ n).ordinal = n := by
  induction n with
  | zero => exact ⟨by decide, rfl⟩
  | succ n ih => exact ⟨valid_next ih.1, (ordinal_next ih.1).trans (congrArg (· + 1) ih.2)⟩

end Date

def digitValue (c : Char) : Option Nat := if '0' ≤ c ∧ c ≤ '9' then some (c.toNat - 48) else none

/-- The number written by the first `width` characters, with what follows them. -/
def readDigits : Nat → List Char → Option (Nat × List Char)
  | 0, text => some (0, text)
  | width + 1, text =>
    match readDigits width text with
    | some (n, c :: rest) => (digitValue c).map (fun d => (n * 10 + d, rest))
    | _ => none

def expectChar (c : Char) : List Char → Option (List Char)
  | [] => none
  | d :: rest => if d = c then some rest else none

lemma digitValue_digitChar {n : Nat} (h : n < 10) : digitValue (digitChar n) = some n := by
  have hall : ∀ k : Fin 10, digitValue (digitChar k) = some k.val := by decide
  exact hall ⟨n, h⟩

lemma readDigits_digits {width n : Nat} (h : n < 10 ^ width) (rest : List Char) :
    readDigits width (digits width n ++ rest) = some (n, rest) := by
  induction width generalizing n rest with
  | zero =>
    have hn : n = 0 := by omega
    subst hn
    rfl
  | succ width ih =>
    have hn : n / 10 < 10 ^ width := by
      rw [Nat.pow_succ] at h
      omega
    have htext : digits (width + 1) n ++ rest = digits width (n / 10) ++ (digitChar (n % 10) :: rest) := by
      simp [digits]
    unfold readDigits
    rw [htext, ih hn]
    simp only [digitValue_digitChar (Nat.mod_lt n (by omega : 10 > 0)), Option.map_some, Option.some.injEq,
      Prod.mk.injEq, and_true]
    omega

@[simp] lemma expectChar_cons (c : Char) (rest : List Char) : expectChar c (c :: rest) = some rest := by
  simp [expectChar]

/-- A fraction of a second, in microseconds, where there is one. -/
def readFraction : List Char → Option (Nat × List Char)
  | '.' :: text =>
    match readDigits 6 text with
    | some r => some r
    | none => (readDigits 3 text).map (fun r => (r.1 * 1000, r.2))
  | text => some (0, text)

def Moment.ofMicros? (micros : Nat) : Option Moment :=
  if h : (Date.after ⟨1, 1, 1⟩ (micros / day)).year ≤ 9999 then some ⟨micros, h⟩ else none

lemma Moment.ofMicros?_micros (t : Moment) : Moment.ofMicros? t.micros = some t := dif_pos t.inRange

/-- `datetime.fromisoformat` of a UTC text. -/
def fromisoformat (text : List Char) : Option Moment := do
  let (year, text) ← readDigits 4 text
  let text ← expectChar '-' text
  let (month, text) ← readDigits 2 text
  let text ← expectChar '-' text
  let (dayOfMonth, text) ← readDigits 2 text
  let text ← expectChar 'T' text
  let (h, text) ← readDigits 2 text
  let text ← expectChar ':' text
  let (m, text) ← readDigits 2 text
  let text ← expectChar ':' text
  let (s, text) ← readDigits 2 text
  let (us, text) ← readFraction text
  if text = Instant.offset ∧ (Date.mk year month dayOfMonth).Valid ∧ h < 24 ∧ m < 60 ∧ s < 60 then
    Moment.ofMicros? ((Date.mk year month dayOfMonth).ordinal * day + ((h * 60 + m) * 60 + s) * second + us)
  else none

lemma readFraction_millis {ms : Nat} (h : ms < 1000) :
    readFraction ('.' :: (digits 3 ms ++ Instant.offset)) = some (ms * 1000, Instant.offset) := by
  have hthree : readDigits 3 (digits 3 ms ++ Instant.offset) = some (ms, Instant.offset) :=
    readDigits_digits (by omega) _
  -- the fourth character is the sign of the offset
  have hfour : readDigits 4 (digits 3 ms ++ Instant.offset) = none := by
    unfold readDigits
    rw [hthree]
    rfl
  have hsix : readDigits 6 (digits 3 ms ++ Instant.offset) = none := by
    unfold readDigits
    unfold readDigits
    rw [hfour]
  simp only [readFraction, hsix, hthree, Option.map_some]

/-- Reading back a text with milliseconds. -/
theorem fromisoformat_isoformatMillis {t : Moment} (h : t.micros % 1000 = 0) :
    fromisoformat t.isoformatMillis = some t := by
  obtain ⟨hvalid, hordinal⟩ := Date.ordinal_after (t.micros / day)
  have hb := Date.after_bounds ⟨1, 1, 1⟩ (by decide) (by decide) (t.micros / day)
  have hyear := t.inRange
  generalize hd : Date.after ⟨1, 1, 1⟩ (t.micros / day) = d at hvalid hordinal hb hyear
  have htext : t.isoformatMillis = digits 4 d.year ++ ('-' :: (digits 2 d.month ++ ('-' :: (digits 2 d.day ++ ('T' ::
      (digits 2 (t.micros / second % 86400 / 3600) ++ (':' :: (digits 2 (t.micros / second % 86400 / 60 % 60) ++ (':' ::
        (digits 2 (t.micros / second % 86400 % 60) ++ ('.' :: (digits 3 (t.micros / 1000 % 1000) ++
          Instant.offset)))))))))))) := by
    simp [Moment.isoformatMillis, Moment.stamp, Moment.date, hd, Date.text, Instant.clockText]
  rw [htext]
  unfold fromisoformat
  rw [readDigits_digits (by omega), Option.bind_eq_bind, Option.bind_some]
  simp only [expectChar_cons, Option.bind_eq_bind, Option.bind_some]
  rw [readDigits_digits (by omega), Option.bind_some]
  simp only [expectChar_cons, Option.bind_some]
  rw [readDigits_digits (by omega), Option.bind_some]
  simp only [expectChar_cons, Option.bind_some]
  rw [readDigits_digits (by omega), Option.bind_some]
  simp only [expectChar_cons, Option.bind_some]
  rw [readDigits_digits (by omega), Option.bind_some]
  simp only [expectChar_cons, Option.bind_some]
  rw [readDigits_digits (by omega), Option.bind_some]
  simp only [readFraction_millis (Nat.mod_lt (t.micros / 1000) (by omega)), Option.bind_some]
  rw [if_pos ⟨trivial, hvalid, by omega, by omega, by omega⟩, hordinal]
  refine (congrArg Moment.ofMicros? ?_).trans t.ofMicros?_micros
  simp only [day, hour, minute, second] at *
  omega

end Noyra.Lib
