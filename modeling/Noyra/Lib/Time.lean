import Mathlib.Algebra.Group.Nat.Defs
import Mathlib.Data.Char
import Mathlib.Data.List.Lex
import Mathlib.Tactic.Lemma

/-!
# Instants and their ISO 8601 text

Microseconds since 1970 in the proleptic Gregorian calendar, and the text of an instant with the
offset `+00:00`. The text leaves out a zero fraction of a second, so two texts may differ in length;
their order as text is nevertheless the order of the instants.
-/

namespace Noyra.Lib

def digitChar (n : Nat) : Char := Char.ofNat (48 + n)

/-- The last `width` decimal digits of `n`. -/
def digits : Nat → Nat → List Char
  | 0, _ => []
  | width + 1, n => digits width (n / 10) ++ [digitChar (n % 10)]

@[simp] lemma length_digits (width n : Nat) : (digits width n).length = width := by
  induction width generalizing n with
  | zero => rfl
  | succ width ih => simp [digits, ih]

lemma digitChar_lt {m n : Nat} (h : m < n) (hn : n < 10) : digitChar m < digitChar n := by
  have hall : ∀ n : Fin 10, ∀ m : Fin n.val, digitChar m.val < digitChar n.val := by decide
  exact hall ⟨n, hn⟩ ⟨m, h⟩

/-- Texts of one length in strict order stay so whatever follows them. -/
lemma append_lt_append {α : Type} [LT α] {l₁ l₂ : List α} (h : l₁ < l₂) (hlen : l₁.length = l₂.length)
    (a b : List α) : l₁ ++ a < l₂ ++ b := by
  induction l₁ generalizing l₂ with
  | nil =>
    cases l₂ with
    | nil => cases h
    | cons => simp at hlen
  | cons x xs ih =>
    cases l₂ with
    | nil => simp at hlen
    | cons y ys =>
      cases h with
      | rel hxy => exact List.Lex.rel hxy
      | cons hlt => exact List.Lex.cons (ih hlt (by simpa using hlen))

lemma digits_lt {width m n : Nat} (h : m < n) (hn : n < 10 ^ width) : digits width m < digits width n := by
  induction width generalizing m n with
  | zero => omega
  | succ width ih =>
    have hn' : n / 10 < 10 ^ width := by
      rw [Nat.pow_succ] at hn
      omega
    by_cases hq : m / 10 < n / 10
    · exact append_lt_append (ih hq hn') (by simp) _ _
    · have hm : m / 10 = n / 10 := by omega
      have hr : m % 10 < n % 10 := by omega
      simp only [digits, hm]
      apply List.append_left_lt
      exact List.Lex.rel (digitChar_lt hr (Nat.mod_lt _ (by omega)))

structure Date where
  year : Nat
  month : Nat
  day : Nat
  deriving DecidableEq

def isLeapYear (year : Nat) : Bool := year % 4 == 0 && (year % 100 != 0 || year % 400 == 0)

def daysInMonth (year month : Nat) : Nat :=
  if month = 2 then (if isLeapYear year then 29 else 28)
  else if month = 4 ∨ month = 6 ∨ month = 9 ∨ month = 11 then 30
  else 31

lemma daysInMonth_le (year month : Nat) : daysInMonth year month ≤ 31 := by
  unfold daysInMonth
  split
  · split <;> omega
  · split <;> omega

namespace Date

def next (d : Date) : Date :=
  if d.day < daysInMonth d.year d.month then { d with day := d.day + 1 }
  else if d.month < 12 then ⟨d.year, d.month + 1, 1⟩
  else ⟨d.year + 1, 1, 1⟩

/-- The date `n` days after 1970-01-01. -/
def ofDays : Nat → Date
  | 0 => ⟨1970, 1, 1⟩
  | n + 1 => (ofDays n).next

/-- Earlier in the calendar. -/
def Before (a b : Date) : Prop :=
  a.year < b.year ∨ a.year = b.year ∧ (a.month < b.month ∨ a.month = b.month ∧ a.day < b.day)

lemma Before.trans {a b c : Date} (h : a.Before b) (h' : b.Before c) : a.Before c := by
  unfold Before at *
  omega

lemma before_next (d : Date) : d.Before d.next := by
  unfold next Before
  split
  · simp
  · split
    · simp
    · simp

/-- The date `n` days after another one. -/
def after (start : Date) : Nat → Date
  | 0 => start
  | n + 1 => (after start n).next

lemma after_before {start : Date} {m n : Nat} (h : m < n) : (after start m).Before (after start n) := by
  induction n with
  | zero => omega
  | succ n ih =>
    by_cases hm : m = n
    · subst hm
      exact before_next _
    · exact (ih (by omega)).trans (before_next _)

lemma after_year_le {start : Date} {m n : Nat} (h : m ≤ n) : (after start m).year ≤ (after start n).year := by
  rcases Nat.lt_or_eq_of_le h with hlt | rfl
  · have hbefore : (after start m).Before (after start n) := after_before hlt
    unfold Before at hbefore
    omega
  · exact Nat.le_refl _

lemma after_bounds (start : Date) (hm : start.month ≤ 12) (hd : start.day ≤ 31) (n : Nat) :
    (after start n).month ≤ 12 ∧ (after start n).day ≤ 31 := by
  induction n with
  | zero => exact ⟨hm, hd⟩
  | succ n ih =>
    have hdays := daysInMonth_le (after start n).year (after start n).month
    simp only [after, next]
    split
    · constructor
      · exact ih.1
      · simp only
        omega
    · split
      · simp only
        omega
      · simp

lemma ofDays_eq_after (n : Nat) : ofDays n = after ⟨1970, 1, 1⟩ n := by
  induction n with
  | zero => rfl
  | succ n ih => rw [ofDays, ih, after]

lemma ofDays_before {m n : Nat} (h : m < n) : (ofDays m).Before (ofDays n) := by
  rw [ofDays_eq_after, ofDays_eq_after]
  exact after_before h

lemma year_le {m n : Nat} (h : m ≤ n) : (ofDays m).year ≤ (ofDays n).year := by
  rw [ofDays_eq_after, ofDays_eq_after]
  exact after_year_le h

lemma ofDays_bounds (n : Nat) : (ofDays n).month ≤ 12 ∧ (ofDays n).day ≤ 31 := by
  rw [ofDays_eq_after]
  exact after_bounds _ (by decide) (by decide) n

/-- `YYYY-MM-DD`. -/
def text (d : Date) : List Char := digits 4 d.year ++ ('-' :: (digits 2 d.month ++ ('-' :: digits 2 d.day)))

@[simp] lemma length_text (d : Date) : d.text.length = 10 := by
  simp [text]

lemma text_lt {a b : Date} (h : a.Before b) (hy : b.year ≤ 9999) (hm : b.month ≤ 12) (hd : b.day ≤ 31) :
    a.text < b.text := by
  unfold text
  rcases h with h | ⟨hyear, h | ⟨hmonth, h⟩⟩
  · exact append_lt_append (digits_lt h (by omega)) (by simp) _ _
  · rw [hyear]
    apply List.append_left_lt
    apply List.Lex.cons
    exact append_lt_append (digits_lt h (by omega)) (by simp) _ _
  · rw [hyear, hmonth]
    apply List.append_left_lt
    apply List.Lex.cons
    apply List.append_left_lt
    exact List.Lex.cons (digits_lt h (by omega))

end Date

def second : Nat := 1000000

def minute : Nat := 60 * second

def hour : Nat := 60 * minute

def day : Nat := 24 * hour

/-- An aware UTC `datetime` from 1970 on: microseconds since the epoch, up to the year 9999. -/
structure Instant where
  micros : Nat
  inRange : (Date.ofDays (micros / day)).year ≤ 9999
  deriving DecidableEq

namespace Instant

instance : LE Instant := ⟨fun a b => a.micros ≤ b.micros⟩

instance : LT Instant := ⟨fun a b => a.micros < b.micros⟩

instance (a b : Instant) : Decidable (a ≤ b) := inferInstanceAs (Decidable (a.micros ≤ b.micros))

instance (a b : Instant) : Decidable (a < b) := inferInstanceAs (Decidable (a.micros < b.micros))

lemma le_def {a b : Instant} : a ≤ b ↔ a.micros ≤ b.micros := Iff.rfl

lemma lt_def {a b : Instant} : a < b ↔ a.micros < b.micros := Iff.rfl

/-- An earlier instant. -/
def earlier (t : Instant) (micros : Nat) (h : micros ≤ t.micros) : Instant :=
  ⟨micros, Nat.le_trans (Date.year_le (Nat.div_le_div_right h)) t.inRange⟩

/-- `t + timedelta`; `none` is the `OverflowError`. -/
def add? (t : Instant) (span : Nat) : Option Instant :=
  if h : (Date.ofDays ((t.micros + span) / day)).year ≤ 9999 then some ⟨t.micros + span, h⟩ else none

/-- `t - timedelta`, not before the epoch. -/
def sub (t : Instant) (span : Nat) : Instant := t.earlier (t.micros - span) (Nat.sub_le _ _)

/-- Whole units of time. -/
def floor (t : Instant) (unit : Nat) : Instant := t.earlier (t.micros / unit * unit) (Nat.div_mul_le_self _ _)

lemma add?_of_le {t u : Instant} {span : Nat} (h : t.micros + span ≤ u.micros) :
    ∃ v, t.add? span = some v ∧ v.micros = t.micros + span := by
  have hy := Nat.le_trans (Date.year_le (Nat.div_le_div_right (c := day) h)) u.inRange
  exact ⟨⟨_, hy⟩, by simp [add?, hy], rfl⟩

lemma micros_of_add? {t v : Instant} {span : Nat} (h : t.add? span = some v) : v.micros = t.micros + span := by
  unfold add? at h
  split at h
  · cases h
    rfl
  · cases h

def date (t : Instant) : Date := Date.ofDays (t.micros / day)

/-- `HH:MM:SS` of a second of the day. -/
def clockText (s : Nat) : List Char :=
  digits 2 (s / 3600) ++ (':' :: (digits 2 (s / 60 % 60) ++ (':' :: digits 2 (s % 60))))

lemma clockText_lt {s s' : Nat} (h : s < s') (hs : s' < 86400) : clockText s < clockText s' := by
  unfold clockText
  by_cases hh : s / 3600 < s' / 3600
  · exact append_lt_append (digits_lt hh (by omega)) (by simp) _ _
  · have hhour : s / 3600 = s' / 3600 := by omega
    rw [hhour]
    apply List.append_left_lt
    apply List.Lex.cons
    by_cases hm : s / 60 % 60 < s' / 60 % 60
    · exact append_lt_append (digits_lt hm (by omega)) (by simp) _ _
    · have hminute : s / 60 % 60 = s' / 60 % 60 := by omega
      rw [hminute]
      apply List.append_left_lt
      apply List.Lex.cons
      exact digits_lt (by omega) (by omega)

@[simp] lemma length_clockText (s : Nat) : (clockText s).length = 8 := by
  simp [clockText]

def offset : List Char := ['+', '0', '0', ':', '0', '0']

/-- The fraction of a second, left out when it is zero. -/
def fractionText (us : Nat) : List Char := if us = 0 then [] else '.' :: digits 6 us

-- A text without a fraction continues with `+`, which sorts before the `.` of every fraction.
lemma fractionText_lt {us us' : Nat} (h : us < us') (hs : us' < 1000000) :
    fractionText us ++ offset < fractionText us' ++ offset := by
  have hpos : us' ≠ 0 := by omega
  unfold fractionText
  rw [if_neg hpos]
  by_cases hz : us = 0
  · rw [if_pos hz]
    exact List.Lex.rel (by decide)
  · rw [if_neg hz]
    apply List.Lex.cons
    exact append_lt_append (digits_lt h (by omega)) (by simp) _ _

/-- `isoformat()`. -/
def isoformat (t : Instant) : List Char :=
  t.date.text ++ ('T' :: (clockText (t.micros / second % 86400) ++
    (fractionText (t.micros % second) ++ offset)))

/-- `isoformat(timespec="milliseconds")`. -/
def isoformatMillis (t : Instant) : List Char :=
  t.date.text ++ ('T' :: (clockText (t.micros / second % 86400) ++
    ('.' :: (digits 3 (t.micros / 1000 % 1000) ++ offset))))

lemma isoformat_lt {t u : Instant} (h : t < u) : t.isoformat < u.isoformat := by
  rw [lt_def] at h
  have hb := Date.ofDays_bounds (u.micros / day)
  simp only [isoformat, date]
  by_cases hd : t.micros / day < u.micros / day
  · exact append_lt_append (Date.text_lt (Date.ofDays_before hd) u.inRange hb.1 hb.2) (by simp) _ _
  · have hday : t.micros / day = u.micros / day := by
      have := Nat.div_le_div_right (c := day) (Nat.le_of_lt h)
      omega
    rw [hday]
    apply List.append_left_lt
    apply List.Lex.cons
    simp only [day, hour, minute, second] at *
    by_cases hs : t.micros / 1000000 % 86400 < u.micros / 1000000 % 86400
    · exact append_lt_append (clockText_lt hs (by omega)) (by simp) _ _
    · have hsec : t.micros / 1000000 % 86400 = u.micros / 1000000 % 86400 := by omega
      rw [hsec]
      apply List.append_left_lt
      exact fractionText_lt (by omega) (by omega)

/-- Texts compare as the instants do. -/
theorem isoformat_le {t u : Instant} : t.isoformat ≤ u.isoformat ↔ t ≤ u := by
  constructor
  · intro h
    by_contra hlt
    rw [le_def] at hlt
    have hback : u.isoformat < t.isoformat := isoformat_lt (lt_def.mpr (by omega))
    exact absurd h (not_le_of_gt hback)
  · intro h
    rw [le_def] at h
    by_cases heq : t.micros = u.micros
    · have : t = u := by
        cases t
        cases u
        simpa using heq
      rw [this]
    · exact le_of_lt (isoformat_lt (lt_def.mpr (by omega)))

end Instant

/-- An aware UTC `datetime`: microseconds since the year 1, up to the year 9999. -/
structure Moment where
  micros : Nat
  inRange : (Date.after ⟨1, 1, 1⟩ (micros / day)).year ≤ 9999
  deriving DecidableEq

namespace Moment

def date (t : Moment) : Date := Date.after ⟨1, 1, 1⟩ (t.micros / day)

/-- `t - timedelta`; `none` is the `OverflowError`. -/
def sub? (t : Moment) (span : Nat) : Option Moment :=
  if span ≤ t.micros then
    some ⟨t.micros - span, Nat.le_trans (Date.after_year_le (Nat.div_le_div_right (Nat.sub_le _ _))) t.inRange⟩
  else none

lemma sub?_eq_some {t u : Moment} {span : Nat} (h : t.sub? span = some u) :
    span ≤ t.micros ∧ u.micros = t.micros - span := by
  unfold sub? at h
  split at h
  · next hle =>
    cases h
    exact ⟨hle, rfl⟩
  · cases h

/-- `YYYY-MM-DDTHH:MM:SS`. -/
def stamp (t : Moment) : List Char := t.date.text ++ ('T' :: Instant.clockText (t.micros / second % 86400))

/-- `isoformat(timespec="milliseconds")`. -/
def isoformatMillis (t : Moment) : List Char :=
  t.stamp ++ ('.' :: (digits 3 (t.micros / 1000 % 1000) ++ Instant.offset))

/-- `isoformat(timespec="seconds")`. -/
def isoformatSeconds (t : Moment) : List Char := t.stamp ++ Instant.offset

lemma length_stamp (t : Moment) : t.stamp.length = 19 := by
  simp [stamp]

lemma stamp_lt {t u : Moment} (h : t.micros / second < u.micros / second) : t.stamp < u.stamp := by
  have hb := Date.after_bounds ⟨1, 1, 1⟩ (by decide) (by decide) (u.micros / day)
  unfold stamp date
  by_cases hd : t.micros / day < u.micros / day
  · exact append_lt_append (Date.text_lt (Date.after_before hd) u.inRange hb.1 hb.2) (by simp) _ _
  · have hday : t.micros / day = u.micros / day := by
      simp only [day, hour, minute, second] at *
      omega
    rw [hday]
    apply List.append_left_lt
    apply List.Lex.cons
    apply Instant.clockText_lt
    · simp only [day, hour, minute, second] at *
      omega
    · exact Nat.mod_lt _ (by omega)

lemma stamp_eq {t u : Moment} (h : t.micros / second = u.micros / second) : t.stamp = u.stamp := by
  have hday : t.micros / day = u.micros / day := by
    simp only [day, hour, minute, second] at *
    omega
  unfold stamp date
  rw [h, hday]

/-- Texts with milliseconds compare as the instants do. -/
theorem isoformatMillis_lt {t u : Moment} (ht : t.micros % 1000 = 0) (hu : u.micros % 1000 = 0) :
    t.isoformatMillis < u.isoformatMillis ↔ t.micros < u.micros := by
  unfold isoformatMillis
  rcases Nat.lt_trichotomy (t.micros / second) (u.micros / second) with h | h | h
  · have hlt := append_lt_append (stamp_lt h) (by rw [length_stamp, length_stamp])
      ('.' :: (digits 3 (t.micros / 1000 % 1000) ++ Instant.offset))
        ('.' :: (digits 3 (u.micros / 1000 % 1000) ++ Instant.offset))
    refine iff_of_true hlt ?_
    simp only [second] at h
    omega
  · rw [stamp_eq h]
    simp only [second] at h
    rcases Nat.lt_trichotomy (t.micros / 1000 % 1000) (u.micros / 1000 % 1000) with hm | hm | hm
    · refine iff_of_true ?_ (by omega)
      apply List.append_left_lt
      apply List.Lex.cons
      exact append_lt_append (digits_lt hm (Nat.mod_lt _ (by omega))) (by simp) _ _
    · rw [hm]
      exact iff_of_false (lt_irrefl _) (by omega)
    · refine iff_of_false (not_lt_of_gt ?_) (by omega)
      apply List.append_left_lt
      apply List.Lex.cons
      exact append_lt_append (digits_lt hm (Nat.mod_lt _ (by omega))) (by simp) _ _
  · have hlt := append_lt_append (stamp_lt h) (by rw [length_stamp, length_stamp])
      ('.' :: (digits 3 (u.micros / 1000 % 1000) ++ Instant.offset))
        ('.' :: (digits 3 (t.micros / 1000 % 1000) ++ Instant.offset))
    refine iff_of_false (not_lt_of_gt hlt) ?_
    simp only [second] at h
    omega

-- The `+` of the offset sorts before the `.` of a fraction.
/-- A text with milliseconds and one with whole seconds compare as the instants do. -/
theorem isoformatMillis_lt_isoformatSeconds {t u : Moment} (hu : u.micros % second = 0) :
    t.isoformatMillis < u.isoformatSeconds ↔ t.micros < u.micros := by
  unfold isoformatMillis isoformatSeconds
  rcases Nat.lt_trichotomy (t.micros / second) (u.micros / second) with h | h | h
  · have hlt := append_lt_append (stamp_lt h) (by rw [length_stamp, length_stamp])
      ('.' :: (digits 3 (t.micros / 1000 % 1000) ++ Instant.offset)) Instant.offset
    refine iff_of_true hlt ?_
    simp only [second] at h
    omega
  · rw [stamp_eq h]
    refine iff_of_false (not_lt_of_gt ?_) ?_
    · apply List.append_left_lt
      exact List.Lex.rel (by decide)
    · simp only [second] at h hu
      omega
  · have hlt := append_lt_append (stamp_lt h) (by rw [length_stamp, length_stamp])
      Instant.offset ('.' :: (digits 3 (t.micros / 1000 % 1000) ++ Instant.offset))
    refine iff_of_false (not_lt_of_gt hlt) ?_
    simp only [second] at h
    omega

/-- `isoformat()`. -/
def isoformat (t : Moment) : List Char := t.stamp ++ (Instant.fractionText (t.micros % second) ++ Instant.offset)

lemma isoformat_lt {t u : Moment} (h : t.micros < u.micros) : t.isoformat < u.isoformat := by
  unfold isoformat
  rcases Nat.lt_or_eq_of_le (Nat.div_le_div_right (c := second) h.le) with hs | hs
  · exact append_lt_append (stamp_lt hs) (by rw [length_stamp, length_stamp]) _ _
  · rw [stamp_eq hs]
    apply List.append_left_lt
    simp only [second] at hs ⊢
    exact Instant.fractionText_lt (by omega) (by omega)

lemma micros_inj {t u : Moment} (h : t.micros = u.micros) : t = u := by
  cases t
  cases u
  simpa using h

/-- Texts compare as the instants do. -/
theorem isoformat_lt_iff {t u : Moment} : t.isoformat < u.isoformat ↔ t.micros < u.micros := by
  refine ⟨?_, isoformat_lt⟩
  intro h
  rcases Nat.lt_trichotomy t.micros u.micros with hlt | heq | hgt
  · exact hlt
  · rw [micros_inj heq] at h
    exact absurd h (lt_irrefl _)
  · exact absurd (isoformat_lt hgt) (not_lt_of_gt h)

lemma digits_six {k : Nat} : digits 6 (k * 1000) = digits 3 k ++ ['0', '0', '0'] := by
  have hone : k * 1000 / 10 = k * 100 := by omega
  have htwo : k * 100 / 10 = k * 10 := by omega
  have hthree : k * 10 / 10 = k := by omega
  have hzero : digitChar 0 = '0' := rfl
  simp [digits, hone, htwo, hthree, hzero, show k * 1000 % 10 = 0 by omega, show k * 100 % 10 = 0 by omega]

-- At a whole second the text on the right has no fraction, and its `+` sorts before the `.` on the left.
/-- A text with milliseconds and one of automatic precision compare as the instants do, but for equal whole seconds. -/
theorem isoformatMillis_le_isoformat {t u : Moment} (ht : t.micros % 1000 = 0) (hu : u.micros % 1000 = 0) :
    t.isoformatMillis ≤ u.isoformat ↔ t.micros < u.micros ∨ t.micros = u.micros ∧ u.micros % second ≠ 0 := by
  unfold isoformatMillis isoformat
  rcases Nat.lt_trichotomy (t.micros / second) (u.micros / second) with h | h | h
  · refine iff_of_true (le_of_lt (append_lt_append (stamp_lt h) (by rw [length_stamp, length_stamp]) _ _)) ?_
    simp only [second] at h
    omega
  · rw [stamp_eq h]
    simp only [second] at h
    by_cases hzero : u.micros % second = 0
    · have hnone : Instant.fractionText (u.micros % second) = [] := if_pos hzero
      rw [hnone]
      refine iff_of_false (not_le_of_gt ?_) ?_
      · apply List.append_left_lt
        exact List.Lex.rel (by decide)
      · simp only [second] at hzero ⊢
        omega
    · have hsome : Instant.fractionText (u.micros % second) =
          '.' :: (digits 3 (u.micros / 1000 % 1000) ++ ['0', '0', '0']) := by
        rw [← digits_six]
        have hsix : u.micros % second = u.micros / 1000 % 1000 * 1000 := by
          simp only [second]
          omega
        rw [← hsix]
        exact if_neg hzero
      rw [hsome]
      simp only [second] at hzero ⊢
      simp only [List.append_assoc, List.cons_append, List.nil_append]
      rcases Nat.lt_trichotomy (t.micros / 1000 % 1000) (u.micros / 1000 % 1000) with hm | hm | hm
      · refine iff_of_true (le_of_lt ?_) (by omega)
        apply List.append_left_lt
        apply List.Lex.cons
        exact append_lt_append (digits_lt hm (Nat.mod_lt _ (by omega))) (by simp) _ _
      · rw [hm]
        refine iff_of_true (le_of_lt ?_) (by omega)
        apply List.append_left_lt
        apply List.Lex.cons
        apply List.append_left_lt
        exact List.Lex.rel (by decide)
      · refine iff_of_false (not_le_of_gt ?_) (by omega)
        apply List.append_left_lt
        apply List.Lex.cons
        exact append_lt_append (digits_lt hm (Nat.mod_lt _ (by omega))) (by simp) _ _
  · refine iff_of_false (not_le_of_gt (append_lt_append (stamp_lt h) (by rw [length_stamp, length_stamp]) _ _)) ?_
    simp only [second] at h
    omega

end Moment

end Noyra.Lib
