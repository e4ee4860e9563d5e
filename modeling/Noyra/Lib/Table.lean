import Mathlib.Algebra.BigOperators.Group.List.Basic
import Mathlib.Algebra.Group.Int.Defs
import Mathlib.Algebra.Ring.Int.Defs
import Mathlib.Algebra.Ring.Nat
import Mathlib.Data.List.Nodup

/-!
# Tables with a primary key

A table is a list of rows without two rows of one key. Rows are appended, replaced and removed; list order
is insertion order and a replaced row keeps its place.
-/

namespace Noyra.Lib

/-- Rows whose primary keys are pairwise distinct. -/
structure Table {κ ρ : Type} (key : ρ → κ) where
  rows : List ρ
  nodup : (rows.map key).Nodup

namespace Table

variable {κ ρ β : Type} {key : ρ → κ}

instance : Membership ρ (Table key) := ⟨fun t r => r ∈ t.rows⟩

theorem mem_def {t : Table key} {r : ρ} : r ∈ t ↔ r ∈ t.rows := Iff.rfl

def empty : Table key := ⟨[], List.nodup_nil⟩

@[simp] theorem rows_empty : (empty : Table key).rows = [] := rfl

theorem eq_of_key {t : Table key} {r r' : ρ} (h : r ∈ t) (h' : r' ∈ t) (hk : key r = key r') :
    r = r' :=
  List.inj_on_of_nodup_map t.nodup h h' hk

/-- Change every row, keeping its primary key. -/
def mapRows (t : Table key) (f : ρ → ρ) (hf : ∀ r, key (f r) = key r) : Table key where
  rows := t.rows.map f
  nodup := by
    have : key ∘ f = key := funext hf
    rw [List.map_map, this]
    exact t.nodup

theorem mem_mapRows {t : Table key} {f : ρ → ρ} {hf : ∀ r, key (f r) = key r} {x : ρ} :
    x ∈ t.mapRows f hf ↔ ∃ r ∈ t, f r = x :=
  List.mem_map

/-- `DELETE` of the rows that do not meet a condition. -/
def keepRows (t : Table key) (p : ρ → Bool) : Table key where
  rows := t.rows.filter p
  nodup := t.nodup.sublist (List.filter_sublist.map key)

theorem mem_keepRows {t : Table key} {p : ρ → Bool} {x : ρ} : x ∈ t.keepRows p ↔ x ∈ t ∧ p x = true :=
  List.mem_filter

variable [DecidableEq κ]

def find? (t : Table key) (k : κ) : Option ρ := t.rows.find? (fun r => key r = k)

theorem find?_eq_some {t : Table key} {k : κ} {r : ρ} : t.find? k = some r ↔ r ∈ t ∧ key r = k := by
  constructor
  · intro h
    exact ⟨List.mem_of_find?_eq_some h, by simpa using List.find?_some h⟩
  · rintro ⟨hm, hk⟩
    cases h : t.find? k with
    | none =>
      have := List.find?_eq_none.mp h r hm
      simp [hk] at this
    | some r' =>
      have hm' : r' ∈ t := List.mem_of_find?_eq_some h
      have hk' : key r' = k := by simpa using List.find?_some h
      rw [eq_of_key hm' hm (hk'.trans hk.symm)]

theorem find?_eq_none {t : Table key} {k : κ} : t.find? k = none ↔ ∀ r ∈ t, key r ≠ k := by
  simp [find?, mem_def]

theorem find?_key {t : Table key} {r : ρ} (h : r ∈ t) : t.find? (key r) = some r :=
  find?_eq_some.mpr ⟨h, rfl⟩

/-- Append a row; refused when its primary key is taken. -/
def insert? (t : Table key) (r : ρ) : Option (Table key) :=
  if h : key r ∈ t.rows.map key then none
  else some ⟨t.rows ++ [r], by
    rw [List.map_append, List.nodup_append]
    refine ⟨t.nodup, by simp, ?_⟩
    rintro a ha b hb rfl
    simp only [List.map_cons, List.map_nil, List.mem_singleton] at hb
    exact h (hb ▸ ha)⟩

theorem insert?_eq_some {t t' : Table key} {r : ρ} :
    t.insert? r = some t' ↔ (∀ x ∈ t, key x ≠ key r) ∧ t'.rows = t.rows ++ [r] := by
  unfold insert?
  split
  · next h =>
    simp only [reduceCtorEq, false_iff, not_and]
    intro hx
    obtain ⟨x, hx', hk⟩ := List.mem_map.mp h
    exact absurd hk (hx x hx')
  · next h =>
    rw [Option.some.injEq]
    constructor
    · rintro rfl
      exact ⟨fun x hx hk => h (List.mem_map.mpr ⟨x, hx, hk⟩), rfl⟩
    · rintro ⟨-, hr⟩
      cases t'
      simp_all

/-- Overwrite the row that has the primary key of `r`. -/
def replace (t : Table key) (r : ρ) : Table key where
  rows := t.rows.map (fun x => if key x = key r then r else x)
  nodup := by
    rw [List.map_map]
    have : key ∘ (fun x => if key x = key r then r else x) = key := by
      funext x
      by_cases h : key x = key r <;> simp [h]
    rw [this]
    exact t.nodup

@[simp] theorem map_key_replace (t : Table key) (r : ρ) :
    (t.replace r).rows.map key = t.rows.map key := by
  simp only [replace, List.map_map]
  apply List.map_congr_left
  intro x _
  by_cases h : key x = key r <;> simp [h]

theorem mem_replace {t : Table key} {r x : ρ} :
    x ∈ t.replace r ↔ (x = r ∧ ∃ y ∈ t, key y = key r) ∨ (x ∈ t ∧ key x ≠ key r) := by
  simp only [mem_def, replace, List.mem_map]
  constructor
  · rintro ⟨y, hy, rfl⟩
    by_cases h : key y = key r
    · exact .inl ⟨by simp [h], y, hy, h⟩
    · exact .inr (by simp [h, hy])
  · rintro (⟨rfl, y, hy, hk⟩ | ⟨hx, hk⟩)
    · exact ⟨y, hy, by simp [hk]⟩
    · exact ⟨x, hx, by simp [hk]⟩

theorem replace_rows_of_find? {t : Table key} {old new : ρ} (h : t.find? (key new) = some old)
    {f : ρ → β} (hf : f new = f old) : (t.replace new).rows.map f = t.rows.map f := by
  simp only [replace, List.map_map]
  apply List.map_congr_left
  intro x hx
  by_cases hk : key x = key new
  · have hx' : x = old := by
      have := find?_eq_some.mpr ⟨hx, hk⟩
      exact Option.some.inj (this.symm.trans h)
    subst hx'
    simp [hk, hf]
  · simp [hk]

/-- A replacement that keeps the selected columns keeps every selection of them. -/
theorem replace_filter_map {t : Table key} {old new : ρ} (h : t.find? (key new) = some old)
    {p : ρ → Bool} (hp : p new = p old) {f : ρ → β} (hf : f new = f old) :
    ((t.replace new).rows.filter p).map f = (t.rows.filter p).map f := by
  have hall : ∀ l : List ρ, (∀ x ∈ l, key x = key new → x = old) →
      ((l.map (fun x => if key x = key new then new else x)).filter p).map f = (l.filter p).map f := by
    intro l hl
    induction l with
    | nil => rfl
    | cons x l ih =>
      have ih' := ih (fun y hy => hl y (List.mem_cons_of_mem _ hy))
      by_cases hk : key x = key new
      · have hx := hl x List.mem_cons_self hk
        subst hx
        cases hpx : p x <;> simp [hk, hp, hpx, hf, ih']
      · cases hpx : p x <;> simp [hk, hpx, ih']
  apply hall
  intro x hx hk
  exact Option.some.inj ((find?_eq_some.mpr ⟨hx, hk⟩).symm.trans h)

/-- Replacing a row changes a sum over the table by the difference of the two rows. The summand may change
with the table, as long as it agrees on the other rows. -/
theorem sum_replace {t : Table key} {old new : ρ} (h : t.find? (key new) = some old) {f f' : ρ → ℤ}
    (hf : ∀ x ∈ t, key x ≠ key new → f' x = f x) :
    ((t.replace new).rows.map f').sum = (t.rows.map f).sum - f old + f' new := by
  obtain ⟨hm, hk⟩ := find?_eq_some.mp h
  have hall : ∀ l : List ρ, (l.map key).Nodup → old ∈ l → (∀ x ∈ l, key x ≠ key new → f' x = f x) →
      ((l.map (fun x => if key x = key new then new else x)).map f').sum = (l.map f).sum - f old + f' new := by
    intro l
    induction l with
    | nil => simp
    | cons x l ih =>
      intro hn ho hl
      rw [List.map_cons, List.nodup_cons] at hn
      by_cases hx : key x = key new
      · have hxo : x = old := by
          rcases List.mem_cons.mp ho with rfl | hol
          · rfl
          · exact absurd (List.mem_map.mpr ⟨old, hol, hk.trans hx.symm⟩) hn.1
        have htail : (l.map (fun x => if key x = key new then new else x)).map f' = l.map f := by
          rw [List.map_map]
          apply List.map_congr_left
          intro y hy
          have hne : key y ≠ key new := fun he => hn.1 (List.mem_map.mpr ⟨y, hy, he.trans hx.symm⟩)
          simp [hne, hl y (List.mem_cons_of_mem _ hy) hne]
        subst hxo
        simp only [List.map_cons, htail, List.sum_cons, hx, if_true]
        omega
      · have hol : old ∈ l := by
          rcases List.mem_cons.mp ho with rfl | hol
          · exact absurd hk hx
          · exact hol
        simp only [List.map_cons, hx, if_false, List.sum_cons]
        rw [ih hn.2 hol (fun y hy => hl y (List.mem_cons_of_mem _ hy)), hl x List.mem_cons_self hx]
        omega
  exact hall t.rows t.nodup hm hf

/-- A sum over selected rows, as a sum over all rows. -/
theorem sum_filter (l : List ρ) (p : ρ → Bool) (f : ρ → ℕ) :
    (((l.filter p).map f).sum : ℤ) = (l.map (fun x => if p x then (f x : ℤ) else 0)).sum := by
  induction l with
  | nil => rfl
  | cons x l ih =>
    cases hp : p x <;> simp [hp, ← ih]

@[simp] theorem find?_replace_self {t : Table key} {old new : ρ} (h : t.find? (key new) = some old) :
    (t.replace new).find? (key new) = some new := by
  obtain ⟨hm, hk⟩ := find?_eq_some.mp h
  exact find?_eq_some.mpr ⟨mem_replace.mpr (.inl ⟨rfl, old, hm, hk⟩), rfl⟩

theorem find?_replace_ne {t : Table key} {new : ρ} {k : κ} (h : k ≠ key new) :
    (t.replace new).find? k = t.find? k := by
  cases hf : t.find? k with
  | none =>
    rw [find?_eq_none] at hf ⊢
    intro r hr hk
    rcases mem_replace.mp hr with ⟨rfl, -⟩ | ⟨hr', -⟩
    · exact h hk.symm
    · exact hf r hr' hk
  | some r =>
    obtain ⟨hm, hk⟩ := find?_eq_some.mp hf
    exact find?_eq_some.mpr ⟨mem_replace.mpr (.inr ⟨hm, hk ▸ h⟩), hk⟩

theorem find?_replace {t : Table key} {old new : ρ} (h : t.find? (key new) = some old) (k : κ) :
    (t.replace new).find? k = if k = key new then some new else t.find? k := by
  by_cases hk : k = key new
  · subst hk
    rw [if_pos rfl]
    exact find?_replace_self h
  · rw [if_neg hk]
    exact find?_replace_ne hk

theorem find?_insert {t t' : Table key} {r : ρ} (h : t.insert? r = some t') (k : κ) :
    t'.find? k = if k = key r then some r else t.find? k := by
  obtain ⟨hne, hrows⟩ := insert?_eq_some.mp h
  simp only [find?, hrows, List.find?_append]
  by_cases hk : k = key r
  · subst hk
    have : t.rows.find? (fun x => key x = key r) = none := find?_eq_none.mpr hne
    simp [this]
  · have : (decide (key r = k)) = false := by simpa using fun he => hk he.symm
    simp [hk, this]

/-- `INSERT … ON CONFLICT DO UPDATE` of the whole row. -/
def upsert (t : Table key) (r : ρ) : Table key :=
  match t.insert? r with
  | some t' => t'
  | none => t.replace r

theorem find?_upsert (t : Table key) (r : ρ) (k : κ) :
    (t.upsert r).find? k = if k = key r then some r else t.find? k := by
  unfold upsert
  cases h : t.insert? r with
  | some t' => exact find?_insert h k
  | none =>
    have hmem : ∃ x ∈ t, key x = key r := by
      by_contra hne
      push Not at hne
      have hins : t.insert? r ≠ none := by
        unfold insert?
        split
        · next hk =>
          obtain ⟨x, hx, hkx⟩ := List.mem_map.mp hk
          exact absurd hkx (hne x hx)
        · simp
      exact hins h
    obtain ⟨x, hx, hkx⟩ := hmem
    exact find?_replace (find?_eq_some.mpr ⟨hx, hkx⟩) k

end Table

end Noyra.Lib
