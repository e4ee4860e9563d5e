import Mathlib.Data.List.Sort
import Mathlib.Data.Rat.Defs
import Mathlib.Data.String.Basic
import Mathlib.Tactic.Lemma

/-!
# JSON documents in Python

Parsed JSON values with the equality Python has on them, which does not tell `1`, `1.0` and `True` apart;
dictionaries as lists of entries in insertion order; and the canonical text, which sorts the keys of every object.
-/

namespace Noyra.Lib

/-- A finite float: its value, and its sign also at zero. -/
structure Double where
  value : ℚ
  negative : Bool
  sign : value ≠ 0 → (negative = true ↔ value < 0)
  deriving DecidableEq

theorem Double.zero_sign : (0 : ℚ) ≠ 0 → (false = true ↔ (0 : ℚ) < 0) := fun h => absurd rfl h

theorem Double.one_sign : (1 : ℚ) ≠ 0 → (false = true ↔ (1 : ℚ) < 0) := by decide

inductive Document
  | null
  | bool (b : Bool)
  | int (i : ℤ)
  | float (x : Double)
  | str (s : String)
  | arr (items : List Document)
  | obj (entries : List (String × Document))

namespace Document

/-- The entries of a dictionary. -/
abbrev Entries := List (String × Document)

/-- `entries.get(key)`. -/
def get? (entries : Entries) (key : String) : Option Document := (entries.find? (fun e => e.1 = key)).map Prod.snd

/-- The numeric value that comparisons use. -/
def number? : Document → Option ℚ
  | .bool b => some (if b then 1 else 0)
  | .int i => some i
  | .float x => some x.value
  | _ => none

mutual

/-- `==`. -/
def eq : Document → Document → Bool
  | .null, .null => true
  | .str s, .str t => s = t
  | .arr xs, .arr ys => itemsEq xs ys
  | .obj es, .obj fs => es.length = fs.length && entriesEq es fs
  | x, y =>
    match number? x, number? y with
    | some a, some b => a = b
    | _, _ => false
termination_by structural x => x

def itemsEq : List Document → List Document → Bool
  | [], [] => true
  | x :: xs, y :: ys => eq x y && itemsEq xs ys
  | _, _ => false
termination_by structural x => x

def entriesEq : Entries → Entries → Bool
  | [], _ => true
  | e :: es, fs => entryEq e fs && entriesEq es fs
termination_by structural x => x

def entryEq : String × Document → Entries → Bool
  | (key, x), fs =>
    match get? fs key with
    | some y => eq x y
    | none => false
termination_by structural x => x

end

/-- `sorted` by key. -/
def sortKeys (es : Entries) : Entries := es.insertionSort (fun a b => a.1 ≤ b.1)

mutual

/-- The document as `sort_keys` writes it. -/
def sorted : Document → Document
  | .arr xs => .arr (sortedItems xs)
  | .obj es => .obj (sortKeys (sortedEntries es))
  | x => x
termination_by structural x => x

def sortedItems : List Document → List Document
  | [] => []
  | x :: xs => sorted x :: sortedItems xs
termination_by structural x => x

def sortedEntries : Entries → Entries
  | [] => []
  | e :: es => sortedEntry e :: sortedEntries es
termination_by structural x => x

def sortedEntry : String × Document → String × Document
  | (key, x) => (key, sorted x)
termination_by structural x => x

end

mutual

/-- No dictionary has a key twice. -/
def keyed : Document → Bool
  | .arr xs => itemsKeyed xs
  | .obj es => decide (es.map Prod.fst).Nodup && entriesKeyed es
  | _ => true
termination_by structural x => x

def itemsKeyed : List Document → Bool
  | [] => true
  | x :: xs => keyed x && itemsKeyed xs
termination_by structural x => x

def entriesKeyed : Entries → Bool
  | [] => true
  | e :: es => entryKeyed e && entriesKeyed es
termination_by structural x => x

def entryKeyed : String × Document → Bool
  | (_, x) => keyed x
termination_by structural x => x

end

lemma sortedItems_eq_map (xs : List Document) : sortedItems xs = xs.map sorted := by
  induction xs with
  | nil => rfl
  | cons x xs ih => rw [sortedItems, ih, List.map_cons]

lemma sortedEntries_eq_map (es : Entries) : sortedEntries es = es.map (fun e => (e.1, sorted e.2)) := by
  induction es with
  | nil => rfl
  | cons e es ih =>
    obtain ⟨key, x⟩ := e
    rw [sortedEntries, ih, List.map_cons, sortedEntry]

lemma itemsKeyed_iff {xs : List Document} : itemsKeyed xs = true ↔ ∀ x ∈ xs, keyed x = true := by
  induction xs with
  | nil => simp [itemsKeyed]
  | cons x xs ih => rw [itemsKeyed, Bool.and_eq_true, ih, List.forall_mem_cons]

lemma entriesKeyed_iff {es : Entries} : entriesKeyed es = true ↔ ∀ e ∈ es, keyed e.2 = true := by
  induction es with
  | nil => simp [entriesKeyed]
  | cons e es ih =>
    obtain ⟨key, x⟩ := e
    rw [entriesKeyed, Bool.and_eq_true, ih, List.forall_mem_cons, entryKeyed]

@[simp] lemma sorted_arr (xs : List Document) : sorted (.arr xs) = .arr (xs.map sorted) := by
  rw [sorted, sortedItems_eq_map]

@[simp] lemma sorted_obj (es : Entries) : sorted (.obj es) = .obj (sortKeys (es.map (fun e => (e.1, sorted e.2)))) := by
  rw [sorted, sortedEntries_eq_map]

@[simp] lemma keyed_arr {xs : List Document} : keyed (.arr xs) = true ↔ ∀ x ∈ xs, keyed x = true := by
  rw [keyed, itemsKeyed_iff]

@[simp] lemma keyed_obj {es : Entries} : keyed (.obj es) = true ↔ (es.map Prod.fst).Nodup ∧
  ∀ e ∈ es, keyed e.2 = true := by
  rw [keyed, Bool.and_eq_true, entriesKeyed_iff, decide_eq_true_eq]

mutual

def same : Document → Document → Bool
  | .null, .null => true
  | .bool a, .bool b => a = b
  | .int i, .int j => i = j
  | .float x, .float y => x = y
  | .str s, .str t => s = t
  | .arr xs, .arr ys => sameItems xs ys
  | .obj es, .obj fs => sameEntries es fs
  | _, _ => false
termination_by structural x => x

def sameItems : List Document → List Document → Bool
  | [], [] => true
  | x :: xs, y :: ys => same x y && sameItems xs ys
  | _, _ => false
termination_by structural x => x

def sameEntries : Entries → Entries → Bool
  | [], [] => true
  | e :: es, f :: fs => sameEntry e f && sameEntries es fs
  | _, _ => false
termination_by structural x => x

def sameEntry : String × Document → String × Document → Bool
  | (key, x), (key', y) => key = key' && same x y
termination_by structural x => x

end

mutual

theorem same_iff : (x y : Document) → (same x y = true ↔ x = y)
  | .null, y => by cases y <;> simp [same]
  | .bool _, y => by cases y <;> simp [same]
  | .int _, y => by cases y <;> simp [same]
  | .float _, y => by cases y <;> simp [same]
  | .str _, y => by cases y <;> simp [same]
  | .arr xs, y => by cases y <;> simp [same, sameItems_iff xs]
  | .obj es, y => by cases y <;> simp [same, sameEntries_iff es]

theorem sameItems_iff : (xs ys : List Document) → (sameItems xs ys = true ↔ xs = ys)
  | [], ys => by cases ys <;> simp [sameItems]
  | x :: xs, ys => by cases ys <;> simp [sameItems, same_iff x, sameItems_iff xs]

theorem sameEntries_iff : (es fs : Entries) → (sameEntries es fs = true ↔ es = fs)
  | [], fs => by cases fs <;> simp [sameEntries]
  | (key, x) :: es, fs => by
    cases fs with
    | nil => simp [sameEntries]
    | cons f fs =>
      obtain ⟨key', y⟩ := f
      simp [sameEntries, sameEntry, same_iff x, sameEntries_iff es]

end

instance : DecidableEq Document := fun x y => decidable_of_iff _ (same_iff x y)

lemma get?_eq_some_iff {es : Entries} (hn : (es.map Prod.fst).Nodup) {key : String} {x : Document} :
    get? es key = some x ↔ (key, x) ∈ es := by
  induction es with
  | nil => simp [get?]
  | cons e es ih =>
    obtain ⟨k, y⟩ := e
    rw [List.map_cons, List.nodup_cons] at hn
    by_cases hk : k = key
    · subst hk
      have habsent : (k, x) ∉ es := fun hmem => hn.1 (List.mem_map.mpr ⟨(k, x), hmem, rfl⟩)
      simp [get?, habsent, eq_comm]
    · have hstep : get? ((k, y) :: es) key = get? es key := by simp [get?, hk]
      have hne : (key, x) ≠ (k, y) := fun heq => hk (congrArg Prod.fst heq).symm
      rw [hstep, ih hn.2, List.mem_cons, or_iff_right hne]

lemma get?_eq_none_iff {es : Entries} {key : String} : get? es key = none ↔ key ∉ es.map Prod.fst := by
  simp only [get?, Option.map_eq_none_iff, List.find?_eq_none, List.mem_map, decide_eq_true_eq, not_exists, not_and]

lemma get?_keyed {es : Entries} (h : keyed (.obj es) = true) {key : String} {x : Document}
    (hx : get? es key = some x) : keyed x = true :=
  (keyed_obj.mp h).2 _ ((get?_eq_some_iff (keyed_obj.mp h).1).mp hx)

lemma perm_sortKeys (es : Entries) : (sortKeys es).Perm es := List.perm_insertionSort _ es

lemma nodup_sortKeys {es : Entries} (h : (es.map Prod.fst).Nodup) : ((sortKeys es).map Prod.fst).Nodup :=
  ((perm_sortKeys es).map Prod.fst).nodup_iff.mpr h

lemma pairwise_sortKeys (es : Entries) : (sortKeys es).Pairwise (fun a b => a.1 ≤ b.1) := by
  have htotal : Std.Total (fun a b : String × Document => a.1 ≤ b.1) := ⟨fun a b => le_total a.1 b.1⟩
  have htrans : IsTrans (String × Document) (fun a b => a.1 ≤ b.1) := ⟨fun a b c => le_trans⟩
  exact List.pairwise_insertionSort _ es

lemma get?_perm {es fs : Entries} (hp : es.Perm fs) (hn : (es.map Prod.fst).Nodup) (key : String) :
    get? es key = get? fs key := by
  have hn' : (fs.map Prod.fst).Nodup := (hp.map Prod.fst).nodup_iff.mp hn
  apply Option.ext
  intro x
  rw [get?_eq_some_iff hn, get?_eq_some_iff hn', hp.mem_iff]

lemma get?_map (es : Entries) (f : Document → Document) (key : String) :
    get? (es.map (fun e => (e.1, f e.2))) key = (get? es key).map f := by
  induction es with
  | nil => rfl
  | cons e es ih =>
    by_cases hk : e.1 = key
    · simp [get?, hk]
    · simpa [get?, hk] using ih

/-- Reading a key of the canonical form. -/
lemma get?_sorted {es : Entries} (hn : (es.map Prod.fst).Nodup) (key : String) :
    get? (sortKeys (es.map (fun e => (e.1, sorted e.2)))) key = (get? es key).map sorted := by
  have hkeys : (es.map (fun e => (e.1, sorted e.2))).map Prod.fst = es.map Prod.fst := by
    rw [List.map_map]
    rfl
  rw [get?_perm (perm_sortKeys _) (nodup_sortKeys (hkeys ▸ hn)), get?_map]

/-- Two dictionaries without repeated keys that read the same at every key are permutations of each other. -/
lemma perm_of_get? {es fs : Entries} (hes : (es.map Prod.fst).Nodup) (hfs : (fs.map Prod.fst).Nodup)
    (h : ∀ key, get? es key = get? fs key) : es.Perm fs := by
  rw [List.perm_ext_iff_of_nodup hes.of_map hfs.of_map]
  rintro ⟨key, x⟩
  rw [← get?_eq_some_iff hes, ← get?_eq_some_iff hfs, h]

/-- Sorting forgets the insertion order. -/
lemma sortKeys_eq_of_perm {es fs : Entries} (hp : es.Perm fs) (hn : (es.map Prod.fst).Nodup) :
    sortKeys es = sortKeys fs := by
  have hperm : (sortKeys es).Perm (sortKeys fs) := (perm_sortKeys es).trans (hp.trans (perm_sortKeys fs).symm)
  refine hperm.eq_of_pairwise ?_ (pairwise_sortKeys es) (pairwise_sortKeys fs)
  intro a b ha hb hab hba
  have ha' : a ∈ es := (perm_sortKeys es).mem_iff.mp ha
  have hb' : b ∈ es := hp.mem_iff.mpr ((perm_sortKeys fs).mem_iff.mp hb)
  exact List.inj_on_of_nodup_map hn ha' hb' (le_antisymm hab hba)

/-- Objects have one canonical form exactly when their values have, key by key. -/
theorem sorted_obj_eq_iff {es fs : Entries} (hes : (es.map Prod.fst).Nodup) (hfs : (fs.map Prod.fst).Nodup) :
    sorted (.obj es) = sorted (.obj fs) ↔ ∀ key, (get? es key).map sorted = (get? fs key).map sorted := by
  have hkeys : ∀ gs : Entries, (gs.map (fun e => (e.1, sorted e.2))).map Prod.fst = gs.map Prod.fst := by
    intro gs
    rw [List.map_map]
    rfl
  constructor
  · intro h key
    rw [sorted_obj, sorted_obj, Document.obj.injEq] at h
    rw [← get?_sorted hes, ← get?_sorted hfs, h]
  · intro h
    rw [sorted_obj, sorted_obj]
    congr 1
    apply sortKeys_eq_of_perm
    · apply perm_of_get?
      · rwa [hkeys]
      · rwa [hkeys]
      · intro key
        rw [get?_map, get?_map, h key]
    · rwa [hkeys]

/-- A dictionary without repeated keys is keyed when everything that can be read from it is. -/
lemma keyed_of_get? {es : Entries} (hn : (es.map Prod.fst).Nodup) (h : ∀ key x, get? es key = some x → keyed x = true) :
    keyed (.obj es) = true :=
  keyed_obj.mpr ⟨hn, fun e he => h e.1 e.2 ((get?_eq_some_iff hn).mpr he)⟩

/-- `entries[key] = x`: a present key keeps its place. -/
def put : Entries → String → Document → Entries
  | [], key, x => [(key, x)]
  | e :: es, key, x => if e.1 = key then (key, x) :: es else e :: put es key x

/-- `entries.pop(key, None)`. -/
def pop (es : Entries) (key : String) : Entries := es.filter (fun e => e.1 ≠ key)

/-- `entries.update(more)`. -/
def update (es more : Entries) : Entries := more.foldl (fun es e => put es e.1 e.2) es

lemma mem_map_fst_put {es : Entries} {key k : String} {x : Document} :
    k ∈ (put es key x).map Prod.fst ↔ k = key ∨ k ∈ es.map Prod.fst := by
  induction es with
  | nil => simp [put]
  | cons e es ih =>
    unfold put
    by_cases he : e.1 = key
    · rw [if_pos he]
      simp [he]
    · rw [if_neg he, List.map_cons, List.mem_cons, ih, List.map_cons, List.mem_cons]
      tauto

lemma nodup_put {es : Entries} (h : (es.map Prod.fst).Nodup) (key : String) (x : Document) :
    ((put es key x).map Prod.fst).Nodup := by
  induction es with
  | nil => simp [put]
  | cons e es ih =>
    rw [List.map_cons, List.nodup_cons] at h
    unfold put
    by_cases he : e.1 = key
    · rw [if_pos he, List.map_cons, List.nodup_cons]
      exact ⟨he ▸ h.1, h.2⟩
    · rw [if_neg he, List.map_cons, List.nodup_cons, mem_map_fst_put]
      exact ⟨fun hor => hor.elim he h.1, ih h.2⟩

lemma get?_cons (e : String × Document) (es : Entries) (k : String) :
    get? (e :: es) k = if k = e.1 then some e.2 else get? es k := by
  by_cases hk : k = e.1
  · simp [get?, hk]
  · simp [get?, hk, Ne.symm hk]

lemma get?_put (es : Entries) (key : String) (x : Document) (k : String) :
    get? (put es key x) k = if k = key then some x else get? es k := by
  induction es with
  | nil => rw [put, get?_cons]
  | cons e es ih =>
    unfold put
    by_cases he : e.1 = key
    · rw [if_pos he, get?_cons, get?_cons, he]
      by_cases hk : k = key
      · rw [if_pos hk, if_pos hk]
      · rw [if_neg hk, if_neg hk, if_neg hk]
    · rw [if_neg he, get?_cons, get?_cons, ih]
      by_cases hk : k = e.1
      · rw [if_pos hk, if_pos hk, if_neg (fun heq => he (hk.symm.trans heq))]
      · rw [if_neg hk, if_neg hk]

lemma nodup_pop {es : Entries} (h : (es.map Prod.fst).Nodup) (key : String) : ((pop es key).map Prod.fst).Nodup :=
  h.sublist (List.filter_sublist.map Prod.fst)

lemma get?_pop (es : Entries) (key k : String) : get? (pop es key) k = if k = key then none else get? es k := by
  unfold pop
  induction es with
  | nil => simp [get?]
  | cons e es ih =>
    rw [List.filter_cons]
    by_cases he : e.1 = key
    · rw [if_neg (by simp [he]), ih, get?_cons, he]
      by_cases hk : k = key
      · rw [if_pos hk, if_pos hk]
      · rw [if_neg hk, if_neg hk, if_neg hk]
    · rw [if_pos (by simp [he]), get?_cons, get?_cons, ih]
      by_cases hk : k = e.1
      · rw [if_pos hk, if_pos hk, if_neg (fun heq => he (hk.symm.trans heq))]
      · rw [if_neg hk, if_neg hk]

lemma get?_filter (es : Entries) (p : String → Bool) (k : String) :
    get? (es.filter (fun e => p e.1)) k = if p k = true then get? es k else none := by
  induction es with
  | nil => simp [get?]
  | cons e es ih =>
    rw [List.filter_cons, get?_cons]
    by_cases he : p e.1 = true
    · rw [if_pos he, get?_cons, ih]
      by_cases hk : k = e.1
      · rw [if_pos hk, if_pos hk, if_pos (hk ▸ he)]
      · rw [if_neg hk, if_neg hk]
    · rw [if_neg he, ih]
      by_cases hk : k = e.1
      · rw [if_neg (hk ▸ he), if_neg (hk ▸ he)]
      · rw [if_neg hk]

lemma nodup_update {es more : Entries} (h : (es.map Prod.fst).Nodup) : ((update es more).map Prod.fst).Nodup := by
  unfold update
  induction more generalizing es with
  | nil => exact h
  | cons e more ih => exact ih (nodup_put h e.1 e.2)

lemma get?_update {es more : Entries} (hmore : (more.map Prod.fst).Nodup) (k : String) :
    get? (update es more) k = (get? more k).or (get? es k) := by
  unfold update
  induction more generalizing es with
  | nil => simp [get?]
  | cons e more ih =>
    rw [List.map_cons, List.nodup_cons] at hmore
    rw [List.foldl_cons, ih hmore.2, get?_put]
    rw [get?_cons]
    by_cases hk : k = e.1
    · have habsent : get? more e.1 = none := get?_eq_none_iff.mpr hmore.1
      rw [if_pos hk, if_pos hk, hk, habsent]
      rfl
    · rw [if_neg hk, if_neg hk]

lemma sortKeys_sortKeys (es : Entries) : sortKeys (sortKeys es) = sortKeys es := by
  have htotal : Std.Total (fun a b : String × Document => a.1 ≤ b.1) := ⟨fun a b => le_total a.1 b.1⟩
  have htrans : IsTrans (String × Document) (fun a b => a.1 ≤ b.1) := ⟨fun a b c => le_trans⟩
  exact List.Pairwise.insertionSort_eq (pairwise_sortKeys es)

lemma map_sortKeys (es : Entries) (f : Document → Document) :
    (sortKeys es).map (fun e => (e.1, f e.2)) = sortKeys (es.map (fun e => (e.1, f e.2))) :=
  List.map_insertionSort _ _ _ _ (fun _ _ _ _ => Iff.rfl)

mutual

theorem sorted_sorted : (x : Document) → sorted (sorted x) = sorted x
  | .null => rfl
  | .bool _ => rfl
  | .int _ => rfl
  | .float _ => rfl
  | .str _ => rfl
  | .arr xs => by
    rw [sorted_arr, sorted_arr, List.map_map]
    congr 1
    apply List.map_congr_left
    intro x hx
    exact items_sorted_sorted xs x hx
  | .obj es => by
    rw [sorted_obj, sorted_obj, map_sortKeys, sortKeys_sortKeys, List.map_map]
    congr 2
    apply List.map_congr_left
    intro e he
    exact congrArg (Prod.mk e.1) (entries_sorted_sorted es e he)

theorem items_sorted_sorted : (xs : List Document) → ∀ x ∈ xs, sorted (sorted x) = sorted x
  | [], x, hx => by cases hx
  | y :: ys, x, hx => by
    rcases List.mem_cons.mp hx with heq | hx
    · rw [heq]
      exact sorted_sorted y
    · exact items_sorted_sorted ys x hx

theorem entries_sorted_sorted : (es : Entries) → ∀ e ∈ es, sorted (sorted e.2) = sorted e.2
  | [], e, he => by cases he
  | (key, y) :: fs, e, he => by
    rcases List.mem_cons.mp he with heq | he
    · rw [heq]
      exact sorted_sorted y
    · exact entries_sorted_sorted fs e he

end

mutual

theorem keyed_sorted : (x : Document) → keyed x = true → keyed (sorted x) = true
  | .null, _ => rfl
  | .bool _, _ => rfl
  | .int _, _ => rfl
  | .float _, _ => rfl
  | .str _, _ => rfl
  | .arr xs, h => by
    rw [sorted_arr, keyed_arr]
    intro y hy
    obtain ⟨x, hx, rfl⟩ := List.mem_map.mp hy
    exact items_keyed_sorted xs x hx (keyed_arr.mp h x hx)
  | .obj es, h => by
    obtain ⟨hn, hall⟩ := keyed_obj.mp h
    have hkeys : (es.map (fun e => (e.1, sorted e.2))).map Prod.fst = es.map Prod.fst := by
      rw [List.map_map]
      rfl
    rw [sorted_obj]
    refine keyed_obj.mpr ⟨nodup_sortKeys (hkeys ▸ hn), fun e he => ?_⟩
    obtain ⟨x, hx, rfl⟩ := List.mem_map.mp ((perm_sortKeys _).mem_iff.mp he)
    exact entries_keyed_sorted es x hx (hall x hx)

theorem items_keyed_sorted : (xs : List Document) → ∀ x ∈ xs, keyed x = true → keyed (sorted x) = true
  | [], x, hx, _ => by cases hx
  | y :: ys, x, hx, h => by
    rcases List.mem_cons.mp hx with heq | hx
    · rw [heq] at h ⊢
      exact keyed_sorted y h
    · exact items_keyed_sorted ys x hx h

theorem entries_keyed_sorted : (es : Entries) → ∀ e ∈ es, keyed e.2 = true → keyed (sorted e.2) = true
  | [], e, he, _ => by cases he
  | (key, y) :: fs, e, he, h => by
    rcases List.mem_cons.mp he with heq | he
    · rw [heq] at h ⊢
      exact keyed_sorted y h
    · exact entries_keyed_sorted fs e he h

end

lemma entriesEq_iff {es fs : Entries} : entriesEq es fs = true ↔ ∀ e ∈ es, entryEq e fs = true := by
  induction es with
  | nil => simp [entriesEq]
  | cons e es ih => rw [entriesEq, Bool.and_eq_true, ih, List.forall_mem_cons]

mutual

theorem eq_sorted : (x : Document) → keyed x = true → eq x (sorted x) = true
  | .null, _ => rfl
  | .bool b, _ => by simp [sorted, eq, number?]
  | .int i, _ => by simp [sorted, eq, number?]
  | .float d, _ => by simp [sorted, eq, number?]
  | .str s, _ => by simp [sorted, eq]
  | .arr xs, h => by
    rw [sorted, eq]
    exact itemsEq_sorted xs (itemsKeyed_iff.mp (by rwa [keyed] at h))
  | .obj es, h => by
    obtain ⟨hn, hall⟩ := keyed_obj.mp h
    have hlength : (sortKeys (es.map (fun e => (e.1, sorted e.2)))).length = es.length := by
      rw [(perm_sortKeys _).length_eq, List.length_map]
    rw [sorted_obj, eq, hlength, Bool.and_eq_true]
    refine ⟨by simp, entriesEq_iff.mpr (fun e he => ?_)⟩
    obtain ⟨key, x⟩ := e
    rw [entryEq, get?_sorted hn, (get?_eq_some_iff hn).mpr he]
    exact entries_eq_sorted es (key, x) he (hall _ he)

theorem itemsEq_sorted : (xs : List Document) → (∀ x ∈ xs, keyed x = true) → itemsEq xs (sortedItems xs) = true
  | [], _ => rfl
  | x :: xs, h => by
    rw [sortedItems, itemsEq, Bool.and_eq_true]
    exact ⟨eq_sorted x (h x List.mem_cons_self), itemsEq_sorted xs (fun y hy => h y (List.mem_cons_of_mem _ hy))⟩

theorem entries_eq_sorted : (es : Entries) → ∀ e ∈ es, keyed e.2 = true → eq e.2 (sorted e.2) = true
  | [], e, he, _ => by cases he
  | (key, y) :: fs, e, he, h => by
    rcases List.mem_cons.mp he with heq | he
    · rw [heq] at h ⊢
      exact eq_sorted y h
    · exact entries_eq_sorted fs e he h

end

/-! ### A text for every document -/

def unary (n : Nat) : List Char := List.replicate n '1' ++ ['.']

def signed : Int → List Char
  | .ofNat n => '+' :: unary n
  | .negSucc n => '-' :: unary n

def quoted (s : String) : List Char := unary s.toList.length ++ s.toList

mutual

/-- A text that ends where the document does. -/
def text : Document → List Char
  | .null => ['n']
  | .bool b => [if b then 't' else 'f']
  | .int i => 'i' :: signed i
  | .float x => 'd' :: (if x.negative then '-' else '+') :: (signed x.value.num ++ unary x.value.den)
  | .str s => 's' :: quoted s
  | .arr xs => 'a' :: textItems xs
  | .obj es => 'o' :: textEntries es
termination_by structural x => x

def textItems : List Document → List Char
  | [] => ['.']
  | x :: xs => ',' :: (text x ++ textItems xs)
termination_by structural x => x

def textEntries : Entries → List Char
  | [] => ['.']
  | e :: es => ',' :: (textEntry e ++ textEntries es)
termination_by structural x => x

def textEntry : String × Document → List Char
  | (key, x) => quoted key ++ text x
termination_by structural x => x

end

lemma unary_append {m n : Nat} {u v : List Char} (h : unary m ++ u = unary n ++ v) : m = n ∧ u = v := by
  induction m generalizing n with
  | zero =>
    cases n with
    | zero => simpa [unary] using h
    | succ n => simp [unary, List.replicate_succ] at h
  | succ m ih =>
    cases n with
    | zero => simp [unary, List.replicate_succ] at h
    | succ n =>
      simp only [unary, List.replicate_succ, List.cons_append, List.cons.injEq, true_and] at h
      obtain ⟨hmn, huv⟩ := ih h
      exact ⟨congrArg Nat.succ hmn, huv⟩

lemma signed_append {i j : Int} {u v : List Char} (h : signed i ++ u = signed j ++ v) : i = j ∧ u = v := by
  cases i with
  | ofNat m =>
    cases j with
    | ofNat n =>
      simp only [signed, List.cons_append, List.cons.injEq, true_and] at h
      obtain ⟨hmn, huv⟩ := unary_append h
      exact ⟨congrArg Int.ofNat hmn, huv⟩
    | negSucc n => simp [signed] at h
  | negSucc m =>
    cases j with
    | ofNat n => simp [signed] at h
    | negSucc n =>
      simp only [signed, List.cons_append, List.cons.injEq, true_and] at h
      obtain ⟨hmn, huv⟩ := unary_append h
      exact ⟨congrArg Int.negSucc hmn, huv⟩

lemma quoted_append {s t : String} {u v : List Char} (h : quoted s ++ u = quoted t ++ v) : s = t ∧ u = v := by
  unfold quoted at h
  rw [List.append_assoc, List.append_assoc] at h
  obtain ⟨hlen, hrest⟩ := unary_append h
  obtain ⟨hchars, huv⟩ := List.append_inj hrest hlen
  exact ⟨String.toList_injective hchars, huv⟩

lemma double_append {x y : Double} {u v : List Char}
    (h : (if x.negative then '-' else '+') :: (signed x.value.num ++ unary x.value.den) ++ u =
      (if y.negative then '-' else '+') :: (signed y.value.num ++ unary y.value.den) ++ v) : x = y ∧ u = v := by
  rw [List.cons_append, List.cons_append, List.cons.injEq, List.append_assoc, List.append_assoc] at h
  obtain ⟨hsign, hvalue⟩ := h
  obtain ⟨hnum, hden⟩ := signed_append hvalue
  obtain ⟨hden, huv⟩ := unary_append hden
  refine ⟨?_, huv⟩
  obtain ⟨p, b, hp⟩ := x
  obtain ⟨q, c, hq⟩ := y
  have hpq : p = q := Rat.ext hnum hden
  have hbc : b = c := by
    cases b <;> cases c <;> simp at hsign ⊢
  subst hpq hbc
  rfl

mutual

theorem text_append : (x y : Document) → ∀ {u v : List Char}, text x ++ u = text y ++ v → x = y ∧ u = v
  | .null, y, _, _, h => by
    cases y with
    | null => exact ⟨rfl, by simpa [text] using h⟩
    | bool b => cases b <;> simp [text] at h
    | _ => simp [text] at h
  | .bool b, y, _, _, h => by
    cases y <;> cases b <;> simp_all [text]
  | .int i, y, _, _, h => by
    cases y with
    | int j =>
      simp only [text, List.cons_append, List.cons.injEq, true_and] at h
      obtain ⟨hij, huv⟩ := signed_append h
      exact ⟨congrArg Document.int hij, huv⟩
    | bool b => cases b <;> simp [text] at h
    | _ => simp [text] at h
  | .float x, y, _, _, h => by
    cases y with
    | float z =>
      simp only [text, List.cons_append, List.cons.injEq, true_and] at h
      obtain ⟨hxz, huv⟩ := double_append (List.cons_eq_cons.mpr h)
      exact ⟨congrArg Document.float hxz, huv⟩
    | bool b => cases b <;> simp [text] at h
    | _ => simp [text] at h
  | .str s, y, _, _, h => by
    cases y with
    | str t =>
      simp only [text, List.cons_append, List.cons.injEq, true_and] at h
      obtain ⟨hst, huv⟩ := quoted_append h
      exact ⟨congrArg Document.str hst, huv⟩
    | bool b => cases b <;> simp [text] at h
    | _ => simp [text] at h
  | .arr xs, y, _, _, h => by
    cases y with
    | arr ys =>
      simp only [text, List.cons_append, List.cons.injEq, true_and] at h
      obtain ⟨hxy, huv⟩ := textItems_append xs ys h
      exact ⟨congrArg Document.arr hxy, huv⟩
    | bool b => cases b <;> simp [text] at h
    | _ => simp [text] at h
  | .obj es, y, _, _, h => by
    cases y with
    | obj fs =>
      simp only [text, List.cons_append, List.cons.injEq, true_and] at h
      obtain ⟨hef, huv⟩ := textEntries_append es fs h
      exact ⟨congrArg Document.obj hef, huv⟩
    | bool b => cases b <;> simp [text] at h
    | _ => simp [text] at h

theorem textItems_append : (xs ys : List Document) → ∀ {u v : List Char}, textItems xs ++ u = textItems ys ++ v →
    xs = ys ∧ u = v
  | [], ys, _, _, h => by
    cases ys with
    | nil => simpa [textItems] using h
    | cons y ys => simp [textItems] at h
  | x :: xs, ys, _, _, h => by
    cases ys with
    | nil => simp [textItems] at h
    | cons y ys =>
      simp only [textItems, List.cons_append, List.cons.injEq, true_and, List.append_assoc] at h
      obtain ⟨hxy, hrest⟩ := text_append x y h
      obtain ⟨hxs, huv⟩ := textItems_append xs ys hrest
      exact ⟨by rw [hxy, hxs], huv⟩

theorem textEntries_append : (es fs : Entries) → ∀ {u v : List Char}, textEntries es ++ u = textEntries fs ++ v →
    es = fs ∧ u = v
  | [], fs, _, _, h => by
    cases fs with
    | nil => simpa [textEntries] using h
    | cons f fs => simp [textEntries] at h
  | (key, x) :: es, fs, _, _, h => by
    cases fs with
    | nil => simp [textEntries] at h
    | cons f fs =>
      obtain ⟨key', y⟩ := f
      simp only [textEntries, textEntry, List.cons_append, List.cons.injEq, true_and, List.append_assoc] at h
      obtain ⟨hkey, hrest⟩ := quoted_append h
      obtain ⟨hxy, hmore⟩ := text_append x y hrest
      obtain ⟨hes, huv⟩ := textEntries_append es fs hmore
      exact ⟨by rw [hkey, hxy, hes], huv⟩

end

theorem text_injective : Function.Injective text := by
  intro x y h
  exact (text_append x y (congrArg (· ++ []) h)).1

end Document

/-- `canonical_json` and `strict_json_loads`: the text of a document determines it up to the order of keys. -/
structure Codec where
  Text : Type
  decidable : DecidableEq Text
  dumps : Document → Text
  loads : Text → Option Document
  loads_keyed : ∀ text x, loads text = some x → x.keyed = true
  loads_dumps : ∀ x, x.keyed = true → loads (dumps x) = some x.sorted
  dumps_sorted : ∀ x, x.keyed = true → dumps x.sorted = dumps x

namespace Codec

instance (c : Codec) : DecidableEq c.Text := c.decidable

lemma dumps_eq_iff (c : Codec) {x y : Document} (hx : x.keyed = true) (hy : y.keyed = true) :
    c.dumps x = c.dumps y ↔ x.sorted = y.sorted := by
  constructor
  · intro h
    have hloads : some x.sorted = some y.sorted := by rw [← c.loads_dumps x hx, ← c.loads_dumps y hy, h]
    exact Option.some.inj hloads
  · intro h
    rw [← c.dumps_sorted x hx, ← c.dumps_sorted y hy, h]

/-- The canonical document itself as the text. -/
def plain : Codec where
  Text := Document
  decidable := inferInstance
  dumps x := x.sorted
  loads x := if x.keyed then some x else none
  loads_keyed text x h := by
    split at h
    · next hkeyed =>
      cases h
      exact hkeyed
    · cases h
  loads_dumps x h := if_pos (Document.keyed_sorted x h)
  dumps_sorted x _ := Document.sorted_sorted x

end Codec

end Noyra.Lib
