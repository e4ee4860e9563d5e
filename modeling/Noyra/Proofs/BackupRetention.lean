import Mathlib.Data.List.Lex
import Mathlib.Data.Prod.Lex
import Mathlib.Data.String.Basic
import Noyra.Core.BackupRetention
import Noyra.Lib.Ranking

/-!
# The recovery floor

Which backups go depends only on their ranks among the verified ones: beyond the count by rank, beyond age and bytes
only above the floor. Deleting backups does not raise the rank of those that stay, so a second plan finds nothing.
-/

namespace Noyra.Core.Backups.Proofs
open Noyra.Lib

/-- A later instant, or the same one and a greater name. -/
def Later (a b : InventoryItem) : Prop :=
  b.timestamp.micros < a.timestamp.micros ∨ b.timestamp.micros = a.timestamp.micros ∧ b.name < a.name

instance (a b : InventoryItem) : Decidable (Later a b) := inferInstanceAs (Decidable (_ ∨ _))

/-- The texts of the timestamps order the backups as their instants do. -/
lemma newer_iff {a b : InventoryItem} : newer a b = true ↔ Later a b := by
  have hsame : b.createdAt = a.createdAt ↔ b.timestamp.micros = a.timestamp.micros := by
    constructor
    · intro h
      rcases Nat.lt_trichotomy b.timestamp.micros a.timestamp.micros with hlt | heq | hgt
      · exact absurd h (ne_of_lt (Moment.isoformat_lt hlt))
      · exact heq
      · exact absurd h.symm (ne_of_lt (Moment.isoformat_lt hgt))
    · intro h
      exact congrArg Moment.isoformat (Moment.micros_inj h)
  have hlt : b.createdAt < a.createdAt ↔ b.timestamp.micros < a.timestamp.micros := Moment.isoformat_lt_iff
  unfold newer Later
  rw [Bool.or_eq_true, Bool.and_eq_true, decide_eq_true_eq, decide_eq_true_eq, decide_eq_true_eq, hlt, hsame]

lemma Later.irrefl (a : InventoryItem) : ¬Later a a := by
  rintro (h | ⟨-, h⟩)
  · exact lt_irrefl _ h
  · exact lt_irrefl _ h

lemma Later.trans {a b c : InventoryItem} (h : Later a b) (h' : Later b c) : Later a c := by
  rcases h with h | ⟨h, hn⟩
  · rcases h' with h' | ⟨h', -⟩
    · exact .inl (h'.trans h)
    · exact .inl (h'.trans_lt h)
  · rcases h' with h' | ⟨h', hn'⟩
    · exact .inl (h'.trans_eq h)
    · exact .inr ⟨h'.trans h, hn'.trans hn⟩

lemma Later.total {a b : InventoryItem} (h : a.name ≠ b.name) : Later a b ∨ Later b a := by
  rcases Nat.lt_trichotomy a.timestamp.micros b.timestamp.micros with hlt | heq | hgt
  · exact .inr (.inl hlt)
  · rcases lt_or_gt_of_ne h with hn | hn
    · exact .inr (.inr ⟨heq, hn⟩)
    · exact .inl (.inr ⟨heq.symm, hn⟩)
  · exact .inl (.inl hgt)

lemma newer_irrefl (a : InventoryItem) : newer a a = false := by
  rw [← Bool.not_eq_true, newer_iff]
  exact Later.irrefl a

lemma newer_asymm (a b : InventoryItem) (h : newer a b = true) : newer b a = false := by
  rw [← Bool.not_eq_true, newer_iff]
  exact fun h' => Later.irrefl a ((newer_iff.mp h).trans h')

lemma not_newer_iff {a b : InventoryItem} : newer a b = false ↔ ¬Later a b := by
  rw [← Bool.not_eq_true, newer_iff]

variable {policy : BackupRetentionPolicy} {protectedNames : List String} {inventory : List InventoryItem}

lemma mem_verifiedItems {i : InventoryItem} : i ∈ verifiedItems inventory ↔ i ∈ inventory ∧ i.verified = true := by
  unfold verifiedItems
  rw [List.mem_insertionSort, List.mem_filter]

lemma eq_of_name {l : List InventoryItem} (h : (names l).Nodup) {a b : InventoryItem} (ha : a ∈ l) (hb : b ∈ l)
    (hname : a.name = b.name) : a = b := List.inj_on_of_nodup_map h ha hb hname

lemma mem_names {l : List InventoryItem} {n : String} : n ∈ names l ↔ ∃ i ∈ l, i.name = n := List.mem_map

/-- Among backups of distinct names, a name stands for its backup. -/
lemma name_mem_iff {l l' : List InventoryItem} (h : (names l).Nodup) (hsub : l' ⊆ l) {i : InventoryItem} (hi : i ∈ l) :
    i.name ∈ names l' ↔ i ∈ l' := by
  constructor
  · intro hn
    obtain ⟨j, hj, hname⟩ := mem_names.mp hn
    rw [← eq_of_name h (hsub hj) hi hname]
    exact hj
  · exact fun hi' => mem_names.mpr ⟨i, hi', rfl⟩

lemma names_verified_nodup (h : (names inventory).Nodup) : (names (verifiedItems inventory)).Nodup := by
  have hfilter : (names (inventory.filter InventoryItem.verified)).Nodup := h.sublist (List.filter_sublist.map _)
  have hperm : (names (verifiedItems inventory)).Perm (names (inventory.filter InventoryItem.verified)) :=
    (List.perm_insertionSort _ _).map _
  exact hperm.nodup_iff.mpr hfilter

lemma verified_sorted (h : (names inventory).Nodup) :
    (verifiedItems inventory).Pairwise (fun a b => newer a b = true) := by
  have htotal : Std.Total (fun a b : InventoryItem => newer b a = false) := ⟨by
    intro a b
    by_cases hlater : Later b a
    · refine .inr (not_newer_iff.mpr ?_)
      exact fun h' => Later.irrefl a (h'.trans hlater)
    · exact .inl (not_newer_iff.mpr hlater)⟩
  have htrans : IsTrans InventoryItem (fun a b => newer b a = false) := ⟨by
    intro a b c hab hbc
    rw [not_newer_iff] at *
    intro hca
    by_cases hname : a.name = b.name
    · by_cases hmicros : a.timestamp.micros = b.timestamp.micros
      · refine hbc ?_
        unfold Later at hca ⊢
        rw [← hname, ← hmicros]
        exact hca
      · rcases Nat.lt_or_gt_of_ne hmicros with hlt | hgt
        · exact hab (.inl hlt)
        · exact hbc (hca.trans (.inl hgt))
    · rcases Later.total hname with hlater | hlater
      · exact hbc (hca.trans hlater)
      · exact hab hlater⟩
  have hsorted : (verifiedItems inventory).Pairwise (fun a b => newer b a = false) := List.pairwise_insertionSort _ _
  have hnodup : (verifiedItems inventory).Pairwise (fun a b => a.name ≠ b.name) :=
    List.pairwise_map.mp (names_verified_nodup h)
  refine (hsorted.and hnodup).imp ?_
  rintro a b ⟨hle, hname⟩
  rcases Later.total hname with hlater | hlater
  · exact newer_iff.mpr hlater
  · exact absurd hlater (not_newer_iff.mp hle)

/-- The number of verified backups that are newer. -/
def position (inventory : List InventoryItem) (i : InventoryItem) : Nat := rank newer (verifiedItems inventory) i

/-- The first names of the sorted list are those of the newest backups. -/
lemma name_mem_take (h : (names inventory).Nodup) (m : Nat) {i : InventoryItem} (hi : i ∈ verifiedItems inventory) :
    i.name ∈ names ((verifiedItems inventory).take m) ↔ position inventory i < m := by
  rw [name_mem_iff (names_verified_nodup h) (List.take_subset m _) hi,
    mem_take_iff_rank newer_irrefl newer_asymm (verified_sorted h)]
  exact and_iff_right hi

/-- The names that the count keeps, at least the floor. -/
def required (policy : BackupRetentionPolicy) : Nat := max policy.keepVerifiedCount policy.minimumRecoveryPoints

lemma inKeep_iff (h : (names inventory).Nodup) {i : InventoryItem} (hi : i ∈ verifiedItems inventory) :
    inKeep policy protectedNames (verifiedItems inventory) i.name = true ↔
      position inventory i < required policy ∨ i.name ∈ protectedNames := by
  unfold inKeep
  rw [Bool.or_eq_true, decide_eq_true_eq, decide_eq_true_eq, name_mem_take h _ hi]
  rfl

lemma inFloor_iff (h : (names inventory).Nodup) {i : InventoryItem} (hi : i ∈ verifiedItems inventory) :
    inFloor policy protectedNames (verifiedItems inventory) i.name = true ↔
      position inventory i < policy.minimumRecoveryPoints ∨ i.name ∈ protectedNames := by
  unfold inFloor
  rw [Bool.or_eq_true, decide_eq_true_eq, decide_eq_true_eq, name_mem_take h _ hi]

lemma mem_countDeletions (h : (names inventory).Nodup) {i : InventoryItem} :
    i ∈ countDeletions policy protectedNames (verifiedItems inventory) ↔
      i ∈ verifiedItems inventory ∧ i.name ∉ protectedNames ∧ required policy ≤ position inventory i := by
  unfold countDeletions
  rw [List.mem_filter, Bool.and_eq_true, decide_eq_true_eq, Bool.not_eq_true', ← Bool.not_eq_true]
  constructor
  · rintro ⟨hi, hkeep, hprotected⟩
    rw [inKeep_iff h hi, not_or, Nat.not_lt] at hkeep
    exact ⟨hi, hprotected, hkeep.1⟩
  · rintro ⟨hi, hprotected, hle⟩
    refine ⟨hi, ?_, hprotected⟩
    rw [inKeep_iff h hi, not_or, Nat.not_lt]
    exact ⟨hle, hprotected⟩

lemma mem_remainingItems (h : (names inventory).Nodup) {i : InventoryItem} :
    i ∈ remainingItems policy protectedNames (verifiedItems inventory) ↔
      i ∈ verifiedItems inventory ∧ i.name ∉ protectedNames ∧ policy.minimumRecoveryPoints ≤ position inventory i ∧
        position inventory i < required policy := by
  unfold remainingItems
  rw [List.mem_filter, Bool.and_eq_true, Bool.not_eq_true', ← Bool.not_eq_true]
  constructor
  · rintro ⟨hi, hkeep, hfloor⟩
    rw [inFloor_iff h hi, not_or, Nat.not_lt] at hfloor
    rw [inKeep_iff h hi] at hkeep
    exact ⟨hi, hfloor.2, hfloor.1, hkeep.resolve_right hfloor.2⟩
  · rintro ⟨hi, hprotected, hle, hlt⟩
    refine ⟨hi, (inKeep_iff h hi).mpr (.inl hlt), ?_⟩
    rw [inFloor_iff h hi, not_or, Nat.not_lt]
    exact ⟨hle, hprotected⟩

lemma ageDeletions_subset (verified : List InventoryItem) :
    ageDeletions policy protectedNames verified ⊆ remainingItems policy protectedNames verified := by
  unfold ageDeletions
  split
  · exact List.nil_subset _
  · exact List.filter_subset_self _

lemma youngItems_subset (verified : List InventoryItem) :
    youngItems policy protectedNames verified ⊆ remainingItems policy protectedNames verified := by
  intro i hi
  unfold youngItems at hi
  rw [List.mem_insertionSort] at hi
  exact (List.mem_filter.mp hi).1

lemma exceedingBytes_begins (most : Nat) (bytes : ℤ) (items : List InventoryItem) :
    exceedingBytes most bytes items <+: items := by
  induction items generalizing bytes with
  | nil => exact List.prefix_rfl
  | cons item rest ih =>
    unfold exceedingBytes
    split
    · exact List.nil_prefix
    · exact List.cons_prefix_cons.mpr ⟨rfl, ih _⟩

/-- The loop stops once the bytes fit, or at the end. -/
lemma exceedingBytes_stops (most : Nat) (bytes : ℤ) (items : List InventoryItem) :
    bytes - totalBytes (exceedingBytes most bytes items) ≤ most ∨ exceedingBytes most bytes items = items := by
  induction items generalizing bytes with
  | nil => exact .inr rfl
  | cons item rest ih =>
    unfold exceedingBytes
    split
    · next hfits =>
      refine .inl ?_
      simpa [totalBytes] using hfits
    · rcases ih (bytes - item.size) with hfits | hall
      · refine .inl ?_
        simp only [totalBytes, List.map_cons, List.sum_cons] at hfits ⊢
        omega
      · exact .inr (congrArg (item :: ·) hall)

lemma byteDeletions_subset (verified : List InventoryItem) :
    byteDeletions policy protectedNames verified ⊆ youngItems policy protectedNames verified := by
  unfold byteDeletions
  split
  · exact List.nil_subset _
  · exact (exceedingBytes_begins _ _ _).subset

lemma mem_youngItems (h : (names inventory).Nodup) {i : InventoryItem} :
    i ∈ youngItems policy protectedNames (verifiedItems inventory) ↔
      i ∈ remainingItems policy protectedNames (verifiedItems inventory) ∧
        i ∉ ageDeletions policy protectedNames (verifiedItems inventory) := by
  have hsub : ageDeletions policy protectedNames (verifiedItems inventory) ⊆ verifiedItems inventory :=
    fun i hi => ((mem_remainingItems h).mp (ageDeletions_subset _ hi)).1
  unfold youngItems
  rw [List.mem_insertionSort, List.mem_filter, decide_eq_true_eq]
  refine and_congr_right ?_
  intro hi
  rw [name_mem_iff (names_verified_nodup h) hsub ((mem_remainingItems h).mp hi).1]

/-- The names of everything that goes. -/
def deletedNames (policy : BackupRetentionPolicy) (protectedNames : List String) (inventory : List InventoryItem) :
    List String :=
  names (deletedItems policy protectedNames (verifiedItems inventory))

lemma backups_planOf : (planOf policy protectedNames inventory).backups =
    deletedNames policy protectedNames inventory := by
  unfold BackupPlan.backups deletedNames deletedItems planOf
  simp only [List.map_append, List.map_map]
  congr 3 <;> exact (List.map_congr_left fun _ _ => rfl).trans (List.map_id _)

lemma deletedItems_subset (h : (names inventory).Nodup) :
    deletedItems policy protectedNames (verifiedItems inventory) ⊆ verifiedItems inventory := by
  intro i hi
  unfold deletedItems at hi
  rw [List.mem_append, List.mem_append] at hi
  rcases hi with (hi | hi) | hi
  · exact ((mem_countDeletions h).mp hi).1
  · exact ((mem_remainingItems h).mp (ageDeletions_subset _ hi)).1
  · exact ((mem_remainingItems h).mp (youngItems_subset _ (byteDeletions_subset _ hi))).1

/-- What goes is not protected and outside the floor. -/
lemma deletedItems_outside (h : (names inventory).Nodup) {i : InventoryItem}
    (hi : i ∈ deletedItems policy protectedNames (verifiedItems inventory)) :
    i.name ∉ protectedNames ∧ policy.minimumRecoveryPoints ≤ position inventory i := by
  unfold deletedItems at hi
  rw [List.mem_append, List.mem_append] at hi
  rcases hi with (hi | hi) | hi
  · obtain ⟨-, hprotected, hle⟩ := (mem_countDeletions h).mp hi
    exact ⟨hprotected, (Nat.le_max_right _ _).trans hle⟩
  · obtain ⟨-, hprotected, hle, -⟩ := (mem_remainingItems h).mp (ageDeletions_subset _ hi)
    exact ⟨hprotected, hle⟩
  · obtain ⟨-, hprotected, hle, -⟩ := (mem_remainingItems h).mp (youngItems_subset _ (byteDeletions_subset _ hi))
    exact ⟨hprotected, hle⟩

lemma name_deleted_iff (h : (names inventory).Nodup) {i : InventoryItem} (hi : i ∈ verifiedItems inventory) :
    i.name ∈ deletedNames policy protectedNames inventory ↔
      i ∈ deletedItems policy protectedNames (verifiedItems inventory) :=
  name_mem_iff (names_verified_nodup h) (deletedItems_subset h) hi

/-- Each rule only looks at what the rules before it leave. -/
lemma deletedItems_nodup (h : (names inventory).Nodup) :
    (deletedItems policy protectedNames (verifiedItems inventory)).Nodup := by
  have hverified : (verifiedItems inventory).Nodup := (names_verified_nodup h).of_map
  have hremaining : (remainingItems policy protectedNames (verifiedItems inventory)).Nodup := hverified.filter _
  have hcount : (countDeletions policy protectedNames (verifiedItems inventory)).Nodup := hverified.filter _
  have hage : (ageDeletions policy protectedNames (verifiedItems inventory)).Nodup := by
    unfold ageDeletions
    split
    · exact List.nodup_nil
    · exact hremaining.filter _
  have hyoung : (youngItems policy protectedNames (verifiedItems inventory)).Nodup :=
    (List.perm_insertionSort _ _).nodup_iff.mpr (hremaining.filter _)
  have hbyte : (byteDeletions policy protectedNames (verifiedItems inventory)).Nodup := by
    unfold byteDeletions
    split
    · exact List.nodup_nil
    · exact hyoung.sublist (exceedingBytes_begins _ _ _).sublist
  unfold deletedItems
  rw [List.nodup_append', List.nodup_append']
  refine ⟨⟨hcount, hage, ?_⟩, hbyte, ?_⟩
  · intro i hi hi'
    have hle := ((mem_countDeletions h).mp hi).2.2
    have hlt := ((mem_remainingItems h).mp (ageDeletions_subset _ hi')).2.2.2
    omega
  · intro i hi hi'
    obtain ⟨hremains, hyoung⟩ := (mem_youngItems h).mp (byteDeletions_subset _ hi')
    rw [List.mem_append] at hi
    rcases hi with hi | hi
    · have hle := ((mem_countDeletions h).mp hi).2.2
      have hlt := ((mem_remainingItems h).mp hremains).2.2.2
      omega
    · exact hyoung hi

lemma deletedNames_nodup (h : (names inventory).Nodup) : (deletedNames policy protectedNames inventory).Nodup := by
  refine (deletedItems_nodup h).map_on fun i hi j hj hname => ?_
  exact eq_of_name (names_verified_nodup h) (deletedItems_subset h hi) (deletedItems_subset h hj) hname

lemma totalBytes_perm {l l' : List InventoryItem} (h : l.Perm l') : totalBytes l = totalBytes l' := (h.map _).sum_eq

lemma totalBytes_filter (p : InventoryItem → Bool) (l : List InventoryItem) :
    totalBytes (l.filter p) = totalBytes l - totalBytes (l.filter (fun i => !p i)) := by
  induction l with
  | nil => rfl
  | cons i l ih =>
    unfold totalBytes at ih ⊢
    cases hp : p i
    · simp only [hp, List.filter_cons, List.map_cons, List.sum_cons, Bool.not_false, if_true, Bool.false_eq_true,
        if_false]
      omega
    · simp only [hp, List.filter_cons, List.map_cons, List.sum_cons, Bool.not_true, if_true, Bool.false_eq_true,
        if_false]
      omega

/-- The verified backups that a set of deleted names leaves. -/
def leftItems (inventory : List InventoryItem) (deleted : List String) : List InventoryItem :=
  (verifiedItems inventory).filter (fun i => decide (i.name ∉ deleted))

lemma mem_leftItems {deleted : List String} {i : InventoryItem} :
    i ∈ leftItems inventory deleted ↔ i ∈ verifiedItems inventory ∧ i.name ∉ deleted := by
  unfold leftItems
  rw [List.mem_filter, decide_eq_true_eq]

/-- The bytes left are those after count and age, less what the third rule deletes. -/
lemma totalBytes_left (h : (names inventory).Nodup) :
    totalBytes (leftItems inventory (deletedNames policy protectedNames inventory)) =
      totalBytes (afterAge policy protectedNames (verifiedItems inventory)) -
        totalBytes (byteDeletions policy protectedNames (verifiedItems inventory)) := by
  have hnames := names_verified_nodup h
  have hnodup : (deletedItems policy protectedNames (verifiedItems inventory)).Nodup := deletedItems_nodup h
  have hsub : deletedItems policy protectedNames (verifiedItems inventory) ⊆ verifiedItems inventory :=
    deletedItems_subset h
  have hbytesub : byteDeletions policy protectedNames (verifiedItems inventory) ⊆ verifiedItems inventory :=
    fun i hi => hsub (List.mem_append_right _ hi)
  have hearliersub : countDeletions policy protectedNames (verifiedItems inventory) ++
      ageDeletions policy protectedNames (verifiedItems inventory) ⊆ verifiedItems inventory :=
    fun i hi => hsub (List.mem_append_left _ hi)
  have hdisjoint := (List.nodup_append'.mp hnodup).2.2
  have hafter : (afterAge policy protectedNames (verifiedItems inventory)).Nodup := hnames.of_map.filter _
  have hleft : leftItems inventory (deletedNames policy protectedNames inventory) =
      (afterAge policy protectedNames (verifiedItems inventory)).filter (fun i =>
        decide (i.name ∉ names (byteDeletions policy protectedNames (verifiedItems inventory)))) := by
    unfold leftItems afterAge
    rw [List.filter_filter]
    refine List.filter_congr fun i _ => ?_
    have hmem : i.name ∈ deletedNames policy protectedNames inventory ↔
        i.name ∈ names (countDeletions policy protectedNames (verifiedItems inventory) ++
          ageDeletions policy protectedNames (verifiedItems inventory)) ∨
        i.name ∈ names (byteDeletions policy protectedNames (verifiedItems inventory)) := by
      unfold deletedNames deletedItems names
      rw [List.map_append, List.mem_append]
    rw [← Bool.decide_and, decide_eq_decide, hmem, not_or]
    exact and_comm
  have hgone : ((afterAge policy protectedNames (verifiedItems inventory)).filter (fun i =>
      !decide (i.name ∉ names (byteDeletions policy protectedNames (verifiedItems inventory))))).Perm
      (byteDeletions policy protectedNames (verifiedItems inventory)) := by
    refine (List.perm_ext_iff_of_nodup (hafter.filter _) (List.nodup_append'.mp hnodup).2.1).mpr fun i => ?_
    unfold afterAge
    rw [List.mem_filter, List.mem_filter, Bool.not_eq_true', decide_eq_false_iff_not, not_not, decide_eq_true_eq]
    constructor
    · rintro ⟨⟨hi, -⟩, hname⟩
      exact (name_mem_iff hnames hbytesub hi).mp hname
    · intro hi
      refine ⟨⟨hbytesub hi, ?_⟩, (name_mem_iff hnames hbytesub (hbytesub hi)).mpr hi⟩
      rw [name_mem_iff hnames hearliersub (hbytesub hi)]
      exact fun hi' => hdisjoint hi' hi
  rw [hleft, totalBytes_filter, totalBytes_perm hgone]

/-- The loop ends because the bytes fit, or because nothing unprotected is above the floor. -/
lemma left_fits (h : (names inventory).Nodup) {most : Nat} (hmost : policy.maxBytes = some most) :
    totalBytes (leftItems inventory (deletedNames policy protectedNames inventory)) ≤ most ∨
      ∀ i ∈ leftItems inventory (deletedNames policy protectedNames inventory),
        position inventory i < policy.minimumRecoveryPoints ∨ i.name ∈ protectedNames := by
  have hbyte : byteDeletions policy protectedNames (verifiedItems inventory) =
      exceedingBytes most (totalBytes (afterAge policy protectedNames (verifiedItems inventory)))
        (youngItems policy protectedNames (verifiedItems inventory)) := by
    unfold byteDeletions
    rw [hmost]
  have hstops := exceedingBytes_stops most (totalBytes (afterAge policy protectedNames (verifiedItems inventory)))
    (youngItems policy protectedNames (verifiedItems inventory))
  rw [← hbyte] at hstops
  rcases hstops with hfits | hall
  · rw [totalBytes_left h]
    exact .inl hfits
  · refine .inr fun i hi => ?_
    obtain ⟨hi, hname⟩ := mem_leftItems.mp hi
    rw [name_deleted_iff h hi] at hname
    unfold deletedItems at hname
    rw [hall, List.mem_append, List.mem_append, not_or, not_or, mem_countDeletions h, mem_youngItems h,
      mem_remainingItems h] at hname
    obtain ⟨⟨hcount, hage⟩, hyoung⟩ := hname
    by_contra hout
    rw [not_or, Nat.not_lt] at hout
    have hlt : position inventory i < required policy := by
      by_contra hge
      exact hcount ⟨hi, hout.2, Nat.le_of_not_lt hge⟩
    exact hyoung ⟨⟨hi, hout.2, hout.1, hlt⟩, hage⟩

/-- Leaving the deleted backups out of an inventory. -/
def LeftOver (deleted : List String) (inventory inventory' : List InventoryItem) : Prop :=
  ∀ i, i ∈ inventory' ↔ i ∈ inventory ∧ i.name ∉ deleted

variable {inventory' : List InventoryItem}

lemma position_le (h' : (names inventory').Nodup) (hsub : inventory' ⊆ inventory) (i : InventoryItem) :
    position inventory' i ≤ position inventory i := by
  refine rank_le_of_subset (names_verified_nodup h').of_map ?_ i
  intro j hj
  obtain ⟨hj, hverified⟩ := mem_verifiedItems.mp hj
  exact mem_verifiedItems.mpr ⟨hsub hj, hverified⟩

/-- Nothing goes twice: the ranks of what stays did not grow, and the bytes fit or only the floor is left. -/
lemma second_plan (h : (names inventory).Nodup) (h' : (names inventory').Nodup)
    (hleft : LeftOver (deletedNames policy protectedNames inventory) inventory inventory') :
    deletedItems policy protectedNames (verifiedItems inventory') = [] := by
  have hsub : inventory' ⊆ inventory := fun i hi => ((hleft i).mp hi).1
  have hverified : ∀ i ∈ verifiedItems inventory', i ∈ verifiedItems inventory ∧
      i ∉ deletedItems policy protectedNames (verifiedItems inventory) := by
    intro i hi
    obtain ⟨hi, hv⟩ := mem_verifiedItems.mp hi
    have hmem := mem_verifiedItems.mpr ⟨hsub hi, hv⟩
    refine ⟨hmem, ?_⟩
    rw [← name_deleted_iff h hmem]
    exact ((hleft i).mp hi).2
  have hkept : ∀ i ∈ verifiedItems inventory', i.name ∉ protectedNames → position inventory i < required policy := by
    intro i hi hprotected
    obtain ⟨hmem, hstays⟩ := hverified i hi
    by_contra hge
    refine hstays (List.mem_append_left _ (List.mem_append_left _ ?_))
    exact (mem_countDeletions h).mpr ⟨hmem, hprotected, Nat.le_of_not_lt hge⟩
  have hremaining : ∀ i ∈ remainingItems policy protectedNames (verifiedItems inventory'),
      i ∈ remainingItems policy protectedNames (verifiedItems inventory) := by
    intro i hi
    obtain ⟨hi, hprotected, hle, -⟩ := (mem_remainingItems h').mp hi
    exact (mem_remainingItems h).mpr
      ⟨(hverified i hi).1, hprotected, hle.trans (position_le h' hsub i), hkept i hi hprotected⟩
  have hcount : countDeletions policy protectedNames (verifiedItems inventory') = [] := by
    refine List.eq_nil_iff_forall_not_mem.mpr fun i hi => ?_
    obtain ⟨hi, hprotected, hle⟩ := (mem_countDeletions h').mp hi
    have hlt := hkept i hi hprotected
    have hpos := position_le h' hsub i
    omega
  have hage : ageDeletions policy protectedNames (verifiedItems inventory') = [] := by
    refine List.eq_nil_iff_forall_not_mem.mpr fun i hi => ?_
    have hstays := (hverified i ((mem_remainingItems h').mp (ageDeletions_subset _ hi)).1).2
    refine hstays (List.mem_append_left _ (List.mem_append_right _ ?_))
    have hmem := hremaining i (ageDeletions_subset _ hi)
    unfold ageDeletions at hi ⊢
    split at hi
    · cases hi
    · exact List.mem_filter.mpr ⟨hmem, (List.mem_filter.mp hi).2⟩
  have hbyte : byteDeletions policy protectedNames (verifiedItems inventory') = [] := by
    unfold byteDeletions
    split
    · rfl
    · next most hmost =>
      rcases @left_fits policy protectedNames inventory h most hmost with hfits | hfloor
      · -- the bytes already fit
        have hmem : ∀ i, i ∈ afterAge policy protectedNames (verifiedItems inventory') ↔
            i ∈ leftItems inventory (deletedNames policy protectedNames inventory) := by
          intro i
          unfold afterAge
          rw [hcount, hage, List.append_nil, List.mem_filter, mem_leftItems, mem_verifiedItems, mem_verifiedItems,
            hleft i]
          simp only [names, List.map_nil, List.not_mem_nil, not_false_eq_true, decide_true, and_true]
          exact and_right_comm
        have hafter : (afterAge policy protectedNames (verifiedItems inventory')).Perm
            (leftItems inventory (deletedNames policy protectedNames inventory)) :=
          (List.perm_ext_iff_of_nodup ((names_verified_nodup h').of_map.filter _)
            ((names_verified_nodup h).of_map.filter _)).mpr hmem
        rw [totalBytes_perm hafter]
        cases youngItems policy protectedNames (verifiedItems inventory') with
        | nil => rfl
        | cons i rest =>
          unfold exceedingBytes
          rw [if_pos hfits]
      · -- nothing is left above the floor
        have hyoung : youngItems policy protectedNames (verifiedItems inventory') = [] := by
          refine List.eq_nil_iff_forall_not_mem.mpr fun i hi => ?_
          have hmem := youngItems_subset _ hi
          obtain ⟨hi', hprotected, hle, -⟩ := (mem_remainingItems h').mp hmem
          have hpos := position_le h' hsub i
          obtain ⟨hmem', hstays⟩ := hverified i hi'
          rw [← name_deleted_iff h hmem'] at hstays
          rcases hfloor i (mem_leftItems.mpr ⟨hmem', hstays⟩) with hlt | hin
          · omega
          · exact hprotected hin
        rw [hyoung]
        rfl
  unfold deletedItems
  rw [hcount, hage, hbyte]
  rfl

variable {cfg : BackupConfig} {backups : BackupDirectory} {now : Moment}

lemma inventoryItem_name {file : BackupFile} {i : InventoryItem} (h : inventoryItem cfg now file = .ok i) :
    i.name = file.name := by
  obtain ⟨_, -, h⟩ := bind_eq_ok.mp h
  cases h
  rfl

lemma inventory_nodup (h : backupInventory cfg backups now = .ok inventory) : (names inventory).Nodup := by
  have hnames : names inventory = (backupFiles backups).map BackupFile.name :=
    map_of_mapM (fun _ _ => inventoryItem_name) h
  have hperm := (List.perm_insertionSort (fun a b : BackupFile => a.name ≤ b.name)
    (backups.rows.filter (fun f => isBackupName f.name && f.regular))).map BackupFile.name
  rw [hnames]
  exact hperm.nodup_iff.mpr (backups.nodup.sublist (List.filter_sublist.map _))

lemma mem_backupFiles {file : BackupFile} :
    file ∈ backupFiles backups ↔ file ∈ backups ∧ isBackupName file.name = true ∧ file.regular = true := by
  unfold backupFiles
  rw [List.mem_insertionSort, List.mem_filter, Bool.and_eq_true]
  rfl

/-- The inventory of the directory after the plan is what the plan leaves. -/
lemma inventory_applyPlan {plan : BackupPlan} (h : backupInventory cfg backups now = .ok inventory) :
    ∃ inventory', backupInventory cfg (applyPlan backups plan) now = .ok inventory' ∧
      LeftOver plan.backups inventory inventory' := by
  have hfiles : ∀ f, f ∈ backupFiles (applyPlan backups plan) ↔ f ∈ backupFiles backups ∧ f.name ∉ plan.backups := by
    intro f
    unfold applyPlan
    rw [mem_backupFiles, mem_backupFiles, Table.mem_keepRows, decide_eq_true_eq]
    exact and_right_comm
  have hread : ∀ f ∈ backupFiles (applyPlan backups plan), ∃ i, inventoryItem cfg now f = .ok i :=
    fun f hf => of_mapM_eq_ok h f ((hfiles f).mp hf).1
  obtain ⟨inventory', h'⟩ := mapM_exists hread
  refine ⟨inventory', h', fun i => ?_⟩
  rw [mem_of_mapM h, mem_of_mapM h']
  constructor
  · rintro ⟨f, hf, hi⟩
    obtain ⟨hf, hname⟩ := (hfiles f).mp hf
    rw [inventoryItem_name hi]
    exact ⟨⟨f, hf, hi⟩, hname⟩
  · rintro ⟨⟨f, hf, hi⟩, hname⟩
    rw [inventoryItem_name hi] at hname
    exact ⟨f, (hfiles f).mpr ⟨hf, hname⟩, hi⟩

/-- The number of verified backups that are later, or of the same instant and a greater name. -/
def laterCount (inventory : List InventoryItem) (i : InventoryItem) : Nat :=
  inventory.countP (fun j => j.verified && decide (Later j i))

lemma position_eq (i : InventoryItem) : position inventory i = laterCount inventory i := by
  unfold position laterCount
  have hperm : (verifiedItems inventory).Perm (inventory.filter InventoryItem.verified) := List.perm_insertionSort _ _
  rw [rank_perm hperm]
  unfold rank
  rw [List.countP_filter]
  refine List.countP_congr fun j _ => ?_
  rw [Bool.and_eq_true, Bool.and_eq_true, decide_eq_true_eq, newer_iff]
  exact and_comm

/-- The verified backups of an inventory. -/
def verifiedOf (inventory : List InventoryItem) : List InventoryItem := inventory.filter InventoryItem.verified

/-- The newest verified backups. -/
def recoveryFloor (policy : BackupRetentionPolicy) (inventory : List InventoryItem) : List InventoryItem :=
  (verifiedOf inventory).filter (fun i => decide (laterCount inventory i < policy.minimumRecoveryPoints))

/-- The verified backups that stay. -/
def leftOf (plan : BackupPlan) : List InventoryItem :=
  (verifiedOf plan.inventory).filter (fun i => decide (i.name ∉ plan.backups))

/-- A plan for a directory keeps the recovery floor. -/
structure Conserving (cfg : BackupConfig) (policy : BackupRetentionPolicy) (protectedNames : List String)
    (backups : BackupDirectory) (now : Moment) (plan : BackupPlan) : Prop where
  taken : backupInventory cfg backups now = .ok plan.inventory
  deletesVerified : ∀ n ∈ plan.backups, n ∉ protectedNames ∧ ∃ i ∈ verifiedOf plan.inventory, i.name = n
  once : plan.backups.Nodup
  floor : recoveryFloor policy plan.inventory ⊆ leftOf plan
  floorSize : (recoveryFloor policy plan.inventory).length =
    min policy.minimumRecoveryPoints (verifiedOf plan.inventory).length
  count : ((leftOf plan).filter (fun i => decide (i.name ∉ protectedNames))).length ≤
    max policy.keepVerifiedCount policy.minimumRecoveryPoints
  bytes : ∀ most ∈ policy.maxBytes, totalBytes (leftOf plan) ≤ most ∨
    ∀ i ∈ leftOf plan, i ∈ recoveryFloor policy plan.inventory ∨ i.name ∈ protectedNames
  settled : ∃ again, backupGcPlan cfg policy protectedNames (applyPlan backups plan) now = .ok again ∧
    again.backups = []

lemma verifiedOf_perm : (verifiedItems inventory).Perm (verifiedOf inventory) := List.perm_insertionSort _ _

lemma mem_recoveryFloor {i : InventoryItem} :
    i ∈ recoveryFloor policy inventory ↔ i ∈ verifiedItems inventory ∧
    position inventory i < policy.minimumRecoveryPoints := by
  unfold recoveryFloor
  rw [List.mem_filter, decide_eq_true_eq, position_eq, verifiedOf_perm.mem_iff]

lemma mem_take (h : (names inventory).Nodup) (m : Nat) {i : InventoryItem} :
    i ∈ (verifiedItems inventory).take m ↔ i ∈ verifiedItems inventory ∧ position inventory i < m :=
  mem_take_iff_rank newer_irrefl newer_asymm (verified_sorted h) m i

lemma recoveryFloor_length (h : (names inventory).Nodup) :
    (recoveryFloor policy inventory).length = min policy.minimumRecoveryPoints (verifiedOf inventory).length := by
  have hnodup : (verifiedItems inventory).Nodup := (names_verified_nodup h).of_map
  have hfloor : (recoveryFloor policy inventory).Nodup := (verifiedOf_perm.nodup_iff.mp hnodup).filter _
  have hperm : (recoveryFloor policy inventory).Perm ((verifiedItems inventory).take policy.minimumRecoveryPoints) := by
    refine (List.perm_ext_iff_of_nodup hfloor (hnodup.sublist (List.take_sublist _ _))).mpr fun i => ?_
    rw [mem_recoveryFloor, mem_take h]
  rw [hperm.length_eq, List.length_take, verifiedOf_perm.length_eq]

lemma left_perm : (leftItems inventory (planOf policy protectedNames inventory).backups).Perm
    (leftOf (planOf policy protectedNames inventory)) := verifiedOf_perm.filter _

lemma left_count (h : (names inventory).Nodup) :
    ((leftItems inventory (deletedNames policy protectedNames inventory)).filter
      (fun i => decide (i.name ∉ protectedNames))).length ≤ required policy := by
  have hnodup : (verifiedItems inventory).Nodup := (names_verified_nodup h).of_map
  have hsub : (leftItems inventory (deletedNames policy protectedNames inventory)).filter
      (fun i => decide (i.name ∉ protectedNames)) ⊆ (verifiedItems inventory).take (required policy) := by
    intro i hi
    rw [List.mem_filter, mem_leftItems, decide_eq_true_eq] at hi
    obtain ⟨⟨hi, hname⟩, hprotected⟩ := hi
    rw [name_deleted_iff h hi] at hname
    rw [mem_take h]
    refine ⟨hi, ?_⟩
    by_contra hge
    refine hname (List.mem_append_left _ (List.mem_append_left _ ?_))
    exact (mem_countDeletions h).mpr ⟨hi, hprotected, Nat.le_of_not_lt hge⟩
  have hle := (List.subperm_of_subset ((hnodup.filter _).filter _) hsub).length_le
  rw [List.length_take] at hle
  exact hle.trans (Nat.min_le_left _ _)

/-- Every plan keeps the recovery floor, whatever the three rules delete. -/
theorem recovery_floor_kept {cfg : BackupConfig} {policy : BackupRetentionPolicy} {protectedNames : List String}
    {backups : BackupDirectory} {now : Moment} {plan : BackupPlan}
    (hplan : backupGcPlan cfg policy protectedNames backups now = .ok plan) :
    Conserving cfg policy protectedNames backups now plan := by
  obtain ⟨inventory, hread, hplan⟩ := bind_eq_ok.mp hplan
  cases hplan
  have h := inventory_nodup hread
  have hnames : (planOf policy protectedNames inventory).backups = deletedNames policy protectedNames inventory :=
    backups_planOf
  have hleft : (leftItems inventory (deletedNames policy protectedNames inventory)).Perm
      (leftOf (planOf policy protectedNames inventory)) := by
    rw [← hnames]
    exact left_perm
  refine ⟨hread, ?_, ?_, ?_, recoveryFloor_length h, ?_, ?_, ?_⟩
  · intro n hn
    rw [hnames] at hn
    obtain ⟨i, hi, rfl⟩ := mem_names.mp hn
    exact ⟨(deletedItems_outside h hi).1, i, verifiedOf_perm.mem_iff.mp (deletedItems_subset h hi), rfl⟩
  · rw [hnames]
    exact deletedNames_nodup h
  · intro i hi
    obtain ⟨hi, hlt⟩ := mem_recoveryFloor.mp hi
    refine hleft.mem_iff.mp (mem_leftItems.mpr ⟨hi, ?_⟩)
    rw [name_deleted_iff h hi]
    intro hgone
    exact absurd (deletedItems_outside h hgone).2 (Nat.not_le.mpr hlt)
  · rw [← (hleft.filter _).length_eq]
    exact left_count h
  · intro most hmost
    rw [← totalBytes_perm hleft]
    rcases left_fits h hmost with hfits | hfloor
    · exact .inl hfits
    · refine .inr fun i hi => ?_
      have hi := hleft.mem_iff.mpr hi
      refine (hfloor i hi).imp_left fun hlt => ?_
      exact mem_recoveryFloor.mpr ⟨(mem_leftItems.mp hi).1, hlt⟩
  · obtain ⟨inventory', hread', hleftover⟩ := inventory_applyPlan hread
    rw [hnames] at hleftover
    refine ⟨planOf policy protectedNames inventory', ?_, ?_⟩
    · unfold backupGcPlan
      rw [hread', ok_bind]
    · rw [backups_planOf]
      unfold deletedNames
      rw [second_plan h (inventory_nodup hread') hleftover]
      rfl

def firstInstant : Moment := ⟨0, by decide⟩

def keepOne : BackupRetentionPolicy where
  keepVerifiedCount := 1
  maxAgeDays := none
  maxBytes := some 1
  unverifiedGraceDays := 1
  minimumRecoveryPoints := 1
  count := by decide
  age := by simp
  bytes := by simp
  grace := by decide
  floor := by decide

def zeros : String := "0000000000000000000000000000000000000000000000000000000000000000"

/-- A backup with its marker. -/
def verifiedFile (name : String) : BackupFile :=
  ⟨name, true, 10, firstInstant, some [("format", .text "noyra-verified-upgrade-backup/v1"), ("backup", .text name),
    ("restore_verified", .flag true), ("sha256", .text zeros)], some zeros⟩

def twoBackups : BackupDirectory :=
  ⟨[verifiedFile "noyra-a.noyra-backup", verifiedFile "noyra-b.noyra-backup"], by decide⟩

def readsNothing : BackupConfig := ⟨fun _ => .rejected, fun _ _ => 0⟩

/-- The second name counts as newer; it stays although its bytes exceed the limit. -/
theorem recovery_floor_kept_newest : ∃ plan, backupGcPlan readsNothing keepOne [] twoBackups firstInstant = .ok plan ∧
    plan.backups = ["noyra-a.noyra-backup"] ∧ Conserving readsNothing keepOne [] twoBackups firstInstant plan :=
  ⟨_, rfl, by decide, recovery_floor_kept rfl⟩

end Noyra.Core.Backups.Proofs
