import Mathlib.Data.List.Pairwise
import Noyra.Core.Snapshots

/-!
# What archives of snapshots keep

A delta leaves out every key whose two values Python finds equal. Replaying it gives the next state back exactly when
such values have one canonical text; so an archive stands for its snapshots exactly when that holds of all its
consecutive states.
-/

namespace Noyra.Core.Snapshots.Proofs
open Noyra.Lib Noyra.Lib.Document

variable {cfg : SnapshotConfig}

/-- Two dictionaries of one canonical text. -/
structure Alike (es fs : Entries) : Prop where
  left : keyed (.obj es) = true
  right : keyed (.obj fs) = true
  same : ∀ key, (get? es key).map sorted = (get? fs key).map sorted

lemma contentHash_eq_iff {x y : Document} (hx : x.keyed = true) (hy : y.keyed = true) :
    contentHash cfg x = contentHash cfg y ↔ x.sorted = y.sorted := by
  unfold contentHash
  rw [cfg.sha256_injective.eq_iff, cfg.dumps_eq_iff hx hy]

lemma Alike.iff_hash {es fs : Entries} (hes : keyed (.obj es) = true) (hfs : keyed (.obj fs) = true) :
    Alike es fs ↔ contentHash cfg (.obj es) = contentHash cfg (.obj fs) := by
  rw [contentHash_eq_iff hes hfs, sorted_obj_eq_iff (keyed_obj.mp hes).1 (keyed_obj.mp hfs).1]
  exact ⟨fun h => h.same, fun h => ⟨hes, hfs, h⟩⟩

/-- Values that compare equal have one canonical text. -/
def Lossless (cfg : SnapshotConfig) (previous current : Entries) : Prop :=
  ∀ key x y, get? previous key = some x → get? current key = some y → x.eq y = true → cfg.dumps x = cfg.dumps y

instance (previous current : Entries) : Decidable (Lossless cfg previous current) :=
  decidable_of_iff (∀ key ∈ previous.map Prod.fst, ∀ x ∈ get? previous key, ∀ y ∈ get? current key,
      x.eq y = true → cfg.dumps x = cfg.dumps y) (by
    constructor
    · intro h key x y hx hy hxy
      refine h key ?_ x hx y hy hxy
      by_contra habsent
      rw [get?_eq_none_iff.mpr habsent] at hx
      cases hx
    · intro h key _ x hx y hy hxy
      exact h key x y hx hy hxy)

/-- The keys a delta sets. -/
def changed (previous current : Entries) : Entries :=
  current.filter (fun e => (get? previous e.1).all (fun x => !x.eq e.2))

/-- The keys a delta deletes. -/
def removed (previous current : Entries) : List String :=
  ((previous.map Prod.fst).filter (fun key => (get? current key).isNone)).insertionSort (· ≤ ·)

lemma delta_eq (previous current : Entries) : delta previous current =
    .obj [("set", .obj (changed previous current)), ("delete", .arr ((removed previous current).map .str))] := rfl

lemma get?_filter {es : Entries} (hn : (es.map Prod.fst).Nodup) (p : String × Document → Bool) (key : String) :
    get? (es.filter p) key = (get? es key).filter (fun x => p (key, x)) := by
  apply Option.ext
  intro x
  rw [get?_eq_some_iff (hn.sublist (List.filter_sublist.map Prod.fst)), List.mem_filter, Option.filter_eq_some_iff,
    get?_eq_some_iff hn]

lemma mem_removed {previous current : Entries} {key : String} :
    key ∈ removed previous current ↔ (get? previous key).isSome ∧ get? current key = none := by
  unfold removed
  rw [List.mem_insertionSort, List.mem_filter, Option.isNone_iff_eq_none]
  have hpresent : key ∈ previous.map Prod.fst ↔ (get? previous key).isSome = true := by
    rw [← not_iff_not, ← get?_eq_none_iff, Bool.not_eq_true, Option.isSome_eq_false_iff, Option.isNone_iff_eq_none]
  rw [hpresent]

lemma deleteKeys_strings (state : Entries) (keys : List String) :
    deleteKeys state (keys.map .str) = .ok (keys.foldl pop state) := by
  induction keys generalizing state with
  | nil => rfl
  | cons key keys ih => exact ih (pop state key)

lemma nodup_foldl_pop {state : Entries} (h : (state.map Prod.fst).Nodup) (keys : List String) :
    ((keys.foldl pop state).map Prod.fst).Nodup := by
  induction keys generalizing state with
  | nil => exact h
  | cons key keys ih => exact ih (nodup_pop h key)

lemma get?_foldl_pop (state : Entries) (keys : List String) (k : String) :
    get? (keys.foldl pop state) k = if k ∈ keys then none else get? state k := by
  induction keys generalizing state with
  | nil => simp
  | cons key keys ih =>
    rw [List.foldl_cons, ih, get?_pop]
    by_cases hk : k = key
    · simp [hk]
    · simp [hk]

/-- The state that replaying the stored delta gives. -/
def replayed (state previous current : Entries) : Entries :=
  update ((removed previous current).foldl pop state)
    (sortKeys ((changed previous current).map (fun e => (e.1, sorted e.2))))

lemma applyDelta_sorted (state previous current : Entries) :
    applyDelta state (some (delta previous current).sorted) = .ok (replayed state previous current) := by
  have hset : ∀ raw : Entries, raw = [("set", sorted (.obj (changed previous current))),
      ("delete", sorted (.arr ((removed previous current).map .str)))] → get? (sortKeys raw) "set" =
        some (.obj (sortKeys ((changed previous current).map (fun e => (e.1, sorted e.2))))) ∧
      get? (sortKeys raw) "delete" = some (.arr ((removed previous current).map .str)) := by
    rintro raw rfl
    have hn : ([("set", sorted (.obj (changed previous current))),
        ("delete", sorted (.arr ((removed previous current).map .str)))].map Prod.fst).Nodup := by simp
    rw [get?_perm (perm_sortKeys _) (nodup_sortKeys hn), get?_perm (perm_sortKeys _) (nodup_sortKeys hn)]
    refine ⟨by simp [get?], ?_⟩
    have hstrings : ((removed previous current).map Document.str).map sorted = (removed previous current).map .str := by
      rw [List.map_map]
      rfl
    simp [get?, hstrings]
  rw [delta_eq, sorted_obj]
  unfold applyDelta
  obtain ⟨h₁, h₂⟩ := hset _ rfl
  simp only [List.map_cons, List.map_nil]
  rw [h₁, h₂]
  simp only [deleteKeys_strings, ok_bind]
  rfl

lemma nodup_changed {previous current : Entries} (hcurrent : keyed (.obj current) = true) :
    ((changed previous current).map Prod.fst).Nodup :=
  (keyed_obj.mp hcurrent).1.sublist (List.filter_sublist.map Prod.fst)

lemma map_fst_sorted (es : Entries) : (es.map (fun e => (e.1, sorted e.2))).map Prod.fst = es.map Prod.fst := by
  rw [List.map_map]
  rfl

/-- What the replayed state reads at a key. -/
lemma get?_replayed {state previous current : Entries} (hcurrent : keyed (.obj current) = true) (key : String) :
    get? (replayed state previous current) key =
      match get? previous key, get? current key with
      | _, none => if (get? previous key).isSome then none else get? state key
      | none, some y => some y.sorted
      | some x, some y => if x.eq y then get? state key else some y.sorted := by
  have hn := (keyed_obj.mp hcurrent).1
  have hkeys : ((changed previous current).map Prod.fst).Nodup := nodup_changed hcurrent
  unfold replayed
  rw [get?_update (nodup_sortKeys (by rw [map_fst_sorted]; exact hkeys)), get?_sorted hkeys, changed, get?_filter hn,
    get?_foldl_pop]
  cases hc : get? current key with
  | none =>
    simp only [Option.filter_none, Option.map_none, Option.none_or, mem_removed, hc, and_true]
  | some y =>
    have hstays : key ∉ removed previous current := by
      rw [mem_removed, hc]
      exact fun h => nomatch h.2
    rw [if_neg hstays]
    cases hp : get? previous key with
    | none => simp [hp]
    | some x =>
      cases hxy : x.eq y with
      | true => simp [hp, hxy, Option.filter]
      | false => simp [hp, hxy]

lemma keyed_replayed {state previous current : Entries} (hstate : keyed (.obj state) = true)
    (hcurrent : keyed (.obj current) = true) :
    keyed (.obj (replayed state previous current)) = true := by
  refine keyed_of_get? (nodup_update (nodup_foldl_pop (keyed_obj.mp hstate).1 _)) (fun key x hx => ?_)
  rw [get?_replayed hcurrent] at hx
  have hold : ∀ {z}, get? state key = some z → keyed z = true := fun hz => get?_keyed hstate hz
  cases hc : get? current key with
  | none =>
    rw [hc] at hx
    dsimp only at hx
    split at hx
    · cases hx
    · exact hold hx
  | some y =>
    have hy : keyed y.sorted = true := keyed_sorted y (get?_keyed hcurrent hc)
    rw [hc] at hx
    cases hp : get? previous key with
    | none =>
      rw [hp] at hx
      cases hx
      exact hy
    | some z =>
      rw [hp] at hx
      dsimp only at hx
      split at hx
      · exact hold hx
      · cases hx
        exact hy

/-- Replaying a delta gives the next state back exactly when the delta loses nothing. -/
theorem replayed_alike_iff {state previous current : Entries} (h : Alike state previous)
    (hcurrent : keyed (.obj current) = true) :
    Alike (replayed state previous current) current ↔ Lossless cfg previous current := by
  have hkeyed : keyed (.obj (replayed state previous current)) = true := keyed_replayed h.left hcurrent
  have hvalues : Alike (replayed state previous current) current ↔
      ∀ key, (get? (replayed state previous current) key).map sorted = (get? current key).map sorted :=
    ⟨fun hall => hall.same, fun hall => ⟨hkeyed, hcurrent, hall⟩⟩
  rw [hvalues]
  unfold Lossless
  constructor
  · intro hall key x y hx hy hxy
    have hkey := hall key
    rw [get?_replayed hcurrent, hx, hy] at hkey
    simp only [hxy, if_true] at hkey
    rw [h.same key, hx] at hkey
    rw [cfg.dumps_eq_iff (get?_keyed h.right hx) (get?_keyed hcurrent hy)]
    exact Option.some.inj hkey
  · intro hall key
    rw [get?_replayed hcurrent]
    cases hc : get? current key with
    | none =>
      dsimp only
      cases hp : get? previous key with
      | none => simpa [hp] using h.same key
      | some x => simp
    | some y =>
      cases hp : get? previous key with
      | none => simp [sorted_sorted]
      | some x =>
        dsimp only
        cases hxy : x.eq y with
        | false => simp [sorted_sorted]
        | true =>
          have htext := hall key x y hp hc hxy
          rw [cfg.dumps_eq_iff (get?_keyed h.right hp) (get?_keyed hcurrent hc)] at htext
          rw [if_pos rfl, h.same key, hp, Option.map_some, Option.map_some, htext]

/-- From each state of a batch to the next nothing is lost. -/
def LosslessFrom (cfg : SnapshotConfig) : Option Entries → List (SnapshotRow cfg) → Prop
  | _, [] => True
  | previous, row :: rows => ∀ state, cfg.loads row.stateJson = some (.obj state) →
    (∀ p, previous = some p → Lossless cfg p state) ∧ LosslessFrom cfg (some state) rows

def LosslessBatch (rows : List (SnapshotRow cfg)) : Prop := LosslessFrom cfg none rows

lemma losslessFrom_cons {previous : Option Entries} {row : SnapshotRow cfg} {rows : List (SnapshotRow cfg)} :
    LosslessFrom cfg previous (row :: rows) ↔ ∀ state, cfg.loads row.stateJson = some (.obj state) →
      (∀ p, previous = some p → Lossless cfg p state) ∧ LosslessFrom cfg (some state) rows := Iff.rfl

def decideLosslessFrom : (previous : Option Entries) → (rows : List (SnapshotRow cfg)) →
    Decidable (LosslessFrom cfg previous rows)
  | _, [] => isTrue trivial
  | previous, row :: rows =>
    have : ∀ state, Decidable (LosslessFrom cfg (some state) rows) := fun state => decideLosslessFrom (some state) rows
    decidable_of_iff (∀ state ∈ (cfg.loads row.stateJson).bind (fun x => match x with | .obj es => some es | _ => none),
        (∀ p ∈ previous, Lossless cfg p state) ∧ LosslessFrom cfg (some state) rows) (by
      rw [losslessFrom_cons]
      refine forall_congr' (fun state => ?_)
      have hread : state ∈ (cfg.loads row.stateJson).bind (fun x => match x with | .obj es => some es | _ => none) ↔
          cfg.loads row.stateJson = some (.obj state) := by
        cases cfg.loads row.stateJson with
        | none => simp
        | some x => cases x <;> simp
      rw [hread]
      rfl)

instance (rows : List (SnapshotRow cfg)) : Decidable (LosslessBatch rows) := decideLosslessFrom none rows

/-- The state replayed so far and the state the next delta was taken from. -/
def Following : Option Entries → Option Entries → Prop
  | none, none => True
  | some state, some previous => Alike state previous
  | _, _ => False

/-- The change an entry records. -/
def changeOf (previous : Option Entries) (state : Entries) : String × Document :=
  match previous with
  | none => ("base_state", .obj state)
  | some previous => ("delta", delta previous state)

lemma buildEntries_cons {previous : Option Entries} {row : SnapshotRow cfg} {rows : List (SnapshotRow cfg)}
    {entries : List Document} (h : buildEntries cfg previous (row :: rows) = .ok entries) :
    ∃ state rest, cfg.loads row.stateJson = some (.obj state) ∧ contentHash cfg (.obj state) = row.stateHash ∧
      buildEntries cfg (some state) rows = .ok rest ∧ entries = entryOf row (changeOf previous state) :: rest := by
  unfold buildEntries at h
  split at h
  · cases h
  · next state hloads =>
    obtain ⟨_, hhash, h⟩ := bind_eq_ok.mp h
    obtain ⟨rest, hrest, h⟩ := bind_eq_ok.mp h
    cases h
    exact ⟨state, rest, hloads, not_not.mp (raiseIf_eq_ok.mp hhash), hrest, rfl⟩
  · cases h

/-- The fields of a stored entry. -/
def storedEntry (row : SnapshotRow cfg) (change : String × Document) : Entries :=
  sortKeys [("snapshot_id", .str row.snapshotId), ("state_version", .int row.stateVersion),
    ("state_hash", .str row.stateHash),
    ("reason", .str row.reason), ("created_at", .str row.createdAt), (change.1, change.2.sorted)]

lemma entryOf_sorted (row : SnapshotRow cfg) (change : String × Document) :
    (entryOf row change).sorted = .obj (storedEntry row change) := by
  rw [entryOf, sorted_obj]
  rfl

lemma changeOf_key (previous : Option Entries) (state : Entries) :
    (changeOf previous state).1 = "base_state" ∨ (changeOf previous state).1 = "delta" := by
  cases previous with
  | none => exact .inl rfl
  | some p => exact .inr rfl

lemma get?_storedEntry (row : SnapshotRow cfg) {change : String × Document}
    (hkey : change.1 = "base_state" ∨ change.1 = "delta") :
    get? (storedEntry row change) "snapshot_id" = some (.str row.snapshotId) ∧
      get? (storedEntry row change) "state_hash" = some (.str row.stateHash) ∧
      get? (storedEntry row change) change.1 = some change.2.sorted := by
  have hn : ([("snapshot_id", Document.str row.snapshotId), ("state_version", .int row.stateVersion),
      ("state_hash", .str row.stateHash),
      ("reason", .str row.reason), ("created_at", .str row.createdAt), (change.1, change.2.sorted)].map
        Prod.fst).Nodup := by
    rcases hkey with hkey | hkey <;> simp [hkey]
  unfold storedEntry
  rw [get?_perm (perm_sortKeys _) (nodup_sortKeys hn), get?_perm (perm_sortKeys _) (nodup_sortKeys hn),
    get?_perm (perm_sortKeys _) (nodup_sortKeys hn)]
  refine ⟨by simp [get?], by simp [get?], ?_⟩
  rcases hkey with hkey | hkey <;> simp [get?, hkey]

lemma alike_sorted {es : Entries} (h : keyed (.obj es) = true) :
    Alike (sortKeys (es.map (fun e => (e.1, sorted e.2)))) es := by
  have hsorted := keyed_sorted (.obj es) h
  rw [sorted_obj] at hsorted
  refine ⟨hsorted, h, fun key => ?_⟩
  rw [get?_sorted (keyed_obj.mp h).1]
  cases get? es key with
  | none => rfl
  | some x => simp [sorted_sorted]

/-- Replaying a stored entry: the base itself, or the delta applied. -/
lemma replayEntry_stored (row : SnapshotRow cfg) {replayedSoFar previous : Option Entries} {state : Entries}
    (h : Following replayedSoFar previous) (hstate : keyed (.obj state) = true) :
    ∃ next, replayEntry replayedSoFar (storedEntry row (changeOf previous state)) = .ok next ∧ keyed
      (.obj next) = true ∧ (Alike next state ↔ ∀ p, previous = some p → Lossless cfg p state) := by
  obtain ⟨-, -, hchange⟩ := get?_storedEntry row (changeOf_key previous state)
  cases previous with
  | none =>
    cases replayedSoFar with
    | some s => exact h.elim
    | none =>
      have hbase : get? (storedEntry row (changeOf none state)) "base_state" =
          some (.obj (sortKeys (state.map (fun e => (e.1, sorted e.2))))) :=
            hchange.trans (by rw [changeOf, sorted_obj])
      have halike := alike_sorted hstate
      refine ⟨_, by unfold replayEntry; rw [hbase], halike.left, ⟨fun _ p hp => (by cases hp), fun _ => halike⟩⟩
  | some p =>
    cases replayedSoFar with
    | none => exact h.elim
    | some s =>
      have halike : Alike s p := h
      have hdelta : get? (storedEntry row (changeOf (some p) state)) "delta" = some (delta p state).sorted := hchange
      refine ⟨replayed s p state, by unfold replayEntry; rw [hdelta]; exact applyDelta_sorted s p state,
        keyed_replayed halike.left hstate, ?_⟩
      rw [@replayed_alike_iff cfg _ _ _ halike hstate]
      exact ⟨fun hl q hq => Option.some.inj hq ▸ hl, fun hl => hl p rfl⟩

/-- The entries of a batch verify exactly when the batch loses nothing. -/
lemma verifyEntries_iff {rows : List (SnapshotRow cfg)} :
    ∀ {previous replayedSoFar : Option Entries} {entries : List Document}, Following replayedSoFar previous →
      buildEntries cfg previous rows = .ok entries →
      (verifyEntries cfg replayedSoFar (entries.map sorted) = .ok () ↔ LosslessFrom cfg previous rows) := by
  induction rows with
  | nil =>
    intro previous soFar entries _ h
    cases h
    exact ⟨fun _ => trivial, fun _ => rfl⟩
  | cons row rows ih =>
    intro previous soFar entries hfollow h
    obtain ⟨state, rest, hloads, hhash, hrest, rfl⟩ := buildEntries_cons h
    have hstate := cfg.loads_keyed _ _ hloads
    obtain ⟨next, hnext, hkeyed, halike⟩ := replayEntry_stored row hfollow hstate
    obtain ⟨-, hstored, -⟩ := get?_storedEntry row (changeOf_key previous state)
    have hentry : entryHash (storedEntry row (changeOf previous state)) = some row.stateHash := by
      unfold entryHash
      rw [hstored]
    rw [List.map_cons, entryOf_sorted]
    unfold verifyEntries LosslessFrom
    rw [hnext, ok_bind, hentry]
    by_cases hsame : Alike next state
    · have hequal := (@Alike.iff_hash cfg _ _ hkeyed hstate).mp hsame
      rw [raiseIf_neg (by rw [hequal, hhash]; exact not_not.mpr rfl), ok_bind,
        ih (show Following (some next) (some state) from hsame) hrest]
      constructor
      · intro hlater s hs
        rw [hloads] at hs
        cases hs
        exact ⟨halike.mp hsame, hlater⟩
      · intro hall
        exact (hall state hloads).2
    · have hdiffer : contentHash cfg (.obj next) ≠ contentHash cfg (.obj state) :=
        fun heq => hsame ((Alike.iff_hash hkeyed hstate).mpr heq)
      constructor
      · intro hok
        obtain ⟨_, hraise, -⟩ := bind_eq_ok.mp hok
        have hpass := not_not.mp (raiseIf_eq_ok.mp hraise)
        rw [Option.some.injEq, ← hhash] at hpass
        exact absurd hpass.symm hdiffer
      · intro hall
        exact absurd (halike.mpr (hall state hloads).1) hsame

/-- A batch that loses nothing is replayed to its states. -/
lemma replayEntries_lossless {rows : List (SnapshotRow cfg)} :
    ∀ {previous replayedSoFar : Option Entries} {entries : List Document}, Following replayedSoFar previous →
      buildEntries cfg previous rows = .ok entries → LosslessFrom cfg previous rows →
      ∃ states, replayEntries replayedSoFar (entries.map sorted) = .ok states ∧
        ∀ row ∈ rows, ∃ e ∈ states, get? e.1 "snapshot_id" = some (.str row.snapshotId) ∧
          contentHash cfg (.obj e.2) = row.stateHash := by
  induction rows with
  | nil =>
    intro previous soFar entries _ h _
    cases h
    exact ⟨[], rfl, fun row hrow => nomatch hrow⟩
  | cons row rows ih =>
    intro previous soFar entries hfollow h hlossless
    obtain ⟨state, rest, hloads, hhash, hrest, rfl⟩ := buildEntries_cons h
    have hstate := cfg.loads_keyed _ _ hloads
    obtain ⟨next, hnext, hkeyed, halike⟩ := replayEntry_stored row hfollow hstate
    obtain ⟨hid, -, -⟩ := get?_storedEntry row (changeOf_key previous state)
    obtain ⟨hstep, hlater⟩ := hlossless state hloads
    have hsame := halike.mpr hstep
    obtain ⟨states, hstates, hall⟩ := ih (show Following (some next) (some state) from hsame) hrest hlater
    refine ⟨(storedEntry row (changeOf previous state), next) :: states, ?_, ?_⟩
    · rw [List.map_cons, entryOf_sorted]
      unfold replayEntries
      rw [hnext, ok_bind, hstates, ok_bind]
    · intro r hr
      rcases List.mem_cons.mp hr with rfl | hr
      · exact ⟨_, List.mem_cons_self, hid, ((@Alike.iff_hash cfg _ _ hkeyed hstate).mp hsame).trans hhash⟩
      · obtain ⟨e, he, hfields⟩ := hall r hr
        exact ⟨e, List.mem_cons_of_mem _ he, hfields⟩

/-- A batch as it is built. -/
def Built (cfg : SnapshotConfig) (rows : List (SnapshotRow cfg)) (payload : Document) : Prop :=
  ∃ entries, buildEntries cfg none rows = .ok entries ∧ payload = payloadOf entries

lemma keyed_delta {previous current : Entries} (hcurrent : keyed (.obj current) = true) :
    keyed (delta previous current) = true := by
  rw [delta_eq, keyed_obj]
  refine ⟨by simp, fun e he => ?_⟩
  rcases List.mem_cons.mp he with rfl | he
  · exact keyed_obj.mpr ⟨nodup_changed hcurrent, fun e he => (keyed_obj.mp hcurrent).2 e (List.mem_of_mem_filter he)⟩
  · rw [List.mem_singleton.mp he, keyed_arr]
    intro x hx
    obtain ⟨key, -, rfl⟩ := List.mem_map.mp hx
    rfl

lemma keyed_entryOf (row : SnapshotRow cfg) {previous : Option Entries} {state : Entries}
    (hstate : keyed (.obj state) = true) :
    keyed (entryOf row (changeOf previous state)) = true := by
  have hchange : keyed (changeOf previous state).2 = true := by
    cases previous with
    | none => exact hstate
    | some p => exact keyed_delta hstate
  unfold entryOf
  rw [keyed_obj]
  refine ⟨?_, fun e he => ?_⟩
  · rcases changeOf_key previous state with hkey | hkey <;> simp [hkey]
  · simp only [List.mem_cons, List.not_mem_nil, or_false] at he
    rcases he with rfl | rfl | rfl | rfl | rfl | rfl
    · rfl
    · rfl
    · rfl
    · rfl
    · rfl
    · exact hchange

lemma buildEntries_keyed {rows : List (SnapshotRow cfg)} :
    ∀ {previous : Option Entries} {entries : List Document}, buildEntries cfg previous rows = .ok entries →
      ∀ x ∈ entries, keyed x = true := by
  induction rows with
  | nil =>
    intro previous entries h
    cases h
    exact fun x hx => nomatch hx
  | cons row rows ih =>
    intro previous entries h x hx
    obtain ⟨state, rest, hloads, -, hrest, rfl⟩ := buildEntries_cons h
    rcases List.mem_cons.mp hx with rfl | hx
    · exact keyed_entryOf row (cfg.loads_keyed _ _ hloads)
    · exact ih hrest x hx

lemma buildEntries_length {rows : List (SnapshotRow cfg)} :
    ∀ {previous : Option Entries} {entries : List Document}, buildEntries cfg previous rows = .ok entries →
      entries.length = rows.length := by
  induction rows with
  | nil =>
    intro previous entries h
    cases h
    rfl
  | cons row rows ih =>
    intro previous entries h
    obtain ⟨state, rest, -, -, hrest, rfl⟩ := buildEntries_cons h
    rw [List.length_cons, List.length_cons, ih hrest]

/-- The identifiers that the entries of an archive carry. -/
lemma mem_buildEntries {rows : List (SnapshotRow cfg)} {id : String} :
    ∀ {previous : Option Entries} {entries : List Document}, buildEntries cfg previous rows = .ok entries →
      ((∃ e, .obj e ∈ entries.map sorted ∧ get? e "snapshot_id" = some (.str id)) ↔
        ∃ row ∈ rows, row.snapshotId = id) := by
  induction rows with
  | nil =>
    intro previous entries h
    cases h
    simp
  | cons row rows ih =>
    intro previous entries h
    obtain ⟨state, rest, -, -, hrest, rfl⟩ := buildEntries_cons h
    obtain ⟨hid, -, -⟩ := get?_storedEntry row (changeOf_key previous state)
    rw [List.map_cons, entryOf_sorted]
    constructor
    · rintro ⟨e, he, heid⟩
      rcases List.mem_cons.mp he with heq | he
      · cases heq
        rw [hid] at heid
        cases heid
        exact ⟨row, List.mem_cons_self, rfl⟩
      · obtain ⟨r, hr, hrid⟩ := (ih hrest).mp ⟨e, he, heid⟩
        exact ⟨r, List.mem_cons_of_mem _ hr, hrid⟩
    · rintro ⟨r, hr, rfl⟩
      rcases List.mem_cons.mp hr with rfl | hr
      · exact ⟨_, List.mem_cons_self, hid⟩
      · obtain ⟨e, he, heid⟩ := (ih hrest).mpr ⟨r, hr, rfl⟩
        exact ⟨e, List.mem_cons_of_mem _ he, heid⟩

lemma keyed_payloadOf {entries : List Document} (h : ∀ x ∈ entries, keyed x = true) :
    keyed (payloadOf entries) = true := by
  unfold payloadOf
  rw [keyed_obj]
  refine ⟨by simp, fun e he => ?_⟩
  rcases List.mem_cons.mp he with rfl | he
  · rfl
  · rw [List.mem_singleton.mp he]
    exact keyed_arr.mpr h

lemma readArchive_archiveOf {archiveId subjectId : String} {rows : List (SnapshotRow cfg)} {entries : List Document}
    (h : ∀ x ∈ entries, keyed x = true) :
    readArchive (archiveOf cfg archiveId subjectId rows (payloadOf entries)) =
      .ok ((payloadOf entries).sorted, entries.map sorted) := by
  have hn : ([("format", Document.str "noyra-incremental-snapshots-v1"), ("entries", sorted (.arr entries))].map
      Prod.fst).Nodup := by
    simp
  have hget : get? (sortKeys [("format", Document.str "noyra-incremental-snapshots-v1"),
      ("entries", sorted (.arr entries))]) "entries" =
      some (.arr (entries.map sorted)) := by
    rw [get?_perm (perm_sortKeys _) (nodup_sortKeys hn)]
    simp [get?]
  have hsorted : (payloadOf entries).sorted =
      .obj (sortKeys [("format", .str "noyra-incremental-snapshots-v1"), ("entries", sorted (.arr entries))]) := by
    rw [payloadOf, sorted_obj]
    rfl
  unfold readArchive archiveOf
  dsimp only
  rw [cfg.decompress_compress, orRaise_some, ok_bind, cfg.loads_dumps _ (keyed_payloadOf h), orRaise_some, ok_bind,
    hsorted]
  dsimp only
  rw [hget]

/-- The archive of a batch verifies exactly when the batch loses nothing. -/
lemma verifyArchive_iff {archiveId subjectId : String} {rows : List (SnapshotRow cfg)} {payload : Document}
    (h : Built cfg rows payload) :
    verifyArchive (archiveOf cfg archiveId subjectId rows payload) = .ok () ↔ LosslessBatch rows := by
  obtain ⟨entries, hbuild, rfl⟩ := h
  have hkeyed := buildEntries_keyed hbuild
  have hhash : contentHash cfg (payloadOf entries).sorted = contentHash cfg (payloadOf entries) := by
    unfold contentHash
    rw [cfg.dumps_sorted _ (keyed_payloadOf hkeyed)]
  unfold verifyArchive
  rw [raiseIf_neg (by exact not_not.mpr rfl), ok_bind, readArchive_archiveOf hkeyed, ok_bind]
  dsimp only
  rw [raiseIf_neg, ok_bind]
  · exact verifyEntries_iff (show Following none none from trivial) hbuild
  · rintro (hbad | hbad)
    · exact hbad hhash
    · rw [List.length_map, buildEntries_length hbuild] at hbad
      exact hbad rfl

/-- The archive holds an entry of the snapshot. -/
def Covers (a : ArchiveRow cfg) (snapshotId : String) : Prop :=
  ∃ payload entries, readArchive a = .ok (payload, entries) ∧
    ∃ e, .obj e ∈ entries ∧ get? e "snapshot_id" = some (.str snapshotId)

/-- Replaying the archive gives a state of the snapshot's hash. -/
def Reconstructs (a : ArchiveRow cfg) (row : SnapshotRow cfg) : Prop :=
  ∃ payload entries states, readArchive a = .ok (payload, entries) ∧ replayEntries none entries = .ok states ∧
    ∃ e ∈ states, get? e.1 "snapshot_id" = some (.str row.snapshotId) ∧ contentHash cfg (.obj e.2) = row.stateHash

lemma covers_iff {archiveId subjectId id : String} {rows : List (SnapshotRow cfg)} {payload : Document}
    (h : Built cfg rows payload) :
    Covers (archiveOf cfg archiveId subjectId rows payload) id ↔ ∃ row ∈ rows, row.snapshotId = id := by
  obtain ⟨entries, hbuild, rfl⟩ := h
  rw [← mem_buildEntries hbuild]
  unfold Covers
  rw [readArchive_archiveOf (buildEntries_keyed hbuild)]
  constructor
  · rintro ⟨_, _, heq, hmem⟩
    cases heq
    exact hmem
  · intro hmem
    exact ⟨_, _, rfl, hmem⟩

lemma reconstructs_of_lossless {archiveId subjectId : String} {rows : List (SnapshotRow cfg)} {payload : Document}
    (h : Built cfg rows payload) (hlossless : LosslessBatch rows) :
    ∀ row ∈ rows, Reconstructs (archiveOf cfg archiveId subjectId rows payload) row := by
  obtain ⟨entries, hbuild, rfl⟩ := h
  intro row hrow
  obtain ⟨states, hstates, hall⟩ := replayEntries_lossless (show Following none none from trivial) hbuild hlossless
  exact ⟨_, _, states, readArchive_archiveOf (buildEntries_keyed hbuild), hstates, hall row hrow⟩

lemma takeBytes_sublist (limit used : Nat) (rows : List (SnapshotRow cfg)) :
    (takeBytes cfg limit used rows).Sublist rows := by
  induction rows generalizing used with
  | nil => exact .slnil
  | cons row rows ih =>
    unfold takeBytes
    split
    · exact List.nil_sublist _
    · exact (ih _).cons_cons row

lemma readCompactionBatch_spec {t : Table (@SnapshotRow.snapshotId cfg)} {subjectId : String} {keep : Nat}
    {cursor : Option (Nat × String)} {rowLimit byteLimit : Nat} :
    ((readCompactionBatch t.rows subjectId keep cursor rowLimit byteLimit).map SnapshotRow.snapshotId).Nodup ∧
      ∀ r ∈ readCompactionBatch t.rows subjectId keep cursor rowLimit byteLimit, r.subjectId = subjectId := by
  unfold readCompactionBatch
  dsimp only
  split
  · simp
  · split
    · simp
    · next cutoff _ =>
      have hstored := List.perm_insertionSort (fun a b : SnapshotRow cfg => a.stateVersion < b.stateVersion ∨
        a.stateVersion = b.stateVersion ∧ a.snapshotId ≤ b.snapshotId)
          (t.rows.filter (fun r => decide (r.subjectId = subjectId)))
      have hsub := (takeBytes_sublist byteLimit 0 _).trans ((List.take_sublist rowLimit _).trans
        (List.filter_sublist (p := fun r => decide (precedes cfg r.stateVersion r.snapshotId cutoff ∧
          cursor.all (fun c => decide (precedes cfg c.1 c.2 r)) = true)) (l :=
            (t.rows.filter (fun r => decide (r.subjectId = subjectId))).insertionSort
            (fun a b => a.stateVersion < b.stateVersion ∨ a.stateVersion = b.stateVersion ∧
              a.snapshotId ≤ b.snapshotId))))
      refine ⟨(((hstored.map _).nodup_iff).mpr (t.nodup.sublist (List.filter_sublist.map _))).sublist (hsub.map _),
        fun r hr => ?_⟩
      have hmem := hstored.mem_iff.mp (hsub.subset hr)
      exact of_decide_eq_true (List.mem_filter.mp hmem).2

/-! ### Every run -/

/-- What holds between any two steps. -/
structure Books (s : SnapshotState cfg) : Prop where
  archives : s.db.archives.rows = s.published.map (Published.archive cfg)
  built : ∀ p ∈ s.published, Built cfg p.rows p.payload ∧ ∀ r ∈ p.rows, r.subjectId = p.subjectId
  distinct : (s.deleted.map SnapshotRow.snapshotId).Nodup
  gone : ∀ r ∈ s.db.snapshots, r.snapshotId ∉ s.deleted.map SnapshotRow.snapshotId
  calls : ∀ c ∈ s.calls, ∀ rows payload rawBytes, c.phase = .publishing rows payload rawBytes →
    Built cfg rows payload ∧ (rows.map SnapshotRow.snapshotId).Nodup ∧ ∀ r ∈ rows, r.subjectId = c.subjectId

lemma publish_spec {db db' : SnapshotDb cfg} {archiveId subjectId : String} {rows : List (SnapshotRow cfg)}
    {payload : Document} (h : publishCompactionBatch db archiveId subjectId rows payload = .ok db') :
    (∀ r ∈ rows, r ∈ db.snapshots) ∧ db'.archives.rows = db.archives.rows ++
      [archiveOf cfg archiveId subjectId rows payload] ∧
      ∀ r, r ∈ db'.snapshots ↔
      r ∈ db.snapshots ∧ ¬(r.subjectId = subjectId ∧ r.snapshotId ∈ rows.map SnapshotRow.snapshotId) := by
  unfold publishCompactionBatch at h
  obtain ⟨_, hpresent, h⟩ := bind_eq_ok.mp h
  obtain ⟨archives, hinsert, h⟩ := bind_eq_ok.mp h
  obtain ⟨_, -, h⟩ := bind_eq_ok.mp h
  cases h
  have hunchanged := raiseIf_eq_ok.mp hpresent
  push Not at hunchanged
  refine ⟨fun r hr => ?_, (Table.insert?_eq_some.mp (orRaise_eq_ok.mp hinsert)).2, fun r => ?_⟩
  · have hfilter := hunchanged r hr
    rw [Option.filter_eq_some_iff] at hfilter
    exact (Table.find?_eq_some.mp hfilter.1).1
  · rw [Table.mem_keepRows]
    simp only [Bool.not_eq_true', decide_eq_false_iff_not]

lemma Books.setCall {s : SnapshotState cfg} (h : Books s) {i : Nat} {c : Call cfg}
    (hc : ∀ rows payload rawBytes, c.phase = .publishing rows payload rawBytes →
      Built cfg rows payload ∧ (rows.map SnapshotRow.snapshotId).Nodup ∧ ∀ r ∈ rows, r.subjectId = c.subjectId) :
    Books { s with calls := s.calls.set i c } := by
  refine ⟨h.archives, h.built, h.distinct, h.gone, fun x hx => ?_⟩
  rcases List.mem_or_eq_of_mem_set hx with hx | rfl
  · exact h.calls x hx
  · exact hc

lemma buildArchivePayload_built {rows : List (SnapshotRow cfg)} {payload : Document} {rawBytes : Nat}
    (h : buildArchivePayload cfg rows = .ok (payload, rawBytes)) : Built cfg rows payload := by
  obtain ⟨entries, hentries, h⟩ := bind_eq_ok.mp h
  cases h
  exact ⟨entries, hentries, rfl⟩

lemma readBatch_subjectId (c : Call cfg) (snapshots : List (SnapshotRow cfg)) :
    (c.readBatch snapshots).subjectId = c.subjectId := by
  unfold Call.readBatch
  dsimp only
  split
  · rfl
  · split
    · rfl
    · split
      · rfl
      · split <;> rfl

lemma readBatch_built {c : Call cfg} {t : Table (@SnapshotRow.snapshotId cfg)} {rows : List (SnapshotRow cfg)}
    {payload : Document} {rawBytes : Nat} (h : (c.readBatch t.rows).phase = .publishing rows payload rawBytes) :
    Built cfg rows payload ∧ (rows.map SnapshotRow.snapshotId).Nodup ∧ ∀ r ∈ rows, r.subjectId = c.subjectId := by
  unfold Call.readBatch at h
  dsimp only at h
  split at h
  · cases h
  · split at h
    · cases h
    · split at h
      · cases h
      · next p raw hbuild =>
        split at h
        · cases h
        · cases h
          exact ⟨buildArchivePayload_built hbuild, readCompactionBatch_spec⟩

lemma Books.advanceCall {s : SnapshotState cfg} (h : Books s) {i : Nat} {c : Call cfg} (hc : c ∈ s.calls)
    (archiveId : String) :
    Books (advanceCall s i c archiveId) := by
  unfold Snapshots.advanceCall
  split
  · refine h.setCall (fun rows payload rawBytes hphase => ?_)
    rw [readBatch_subjectId]
    exact readBatch_built hphase
  · next rows payload rawBytes hphase =>
    obtain ⟨hbuilt, hnodup, hsubject⟩ := h.calls c hc rows payload rawBytes hphase
    split
    · next db hpublish =>
      obtain ⟨hpresent, harchives, hleft⟩ := publish_spec hpublish
      have hdeleted : SnapshotState.deleted
          { db, calls := s.calls.set i (c.advance rows payload rawBytes),
            published := s.published ++ [⟨archiveId, c.subjectId, rows, payload⟩] } = s.deleted ++ rows := by
        simp [SnapshotState.deleted]
      refine ⟨?_, ?_, ?_, ?_, ?_⟩
      · rw [harchives, h.archives, List.map_append]
        rfl
      · intro p hp
        rcases List.mem_append.mp hp with hp | hp
        · exact h.built p hp
        · rw [List.mem_singleton.mp hp]
          exact ⟨hbuilt, hsubject⟩
      · rw [hdeleted, List.map_append, List.nodup_append]
        refine ⟨h.distinct, hnodup, fun id hid id' hid' heq => ?_⟩
        obtain ⟨r, hr, rfl⟩ := List.mem_map.mp hid'
        exact h.gone r (hpresent r hr) (heq ▸ hid)
      · intro r hr
        obtain ⟨hold, hkept⟩ := (hleft r).mp hr
        rw [hdeleted, List.map_append, List.mem_append]
        rintro (hgone | hnew)
        · exact h.gone r hold hgone
        · obtain ⟨x, hx, hxr⟩ := List.mem_map.mp hnew
          have hsame : x = r := Table.eq_of_key (hpresent x hx) hold hxr
          exact hkept ⟨hsame ▸ hsubject x hx, hnew⟩
      · intro x hx
        rcases List.mem_or_eq_of_mem_set hx with hx | rfl
        · exact h.calls x hx
        · exact fun rows payload rawBytes hlooping => nomatch hlooping
    · refine h.setCall (fun rows payload rawBytes hphase => ?_)
      unfold Call.conflict at hphase
      dsimp only at hphase
      split at hphase <;> cases hphase
    · exact h.setCall (fun rows payload rawBytes hphase => nomatch hphase)
  · exact h

lemma startCall_phase (subjectId : String) (p : CompactInput) {rows : List (SnapshotRow cfg)} {payload : Document}
    {rawBytes : Nat} :
    (startCall cfg subjectId p).phase ≠ .publishing rows payload rawBytes := by
  unfold startCall
  split
  · exact fun h => nomatch h
  · dsimp only
    split <;> exact fun h => nomatch h

lemma Books.step {s : SnapshotState cfg} (h : Books s) (a : SnapshotAction cfg) : Books (snapshotStep s a) := by
  cases a with
  | others snapshots =>
    simp only [snapshotStep]
    split
    · next hfresh => exact ⟨h.archives, h.built, h.distinct, hfresh, h.calls⟩
    · exact h
  | compact subjectId p =>
    refine ⟨h.archives, h.built, h.distinct, h.gone, fun c hc => ?_⟩
    rcases List.mem_append.mp hc with hc | hc
    · exact h.calls c hc
    · rw [List.mem_singleton.mp hc]
      exact fun rows payload rawBytes hphase => absurd hphase (startCall_phase subjectId p)
  | advance i archiveId =>
    simp only [snapshotStep]
    split
    · exact h
    · next c hc => exact h.advanceCall (List.mem_of_getElem? hc) archiveId
  | interrupt i e =>
    simp only [snapshotStep]
    split
    · exact h
    · split
      · exact h.setCall (fun rows payload rawBytes hphase => nomatch hphase)
      · exact h.setCall (fun rows payload rawBytes hphase => nomatch hphase)
      · exact h

lemma Books.reachable {s : SnapshotState cfg} (h : (snapshotMachine cfg).Reachable s) : Books s := by
  refine Machine.ReachableUnder.invariant (I := Books) ?_ (fun s a hb _ => hb.step a) h
  rintro s ⟨harchives, hcalls, hpublished⟩
  refine ⟨?_, ?_, ?_, ?_, ?_⟩
  · rw [harchives, hpublished]
    rfl
  · simp [hpublished]
  · simp [SnapshotState.deleted, hpublished]
  · simp [SnapshotState.deleted, hpublished]
  · simp [hcalls]

/-- Nothing of the subject's history was lost: its archives verify, and every snapshot deleted is in one archive,
from which it is reconstructed. -/
def Preserved (s : SnapshotState cfg) (subjectId : String) : Prop :=
  (∃ n, verifyArchives s.db.archives.rows subjectId = .ok n) ∧
    ∀ row ∈ s.deleted, row.subjectId = subjectId → ∃ a ∈ s.db.archives, Reconstructs a row ∧
      ∀ a' ∈ s.db.archives, Covers a' row.snapshotId → a' = a

lemma Books.mem_archives {s : SnapshotState cfg} (hb : Books s) {a : ArchiveRow cfg} :
    a ∈ s.db.archives ↔ ∃ p ∈ s.published, p.archive = a := by
  rw [Table.mem_def, hb.archives, List.mem_map]

/-- Archives that verify lost nothing. -/
lemma Books.lossless {s : SnapshotState cfg} (hb : Books s) {subjectId : String} {n : Nat}
    (h : verifyArchives s.db.archives.rows subjectId = .ok n) {p : Published cfg} (hp : p ∈ s.published)
    (hsubject : p.subjectId = subjectId) : LosslessBatch p.rows := by
  obtain ⟨_, hall, -⟩ := bind_eq_ok.mp h
  have harchive : p.archive ∈ s.db.archives.rows.filter (fun a => decide (a.subjectId = subjectId)) :=
    List.mem_filter.mpr ⟨hb.mem_archives.mpr ⟨p, hp, rfl⟩, decide_eq_true hsubject⟩
  exact (verifyArchive_iff (hb.built p hp).1).mp (of_forM_eq_ok hall _ harchive)

/-- In every run of any number of compactions with other writers: compaction preserves the history of a subject
exactly when, in every batch it stored, values of one key that Python finds equal in consecutive states have one
canonical text. -/
theorem compaction_preserves_iff {s : SnapshotState cfg} (h : (snapshotMachine cfg).Reachable s) (subjectId : String) :
    Preserved s subjectId ↔ ∀ p ∈ s.published, p.subjectId = subjectId → LosslessBatch p.rows := by
  have hb := Books.reachable h
  constructor
  · rintro ⟨⟨n, hverify⟩, -⟩ p hp hsubject
    exact hb.lossless hverify hp hsubject
  · intro hall
    refine ⟨⟨(s.db.archives.rows.filter (fun a => decide (a.subjectId = subjectId))).length, ?_⟩, ?_⟩
    · unfold verifyArchives
      dsimp only
      rw [forM_eq_ok, ok_bind]
      intro a ha
      obtain ⟨hstored, hsubject⟩ := List.mem_filter.mp ha
      obtain ⟨p, hp, rfl⟩ := hb.mem_archives.mp hstored
      exact (verifyArchive_iff (hb.built p hp).1).mpr (hall p hp (of_decide_eq_true hsubject))
    · intro row hrow hsubject
      obtain ⟨p, hp, hrp⟩ := List.mem_flatMap.mp hrow
      have hown : p.subjectId = subjectId := ((hb.built p hp).2 row hrp).symm.trans hsubject
      refine ⟨p.archive, hb.mem_archives.mpr ⟨p, hp, rfl⟩, reconstructs_of_lossless (hb.built p hp).1 (hall p hp hown)
        row hrp, ?_⟩
      intro a ha hcovers
      obtain ⟨p', hp', rfl⟩ := hb.mem_archives.mp ha
      obtain ⟨r, hr, hid⟩ := (covers_iff (hb.built p' hp').1).mp hcovers
      -- two batches with a snapshot in common are one
      have hdistinct := hb.distinct
      unfold SnapshotState.deleted at hdistinct
      rw [List.map_flatMap, List.nodup_flatMap] at hdistinct
      have hsymm : Std.Symm (Function.onFun List.Disjoint fun p : Published cfg => p.rows.map SnapshotRow.snapshotId) :=
        ⟨fun _ _ hd _ hx hy => hd hy hx⟩
      by_contra hne
      have hdisjoint := hdistinct.2.forall hp' hp (fun heq => hne (congrArg (Published.archive cfg) heq))
      exact hdisjoint (List.mem_map_of_mem hr) (hid ▸ List.mem_map_of_mem hrp)

/-! ### A number that becomes a truth value -/

def sampleSnapshots : SnapshotConfig where
  toCodec := .plain
  sha256 x := String.ofList x.text
  sha256_injective _ _ h := text_injective (String.ofList_injective h)
  byteLength _ := 8
  Blob := Document
  compress x := x
  decompress x := some x
  decompress_compress _ := rfl
  hex _ := "00"
  blobLength _ := 8

def sampleRow (version : Nat) (x : Document) : SnapshotRow sampleSnapshots where
  snapshotId := "snap_" ++ toString version
  subjectId := "noyra"
  stateVersion := version
  stateJson := (Document.obj [("ready", x)]).sorted
  stateHash := contentHash sampleSnapshots (.obj [("ready", x)])
  reason := "checkpoint"
  createdAt := "2026-01-01T00:00:00.000000+00:00"

def sampleInput : CompactInput := ⟨2, 256, 8000000, none, none, none, none, none, none⟩

/-- Four snapshots of which the older two differ in one value. -/
def sampleHistory (first second : Document) : Table (@SnapshotRow.snapshotId sampleSnapshots) :=
  ((((Table.empty.upsert (sampleRow 1 first)).upsert (sampleRow 2 second)).upsert (sampleRow 3 .null)).upsert
    (sampleRow 4 .null))

/-- One compaction until it returns. -/
def sampleCompaction (first second : Document) : SnapshotState sampleSnapshots :=
  [.compact "noyra" sampleInput, .advance 0 "", .advance 0 "snapshot-archive_1", .advance 0 ""].foldl
    (snapshotMachine sampleSnapshots).step
    ⟨⟨sampleHistory first second, .empty⟩, [], []⟩

lemma sampleCompaction_reachable (first second : Document) :
    (snapshotMachine sampleSnapshots).Reachable (sampleCompaction first second) := by
  unfold sampleCompaction
  exact Machine.reachable_foldl (M := snapshotMachine sampleSnapshots) ⟨rfl, rfl, rfl⟩ _

theorem changed_number_preserved : (sampleCompaction (.int 1) (.int 2)).deleted.length = 2 ∧
    Preserved (sampleCompaction (.int 1) (.int 2)) "noyra" := by
  refine ⟨by decide +kernel, (compaction_preserves_iff (sampleCompaction_reachable (.int 1) (.int 2)) "noyra").mpr ?_⟩
  have hlossless : ∀ p ∈ (sampleCompaction (.int 1) (.int 2)).published, LosslessBatch p.rows := by decide +kernel
  exact fun p hp _ => hlossless p hp

/-- The delta from `1` to `true` is empty, and the archive no longer verifies. -/
theorem truth_value_lost :
    ¬∀ (cfg : SnapshotConfig) (s : SnapshotState cfg), (snapshotMachine cfg).Reachable s →
    ∀ subjectId, Preserved s subjectId := by
  intro h
  have hreach := sampleCompaction_reachable (.int 1) (.bool true)
  obtain ⟨⟨n, hverify⟩, -⟩ := h sampleSnapshots _ hreach "noyra"
  have hlost : ∃ p ∈ (sampleCompaction (.int 1) (.bool true)).published, p.subjectId = "noyra" ∧
      ¬LosslessBatch p.rows := by
    decide +kernel
  obtain ⟨p, hp, hsubject, hlossy⟩ := hlost
  exact hlossy ((Books.reachable hreach).lossless hverify hp hsubject)

end Noyra.Core.Snapshots.Proofs
