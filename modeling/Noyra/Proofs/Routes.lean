import Noyra.Model.Routes

/-!
# Reading routes back

A key splits at the colons. The pool marker occurs in a physical key only where `_route_prefix` puts it, so the logical
key before it and the route after it are read back. A requested key is taken for another one only where it is itself
the head of a routed key.
-/

namespace Noyra.Model.Proofs
open Noyra.Lib

variable {pool : CognitivePool} {group key : RouteId} {selection : Nat}

lemma isPrefixOf_iff {a b : Text} : a.isPrefixOf b = true ↔ a <+: b := List.isPrefixOf_iff_prefix

/-- A segment that is followed by a colon on both sides is the same one. -/
lemma segment_inj {a w x y : Text} (ha : ':' ∉ a) (hw : ':' ∉ w) (h : a ++ ':' :: x <+: w ++ ':' :: y) :
    a = w ∧ x <+: y := by
  induction a generalizing w with
  | nil =>
    cases w with
    | nil => exact ⟨rfl, (List.cons_prefix_cons.mp h).2⟩
    | cons c w =>
      have hc := (List.cons_prefix_cons.mp h).1
      exact absurd (hc ▸ List.mem_cons_self) hw
  | cons c a ih =>
    cases w with
    | nil =>
      have hc := (List.cons_prefix_cons.mp h).1
      exact absurd (hc ▸ List.mem_cons_self) ha
    | cons d w =>
      obtain ⟨hc, hrest⟩ := List.cons_prefix_cons.mp h
      obtain ⟨haw, hxy⟩ := ih (fun hm => ha (List.mem_cons_of_mem c hm)) (fun hm => hw (List.mem_cons_of_mem d hm))
          hrest
      exact ⟨by rw [hc, haw], hxy⟩

lemma colon_mem_of_begins {a x w : Text} (h : a ++ ':' :: x <+: w) : ':' ∈ w :=
  h.subset (List.mem_append_right _ List.mem_cons_self)

lemma rpartition_cons {marker text : Text} {c : Char} (h : rpartition marker text = none)
    (hp : ¬marker <+: c :: text) : rpartition marker (c :: text) = none := by
  unfold rpartition
  rw [h]
  simp only [isPrefixOf_iff, if_neg hp]

/-- A marker that starts with a colon does not start inside a segment. -/
lemma rpartition_segment {m w text : Text} (hw : ':' ∉ w) (h : rpartition (':' :: m) text = none) :
    rpartition (':' :: m) (w ++ text) = none := by
  induction w with
  | nil => exact h
  | cons c w ih =>
    refine rpartition_cons (ih (fun hm => hw (List.mem_cons_of_mem c hm))) ?_
    intro hp
    have hc := (List.cons_prefix_cons.mp hp).1
    exact hw (hc ▸ List.mem_cons_self)

lemma rpartition_colon {m text : Text} (h : rpartition (':' :: m) text = none) (hp : ¬m <+: text) :
    rpartition (':' :: m) (':' :: text) = none :=
  rpartition_cons h (fun hm => hp (List.cons_prefix_cons.mp hm).2)

lemma rpartition_append {marker text : Text} {p : Text × Text} (h : rpartition marker text = some p) (head : Text) :
    rpartition marker (head ++ text) = some (head ++ p.1, p.2) := by
  induction head with
  | nil => exact h
  | cons c head ih =>
    change rpartition marker (c :: (head ++ text)) = _
    unfold rpartition
    rw [ih]
    rfl

/-- The last occurrence is the one after which there is no other. -/
lemma rpartition_marker {m text : Text} {c : Char} (head : Text) (h : rpartition (c :: m) (m ++ text) = none) :
    rpartition (c :: m) (head ++ (c :: m ++ text)) = some (head, text) := by
  have hbegins : c :: m <+: c :: (m ++ text) := List.prefix_append (c :: m) text
  have hlast : rpartition (c :: m) (c :: (m ++ text)) = some ([], text) := by
    unfold rpartition
    rw [h]
    simp only [isPrefixOf_iff, if_pos hbegins]
    simp
  have happ := rpartition_append hlast head
  rw [List.append_nil] at happ
  exact happ

lemma partition_cons {marker text : Text} {c : Char} (hp : ¬marker <+: c :: text) :
    partition marker (c :: text) = (partition marker text).map (fun p => (c :: p.1, p.2)) := by
  conv => lhs; unfold partition
  simp only [isPrefixOf_iff, if_neg hp]

lemma partition_segment {m w text : Text} (hw : ':' ∉ w) :
    partition (':' :: m) (w ++ text) = (partition (':' :: m) text).map (fun p => (w ++ p.1, p.2)) := by
  induction w with
  | nil => simp
  | cons c w ih =>
    have hp : ¬ ':' :: m <+: c :: (w ++ text) := by
      intro hp
      have hc := (List.cons_prefix_cons.mp hp).1
      exact hw (hc ▸ List.mem_cons_self)
    change partition (':' :: m) (c :: (w ++ text)) = _
    rw [partition_cons hp, ih (fun hm => hw (List.mem_cons_of_mem c hm)), Option.map_map]
    rfl

lemma partition_marker {m text : Text} {c : Char} : partition (c :: m) (c :: (m ++ text)) = some ([], text) := by
  have hbegins : c :: m <+: c :: (m ++ text) := List.prefix_append (c :: m) text
  unfold partition
  simp only [isPrefixOf_iff, if_pos hbegins]
  simp

def poolWord : Text := "pool".toList
def groupWord : Text := "group".toList
def keyWord : Text := "key".toList
def selectionWord : Text := "selection".toList

/-- The pool marker after its first colon. -/
def markerTail (pool : CognitivePool) : Text := poolWord ++ ':' :: (pool.text ++ ':' :: (groupWord ++ [':']))

lemma poolMarker_eq (pool : CognitivePool) : poolMarker pool = ':' :: markerTail pool := by
  cases pool <;> rfl

lemma routeSuffix_eq : routeSuffix group key selection =
    group.text ++ ':' ::
      (keyWord ++ ':' :: (key.text ++ ':' :: (selectionWord ++ ':' :: Nat.toDigits 10 selection))) := by
  have hkey : ":key:".toList = ':' :: (keyWord ++ [':']) := rfl
  have hselection : ":selection:".toList = ':' :: (selectionWord ++ [':']) := rfl
  unfold routeSuffix
  rw [hkey, hselection]
  simp only [List.append_assoc, List.cons_append, List.nil_append]

lemma colon_not_mem_digits (n : Nat) : ':' ∉ Nat.toDigits 10 n := by
  intro h
  exact absurd (Nat.isDigit_of_mem_toDigits (by decide) (by decide) h) (by decide)

lemma not_marker_of_first {w text : Text} (hw : ':' ∉ w) (hne : w ≠ poolWord) :
    ¬markerTail pool <+: w ++ ':' :: text := by
  intro h
  exact hne (segment_inj (by decide) hw h).1.symm

lemma not_marker_of_second {w w' text : Text} (hw : ':' ∉ w) (hw' : ':' ∉ w') (hne : w' ≠ pool.text) :
    ¬markerTail pool <+: w ++ ':' :: (w' ++ ':' :: text) := by
  intro h
  have hpool : ':' ∉ pool.text := by cases pool <;> decide
  exact hne (segment_inj hpool hw' (segment_inj (by decide) hw h).2).1.symm

/-- The marker does not occur after its first character. -/
lemma marker_last : rpartition (':' :: markerTail pool) (markerTail pool ++ routeSuffix group key selection) =
    none := by
  have hpool : ':' ∉ pool.text := by cases pool <;> decide
  have hword : pool.text ≠ poolWord := by cases pool <;> decide
  have hkey : keyWord ≠ pool.text := by cases pool <;> decide
  have hselection : selectionWord ≠ pool.text := by cases pool <;> decide
  have hdigits := colon_not_mem_digits selection
  have htext : markerTail pool ++ routeSuffix group key selection = poolWord ++ ':' ::
      (pool.text ++ ':' :: (groupWord ++ ':' ::
      (group.text ++ ':' ::
        (keyWord ++ ':' :: (key.text ++ ':' :: (selectionWord ++ ':' :: (Nat.toDigits 10 selection ++ []))))))) := by
    simp only [markerTail, routeSuffix_eq, List.append_assoc, List.cons_append, List.nil_append, List.append_nil]
  rw [htext]
  -- from the right, segment by segment and colon by colon
  apply rpartition_segment (by decide)
  apply rpartition_colon
  · apply rpartition_segment hpool
    apply rpartition_colon
    · apply rpartition_segment (by decide)
      apply rpartition_colon
      · apply rpartition_segment group.delimiterFree
        apply rpartition_colon
        · apply rpartition_segment (by decide)
          apply rpartition_colon
          · apply rpartition_segment key.delimiterFree
            apply rpartition_colon
            · apply rpartition_segment (by decide)
              apply rpartition_colon
              · apply rpartition_segment hdigits
                rfl
              · intro h
                rw [List.append_nil] at h
                exact hdigits (colon_mem_of_begins h)
            · exact not_marker_of_first (by decide) (by decide)
          · exact not_marker_of_second key.delimiterFree (by decide) hselection
        · exact not_marker_of_first (by decide) (by decide)
      · exact not_marker_of_second group.delimiterFree (by decide) hkey
    · exact not_marker_of_first (by decide) (by decide)
  · exact not_marker_of_first hpool hword

lemma physicalKey_eq (k : Text) : physicalKey k pool group key selection =
    routeHead k ++ (':' :: markerTail pool ++ routeSuffix group key selection) := by
  rw [physicalKey, routePrefix, poolMarker_eq, List.append_assoc]

lemma rpartition_physical (k : Text) : rpartition (poolMarker pool) (physicalKey k pool group key selection) =
    some (routeHead k, routeSuffix group key selection) := by
  rw [physicalKey_eq, poolMarker_eq]
  exact rpartition_marker _ marker_last

/-- The first marker is the last one: the colon of the version is not followed by the pool. -/
lemma partition_physical (k : Text) : partition (poolMarker pool) (physicalKey k pool group key selection) =
    some (routeHead k, routeSuffix group key selection) := by
  have hhead : routeHead k = "noyra-route-v2".toList ++ ':' :: Base64.encode (utf8Encode k) := by
    have hversion : routeVersion = "noyra-route-v2".toList ++ [':'] := rfl
    rw [routeHead, hversion, List.append_assoc]
    rfl
  have hencoded := Base64.colon_not_mem_encode (utf8Encode k)
  have hskip : ¬ ':' :: markerTail pool <+:
      ':' :: (Base64.encode (utf8Encode k) ++ (':' :: (markerTail pool ++ routeSuffix group key selection))) := by
    intro h
    have htail := (List.cons_prefix_cons.mp h).2
    have hne : poolWord ≠ pool.text := by cases pool <;> decide
    have htext : markerTail pool ++ routeSuffix group key selection =
        poolWord ++ ':' :: (pool.text ++ ':' :: (groupWord ++ ':' :: routeSuffix group key selection)) := by
      simp only [markerTail, List.append_assoc, List.cons_append, List.nil_append]
    rw [htext] at htail
    exact not_marker_of_second hencoded (by decide) hne htail
  rw [physicalKey_eq, poolMarker_eq, hhead, List.append_assoc, partition_segment (by decide), List.cons_append,
    List.cons_append, partition_cons hskip, partition_segment hencoded, partition_marker]
  simp only [Option.map_some, List.append_nil]

lemma parseRouteSuffix_suffix : parseRouteSuffix (routeSuffix group key selection) = some (group.text, key.text) := by
  have hkey : partition ":key:".toList (routeSuffix group key selection) =
      some (group.text, key.text ++ ':' :: (selectionWord ++ ':' :: Nat.toDigits 10 selection)) := by
    have hmarker : ":key:".toList = ':' :: (keyWord ++ [':']) := rfl
    have htext : routeSuffix group key selection = group.text ++ (':' :: ((keyWord ++ [':']) ++
        (key.text ++ ':' :: (selectionWord ++ ':' :: Nat.toDigits 10 selection)))) := by
      simp only [routeSuffix_eq, List.append_assoc, List.cons_append, List.nil_append]
    rw [hmarker, htext, partition_segment group.delimiterFree, partition_marker, Option.map_some, List.append_nil]
  have hselection : rpartition ":selection:".toList
      (key.text ++ ':' :: (selectionWord ++ ':' :: Nat.toDigits 10 selection)) =
      some (key.text, Nat.toDigits 10 selection) := by
    have hmarker : ":selection:".toList = ':' :: (selectionWord ++ [':']) := rfl
    have hdigits := colon_not_mem_digits selection
    have htext : key.text ++ ':' :: (selectionWord ++ ':' :: Nat.toDigits 10 selection) =
        key.text ++ (':' :: (selectionWord ++ [':']) ++ Nat.toDigits 10 selection) := by
      simp only [List.append_assoc, List.cons_append, List.nil_append]
    have hlast : rpartition (':' :: (selectionWord ++ [':'])) ((selectionWord ++ [':']) ++ Nat.toDigits 10 selection) =
        none := by
      have hsplit : (selectionWord ++ [':']) ++ Nat.toDigits 10 selection =
          selectionWord ++ ':' :: (Nat.toDigits 10 selection ++ []) := by
        simp only [List.append_assoc, List.cons_append, List.nil_append, List.append_nil]
      rw [hsplit]
      apply rpartition_segment (by decide)
      apply rpartition_colon
      · apply rpartition_segment hdigits
        rfl
      · intro h
        rw [List.append_nil] at h
        exact hdigits (colon_mem_of_begins h)
    rw [hmarker, htext]
    exact rpartition_marker _ hlast
  have hisDigits : isDigits (Nat.toDigits 10 selection) = true := by
    unfold isDigits
    rw [Bool.and_eq_true, decide_eq_true_eq, List.all_eq_true]
    exact ⟨Nat.toDigits_ne_nil, fun c hc => Nat.isDigit_of_mem_toDigits (by decide) (by decide) hc⟩
  unfold parseRouteSuffix
  rw [hkey]
  simp only [if_neg group.nonempty, hselection, hisDigits]
  rw [if_neg (by simpa using key.nonempty)]

/-- The logical key of a physical one. -/
lemma logicalKey_physical (k : Text) : logicalKeyFromRoute (physicalKey k pool group key selection) pool = .ok k := by
  have hbegins : routeVersion.isPrefixOf (routeHead k) = true := isPrefixOf_iff.mpr (List.prefix_append _ _)
  have hdrop : (routeHead k).drop routeVersion.length = Base64.encode (utf8Encode k) := List.drop_left
  unfold logicalKeyFromRoute
  rw [rpartition_physical]
  simp only [hbegins, if_true, hdrop, Base64.decode_encode, Option.bind_some, utf8Decode_utf8Encode, orRaise_some,
    ok_bind]
  rw [raiseIf_neg (by simp), ok_bind]

/-- The current format is recognised for the key it was built from. -/
lemma routePrefix_prefix_iff {k k' : Text} :
    routePrefix k' pool <+: physicalKey k pool group key selection ↔ k' = k := by
  constructor
  · intro h
    rw [physicalKey_eq, routePrefix, poolMarker_eq, routeHead, routeHead, List.append_assoc, List.append_assoc] at h
    have hrest := (List.prefix_append_right_inj _).mp h
    have hencoded := (segment_inj (Base64.colon_not_mem_encode _) (Base64.colon_not_mem_encode _) hrest).1
    exact utf8Encode_inj (Base64.encode_inj hencoded)
  · rintro rfl
    exact List.prefix_append _ _

lemma routeHead_ne (k : Text) : routeHead k ≠ k := by
  intro h
  have hlength := congrArg List.length h
  have hencoded := Base64.length_le_encode (utf8Encode k)
  have hbytes := length_le_utf8Encode k
  have hversion : routeVersion.length = 15 := by decide
  rw [routeHead, List.length_append] at hlength
  omega

lemma routeMetadata_same (k : Text) : routeMetadata (physicalKey k pool group key selection) k pool =
    (true, some (group.text, key.text)) := by
  have hbegins : routePrefix k pool <+: physicalKey k pool group key selection := routePrefix_prefix_iff.mpr rfl
  have hdrop : (physicalKey k pool group key selection).drop (routePrefix k pool).length =
      routeSuffix group key selection :=
    List.drop_left
  unfold routeMetadata
  simp only [if_pos (isPrefixOf_iff.mpr hbegins), hdrop, parseRouteSuffix_suffix]

/-- A key that is the head of a routed one reads its route, in the legacy format. -/
lemma routeMetadata_head (k : Text) : routeMetadata (physicalKey k pool group key selection) (routeHead k) pool =
    (true, some (group.text, key.text)) := by
  have hbegins : ¬(routePrefix (routeHead k) pool).isPrefixOf (physicalKey k pool group key selection) = true := by
    rw [isPrefixOf_iff, routePrefix_prefix_iff]
    exact routeHead_ne k
  have hlegacy : (legacyRoutePrefix (routeHead k) pool).isPrefixOf (physicalKey k pool group key selection) = true :=
    isPrefixOf_iff.mpr (List.prefix_append _ _)
  unfold routeMetadata
  simp only [if_neg hbegins, rpartition_physical, partition_physical, parseRouteSuffix_suffix, hlegacy]
  simp

/-- A route is read for the key it was built from and for its head only. -/
lemma routeMetadata_some {k k' : Text} {metadata : Text × Text}
    (h : routeMetadata (physicalKey k pool group key selection) k' pool = (true, some metadata)) :
    k' = k ∨ k' = routeHead k := by
  by_cases hcurrent : routePrefix k' pool <+: physicalKey k pool group key selection
  · exact .inl (routePrefix_prefix_iff.mp hcurrent)
  · have hbegins : ¬(routePrefix k' pool).isPrefixOf (physicalKey k pool group key selection) = true := by
      rw [isPrefixOf_iff]
      exact hcurrent
    unfold routeMetadata at h
    simp only [if_neg hbegins, rpartition_physical, partition_physical, parseRouteSuffix_suffix] at h
    by_cases hlegacy : (legacyRoutePrefix k' pool).isPrefixOf (physicalKey k pool group key selection) = false
    · rw [if_pos hlegacy] at h
      cases h
    · rw [if_neg hlegacy] at h
      by_cases hhead : routeHead k = k'
      · exact .inr hhead.symm
      · rw [if_pos (.inl hhead)] at h
        cases h

/-- The routes of one logical request are its own: its key is read back, and another request does not read them. -/
structure Unambiguous (k k' : Text) (pool : CognitivePool) (group key : RouteId) (selection : Nat) : Prop where
  logical : logicalKeyFromRoute (physicalKey k pool group key selection) pool = .ok k
  route : routeMetadata (physicalKey k pool group key selection) k' pool = (true, some (group.text, key.text)) ↔ k' = k
  recovered : ∀ rows subjectId purpose r, recoverExisting rows subjectId purpose pool k' = some r →
    r.idempotencyKey = physicalKey k pool group key selection → k' = k

lemma recovered_route {rows : List CallRow} {subjectId purpose k' : Text} {r : CallRow}
    (h : recoverExisting rows subjectId purpose pool k' = some r) :
    ∃ metadata, routeMetadata r.idempotencyKey k' pool = (true, some metadata) := by
  have hfound := List.find?_some h
  rcases hroute : routeMetadata r.idempotencyKey k' pool with ⟨matched, metadata⟩
  simp only [hroute, Bool.and_eq_true] at hfound
  obtain ⟨hmatched, hsome⟩ := hfound
  obtain ⟨m, rfl⟩ := Option.isSome_iff_exists.mp hsome
  rw [hmatched]
  exact ⟨m, rfl⟩

/-- Two requests are kept apart unless the second key is the head of the routed key of the first. -/
theorem routes_unambiguous_iff (k k' : Text) (pool : CognitivePool) (group key : RouteId) (selection : Nat) :
    Unambiguous k k' pool group key selection ↔ k' ≠ routeHead k := by
  constructor
  · rintro ⟨-, hroute, -⟩ rfl
    exact routeHead_ne k (hroute.mp (routeMetadata_head k))
  · intro hne
    refine ⟨logicalKey_physical k, ⟨?_, ?_⟩, ?_⟩
    · intro h
      exact (routeMetadata_some h).resolve_right hne
    · rintro rfl
      exact routeMetadata_same k'
    · intro rows subjectId purpose r hr hkey
      obtain ⟨metadata, hmetadata⟩ := recovered_route hr
      rw [hkey] at hmetadata
      exact (routeMetadata_some hmetadata).resolve_right hne

def sampleGroup : RouteId := ⟨"cgroup_1".toList, by decide, by decide⟩

def sampleKey : RouteId := ⟨"ckey_1".toList, by decide, by decide⟩

/-- The head of the routed key of `a`. -/
def disguisedKey : Text := "noyra-route-v2:YQ==".toList

/-- The call that answered `a`. -/
def answeredCall : CallRow :=
  ⟨1, "subject_1".toList, "world_cognition:1".toList, .deep,
    "noyra-route-v2:YQ==:pool:deep:group:cgroup_1:key:ckey_1:selection:0".toList,
    .succeeded, "2026-01-01T00:00:00.000+00:00".toList⟩

/-- The request `noyra-route-v2:YQ==` is answered with the response of the request `a`. -/
theorem disguised_key_reads_other :
    answeredCall.idempotencyKey = physicalKey ['a'] .deep sampleGroup sampleKey 0 ∧
      recoverExisting [answeredCall] "subject_1".toList "world_cognition:1".toList .deep disguisedKey =
        some answeredCall ∧
      ¬Unambiguous ['a'] disguisedKey .deep sampleGroup sampleKey 0 := by
  have hkey : answeredCall.idempotencyKey = physicalKey ['a'] .deep sampleGroup sampleKey 0 := by decide
  have hrecovered : recoverExisting [answeredCall] "subject_1".toList "world_cognition:1".toList .deep disguisedKey =
      some answeredCall := by decide
  refine ⟨hkey, hrecovered, ?_⟩
  rintro ⟨-, -, h⟩
  exact absurd (h _ _ _ _ hrecovered hkey) (by decide)

end Noyra.Model.Proofs
