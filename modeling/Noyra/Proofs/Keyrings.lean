import Mathlib.Tactic.Lemma
import Mathlib.Data.List.Chain
import Noyra.Archive.Keyring

/-!
# Keyrings and the segments they decrypt

An accepted configuration holds the key of every committed segment, and recorded generations and
fingerprints never go back. The check does not look at staged manifests nor at the calls that still stage
them; their keys stay available in the runs that drop a key after its last use only and archive under a new
one after the calls that lack it have ended.
-/

namespace Noyra.Archive.Proofs
open Noyra.Lib

variable {cfg : KeyConfig} {s s' : KeyState cfg} {db db' : KeyTables} {k : Keyring cfg.sha256}

/-- The configuration has this key under this fingerprint. -/
def Holds (k : Keyring cfg.sha256) (keyId fingerprint : String) : Prop :=
  ∃ m ∈ k.keys, m.keyId = keyId ∧ m.fingerprint = fingerprint

/-- The recorded revision has this key under this fingerprint. -/
def Records (r : RevisionRow) (keyId fingerprint : String) : Prop :=
  ∃ e ∈ r.entries, e.keyId = keyId ∧ e.fingerprint = fingerprint

lemma get?_eq_some {keyId : String} {m : KeyMaterial} : k.get? keyId = some m ↔ m ∈ k.keys ∧ m.keyId = keyId := by
  unfold Keyring.get?
  constructor
  · intro h
    exact ⟨List.mem_of_find?_eq_some h, by simpa using List.find?_some h⟩
  · rintro ⟨hm, hk⟩
    cases h : k.keys.find? (fun m => decide (m.keyId = keyId)) with
    | none =>
      have := List.find?_eq_none.mp h m hm
      simp [hk] at this
    | some m' =>
      have hm' := List.mem_of_find?_eq_some h
      have hk' : m'.keyId = keyId := by simpa using List.find?_some h
      rw [List.inj_on_of_nodup_map k.nodup hm' hm (hk'.trans hk.symm)]

lemma resolve_of_holds {keyId fingerprint : String} (h : Holds k keyId fingerprint) :
    ∃ m, k.resolve (some keyId) (some fingerprint) = .ok m := by
  obtain ⟨m, hm, hid, hf⟩ := h
  refine ⟨m, ?_⟩
  have hget : k.get? keyId = some m := get?_eq_some.mpr ⟨hm, hid⟩
  simp [Keyring.resolve, hget, hf, raiseIf]

lemma holds_of_resolve {keyId fingerprint : String} {m : KeyMaterial}
    (h : k.resolve (some keyId) (some fingerprint) = .ok m) : Holds k keyId fingerprint := by
  unfold Keyring.resolve at h
  obtain ⟨m', hget, h⟩ := bind_eq_ok.mp h
  obtain ⟨_, hf, h⟩ := bind_eq_ok.mp h
  rw [orRaise_eq_ok] at hget
  rw [raiseIf_eq_ok, not_not] at hf
  exact ⟨m', (get?_eq_some.mp hget).1, (get?_eq_some.mp hget).2, hf⟩

lemma mem_metadata {e : KeyEntry} :
    e ∈ k.metadata ↔ ∃ m ∈ k.keys, (⟨m.keyId, m.fingerprint, m.status⟩ : KeyEntry) = e := by
  unfold Keyring.metadata
  rw [List.mem_map]
  simp only [List.mem_insertionSort]

/-- What a configuration holds is what its revision records. -/
lemma records_revision {subjectId keyId fingerprint : String} :
    Records (k.revision subjectId) keyId fingerprint ↔ Holds k keyId fingerprint := by
  constructor
  · rintro ⟨e, he, hid, hf⟩
    obtain ⟨m, hm, rfl⟩ := mem_metadata.mp he
    exact ⟨m, hm, hid, hf⟩
  · rintro ⟨m, hm, hid, hf⟩
    exact ⟨_, mem_metadata.mpr ⟨m, hm, rfl⟩, hid, hf⟩

lemma get?_active : ∃ m ∈ k.keys, k.get? k.activeKeyId = some m := by
  have hmem : k.activeKeyId ∈ (k.keys.filter (fun m => m.status = .active)).map KeyMaterial.keyId := by
    rw [k.active]
    exact List.mem_singleton.mpr rfl
  obtain ⟨m, hm, hid⟩ := List.mem_map.mp hmem
  have hk : m ∈ k.keys := (List.mem_filter.mp hm).1
  exact ⟨m, hk, get?_eq_some.mpr ⟨hk, hid⟩⟩

lemma holds_active : Holds k k.activeKeyId k.activeFingerprint := by
  obtain ⟨m, hm, hget⟩ := get?_active (k := k)
  refine ⟨m, hm, (get?_eq_some.mp hget).2, ?_⟩
  unfold Keyring.activeFingerprint
  rw [hget]
  rfl

lemma lookup_append_of_some {l l' : List (String × String)} {a b : String} (h : l.lookup a = some b) :
    (l ++ l').lookup a = some b := by
  rw [List.lookup_append, h]
  rfl

/-- The loop over the entries of a revision keeps what it knows and learns every entry. -/
lemma collectEntries_spec {known known' : List (String × String)} {entries : List KeyEntry}
    (h : collectEntries known entries = .ok known') :
    (∀ a b, known.lookup a = some b → known'.lookup a = some b) ∧
      ∀ e ∈ entries, known'.lookup e.keyId = some e.fingerprint := by
  induction entries generalizing known with
  | nil =>
    cases h
    exact ⟨fun _ _ hab => hab, fun e he => by cases he⟩
  | cons e entries ih =>
    unfold collectEntries at h
    split at h
    · next fingerprint hl =>
      obtain ⟨_, hf, h⟩ := bind_eq_ok.mp h
      rw [raiseIf_eq_ok, not_not] at hf
      obtain ⟨hkeep, hall⟩ := ih h
      refine ⟨hkeep, ?_⟩
      intro e' he'
      rcases List.mem_cons.mp he' with rfl | he'
      · rw [hkeep _ _ hl, hf]
      · exact hall e' he'
    · next hl =>
      obtain ⟨hkeep, hall⟩ := ih h
      refine ⟨fun a b hab => hkeep a b (lookup_append_of_some hab), ?_⟩
      intro e' he'
      rcases List.mem_cons.mp he' with rfl | he'
      · apply hkeep
        rw [List.lookup_append, hl]
        simp
      · exact hall e' he'

/-- What the loop over the revisions has learnt about the rows it has read. -/
structure Learnt (cfg : KeyConfig) (h : History) (subjectId : String) (rows : List RevisionRow) : Prop where
  valid : ∀ r ∈ rows, validatedRevision cfg r = .ok ()
  states : ∀ r ∈ rows, h.generations.lookup r.generation = some r.state
  fingerprints : ∀ r ∈ rows, ∀ e ∈ r.entries, h.fingerprints.lookup e.keyId = some e.fingerprint
  latestGlobal : h.latestGlobal = rows.getLast?
  latestSubject : h.latestSubject = (rows.filter (fun r => r.subjectId = subjectId)).getLast?

/-- The state of a generation is the one it was first read with. -/
lemma lookup_collected {generations : List (Nat × GenerationState)} {row : RevisionRow}
    (h : ¬(generations.lookup row.generation).any (fun state => state ≠ row.state)) :
    let collected :=
      if (generations.lookup row.generation).isSome then generations
      else generations ++ [(row.generation, row.state)]
    (∀ n state, generations.lookup n = some state → collected.lookup n = some state) ∧
      collected.lookup row.generation = some row.state := by
  intro collected
  cases hl : generations.lookup row.generation with
  | some state =>
    have hc : collected = generations := by simp [collected, hl]
    have hs : state = row.state := by simpa [hl] using h
    rw [hc]
    exact ⟨fun _ _ hn => hn, by rw [hl, hs]⟩
  | none =>
    have hc : collected = generations ++ [(row.generation, row.state)] := by simp [collected, hl]
    rw [hc]
    refine ⟨?_, ?_⟩
    · intro n state hn
      rw [List.lookup_append, hn]
      rfl
    · rw [List.lookup_append, hl]
      simp

lemma collectRevision_learnt {h h' : History} {subjectId : String} {rows : List RevisionRow} {row : RevisionRow}
    (hl : Learnt cfg h subjectId rows) (hc : collectRevision cfg subjectId h row = .ok h') :
    Learnt cfg h' subjectId (rows ++ [row]) := by
  unfold collectRevision at hc
  obtain ⟨_, hvalid, hc⟩ := bind_eq_ok.mp hc
  obtain ⟨_, hstate, hc⟩ := bind_eq_ok.mp hc
  obtain ⟨fingerprints, hf, hc⟩ := bind_eq_ok.mp hc
  cases hc
  obtain ⟨hkeep, hall⟩ := collectEntries_spec hf
  obtain ⟨hstates, hrow⟩ := lookup_collected (raiseIf_eq_ok.mp hstate)
  constructor
  · intro r hr
    rcases List.mem_append.mp hr with hr | hr
    · exact hl.valid r hr
    · rw [List.mem_singleton.mp hr]
      exact hvalid
  · intro r hr
    rcases List.mem_append.mp hr with hr | hr
    · exact hstates _ _ (hl.states r hr)
    · rw [List.mem_singleton.mp hr]
      exact hrow
  · intro r hr e he
    rcases List.mem_append.mp hr with hr | hr
    · exact hkeep _ _ (hl.fingerprints r hr e he)
    · rw [List.mem_singleton.mp hr] at he
      exact hall e he
  · simp
  · by_cases hs : row.subjectId = subjectId
    · simp [hs, List.filter_append]
    · simp [hs, List.filter_append, hl.latestSubject]

lemma foldlM_learnt {h h' : History} {subjectId : String} {before rows : List RevisionRow}
    (hl : Learnt cfg h subjectId before) (hc : rows.foldlM (collectRevision cfg subjectId) h = .ok h') :
    Learnt cfg h' subjectId (before ++ rows) := by
  induction rows generalizing h before with
  | nil =>
    cases hc
    rwa [List.append_nil]
  | cons row rows ih =>
    rw [List.foldlM_cons] at hc
    obtain ⟨h₁, h₁eq, hc⟩ := bind_eq_ok.mp hc
    have := ih (collectRevision_learnt hl h₁eq) hc
    rwa [List.append_assoc] at this

lemma collect_learnt {h : History} {subjectId : String} {revisions : List RevisionRow}
    (hc : collect cfg subjectId revisions = .ok h) : Learnt cfg h subjectId (orderedRevisions revisions) := by
  have hstart : Learnt cfg ⟨[], [], none, none⟩ subjectId [] := by
    refine ⟨?_, ?_, ?_, rfl, rfl⟩
    · intro r hr
      cases hr
    · intro r hr
      cases hr
    · intro r hr
      cases hr
  exact foldlM_learnt hstart hc

lemma mem_orderedRevisions {revisions : List RevisionRow} {r : RevisionRow} :
    r ∈ orderedRevisions revisions ↔ r ∈ revisions := by
  unfold orderedRevisions
  exact List.mem_insertionSort _

instance revisionBefore_total : Std.Total RevisionBefore := ⟨by
  intro a b
  unfold RevisionBefore
  rcases Nat.lt_trichotomy a.generation b.generation with h | h | h
  · exact .inl (.inl h)
  · rcases String.le_total a.subjectId b.subjectId with hs | hs
    · exact .inl (.inr ⟨h, hs⟩)
    · exact .inr (.inr ⟨h.symm, hs⟩)
  · exact .inr (.inl h)⟩

instance revisionBefore_trans : IsTrans RevisionRow RevisionBefore := ⟨by
  intro a b c hab hbc
  unfold RevisionBefore at *
  rcases hab with hab | ⟨hab, hab'⟩ <;> rcases hbc with hbc | ⟨hbc, hbc'⟩
  · exact .inl (Nat.lt_trans hab hbc)
  · exact .inl (hbc ▸ hab)
  · exact .inl (hab ▸ hbc)
  · exact .inr ⟨hab.trans hbc, String.le_trans hab' hbc'⟩⟩

/-- The revisions are read by generation. -/
lemma orderedRevisions_sorted (revisions : List RevisionRow) :
    (orderedRevisions revisions).Pairwise (fun a b => a.generation ≤ b.generation) := by
  have hsorted : (orderedRevisions revisions).Pairwise RevisionBefore := List.pairwise_insertionSort _ _
  refine hsorted.imp ?_
  intro a b hab
  rcases hab with hab | hab
  · exact Nat.le_of_lt hab
  · exact Nat.le_of_eq hab.1

/-- The last of a sorted list is the greatest. -/
lemma le_getLast {rows : List RevisionRow} {last r : RevisionRow}
    (h : rows.Pairwise (fun a b => a.generation ≤ b.generation)) (hl : rows.getLast? = some last) (hr : r ∈ rows) :
    r.generation ≤ last.generation := by
  obtain ⟨before, rfl⟩ := List.getLast?_eq_some_iff.mp hl
  rcases List.mem_append.mp hr with hr | hr
  · exact (List.pairwise_append.mp h).2.2 r hr last (List.mem_singleton.mpr rfl)
  · exact Nat.le_of_eq (congrArg RevisionRow.generation (List.mem_singleton.mp hr))

/-- What an accepted configuration satisfies. -/
structure Accepted (db : KeyTables) (k : Keyring cfg.sha256) : Prop where
  segments : ∀ g ∈ db.staging.segments, ∃ m, k.resolve g.encryptionKeyId g.encryptionKeyFingerprint = .ok m
  fingerprints : ∀ r ∈ db.revisions, ∀ e ∈ r.entries, ∀ e' ∈ k.metadata, e.keyId = e'.keyId →
    e.fingerprint = e'.fingerprint
  generation : ∀ r ∈ db.revisions, r.generation ≤ k.generation
  active : ∀ r ∈ db.revisions, r.generation = k.generation → Records r k.activeKeyId k.activeFingerprint

lemma checkSegment_resolves {h : History} {g : SegmentRow} (hc : checkSegment k h g = .ok ()) :
    ∃ m, k.resolve g.encryptionKeyId g.encryptionKeyFingerprint = .ok m := by
  unfold checkSegment at hc
  split at hc
  · next hid hf =>
    obtain ⟨_, hlegacy, -⟩ := bind_eq_ok.mp hc
    rw [raiseIf_eq_ok] at hlegacy
    rw [hid, hf]
    obtain ⟨keyId, hkey⟩ := Option.ne_none_iff_exists'.mp hlegacy
    obtain ⟨m, hm, hmid⟩ := List.mem_map.mp (k.legacy keyId hkey)
    refine ⟨m, ?_⟩
    simp [Keyring.resolve, hkey, get?_eq_some.mpr ⟨hm, hmid⟩]
  · next keyId fingerprint hid hf =>
    obtain ⟨bound, -, hc⟩ := bind_eq_ok.mp hc
    obtain ⟨_, -, hc⟩ := bind_eq_ok.mp hc
    obtain ⟨m, hm, -⟩ := bind_eq_ok.mp hc
    rw [hid, hf]
    exact ⟨m, hm⟩
  · cases hc

/-- A recorded generation has the state of the configuration, and no newer one is recorded. -/
lemma checkGeneration_spec {h : History} (hc : checkGeneration k h = .ok ()) :
    (∀ state, h.generations.lookup k.generation = some state → state = (k.revision "").state) ∧
      ∀ row, h.latestGlobal = some row → row.generation ≤ k.generation := by
  unfold checkGeneration at hc
  obtain ⟨_, -, hc⟩ := bind_eq_ok.mp hc
  obtain ⟨_, hstate, hc⟩ := bind_eq_ok.mp hc
  obtain ⟨_, hroll, -⟩ := bind_eq_ok.mp hc
  rw [raiseIf_eq_ok] at hstate hroll
  refine ⟨?_, ?_⟩
  · intro state hl
    simpa [hl] using hstate
  · intro row hl
    simpa [hl] using hroll

/-- A validated row has its active key among its entries. -/
lemma validatedRevision_active {row : RevisionRow} (h : validatedRevision cfg row = .ok ()) :
    ∃ e ∈ row.entries, e.keyId = row.activeKeyId := by
  unfold validatedRevision at h
  obtain ⟨_, -, h⟩ := bind_eq_ok.mp h
  obtain ⟨_, -, h⟩ := bind_eq_ok.mp h
  obtain ⟨_, -, h⟩ := bind_eq_ok.mp h
  obtain ⟨_, -, h⟩ := bind_eq_ok.mp h
  obtain ⟨_, hactive, -⟩ := bind_eq_ok.mp h
  rw [raiseIf_eq_ok, not_not] at hactive
  have hmem : row.activeKeyId ∈ (row.entries.filter (fun e => e.status = .active)).map KeyEntry.keyId := by
    rw [hactive]
    exact List.mem_singleton.mpr rfl
  obtain ⟨e, he, hid⟩ := List.mem_map.mp hmem
  exact ⟨e, (List.mem_filter.mp he).1, hid⟩

/-- A key that the configuration gives a recorded identifier is the recorded one. -/
lemma fingerprint_eq {history : History} {subjectId : String}
    (hl : Learnt cfg history subjectId (orderedRevisions db.revisions))
    (hreuse : ¬∃ e ∈ k.metadata,
      (history.fingerprints.lookup e.keyId).any (fun fingerprint => fingerprint ≠ e.fingerprint)) :
    ∀ r ∈ db.revisions, ∀ e ∈ r.entries, ∀ e' ∈ k.metadata, e.keyId = e'.keyId → e.fingerprint = e'.fingerprint := by
  intro r hr e he e' he' hid
  by_contra hne
  apply hreuse
  refine ⟨e', he', ?_⟩
  have hlookup := hl.fingerprints r (mem_orderedRevisions.mpr hr) e he
  rw [← hid, hlookup]
  simpa using hne

/-- The active key of a configuration is recorded with its generation. -/
lemma active_recorded {history : History} {subjectId : String}
    (hl : Learnt cfg history subjectId (orderedRevisions db.revisions))
    (hstate : ∀ state, history.generations.lookup k.generation = some state → state = (k.revision "").state)
    (hfingerprint : ∀ r ∈ db.revisions, ∀ e ∈ r.entries, ∀ e' ∈ k.metadata, e.keyId = e'.keyId →
      e.fingerprint = e'.fingerprint) :
    ∀ r ∈ db.revisions, r.generation = k.generation → Records r k.activeKeyId k.activeFingerprint := by
  intro r hr hgen
  have hr' := mem_orderedRevisions.mpr hr
  have hsame : r.state = (k.revision "").state := hstate _ (hgen ▸ hl.states r hr')
  have hid : r.activeKeyId = k.activeKeyId := congrArg (fun state : GenerationState => state.2.1) hsame
  obtain ⟨e, he, heid⟩ := validatedRevision_active (hl.valid r hr')
  have hactive : Records (k.revision "") k.activeKeyId k.activeFingerprint := records_revision.mpr holds_active
  obtain ⟨e', he', he'id, he'f⟩ := hactive
  refine ⟨e, he, heid.trans hid, ?_⟩
  rw [hfingerprint r hr e he e' he' ((heid.trans hid).trans he'id.symm)]
  exact he'f

lemma validateRevision_accepted {subjectId : String} {b : Bool} (h : validateRevision db k subjectId = .ok b) :
    Accepted db k ∧ (b = true → ∃ r ∈ db.revisions, r.subjectId = subjectId ∧ r.generation = k.generation) := by
  unfold validateRevision at h
  obtain ⟨history, hcollect, h⟩ := bind_eq_ok.mp h
  obtain ⟨_, hgen, h⟩ := bind_eq_ok.mp h
  obtain ⟨_, hreuse, h⟩ := bind_eq_ok.mp h
  obtain ⟨_, hsegments, h⟩ := bind_eq_ok.mp h
  have hl := collect_learnt hcollect
  obtain ⟨hstate, hnewest⟩ := checkGeneration_spec hgen
  have hfingerprint := fingerprint_eq hl (raiseIf_eq_ok.mp hreuse)
  refine ⟨⟨?_, hfingerprint, ?_, active_recorded hl hstate hfingerprint⟩, ?_⟩
  · intro g hg
    exact checkSegment_resolves (of_forM_eq_ok hsegments g hg)
  · intro r hr
    have hr' := mem_orderedRevisions.mpr hr
    cases hlast : (orderedRevisions db.revisions).getLast? with
    | none =>
      rw [List.getLast?_eq_none_iff] at hlast
      rw [hlast] at hr'
      cases hr'
    | some last =>
      have hle := hnewest last (hl.latestGlobal.trans hlast)
      exact Nat.le_trans (le_getLast (orderedRevisions_sorted _) hlast hr') hle
  · intro hb
    rw [hb] at h
    have hidentical := Except.ok.inj h
    rw [hl.latestSubject] at hidentical
    cases hlast : ((orderedRevisions db.revisions).filter (fun r => r.subjectId = subjectId)).getLast? with
    | none => simp [hlast] at hidentical
    | some row =>
      obtain ⟨hmem, hsubject⟩ := List.mem_filter.mp (List.mem_of_getLast? hlast)
      refine ⟨row, mem_orderedRevisions.mp hmem, by simpa using hsubject, ?_⟩
      simpa [hlast] using hidentical

/-- An accepted configuration is already the newest of its subject, or it is recorded under a generation that
the trigger lets in. -/
lemma recordRevision_spec {subjectId : String} (h : recordRevision db k subjectId = .ok db') :
    Accepted db k ∧ ((db' = db ∧ ∃ r ∈ db.revisions, r.subjectId = subjectId ∧ r.generation = k.generation) ∨
      (¬GenerationRefused db.revisions subjectId k.generation ∧
        db' = { db with revisions := db.revisions ++ [k.revision subjectId] })) := by
  unfold recordRevision at h
  obtain ⟨identical, hv, h⟩ := bind_eq_ok.mp h
  obtain ⟨ha, hidentical⟩ := validateRevision_accepted hv
  refine ⟨ha, ?_⟩
  split at h
  · next hb =>
    cases h
    exact .inl ⟨rfl, hidentical hb⟩
  · obtain ⟨_, hg, h⟩ := bind_eq_ok.mp h
    rw [raiseIf_eq_ok] at hg
    cases h
    exact .inr ⟨hg, rfl⟩

/-- Generations are recorded in order and without a gap, and each subject goes forward; it may skip the
generations that only others have. -/
structure Contiguous (revisions : List RevisionRow) : Prop where
  rising : revisions.Pairwise (fun a b => a.generation ≤ b.generation)
  gapless : revisions.IsChain (fun a b => b.generation ≤ a.generation + 1)
  forward : revisions.Pairwise (fun a b => a.subjectId = b.subjectId → a.generation < b.generation)

lemma generation_le_max {revisions : List RevisionRow} {r : RevisionRow} (hr : r ∈ revisions) :
    ∃ newest, (generations revisions).max? = some newest ∧ r.generation ≤ newest := by
  have hmem : r.generation ∈ generations revisions := List.mem_map.mpr ⟨r, hr, rfl⟩
  obtain ⟨newest, hnewest⟩ := Option.isSome_iff_exists.mp (List.isSome_max?_of_mem hmem)
  exact ⟨newest, hnewest, (List.max?_eq_some_iff.mp hnewest).2 _ hmem⟩

/-- What the trigger lets in. -/
lemma not_generationRefused {revisions : List RevisionRow} {subjectId : String} {generation : Nat}
    (h : ¬GenerationRefused revisions subjectId generation) :
    (∀ r ∈ revisions, r.subjectId = subjectId → r.generation < generation) ∧
      ∀ newest, (generations revisions).max? = some newest → generation ≤ newest + 1 := by
  unfold GenerationRefused at h
  rw [not_or, not_or] at h
  obtain ⟨hsubject, hnew, hold⟩ := h
  refine ⟨?_, ?_⟩
  · intro r hr hs
    have hmem : r ∈ revisions.filter (fun r => r.subjectId = subjectId) := List.mem_filter.mpr ⟨hr, by simpa using hs⟩
    obtain ⟨newest, hnewest, hle⟩ := generation_le_max hmem
    rw [hnewest] at hsubject
    have hlt : newest < generation := by simpa using hsubject
    omega
  · intro newest hnewest
    rw [hnewest] at hnew hold
    by_cases hmem : generation ∈ generations revisions
    · have : generation = newest := by simpa [hmem] using hold
      omega
    · have : generation = newest + 1 := by simpa [hmem] using hnew
      omega

lemma contiguous_record {revisions : List RevisionRow} {row : RevisionRow} (h : Contiguous revisions)
    (hle : ∀ r ∈ revisions, r.generation ≤ row.generation)
    (hn : ¬GenerationRefused revisions row.subjectId row.generation) : Contiguous (revisions ++ [row]) := by
  obtain ⟨hforward, hnext⟩ := not_generationRefused hn
  constructor
  · rw [List.pairwise_append]
    refine ⟨h.rising, List.pairwise_singleton _ _, ?_⟩
    intro a ha b hb
    rw [List.mem_singleton.mp hb]
    exact hle a ha
  · rw [List.isChain_append]
    refine ⟨h.gapless, List.isChain_singleton _, ?_⟩
    intro last hlast b hb
    cases hb
    obtain ⟨newest, hnewest, -⟩ := generation_le_max (List.mem_of_getLast? hlast)
    obtain ⟨r, hr, hgen⟩ := List.mem_map.mp (List.max?_mem hnewest)
    have hr' : r.generation ≤ last.generation := le_getLast h.rising hlast hr
    have := hnext newest hnewest
    omega
  · rw [List.pairwise_append]
    refine ⟨h.forward, List.pairwise_singleton _ _, ?_⟩
    intro a ha b hb hs
    rw [List.mem_singleton.mp hb] at hs ⊢
    exact hforward a ha hs

/-! ### The steps of the calls -/

/-- What a step does to the staging tables: live manifests come from live manifests, and a new segment from
a live manifest. -/
structure Drained (t t' : StagingTables) : Prop where
  live : ∀ m' ∈ t'.manifests, m'.Live → ∃ m ∈ t.manifests, m.Live ∧ m.toSegmentInput = m'.toSegmentInput
  segments : ∀ g ∈ t'.segments, g ∈ t.segments ∨ ∃ m ∈ t.manifests, m.Live ∧ g.subjectId = m.subjectId ∧
    g.encryptionKeyId = some m.encryptionKeyId ∧ g.encryptionKeyFingerprint = some m.encryptionKeyFingerprint

lemma Drained.refl (t : StagingTables) : Drained t t :=
  ⟨fun m hm hl => ⟨m, hm, hl, rfl⟩, fun _ hg => .inl hg⟩

/-- A manifest is replaced by one that is live only if it was. -/
lemma drained_replace {t : StagingTables} {m m' : StagingManifest} (hm : m ∈ t.manifests)
    (hid : m'.manifestId = m.manifestId) (hsame : m.toSegmentInput = m'.toSegmentInput) (hlive : m'.Live → m.Live) :
    Drained t { t with manifests := t.manifests.replace m' } := by
  refine ⟨?_, fun g hg => .inl hg⟩
  intro x hx hl
  rcases Table.mem_replace.mp hx with ⟨rfl, -⟩ | ⟨hx, -⟩
  · exact ⟨m, hm, hlive hl, hsame⟩
  · exact ⟨x, hx, hl, rfl⟩

lemma markStored_drained {t t' : StagingTables} {manifestId size : Nat} {hash : String} {now : Nat}
    (h : markStored t manifestId size hash now = .ok t') : Drained t t' := by
  unfold markStored at h
  obtain ⟨m, hm, h⟩ := bind_eq_ok.mp h
  obtain ⟨hmem, -⟩ := Table.find?_eq_some.mp (orRaise_eq_ok.mp hm)
  split at h
  · next hprepared =>
    cases h
    exact drained_replace hmem rfl rfl (fun _ => .inl hprepared)
  · obtain ⟨_, -, h⟩ := bind_eq_ok.mp h
    obtain ⟨_, -, h⟩ := bind_eq_ok.mp h
    cases h
    exact Drained.refl t

lemma markAbandoned_drained (t : StagingTables) (manifestId : Nat) (code : String) (now : Nat) :
    Drained t (markAbandoned t manifestId code now).2 := by
  unfold markAbandoned
  split
  · exact Drained.refl t
  · next m hm =>
    split
    · next hlive => exact drained_replace (Table.find?_eq_some.mp hm).1 rfl rfl (fun _ => hlive)
    · exact Drained.refl t

lemma markRemoved_drained (t : StagingTables) (manifestId now : Nat) : Drained t (markRemoved t manifestId now) := by
  unfold markRemoved
  split
  · exact Drained.refl t
  · next m hm =>
    split
    · refine drained_replace (Table.find?_eq_some.mp hm).1 rfl rfl ?_
      intro hl
      simp [StagingManifest.Live, StagingManifest.asRemoved] at hl
    · exact Drained.refl t

lemma publish_drained {t t' : StagingTables} {m : StagingManifest} {now : Nat} (hm : m ∈ t.manifests) (hl : m.Live)
    (h : publish t m now = .ok t') : Drained t t' := by
  unfold publish at h
  obtain ⟨_, -, h⟩ := bind_eq_ok.mp h
  cases h
  refine ⟨?_, ?_⟩
  · intro x hx hlive
    rcases Table.mem_replace.mp hx with ⟨rfl, -⟩ | ⟨hx, -⟩
    · simp [StagingManifest.Live, StagingManifest.asCommitted] at hlive
    · exact ⟨x, hx, hlive, rfl⟩
  · intro g hg
    rcases List.mem_append.mp hg with hg | hg
    · exact .inl hg
    · rw [List.mem_singleton.mp hg]
      exact .inr ⟨m, hm, hl, rfl, rfl, rfl⟩

/-- `prepare` adds at most the manifest of its input. -/
lemma prepare_spec {t t' : StagingTables} {i : SegmentInput} {manifestId now : Nat} {r : Nat}
    (h : prepare t i manifestId now = .ok (r, t')) :
    t'.segments = t.segments ∧ ∀ m ∈ t'.manifests, m ∈ t.manifests ∨ m.toSegmentInput = i := by
  unfold prepare at h
  obtain ⟨_, -, h⟩ := bind_eq_ok.mp h
  split at h
  · obtain ⟨_, -, h⟩ := bind_eq_ok.mp h
    cases h
    exact ⟨rfl, fun m hm => .inl hm⟩
  · obtain ⟨_, -, h⟩ := bind_eq_ok.mp h
    obtain ⟨_, -, h⟩ := bind_eq_ok.mp h
    obtain ⟨manifests, hins, h⟩ := bind_eq_ok.mp h
    cases h
    rw [orRaise_eq_ok, Table.insert?_eq_some] at hins
    refine ⟨rfl, ?_⟩
    intro m hm
    rw [Table.mem_def, hins.2, List.mem_append, List.mem_singleton] at hm
    rcases hm with hm | rfl
    · exact .inl hm
    · exact .inr rfl

/-- The call that is replaying manifests, with what it has still to look at. -/
def replaying : ArchivePhase cfg → Option (ArchiveCall cfg × Pending)
  | .reconciling c pending => some (c, pending)
  | .checking c pending _ => some (c, pending)
  | .storing c (.replay pending) _ _ _ => some (c, pending)
  | .finalizing c (.replay pending) _ => some (c, pending)
  | .publishing c (.replay pending) _ => some (c, pending)
  | .abandoning c (.replay pending) _ _ => some (c, pending)
  | .removing c (.replay pending) _ => some (c, pending)
  | _ => none

/-- The manifests that a call may come to: the event archive selects them one after the other, the observation
archive has selected them. -/
def Ahead (t : StagingTables) (c : ArchiveCall cfg) (m : StagingManifest) : Pending → Prop
  | .after _ _ => m ∈ t.manifests ∧ m.subjectId = c.subjectId ∧ m.archiveKind = c.kind ∧ m.Live
  | .rows rest => m ∈ rest

/-- What is left of what there was to look at. -/
inductive Narrows : Pending → Pending → Prop
  | after {n n' : Nat} {cursor cursor' : Option (Nat × Nat)} : Narrows (.after n cursor) (.after n' cursor')
  | rows {before rest : List StagingManifest} : (∀ m ∈ rest, m ∈ before) → Narrows (.rows before) (.rows rest)

lemma Narrows.refl (pending : Pending) : Narrows pending pending := by
  cases pending with
  | after => exact .after
  | rows => exact .rows (fun _ h => h)

lemma Narrows.ahead {t : StagingTables} {c : ArchiveCall cfg} {m : StagingManifest} {before rest : Pending}
    (h : Narrows before rest) (hm : Ahead t c m rest) : Ahead t c m before := by
  cases h with
  | after => exact hm
  | rows hsub => exact hsub m hm

/-- The call that may still stage a manifest under the active key of its configuration. -/
def archiving (p : ArchivePhase cfg) : Option (ArchiveCall cfg) :=
  match p with
  | .selecting c => some c
  | .preparing c _ _ => some c
  | p => ((replaying p).map Prod.fst).filter ArchiveCall.archives

lemma mem_archiving_reconciling {c c' : ArchiveCall cfg} {pending : Pending} :
    c' ∈ archiving (.reconciling c pending) ↔ c' = c ∧ c.archives = true := by
  simp only [archiving, replaying, Option.map_some, Option.filter_some, Option.mem_def]
  cases hc : c.archives with
  | true => simp [eq_comm]
  | false => simp

/-- The call that still selects manifests one after the other. -/
def selectingNext (p : ArchivePhase cfg) : Option (ArchiveCall cfg) :=
  match replaying p with
  | some (c, .after _ _) => some c
  | _ => none

/-- Raised for want of a key. -/
def KeyMissing : ArchivePhase cfg → Prop
  | .raised (.keyUnavailableError _) => True
  | _ => False

/-- A call goes on with no more to look at, and no more to stage, than before. -/
structure Follows (p p' : ArchivePhase cfg) : Prop where
  replaying : ∀ c q', replaying p' = some (c, q') → ∃ q, replaying p = some (c, q) ∧ Narrows q q'
  archiving : ∀ c ∈ archiving p', c ∈ archiving p
  keys : ¬KeyMissing p'

lemma follows_same {p p' : ArchivePhase cfg} (h : replaying p' = replaying p) (ha : archiving p' = archiving p)
    (hm : ¬KeyMissing p') : Follows p p' :=
  ⟨fun _ q hq => ⟨q, h ▸ hq, .refl q⟩, fun _ hc => ha ▸ hc, hm⟩

lemma follows_none {p p' : ArchivePhase cfg} (h : replaying p' = none) (ha : archiving p' = none)
    (hm : ¬KeyMissing p') : Follows p p' := by
  refine ⟨?_, ?_, hm⟩
  · intro c q hq
    rw [h] at hq
    cases hq
  · intro c hc
    rw [ha] at hc
    cases hc

/-- What a step does. -/
inductive KeyEffect (s : KeyState cfg) : KeyAction cfg → KeyState cfg → Prop
  | stay {a : KeyAction cfg} : KeyEffect s a s
  | record {subjectId : String} {k : Keyring cfg.sha256} {db' : KeyTables} :
      recordRevision s.db k subjectId = .ok db' → KeyEffect s (.recordRevision subjectId k) { s with db := db' }
  | archive {i : Nat} {c : ArchiveCall cfg} {db' : KeyTables} : c.archives = true →
      recordRevision s.db c.keyring c.subjectId = .ok db' →
      KeyEffect s (.call i c) { s.goto i (.reconciling c (.start db'.staging c)) with db := db' }
  | reconcile {i : Nat} {c : ArchiveCall cfg} : c.archives = false →
      KeyEffect s (.call i c) (s.goto i (.reconciling c (.start s.db.staging c)))
  | leave {a : KeyAction cfg} {i : Nat} {p' : ArchivePhase cfg} : replaying p' = none → archiving p' = none →
      ¬KeyMissing p' → KeyEffect s a (s.goto i p')
  | work {a : KeyAction cfg} {i n : Nat} {p p' : ArchivePhase cfg} {t : StagingTables} : s.phases[i]? = some p →
      Drained s.db.staging t → Follows p p' → KeyEffect s a { (s.withStaging t).goto i p' with nextId := n }
  | missing {a : KeyAction cfg} {i : Nat} {c : ArchiveCall cfg} {pending rest : Pending} {m : StagingManifest}
      {e : ArchiveError} : s.phases[i]? = some (.reconciling c pending) →
      pending.next s.db.staging c = some (m, rest) →
      c.keyring.resolve (some m.encryptionKeyId) (some m.encryptionKeyFingerprint) = .error e →
      KeyEffect s a (s.goto i (.raised e))
  | stage {i r segmentId : Nat} {x : ArchiveReading} {c : ArchiveCall cfg} {selected : SegmentInput}
      {t : StagingTables} : s.phases[i]? = some (.preparing c selected segmentId) →
      prepare s.db.staging (stagedInput c selected segmentId) s.nextId x.now = .ok (r, t) →
      KeyEffect s (.advance i x) { (s.withStaging t).goto i (.putting c r) with nextId := s.nextId + 1 }

/-- A step that leaves the tables alone. -/
lemma effect_follow {a : KeyAction cfg} {i : Nat} {p p' : ArchivePhase cfg} (hp : s.phases[i]? = some p)
    (hf : Follows p p') : KeyEffect s a (s.goto i p') :=
  .work hp (Drained.refl _) hf

lemma effect_tables {a : KeyAction cfg} {i : Nat} {p p' : ArchivePhase cfg} {t : StagingTables}
    (hp : s.phases[i]? = some p) (hd : Drained s.db.staging t) (hf : Follows p p') :
    KeyEffect s a ((s.withStaging t).goto i p') :=
  .work hp hd hf

/-- The call keeps what it replays and stages while it settles a manifest of this origin. -/
def Continues (p : ArchivePhase cfg) (c : ArchiveCall cfg) (origin : Origin) : Prop :=
  ∀ pending, origin = .replay pending →
    replaying p = some (c, pending) ∧ archiving p = (some c).filter ArchiveCall.archives

/-- After settling a manifest a replay goes on and the call that staged it ends. -/
lemma effect_resume {a : KeyAction cfg} {i : Nat} {p own : ArchivePhase cfg} {c : ArchiveCall cfg} {origin : Origin}
    {t : StagingTables} (hp : s.phases[i]? = some p) (hd : Drained s.db.staging t) (ho : Continues p c origin)
    (hown : Follows p own) : KeyEffect s a ((s.withStaging t).resume i c own origin) := by
  cases origin with
  | replay pending =>
    obtain ⟨hr, ha⟩ := ho pending rfl
    exact effect_tables hp hd (follows_same hr.symm ha.symm id)
  | own => exact effect_tables hp hd hown

/-- What the staging ledger raises is not about keys. -/
lemma prepare_error {t : StagingTables} {i : SegmentInput} {manifestId now : Nat} {e : ArchiveError}
    (h : prepare t i manifestId now = .error e) : ¬KeyMissing (ArchivePhase.raised e : ArchivePhase cfg) := by
  intro hk
  unfold prepare raiseIf orRaise at h
  cases e with
  | keyUnavailableError message =>
    split at h
    · simp at h
    · simp only [ok_bind] at h
      split at h
      · split at h <;> simp at h
      · split at h
        · simp at h
        · split at h
          · simp at h
          · split at h <;> simp at h
  | _ => exact hk

lemma markStored_error {t : StagingTables} {manifestId size : Nat} {hash : String} {now : Nat} {e : ArchiveError}
    (h : markStored t manifestId size hash now = .error e) :
    ¬KeyMissing (ArchivePhase.raised e : ArchivePhase cfg) := by
  intro hk
  unfold markStored raiseIf orRaise at h
  cases e with
  | keyUnavailableError message =>
    split at h
    · simp only [ok_bind] at h
      split at h
      · simp at h
      · split at h
        · simp at h
        · simp only [ok_bind] at h
          split at h <;> simp at h
    · simp at h
  | _ => exact hk

lemma publish_error {t : StagingTables} {m : StagingManifest} {now : Nat} {e : ArchiveError}
    (h : publish t m now = .error e) : ¬KeyMissing (ArchivePhase.raised e : ArchivePhase cfg) := by
  intro hk
  unfold publish raiseIf at h
  cases e with
  | keyUnavailableError message => split at h <;> simp at h
  | _ => exact hk

lemma objectError_ne (e : ObjectError) : ¬KeyMissing (ArchivePhase.raised e.error : ArchivePhase cfg) := by
  cases e <;> exact id

/-- The next manifest was ahead, and nothing comes to what is ahead. -/
lemma next_ahead {t : StagingTables} {c : ArchiveCall cfg} {pending rest : Pending} {m : StagingManifest}
    (h : pending.next t c = some (m, rest)) : Ahead t c m pending ∧ Narrows pending rest := by
  cases pending with
  | after examined cursor =>
    simp only [Pending.next] at h
    split at h
    · rw [Option.map_eq_some_iff] at h
      obtain ⟨m', hfind, he⟩ := h
      cases he
      have hmem := List.mem_of_find?_eq_some hfind
      unfold liveManifests at hmem
      rw [List.mem_insertionSort, List.mem_filter] at hmem
      simp only [Bool.and_eq_true, decide_eq_true_eq] at hmem
      exact ⟨⟨hmem.1, hmem.2.1.1, hmem.2.1.2, hmem.2.2⟩, .after⟩
    · cases h
  | rows rest' =>
    cases rest' with
    | nil => cases h
    | cons m' rest' =>
      cases h
      exact ⟨List.mem_cons_self, .rows (fun x hx => List.mem_cons_of_mem _ hx)⟩

lemma effect_examineNext {i : Nat} {x : ArchiveReading} {c : ArchiveCall cfg} {pending : Pending}
    (hp : s.phases[i]? = some (.reconciling c pending)) :
    KeyEffect s (.advance i x) (examineNext s i c pending) := by
  unfold examineNext
  split
  · split
    · next harchives =>
      refine effect_follow hp ⟨?_, ?_, id⟩
      · intro c' q hq
        cases hq
      · intro c' hc
        cases hc
        exact mem_archiving_reconciling.mpr ⟨rfl, harchives⟩
    · exact effect_follow hp (follows_none rfl rfl id)
  · next m rest hnext =>
    split
    · refine effect_follow hp ⟨?_, fun _ hc => hc, id⟩
      intro c' q hq
      cases hq
      exact ⟨pending, rfl, (next_ahead hnext).2⟩
    · next e he => exact .missing hp hnext he

lemma effect_checkObject {i : Nat} {x : ArchiveReading} {c : ArchiveCall cfg} {pending : Pending}
    {m : StagingManifest} (hp : s.phases[i]? = some (.checking c pending m)) :
    KeyEffect s (.advance i x) (checkObject s i c pending m x) := by
  unfold checkObject
  split
  · next e _ =>
    split
    · exact effect_follow hp (follows_same rfl rfl id)
    · exact effect_follow hp (follows_none rfl rfl (objectError_ne e))
  · split
    · exact effect_follow hp (follows_same rfl rfl id)
    · split
      · exact effect_follow hp (follows_same rfl rfl id)
      · exact effect_follow hp (follows_same rfl rfl id)

lemma effect_store {i : Nat} {x : ArchiveReading} {c : ArchiveCall cfg} {origin : Origin} {m : StagingManifest}
    {size : Nat} {hash : String} (hp : s.phases[i]? = some (.storing c origin m size hash)) :
    KeyEffect s (.advance i x) (store s i c origin m size hash x) := by
  unfold store
  split
  · next t h =>
    refine effect_tables hp (markStored_drained h) (follows_same ?_ ?_ id)
    · cases origin <;> rfl
    · cases origin <;> rfl
  · next e h =>
    cases origin with
    | replay pending => exact effect_follow hp (follows_same rfl rfl id)
    | own => exact effect_follow hp (follows_none rfl rfl (markStored_error h))

lemma effect_readManifest {i manifestId : Nat} {x : ArchiveReading} {c : ArchiveCall cfg} {origin : Origin}
    (hp : s.phases[i]? = some (.finalizing c origin manifestId)) :
    KeyEffect s (.advance i x) (readManifest s i c origin manifestId) := by
  have ho : Continues (.finalizing c origin manifestId) c origin := by
    rintro pending rfl
    exact ⟨rfl, rfl⟩
  unfold readManifest
  split
  · exact effect_resume hp (Drained.refl _) ho (follows_none rfl rfl id)
  · split
    · exact effect_resume hp (Drained.refl _) ho (follows_none rfl rfl id)
    · split
      · exact effect_resume hp (Drained.refl _) ho (follows_none rfl rfl id)
      · split
        · exact effect_resume hp (Drained.refl _) ho (follows_none rfl rfl id)
        · refine effect_follow hp (follows_same ?_ ?_ id)
          · cases origin <;> rfl
          · cases origin <;> rfl

lemma effect_finalize {i manifestId : Nat} {x : ArchiveReading} {c : ArchiveCall cfg} {origin : Origin}
    (hp : s.phases[i]? = some (.publishing c origin manifestId)) :
    KeyEffect s (.advance i x) (finalize s i c origin manifestId x) := by
  have ho : Continues (.publishing c origin manifestId) c origin := by
    rintro pending rfl
    exact ⟨rfl, rfl⟩
  unfold finalize
  split
  · exact effect_resume hp (Drained.refl _) ho (follows_none rfl rfl id)
  · next m hm =>
    split
    · exact effect_resume hp (Drained.refl _) ho (follows_none rfl rfl id)
    · next hstored =>
      split
      · refine effect_follow hp (follows_same ?_ ?_ id)
        · cases origin <;> rfl
        · cases origin <;> rfl
      · exact effect_resume hp (Drained.refl _) ho (follows_none rfl rfl id)
      · split
        · next t h =>
          have hlive : m.Live := .inr (not_not.mp hstored)
          have hd : Drained s.db.staging t := publish_drained (Table.find?_eq_some.mp hm).1 hlive h
          exact effect_resume hp hd ho (follows_none rfl rfl id)
        · next e h => exact effect_follow hp (follows_none rfl rfl (publish_error h))

lemma effect_abandon {i manifestId : Nat} {x : ArchiveReading} {c : ArchiveCall cfg} {origin : Origin} {code : String}
    (hp : s.phases[i]? = some (.abandoning c origin manifestId code)) :
    KeyEffect s (.advance i x) (abandon s i c origin manifestId code x) := by
  cases origin with
  | replay pending =>
    simp only [abandon]
    split
    · exact effect_tables hp (markAbandoned_drained _ _ _ _) (follows_same rfl rfl id)
    · exact effect_follow hp (follows_same rfl rfl id)
  | own =>
    simp only [abandon]
    split
    · exact effect_tables hp (markAbandoned_drained _ _ _ _) (follows_same rfl rfl id)
    · split
      · exact effect_follow hp (follows_none rfl rfl id)
      · exact effect_follow hp (follows_none rfl rfl id)

lemma effect_advanceArchive (i : Nat) (x : ArchiveReading) : KeyEffect s (.advance i x) (advanceArchive s i x) := by
  unfold advanceArchive
  split
  · next hp => exact effect_examineNext hp
  · next hp => exact effect_checkObject hp
  · next hp => exact effect_store hp
  · next hp => exact effect_readManifest hp
  · next hp => exact effect_finalize hp
  · next hp => exact effect_abandon hp
  · next c origin manifestId hp =>
    refine effect_resume hp (markRemoved_drained _ _ _) ?_ (follows_none rfl rfl id)
    rintro pending rfl
    exact ⟨rfl, rfl⟩
  · next c hp =>
    unfold selectSource
    split
    · exact effect_follow hp (follows_none rfl rfl id)
    · exact .work hp (Drained.refl _) (follows_same rfl rfl id)
  · next c selected segmentId hp =>
    unfold stage
    split
    · next r t h => exact .stage hp h
    · next e h => exact effect_follow hp (follows_none rfl rfl (prepare_error h))
  · next c manifestId hp =>
    unfold putObject
    split
    · next e _ => exact effect_follow hp (follows_none rfl rfl (objectError_ne e))
    · exact effect_follow hp (follows_none rfl rfl id)
    · exact effect_follow hp (follows_none rfl rfl id)
  · exact .stay

theorem keyEffect_step (a : KeyAction cfg) : KeyEffect s a (keyStep s a) := by
  cases a with
  | recordRevision subjectId k =>
    simp only [keyStep]
    split
    · next db' h => exact .record h
    · exact .stay
  | call i c =>
    simp only [keyStep, beginCall]
    split
    · next harchives =>
      split
      · next db' h => exact .archive harchives h
      · exact .leave rfl rfl id
    · next harchives => exact .reconcile (by simpa using harchives)
  | advance i x => exact effect_advanceArchive i x
  | crash i => exact .leave rfl rfl id

/-! ### Keys in use -/

/-- The newest revision of a subject. -/
def newestOf (revisions : List RevisionRow) (subjectId : String) : Option RevisionRow :=
  (revisions.filter (fun r => r.subjectId = subjectId)).getLast?

/-- The revision has the key that a segment needs. -/
def Decrypts (r : RevisionRow) (g : SegmentRow) : Prop :=
  (g.encryptionKeyId = none ∧ g.encryptionKeyFingerprint = none ∧ r.legacyKeyId ≠ none) ∨
    ∃ keyId fingerprint, g.encryptionKeyId = some keyId ∧ g.encryptionKeyFingerprint = some fingerprint ∧
      Records r keyId fingerprint

/-- A key that the segments of a subject need or are going to need. -/
structure KeyUse where
  subjectId : String
  keyId : String
  fingerprint : String
  deriving DecidableEq

def manifestUse (i : SegmentInput) : KeyUse := ⟨i.subjectId, i.encryptionKeyId, i.encryptionKeyFingerprint⟩

def archiveUse (c : ArchiveCall cfg) : KeyUse := ⟨c.subjectId, c.keyring.activeKeyId, c.keyring.activeFingerprint⟩

/-- The keys of the manifests that are still prepared or stored, and those that running calls archive under. -/
def keysInUse (s : KeyState cfg) : List KeyUse :=
  (s.db.staging.manifests.rows.filter (fun m => m.Live)).map (fun m => manifestUse m.toSegmentInput) ++
    (s.phases.filterMap archiving).map archiveUse

/-- The configuration leaves out a key that the newest recorded revision has. -/
def Drops (s : KeyState cfg) (k : Keyring cfg.sha256) (u : KeyUse) : Prop :=
  (∃ r ∈ s.db.revisions.getLast?, Records r u.keyId u.fingerprint) ∧ ¬Holds k u.keyId u.fingerprint

/-- The generation is not behind the recorded ones. -/
def NotBehind (s : KeyState cfg) (k : Keyring cfg.sha256) : Prop := ∀ r ∈ s.db.revisions, r.generation ≤ k.generation

/-- The calls that still select manifests of the same subject and archive have the key that this one archives
under. -/
def KnownToOthers (s : KeyState cfg) (c : ArchiveCall cfg) : Prop :=
  ∀ p ∈ s.phases, ∀ d ∈ selectingNext p, d.subjectId = c.subjectId → d.kind = c.kind →
    Holds d.keyring c.keyring.activeKeyId c.keyring.activeFingerprint

/-- Keys are rotated in order: a configuration drops a key only after its last use, and `archive_cold` begins under
a key only after the calls that lack it have ended. -/
def RotatedInOrder (s : KeyState cfg) : KeyAction cfg → Prop
  | .recordRevision _ k => NotBehind s k → ∀ u ∈ keysInUse s, ¬Drops s k u
  | .call _ c => (c.archives = true → NotBehind s c.keyring) →
      (∀ u ∈ keysInUse s, ¬Drops s c.keyring u) ∧ (c.archives = true → KnownToOthers s c)
  | .advance _ _ => True
  | .crash _ => True

/-- The newest revision, and the newest one of the subject, have the key. -/
def Recorded (revisions : List RevisionRow) (u : KeyUse) : Prop :=
  (∃ r ∈ revisions.getLast?, Records r u.keyId u.fingerprint) ∧
    ∃ r ∈ newestOf revisions u.subjectId, Records r u.keyId u.fingerprint

lemma mem_keysInUse {u : KeyUse} : u ∈ keysInUse s ↔
    (∃ m ∈ s.db.staging.manifests, m.Live ∧ manifestUse m.toSegmentInput = u) ∨
      ∃ p ∈ s.phases, ∃ c ∈ archiving p, archiveUse c = u := by
  unfold keysInUse
  rw [List.mem_append, List.mem_map, List.mem_map]
  constructor
  · rintro (⟨m, hm, he⟩ | ⟨c, hc, he⟩)
    · rw [List.mem_filter, decide_eq_true_eq] at hm
      exact .inl ⟨m, hm.1, hm.2, he⟩
    · obtain ⟨p, hp, hpc⟩ := List.mem_filterMap.mp hc
      exact .inr ⟨p, hp, c, hpc, he⟩
  · rintro (⟨m, hm, hl, he⟩ | ⟨p, hp, c, hc, he⟩)
    · refine .inl ⟨m, ?_, he⟩
      rw [List.mem_filter, decide_eq_true_eq]
      exact ⟨hm, hl⟩
    · exact .inr ⟨c, List.mem_filterMap.mpr ⟨p, hp, hc⟩, he⟩

lemma mem_set {ps : List (ArchivePhase cfg)} {i : Nat} {p q : ArchivePhase cfg} (h : q ∈ ps.set i p) :
    q = p ∨ q ∈ ps := by
  rcases List.mem_or_eq_of_mem_set h with h | h
  · exact .inr h
  · exact .inl h

lemma Follows.selectingNext {p p' : ArchivePhase cfg} (hf : Follows p p') :
    ∀ d ∈ selectingNext p', d ∈ selectingNext p := by
  intro d hd
  unfold Proofs.selectingNext at hd
  split at hd
  · next c n cursor hr =>
    cases hd
    obtain ⟨q, hq, hn⟩ := hf.replaying _ _ hr
    cases hn
    unfold Proofs.selectingNext
    rw [hq]
    rfl
  · cases hd

/-- Key identifiers are bound to one fingerprint. -/
def Bound (revisions : List RevisionRow) : Prop :=
  ∀ r ∈ revisions, ∀ r' ∈ revisions, ∀ e ∈ r.entries, ∀ e' ∈ r'.entries, e.keyId = e'.keyId →
    e.fingerprint = e'.fingerprint

/-- Every call that replays manifests holds the keys of those it may come to. -/
def Replayable (s : KeyState cfg) : Prop :=
  ∀ p ∈ s.phases, ∀ d ∈ replaying p, ∀ m, Ahead s.db.staging d.1 m d.2 →
    Holds d.1.keyring m.encryptionKeyId m.encryptionKeyFingerprint

/-- The newest revision decrypts every segment and every live manifest, and the newest one of a subject those of
the subject. -/
structure Decryptable (s : KeyState cfg) : Prop where
  segments : ∀ r ∈ s.db.revisions.getLast?, ∀ g ∈ s.db.staging.segments, Decrypts r g
  ownSegments : ∀ subjectId, ∀ r ∈ newestOf s.db.revisions subjectId, ∀ g ∈ s.db.staging.segments,
    g.subjectId = subjectId → Decrypts r g
  manifests : ∀ m ∈ s.db.staging.manifests, m.Live → Recorded s.db.revisions (manifestUse m.toSegmentInput)

structure KeyInv (s : KeyState cfg) : Prop where
  bound : Bound s.db.revisions
  contiguous : Contiguous s.db.revisions
  segments : ∀ r ∈ s.db.revisions.getLast?, ∀ g ∈ s.db.staging.segments, Decrypts r g
  ownSegments : ∀ subjectId, ∀ r ∈ newestOf s.db.revisions subjectId, ∀ g ∈ s.db.staging.segments,
    g.subjectId = subjectId → Decrypts r g
  inUse : ∀ u ∈ keysInUse s, Recorded s.db.revisions u
  replayable : Replayable s
  known : ∀ p ∈ s.phases, ∀ c ∈ archiving p, KnownToOthers s c
  keys : ∀ p ∈ s.phases, ¬KeyMissing p

lemma KeyInv.decryptable (h : KeyInv s) : Decryptable s :=
  ⟨h.segments, h.ownSegments, fun m hm hl => h.inUse _ (mem_keysInUse.mpr (.inl ⟨m, hm, hl, rfl⟩))⟩

/-- A configuration that drops no key in use has them all. -/
lemma KeyInv.holds (h : KeyInv s) (hk : ∀ u ∈ keysInUse s, ¬Drops s k u) :
    ∀ u ∈ keysInUse s, Holds k u.keyId u.fingerprint := by
  intro u hu
  by_contra hne
  exact hk u hu ⟨(h.inUse u hu).1, hne⟩

lemma newestOf_append {revisions : List RevisionRow} {row : RevisionRow} (subjectId : String) :
    newestOf (revisions ++ [row]) subjectId =
      if row.subjectId = subjectId then some row else newestOf revisions subjectId := by
  unfold newestOf
  by_cases h : row.subjectId = subjectId
  · simp [h, List.filter_append]
  · simp [h, List.filter_append]

lemma decrypts_of_accepted {subjectId : String} {g : SegmentRow} (ha : Accepted db k) (hg : g ∈ db.staging.segments) :
    Decrypts (k.revision subjectId) g := by
  obtain ⟨m, hm⟩ := ha.segments g hg
  cases hid : g.encryptionKeyId with
  | none =>
    cases hf : g.encryptionKeyFingerprint with
    | none =>
      refine .inl ⟨hid, hf, ?_⟩
      rw [hid, hf] at hm
      intro hl
      have hl' : k.legacyKeyId = none := hl
      simp [Keyring.resolve, hl'] at hm
    | some fingerprint =>
      rw [hid, hf] at hm
      cases hm
  | some keyId =>
    cases hf : g.encryptionKeyFingerprint with
    | none =>
      rw [hid, hf] at hm
      cases hm
    | some fingerprint =>
      rw [hid, hf] at hm
      exact .inr ⟨keyId, fingerprint, hid, hf, records_revision.mpr (holds_of_resolve hm)⟩

lemma bound_record {subjectId : String} (h : Bound db.revisions) (ha : Accepted db k) :
    Bound (db.revisions ++ [k.revision subjectId]) := by
  intro r hr r' hr' e he e' he' hid
  rcases List.mem_append.mp hr with hr | hr <;> rcases List.mem_append.mp hr' with hr' | hr'
  · exact h r hr r' hr' e he e' he' hid
  · rw [List.mem_singleton.mp hr'] at he'
    exact ha.fingerprints r hr e he e' he' hid
  · rw [List.mem_singleton.mp hr] at he
    exact (ha.fingerprints r' hr' e' he' e he hid.symm).symm
  · rw [List.mem_singleton.mp hr] at he
    rw [List.mem_singleton.mp hr'] at he'
    obtain ⟨m, hm, rfl⟩ := mem_metadata.mp he
    obtain ⟨m', hm', rfl⟩ := mem_metadata.mp he'
    rw [List.inj_on_of_nodup_map k.nodup hm hm' hid]

/-- A key of a configuration is recorded with it, and stays recorded for the other subjects. -/
lemma recorded_append {revisions : List RevisionRow} {subjectId : String} {u : KeyUse}
    (hk : Holds k u.keyId u.fingerprint)
    (hother : u.subjectId ≠ subjectId → ∃ r ∈ newestOf revisions u.subjectId, Records r u.keyId u.fingerprint) :
    Recorded (revisions ++ [k.revision subjectId]) u := by
  have hr : Records (k.revision subjectId) u.keyId u.fingerprint := records_revision.mpr hk
  refine ⟨⟨k.revision subjectId, by simp, hr⟩, ?_⟩
  rw [newestOf_append]
  by_cases hs : u.subjectId = subjectId
  · have hs' : (k.revision subjectId).subjectId = u.subjectId := hs.symm
    rw [if_pos hs']
    exact ⟨_, rfl, hr⟩
  · have hs' : (k.revision subjectId).subjectId ≠ u.subjectId := fun h => hs h.symm
    rw [if_neg hs']
    exact hother hs

lemma inv_record {subjectId : String} (h : KeyInv s) (hr : recordRevision s.db k subjectId = .ok db')
    (hk : ∀ u ∈ keysInUse s, ¬Drops s k u) : KeyInv { s with db := db' } := by
  obtain ⟨ha, ⟨rfl, -⟩ | ⟨hn, rfl⟩⟩ := recordRevision_spec hr
  · exact h
  · refine ⟨bound_record h.bound ha, contiguous_record h.contiguous ha.generation hn, ?_, ?_, ?_, h.replayable,
      h.known, h.keys⟩
    · intro r hlast g hg
      have hr' : k.revision subjectId = r := by simpa using hlast
      rw [← hr']
      exact decrypts_of_accepted ha hg
    · intro σ r hnew g hg hsub
      rw [Option.mem_def, newestOf_append] at hnew
      split at hnew
      · cases hnew
        exact decrypts_of_accepted ha hg
      · exact h.ownSegments σ r hnew g hg hsub
    · intro u hu
      exact recorded_append (h.holds hk u hu) (fun _ => (h.inUse u hu).2)

/-- After `record_revision` the active key is recorded. -/
lemma recorded_active {c : ArchiveCall cfg} (h : KeyInv s) (hr : recordRevision s.db c.keyring c.subjectId = .ok db') :
    Recorded db'.revisions (archiveUse c) := by
  obtain ⟨ha, ⟨rfl, r, hmem, hsub, hgen⟩ | ⟨-, rfl⟩⟩ := recordRevision_spec hr
  · -- the newest revision has the generation of the one that is there already
    have hnewest : ∀ rows : List RevisionRow, rows.Pairwise (fun a b => a.generation ≤ b.generation) → r ∈ rows →
        (∀ x ∈ rows, x ∈ s.db.revisions) →
        ∃ last ∈ rows.getLast?, Records last c.keyring.activeKeyId c.keyring.activeFingerprint := by
      intro rows hsorted hrow hrows
      cases hlast : rows.getLast? with
      | none =>
        rw [List.getLast?_eq_none_iff.mp hlast] at hrow
        cases hrow
      | some last =>
        have hmem' := hrows last (List.mem_of_getLast? hlast)
        have hle : r.generation ≤ last.generation := le_getLast hsorted hlast hrow
        have hge : last.generation ≤ c.keyring.generation := ha.generation last hmem'
        exact ⟨last, rfl, ha.active last hmem' (by omega)⟩
    refine ⟨hnewest _ h.contiguous.rising hmem (fun _ hx => hx), ?_⟩
    have hown : r ∈ s.db.revisions.filter (fun r => r.subjectId = c.subjectId) :=
      List.mem_filter.mpr ⟨hmem, decide_eq_true hsub⟩
    exact hnewest _ (h.contiguous.rising.filter _) hown (fun x hx => (List.mem_filter.mp hx).1)
  · exact recorded_append holds_active (fun hne => absurd rfl hne)

/-! ### The calls -/

/-- The phase of one worker changes. -/
lemma inv_goto {i : Nat} {p' : ArchivePhase cfg} (h : KeyInv s) (hkey : ¬KeyMissing p')
    (hreplay : ∀ d ∈ replaying p', ∀ m, Ahead s.db.staging d.1 m d.2 →
      Holds d.1.keyring m.encryptionKeyId m.encryptionKeyFingerprint)
    (huse : ∀ c ∈ archiving p', Recorded s.db.revisions (archiveUse c) ∧ KnownToOthers s c)
    (hnext : ∀ d ∈ selectingNext p', ∀ p, p = p' ∨ p ∈ s.phases → ∀ c ∈ archiving p, d.subjectId = c.subjectId →
      d.kind = c.kind → Holds d.keyring c.keyring.activeKeyId c.keyring.activeFingerprint) :
    KeyInv (s.goto i p') := by
  refine ⟨h.bound, h.contiguous, h.segments, h.ownSegments, ?_, ?_, ?_, ?_⟩
  · intro u hu
    rcases mem_keysInUse.mp hu with hm | ⟨p, hp, c, hc, rfl⟩
    · exact h.inUse u (mem_keysInUse.mpr (.inl hm))
    · rcases mem_set hp with rfl | hp
      · exact (huse c hc).1
      · exact h.inUse _ (mem_keysInUse.mpr (.inr ⟨p, hp, c, hc, rfl⟩))
  · intro p hp d hd
    rcases mem_set hp with rfl | hp
    · exact hreplay d hd
    · exact h.replayable p hp d hd
  · intro p hp c hc q hq d hd hsub hkind
    rcases mem_set hq with rfl | hq'
    · exact hnext d hd p (mem_set hp) c hc hsub hkind
    · rcases mem_set hp with rfl | hp'
      · exact (huse c hc).2 q hq' d hd hsub hkind
      · exact h.known p hp' c hc q hq' d hd hsub hkind
  · intro p hp
    rcases mem_set hp with rfl | hp
    · exact hkey
    · exact h.keys p hp

lemma inv_nextId {n : Nat} (h : KeyInv s) : KeyInv { s with nextId := n } :=
  ⟨h.bound, h.contiguous, h.segments, h.ownSegments, h.inUse, h.replayable, h.known, h.keys⟩

/-- What a call sees ahead of it when it begins. -/
lemma start_ahead {t : StagingTables} {c : ArchiveCall cfg} {m : StagingManifest}
    (hm : Ahead t c m (Pending.start t c)) : m ∈ t.manifests ∧ m.Live := by
  unfold Pending.start at hm
  split at hm
  · exact ⟨hm.1, hm.2.2.2⟩
  · have hmem := List.mem_of_mem_take hm
    unfold liveManifests at hmem
    rw [List.mem_insertionSort, List.mem_filter] at hmem
    simp only [Bool.and_eq_true, decide_eq_true_eq] at hmem
    exact ⟨hmem.1, hmem.2.2⟩

lemma inv_enter {i : Nat} {c : ArchiveCall cfg} (h : KeyInv s)
    (hk : ∀ u ∈ keysInUse s, Holds c.keyring u.keyId u.fingerprint)
    (ha : c.archives = true → Recorded s.db.revisions (archiveUse c) ∧ KnownToOthers s c) :
    KeyInv (s.goto i (.reconciling c (.start s.db.staging c))) := by
  refine inv_goto h id ?_ ?_ ?_
  · intro d hd m hm
    cases hd
    obtain ⟨hmem, hl⟩ := start_ahead hm
    exact hk _ (mem_keysInUse.mpr (.inl ⟨m, hmem, hl, rfl⟩))
  · intro c' hc
    obtain ⟨rfl, harchives⟩ := mem_archiving_reconciling.mp hc
    exact ha harchives
  · intro d hd p hp c' hc _ _
    have hdc : d = c := by
      unfold selectingNext at hd
      split at hd
      · next hr =>
        cases hd
        exact (congrArg Prod.fst (Option.some.inj hr)).symm
      · cases hd
    rw [hdc]
    rcases hp with rfl | hp
    · rw [(mem_archiving_reconciling.mp hc).1]
      exact holds_active
    · exact hk _ (mem_keysInUse.mpr (.inr ⟨p, hp, c', hc, rfl⟩))

/-- A step that only settles manifests. -/
lemma inv_drained {t : StagingTables} (h : KeyInv s) (hd : Drained s.db.staging t) : KeyInv (s.withStaging t) := by
  have hdecrypts : ∀ g ∈ t.segments, ∀ r, (∀ m ∈ s.db.staging.manifests, m.Live → g.subjectId = m.subjectId →
      Records r m.encryptionKeyId m.encryptionKeyFingerprint) → (g ∈ s.db.staging.segments → Decrypts r g) →
      Decrypts r g := by
    intro g hg r hman hold
    rcases hd.segments g hg with hg | ⟨m, hm, hl, hsub, hid, hf⟩
    · exact hold hg
    · exact .inr ⟨_, _, hid, hf, hman m hm hl hsub⟩
  refine ⟨h.bound, h.contiguous, ?_, ?_, ?_, ?_, h.known, h.keys⟩
  · intro r hr g hg
    refine hdecrypts g hg r ?_ (h.segments r hr g)
    intro m hm hl _
    obtain ⟨r', hr', hrec⟩ := (h.decryptable.manifests m hm hl).1
    rwa [Option.mem_unique hr hr']
  · intro σ r hr g hg hsub
    refine hdecrypts g hg r ?_ (fun hg => h.ownSegments σ r hr g hg hsub)
    intro m hm hl hm'
    obtain ⟨r', hr', hrec⟩ := (h.decryptable.manifests m hm hl).2
    have hsame : (manifestUse m.toSegmentInput).subjectId = σ := hm'.symm.trans hsub
    rw [hsame] at hr'
    rwa [Option.mem_unique hr hr']
  · intro u hu
    rcases mem_keysInUse.mp hu with ⟨m', hm', hl', rfl⟩ | hc
    · obtain ⟨m, hm, hl, he⟩ := hd.live m' hm' hl'
      rw [← he]
      exact h.decryptable.manifests m hm hl
    · exact h.inUse u (mem_keysInUse.mpr (.inr hc))
  · rintro p hp ⟨c, pending⟩ hdm m' hm'
    cases pending with
    | after n cursor =>
      obtain ⟨hmem, hsub, hkind, hl'⟩ := hm'
      obtain ⟨m, hm, hl, he⟩ := hd.live m' hmem hl'
      rw [← he] at hsub hkind ⊢
      exact h.replayable p hp _ hdm m ⟨hm, hsub, hkind, hl⟩
    | rows rest => exact h.replayable p hp _ hdm m' hm'

/-- The manifest of a running call takes its place among the keys in use. -/
lemma inv_stage {i r segmentId now : Nat} {c : ArchiveCall cfg} {selected : SegmentInput} {t : StagingTables}
    (h : KeyInv s) (hp : s.phases[i]? = some (.preparing c selected segmentId))
    (hprep : prepare s.db.staging (stagedInput c selected segmentId) s.nextId now = .ok (r, t)) :
    KeyInv (s.withStaging t) := by
  obtain ⟨hsegments, hman⟩ := prepare_spec hprep
  have hmem := List.mem_of_getElem? hp
  refine ⟨h.bound, h.contiguous, ?_, ?_, ?_, ?_, h.known, h.keys⟩
  · intro r' hr' g hg
    exact h.segments r' hr' g (hsegments ▸ hg)
  · intro σ r' hr' g hg hsub
    exact h.ownSegments σ r' hr' g (hsegments ▸ hg) hsub
  · intro u hu
    rcases mem_keysInUse.mp hu with ⟨m, hm, hl, rfl⟩ | hc
    · rcases hman m hm with hm | hm
      · exact h.decryptable.manifests m hm hl
      · rw [hm]
        exact h.inUse (archiveUse c) (mem_keysInUse.mpr (.inr ⟨_, hmem, c, rfl, rfl⟩))
    · exact h.inUse u (mem_keysInUse.mpr (.inr hc))
  · rintro p hpm ⟨d, pending⟩ hd m hm
    cases pending with
    | after n cursor =>
      obtain ⟨hin, hsub, hkind, hl⟩ := hm
      rcases hman m hin with hin | hin
      · exact h.replayable p hpm _ hd m ⟨hin, hsub, hkind, hl⟩
      · rw [hin] at hsub hkind ⊢
        have hnext : d ∈ selectingNext p := by
          have hd' : replaying p = some (d, .after n cursor) := hd
          unfold selectingNext
          rw [hd']
          rfl
        exact h.known _ hmem c rfl p hpm d hnext hsub.symm hkind.symm
    | rows rest => exact h.replayable p hpm _ hd m hm

/-- A call goes on after settling a manifest. -/
lemma inv_work {i n : Nat} {p p' : ArchivePhase cfg} {t : StagingTables} (h : KeyInv s) (hp : s.phases[i]? = some p)
    (hd : Drained s.db.staging t) (hf : Follows p p') : KeyInv { (s.withStaging t).goto i p' with nextId := n } := by
  have hmem := List.mem_of_getElem? hp
  have hdr : KeyInv (s.withStaging t) := inv_drained h hd
  refine inv_nextId (inv_goto hdr hf.keys ?_ ?_ ?_)
  · rintro ⟨c, q'⟩ hq' m hm
    obtain ⟨q, hq, hn⟩ := hf.replaying c q' hq'
    exact hdr.replayable p hmem (c, q) hq m (hn.ahead hm)
  · intro c hc
    have hc' := hf.archiving c hc
    exact ⟨hdr.inUse _ (mem_keysInUse.mpr (.inr ⟨p, hmem, c, hc', rfl⟩)), hdr.known p hmem c hc'⟩
  · intro d hdn q hq c hc hsub hkind
    have hd' := hf.selectingNext d hdn
    rcases hq with rfl | hq
    · exact hdr.known p hmem c (hf.archiving c hc) p hmem d hd' hsub hkind
    · exact hdr.known q hq c hc p hmem d hd' hsub hkind

/-- A call ends, or only its own object is left to do. -/
lemma inv_leave {i : Nat} {p' : ArchivePhase cfg} (h : KeyInv s) (hr : replaying p' = none) (ha : archiving p' = none)
    (hkey : ¬KeyMissing p') : KeyInv (s.goto i p') := by
  refine inv_goto h hkey ?_ ?_ ?_
  · intro d hd
    rw [hr] at hd
    cases hd
  · intro c hc
    rw [ha] at hc
    cases hc
  · intro d hd
    unfold selectingNext at hd
    rw [hr] at hd
    cases hd

/-- The key of the next manifest is there. -/
lemma not_missing {i : Nat} {c : ArchiveCall cfg} {pending rest : Pending} {m : StagingManifest} {e : ArchiveError}
    (h : KeyInv s) (hp : s.phases[i]? = some (.reconciling c pending))
    (hnext : pending.next s.db.staging c = some (m, rest))
    (hres : c.keyring.resolve (some m.encryptionKeyId) (some m.encryptionKeyFingerprint) = .error e) : False := by
  have hholds := h.replayable _ (List.mem_of_getElem? hp) (c, pending) rfl m (next_ahead hnext).1
  obtain ⟨k, hk⟩ := resolve_of_holds hholds
  rw [hk] at hres
  cases hres

theorem keyInv_step {a : KeyAction cfg} (h : KeyInv s) (hg : RotatedInOrder s a) : KeyInv (keyStep s a) := by
  generalize hs' : keyStep s a = s'
  have he : KeyEffect s a s' := hs' ▸ keyEffect_step a
  cases he with
  | stay => exact h
  | record hr => exact inv_record h hr (hg (recordRevision_spec hr).1.generation)
  | @archive i c db' harchives hr =>
    obtain ⟨hdrops, hknown⟩ := hg (fun _ => (recordRevision_spec hr).1.generation)
    have hstaging : db'.staging = s.db.staging := by
      obtain ⟨-, ⟨rfl, -⟩ | ⟨-, rfl⟩⟩ := recordRevision_spec hr
      · rfl
      · rfl
    have hkeys : keysInUse { s with db := db' } = keysInUse s := by
      unfold keysInUse
      rw [hstaging]
    refine @inv_enter cfg { s with db := db' } i c (inv_record h hr hdrops) ?_ ?_
    · rw [hkeys]
      exact h.holds hdrops
    · exact fun _ => ⟨recorded_active h hr, hknown harchives⟩
  | @reconcile i c harchives =>
    have hnot : ¬c.archives = true := by simp [harchives]
    obtain ⟨hdrops, -⟩ := hg (fun ha => absurd ha hnot)
    exact inv_enter h (h.holds hdrops) (fun ha => absurd ha hnot)
  | leave hr ha hkey => exact inv_leave h hr ha hkey
  | work hp hd hf => exact inv_work h hp hd hf
  | missing hp hnext hres => exact (not_missing h hp hnext hres).elim
  | stage hp hprep => exact inv_nextId (inv_leave (inv_stage h hp hprep) rfl rfl id)

lemma keyInv_initial (h : s.Initial) : KeyInv s := by
  obtain ⟨hrev, hman, -, hidle⟩ := h
  have hkeys : keysInUse s = [] := by
    rw [List.eq_nil_iff_forall_not_mem]
    intro u hu
    rcases mem_keysInUse.mp hu with ⟨m, hm, -⟩ | ⟨p, hp, c, hc, -⟩
    · rw [Table.mem_def, hman] at hm
      cases hm
    · rw [hidle p hp] at hc
      cases hc
  refine ⟨?_, ⟨?_, ?_, ?_⟩, ?_, ?_, ?_, ?_, ?_, ?_⟩
  · intro r hr
    rw [hrev] at hr
    cases hr
  · rw [hrev]
    exact List.Pairwise.nil
  · rw [hrev]
    exact List.isChain_nil
  · rw [hrev]
    exact List.Pairwise.nil
  · intro r hr
    rw [hrev] at hr
    cases hr
  · intro σ r hr
    rw [hrev] at hr
    cases hr
  · rw [hkeys]
    intro u hu
    cases hu
  · intro p hp d hd
    rw [hidle p hp] at hd
    cases hd
  · intro p hp c hc
    rw [hidle p hp] at hc
    cases hc
  · intro p hp
    rw [hidle p hp]
    exact id

/-- An accepted configuration resolves every committed segment. In a run that rotates keys in order it has the keys
of the live manifests too, the newest revision goes on decrypting what is and will be committed, fingerprints and
generations never go back, and no call ends for want of a key. -/
theorem keyring_sound (h : (keyrings cfg).ReachableUnder RotatedInOrder s) :
    (∀ (k : Keyring cfg.sha256) subjectId db', recordRevision s.db k subjectId = .ok db' →
      (∀ g ∈ s.db.staging.segments, ∃ m, k.resolve g.encryptionKeyId g.encryptionKeyFingerprint = .ok m) ∧
      (RotatedInOrder s (.recordRevision subjectId k) → ∀ m ∈ s.db.staging.manifests, m.Live →
        ∃ material, k.resolve (some m.encryptionKeyId) (some m.encryptionKeyFingerprint) = .ok material)) ∧
    Decryptable s ∧ Replayable s ∧ Bound s.db.revisions ∧ Contiguous s.db.revisions ∧
    ∀ p ∈ s.phases, ¬KeyMissing p := by
  have hi : KeyInv s := h.invariant (fun _ => keyInv_initial) (fun _ _ hi hg => keyInv_step hi hg)
  refine ⟨?_, hi.decryptable, hi.replayable, hi.bound, hi.contiguous, hi.keys⟩
  intro k subjectId db' hr
  have ha := (recordRevision_spec hr).1
  refine ⟨ha.segments, ?_⟩
  intro hg m hm hl
  exact resolve_of_holds (hi.holds (hg ha.generation) _ (mem_keysInUse.mpr (.inl ⟨m, hm, hl, rfl⟩)))

/-! ### A key left behind -/

instance (k : Keyring cfg.sha256) (keyId fingerprint : String) : Decidable (Holds k keyId fingerprint) :=
  inferInstanceAs (Decidable (∃ m ∈ k.keys, _))

instance (r : RevisionRow) (keyId fingerprint : String) : Decidable (Records r keyId fingerprint) :=
  inferInstanceAs (Decidable (∃ e ∈ r.entries, _))

instance (s : KeyState cfg) (k : Keyring cfg.sha256) (u : KeyUse) : Decidable (Drops s k u) :=
  inferInstanceAs (Decidable ((∃ r ∈ s.db.revisions.getLast?, _) ∧ _))

instance (s : KeyState cfg) (k : Keyring cfg.sha256) : Decidable (NotBehind s k) :=
  inferInstanceAs (Decidable (∀ r ∈ s.db.revisions, _))

instance (s : KeyState cfg) (c : ArchiveCall cfg) : Decidable (KnownToOthers s c) :=
  inferInstanceAs (Decidable (∀ p ∈ s.phases, ∀ d ∈ selectingNext p, _))

instance (s : KeyState cfg) : (a : KeyAction cfg) → Decidable (RotatedInOrder s a)
  | .recordRevision _ k => inferInstanceAs (Decidable (NotBehind s k → ∀ u ∈ keysInUse s, ¬Drops s k u))
  | .call _ c => inferInstanceAs (Decidable ((c.archives = true → NotBehind s c.keyring) →
      (∀ u ∈ keysInUse s, ¬Drops s c.keyring u) ∧ (c.archives = true → KnownToOthers s c)))
  | .advance _ _ => .isTrue trivial
  | .crash _ => .isTrue trivial

instance : DecidablePred (KeyMissing : ArchivePhase cfg → Prop)
  | .raised (.keyUnavailableError _) => .isTrue trivial
  | .raised (.integrityError _) | .raised (.payloadLimitError _) | .raised .fileNotFoundError | .raised (.osError _)
  | .raised (.valueError _) | .raised (.sqliteIntegrityError _) | .raised (.other _) => .isFalse id
  | .idle | .reconciling _ _ | .checking _ _ _ | .storing _ _ _ _ _ | .finalizing _ _ _ | .publishing _ _ _
  | .abandoning _ _ _ _ | .removing _ _ _ | .selecting _ | .preparing _ _ _ | .putting _ _ | .returned
  | .rejected _ => .isFalse id

instance decidableAccepts {ε α : Type} : (r : Except ε α) → Decidable (∃ a, r = .ok a)
  | .ok a => .isTrue ⟨a, rfl⟩
  | .error _ => .isFalse (fun ⟨_, h⟩ => by cases h)

def statusText : KeyStatus → String
  | .active => "active"
  | .retired => "retired"

/-- SHA-256 at the two keys of the runs, and hashes of metadata that tell them apart. -/
def sampleKeys : KeyConfig where
  sha256 key :=
    if key = List.replicate 32 1 then "72cd6e8422c407fb6d098690f1130b7ded7ec2f7f5e1d30bd9d521f015363793"
    else if key = List.replicate 32 2 then "75877bb41d393b5fb8455ce60ecd8dda001d06316496b14dfa7f895656eeca4a"
    else ""
  contentHash
    | .metadata entries =>
      "metadata" ++ String.join (entries.map (fun e => e.keyId ++ e.fingerprint ++ statusText e.status))
    | .state generation activeKeyId _ entries =>
      "state" ++ toString generation ++ activeKeyId ++ String.join (entries.map (fun e => e.keyId ++ e.fingerprint))

def firstKey (status : KeyStatus) : KeyMaterial :=
  ⟨"a", List.replicate 32 1, "72cd6e8422c407fb6d098690f1130b7ded7ec2f7f5e1d30bd9d521f015363793", status⟩

def secondKey : KeyMaterial :=
  ⟨"b", List.replicate 32 2, "75877bb41d393b5fb8455ce60ecd8dda001d06316496b14dfa7f895656eeca4a", .active⟩

/-- A keyring of one active key. -/
def firstKeyring : Keyring sampleKeys.sha256 where
  generation := 1
  activeKeyId := "a"
  legacyKeyId := none
  keys := [firstKey .active]
  generation_pos := Nat.one_pos
  count := by decide
  material := by decide
  nodup := by decide
  active := by decide
  legacy := by simp

/-- The rotation that retires the first key. -/
def rotatedKeyring (generation : Nat) (h : 0 < generation) : Keyring sampleKeys.sha256 where
  generation := generation
  activeKeyId := "b"
  legacyKeyId := none
  keys := [firstKey .retired, secondKey]
  generation_pos := h
  count := by decide
  material := by decide
  nodup := by decide
  active := by decide
  legacy := by simp

/-- The rotation that drops the first key. -/
def secondKeyring : Keyring sampleKeys.sha256 where
  generation := 2
  activeKeyId := "b"
  legacyKeyId := none
  keys := [secondKey]
  generation_pos := by decide
  count := by decide
  material := by decide
  nodup := by decide
  active := by decide
  legacy := by simp

def sampleCall (k : Keyring sampleKeys.sha256) (archives : Bool) : ArchiveCall sampleKeys :=
  ⟨"noyra", .eventPayload, k, 8, archives⟩

def sampleKeyState : KeyState sampleKeys := ⟨⟨[], ⟨.empty, []⟩⟩, [.idle], 0⟩

/-- One event is selected. -/
def sampleReading : ArchiveReading where
  now := 0
  object := .ok (100, "stored")
  selected := some ⟨"noyra", .eventPayload, 0, "", [⟨"e1", "2026-01-01T00:00:00.000+00:00", "h1"⟩],
    "2026-01-01T00:00:00.000+00:00", "2026-01-01T00:00:00.000+00:00", "plain", "noyra-event-archive/v1", "", ""⟩
  source := .unchanged

/-- `archive_cold` up to its staged manifest. -/
def sampleStaging (k : Keyring sampleKeys.sha256) : List (KeyAction sampleKeys) :=
  .call 0 (sampleCall k true) :: List.replicate 3 (.advance 0 sampleReading)

lemma sampleKeyState_initial : (keyrings sampleKeys).init sampleKeyState := by
  refine ⟨rfl, rfl, ?_, ?_⟩
  · simp [sampleKeyState]
  · simp [sampleKeyState]

/-- The worker crashes after staging under the first key, which is then retired; `reconcile_staging` publishes the
manifest under the new configuration, the next one is staged under the second key, and another subject catches up
with the newest generation. -/
def sampleRotation : List (KeyAction sampleKeys) :=
  .recordRevision "other" firstKeyring :: sampleStaging firstKeyring ++
    [.crash 0, .recordRevision "noyra" (rotatedKeyring 2 (by decide)),
      .call 0 (sampleCall (rotatedKeyring 2 (by decide)) false)] ++
    List.replicate 6 (.advance 0 sampleReading) ++ sampleStaging (rotatedKeyring 2 (by decide)) ++
    [.recordRevision "noyra" (rotatedKeyring 3 (by decide)), .recordRevision "other" (rotatedKeyring 3 (by decide))]

/-- A committed segment under the retired key and a live manifest under the active one. -/
theorem keyring_sound_rotated :
    ∃ s, ((keyrings sampleKeys).ReachableUnder RotatedInOrder s ∧
      s.db.revisions.map (fun r => (r.subjectId, r.generation)) =
        [("other", 1), ("noyra", 1), ("noyra", 2), ("noyra", 3), ("other", 3)] ∧
      s.db.staging.segments.map SegmentRow.encryptionKeyId = [some "a"] ∧
      keysInUse s = [⟨"noyra", "b", secondKey.fingerprint⟩]) ∧ Decryptable s ∧ Replayable s ∧ Bound s.db.revisions ∧
      Contiguous s.db.revisions ∧ ∀ p ∈ s.phases, ¬KeyMissing p := by
  have hrun : (keyrings sampleKeys).Meets RotatedInOrder sampleKeyState sampleRotation ∧
      (sampleRotation.foldl keyStep sampleKeyState).db.revisions.map (fun r => (r.subjectId, r.generation)) =
        [("other", 1), ("noyra", 1), ("noyra", 2), ("noyra", 3), ("other", 3)] ∧
      (sampleRotation.foldl keyStep sampleKeyState).db.staging.segments.map SegmentRow.encryptionKeyId = [some "a"] ∧
      keysInUse (sampleRotation.foldl keyStep sampleKeyState) = [⟨"noyra", "b", secondKey.fingerprint⟩] := by
    decide +kernel
  have hr : (keyrings sampleKeys).ReachableUnder RotatedInOrder (sampleRotation.foldl keyStep sampleKeyState) :=
    Machine.reachableUnder_foldl sampleKeyState_initial sampleRotation hrun.1
  exact ⟨_, ⟨hr, hrun.2⟩, (keyring_sound hr).2⟩

/-- The worker crashes and the keyring without its key is presented by `archive_cold`. -/
def sampleKeyLoss : List (KeyAction sampleKeys) :=
  sampleStaging firstKeyring ++ [.crash 0, .call 0 (sampleCall secondKeyring true), .advance 0 sampleReading]

/-- The keyring is presented while the call that staged the manifest still runs, and the call commits. -/
def sampleOvertaken : List (KeyAction sampleKeys) :=
  sampleStaging firstKeyring ++ .recordRevision "noyra" secondKeyring :: List.replicate 4 (.advance 0 sampleReading)

/-- A configuration without the key of a live manifest is accepted, `archive_cold` under it raises for want of that
key, and a segment that is committed after the configuration was recorded is out of its reach; the configuration
is then refused. -/
theorem accepted_keyring_misses_key :
    (∃ s, (keyrings sampleKeys).Reachable s ∧ (∃ db', recordRevision s.db secondKeyring "noyra" = .ok db') ∧
      ∃ m ∈ s.db.staging.manifests.rows, m.subjectId = "noyra" ∧ m.Live ∧
        ¬Holds secondKeyring m.encryptionKeyId m.encryptionKeyFingerprint) ∧
    (∃ s, (keyrings sampleKeys).Reachable s ∧ ∃ p ∈ s.phases, KeyMissing p) ∧
    ∃ s, (keyrings sampleKeys).Reachable s ∧ s.db.revisions.getLast? = some (secondKeyring.revision "noyra") ∧
      (∃ g ∈ s.db.staging.segments,
        ∀ m, secondKeyring.resolve g.encryptionKeyId g.encryptionKeyFingerprint ≠ .ok m) ∧
      ∀ db', recordRevision s.db secondKeyring "noyra" ≠ .ok db' := by
  refine ⟨⟨(sampleStaging firstKeyring).foldl keyStep sampleKeyState,
      Machine.reachable_foldl sampleKeyState_initial _, ?_, ?_⟩,
    ⟨sampleKeyLoss.foldl keyStep sampleKeyState, Machine.reachable_foldl sampleKeyState_initial sampleKeyLoss, ?_⟩,
    sampleOvertaken.foldl keyStep sampleKeyState, Machine.reachable_foldl sampleKeyState_initial sampleOvertaken,
    ?_, ?_, ?_⟩
  · decide +kernel
  · decide +kernel
  · decide +kernel
  · decide +kernel
  · decide +kernel
  · decide +kernel

end Noyra.Archive.Proofs
