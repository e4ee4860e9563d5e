import Noyra.Archive.Observations
import Noyra.Lib.Digest

/-!
# Archived observations stay readable

Where every segment that is selected encodes and compresses within the limits of the reader, every row that was
blanked is read back as it was stored as long as its object is intact, and no call ends because a payload is too
large.
-/

namespace Noyra.Archive.Observations.Proofs
open Noyra.Lib Noyra.Archive

/-- A condition on the rows that are selected for a subject. -/
abbrev SelectionRule : Type := String → List ObservationRow → Prop

variable {cfg : ObservationConfig} {P : SelectionRule} {w w' : ObservationWorld}

/-- A segment that the reader takes with its default limits. -/
def Compact (cfg : ObservationConfig) (subjectId : String) (rows : List ObservationRow) : Prop :=
  (encodeSegment cfg subjectId rows).length ≤ maxStagedDecompressedBytes ∧
    (cfg.compress (encodeSegment cfg subjectId rows)).length ≤ 16000000

/-- Every selection for a segment meets the condition. -/
def Selects (P : SelectionRule) (c : ObservationCommand) (_ : ObservationReading) (w : ObservationWorld) : Prop :=
  match c with
  | .select subjectId cutoff limit =>
    w.selection subjectId cutoff limit ≠ [] → P subjectId (w.selection subjectId cutoff limit)
  | _ => True

/-- Every selection for a segment is compact. -/
def Fits (cfg : ObservationConfig) : ObservationCommand → ObservationReading → ObservationWorld → Prop :=
  Selects (Compact cfg)

instance compactDecidable (cfg : ObservationConfig) (subjectId : String) (rows : List ObservationRow) :
    Decidable (Compact cfg subjectId rows) :=
  inferInstanceAs (Decidable (_ ∧ _))

instance fitsDecidable (cfg : ObservationConfig) (x : ObservationReading) (w : ObservationWorld) :
    (c : ObservationCommand) → Decidable (Fits cfg c x w)
  | .select subjectId cutoff limit => inferInstanceAs
    (Decidable (w.selection subjectId cutoff limit ≠ [] → Compact cfg subjectId _))
  | .recordRevision | .liveManifests _ _ | .prepare _ | .assertLease | .put _ _ | .get _ _ | .getManifest _
    | .storedMetadata _ _ | .markStored _ _ _
  | .markAbandoned _ _ | .markRemoved _ | .delete _ | .finalize _ _ _ | .ingest _ _ _ _ | .replaceFile _ _ =>
    .isTrue trivial

/-- What is known of the rows of a segment. -/
structure Selected (cfg : ObservationConfig) (P : SelectionRule) (subjectId : String) (rows : List ObservationRow) :
    Prop where
  selected : P subjectId rows
  hashes : ∀ row ∈ rows, row.contentHash = cfg.contentHash row.content
  ids : (rows.map ObservationRow.observationId).Nodup

/-- A manifest of a selection. -/
structure Batch (cfg : ObservationConfig) (P : SelectionRule) (i : SegmentInput) (rows : List ObservationRow) :
    Prop extends
    Selected cfg P i.subjectId rows where
  source : i.sourceState = rows.map sourceItem
  plaintext : i.plaintextHash = cfg.sha256 (cfg.compress (encodeSegment cfg i.subjectId rows))
  format : i.archiveFormat = segmentFormat

lemma batch_segmentInput {subjectId : String} {rows : List ObservationRow} (h : Selected cfg P subjectId rows)
    (segmentId : Nat) :
    Batch cfg P (segmentInput cfg subjectId segmentId rows) rows where
  toSelected := h
  source := rfl
  plaintext := rfl
  format := rfl

lemma entry_keyed (row : ObservationRow) : (observationEntry row).keyed = true := by
  unfold observationEntry
  simp [Document.keyed, Document.entriesKeyed, Document.entryKeyed]

lemma body_keyed (subjectId : String) (rows : List ObservationRow) : (segmentBody subjectId rows).keyed = true := by
  have hitems : Document.itemsKeyed (rows.map observationEntry) = true := by
    rw [Document.itemsKeyed_iff]
    intro x hx
    obtain ⟨row, -, rfl⟩ := List.mem_map.mp hx
    exact entry_keyed row
  unfold segmentBody
  simp [Document.keyed, Document.entriesKeyed, Document.entryKeyed, hitems]

/-- A segment is read back with its keys in order. -/
lemma loads_encodeSegment (subjectId : String) (rows : List ObservationRow) :
    loadsBytes cfg (encodeSegment cfg subjectId rows) = some (segmentBody subjectId rows).sorted := by
  unfold loadsBytes encodeSegment
  rw [utf8Decode_utf8Encode]
  exact @JsonText.loads_respelled Json.hard cfg.floats _ (Document.keyed_sorted _ (body_keyed subjectId rows)) _
    (Json.Respelled.refl _)

/-- Sorting the keys changes no key. -/
lemma sorted_obj {es : Document.Entries} (hn : (es.map Prod.fst).Nodup) :
    ∃ es', (Document.obj es).sorted = .obj es' ∧ ∀ key, Document.get? es' key =
      (Document.get? es key).map Document.sorted := by
  refine ⟨_, rfl, fun key => ?_⟩
  rw [Document.sortedEntries_eq_map, Document.get?_sorted hn]

lemma body_names : ["format", "subject_id", "observations"].Nodup := by decide

lemma entry_names : ["observation_id", "content", "content_hash"].Nodup := by decide

/-- What the reader finds at a key of the body, and at a key of an entry. -/
lemma get?_body (subjectId : String) (rows : List ObservationRow) :
    ∃ es, (segmentBody subjectId rows).sorted = .obj es ∧ Document.get? es "subject_id" = some (.str subjectId) ∧
      Document.get? es "observations" = some (.arr (rows.map (fun row => (observationEntry row).sorted))) := by
  unfold segmentBody
  obtain ⟨es, hes, hget⟩ := @sorted_obj
    [("format", .str segmentFormat), ("subject_id", .str subjectId), ("observations", .arr (rows.map observationEntry))]
    body_names
  refine ⟨es, hes, hget _, (hget _).trans ?_⟩
  change some (Document.arr (rows.map observationEntry)).sorted = _
  unfold Document.sorted
  rw [Document.sortedItems_eq_map, List.map_map]
  rfl

lemma get?_entry (row : ObservationRow) :
    ∃ es, (observationEntry row).sorted = .obj es ∧ Document.get? es "observation_id" = some (.str row.observationId) ∧
      Document.get? es "content" = some (.str row.content) ∧ Document.get? es "content_hash" = some
        (.str row.contentHash) := by
  unfold observationEntry
  obtain ⟨es, hes, hget⟩ := @sorted_obj
    [("observation_id", .str row.observationId), ("content", .str row.content), ("content_hash", .str row.contentHash)]
    entry_names
  exact ⟨es, hes, hget _, hget _, hget _⟩

/-- The loop over the entries finds the content of an observation of the segment. -/
lemma findContent_eq {rows : List ObservationRow}
    (hhashes : ∀ row ∈ rows, row.contentHash = cfg.contentHash row.content)
    (hids : (rows.map ObservationRow.observationId).Nodup) {row : ObservationRow} (hrow : row ∈ rows) :
    loadContentWithin.findContent cfg row.observationId (rows.map (fun row => (observationEntry row).sorted)) =
      .ok row.content := by
  induction rows with
  | nil => cases hrow
  | cons first rest ih =>
    obtain ⟨es, hes, hid, hcontent, hhash⟩ := get?_entry first
    rw [List.map_cons, hes]
    unfold loadContentWithin.findContent
    rw [hid]
    by_cases hsame : first.observationId = row.observationId
    · have hfirst : first = row := by
        rcases List.mem_cons.mp hrow with rfl | hmem
        · rfl
        · rw [List.map_cons, List.nodup_cons] at hids
          exact absurd (hsame ▸ List.mem_map_of_mem hmem) hids.1
      subst hfirst
      have hseen : ¬ (Option.any (fun x => Document.same x (.str first.observationId))
          (some (Document.str first.observationId))) = false := by
        rw [Option.any_some, (Document.same_iff _ _).mpr rfl]
        decide
      rw [if_neg hseen, hcontent, hhash]
      dsimp only
      rw [raiseIf_neg (not_not.mpr (hhashes first List.mem_cons_self).symm), ok_bind]
    · have hother : (Option.any (fun x => Document.same x (.str row.observationId))
          (some (Document.str first.observationId))) = false := by
        rw [Option.any_some, Bool.eq_false_iff]
        intro htrue
        exact hsame (Document.str.inj ((Document.same_iff _ _).mp htrue))
      rw [if_pos hother]
      rcases List.mem_cons.mp hrow with rfl | hmem
      · exact absurd rfl hsame
      · exact ih (fun x hx => hhashes x (List.mem_cons_of_mem _ hx)) (List.nodup_cons.mp hids).2 hmem

/-- A row as it was stored, or blanked by the committed manifest of its key. -/
def RowSound (cfg : ObservationConfig) (w : ObservationWorld) (row : ObservationRow) : Prop :=
  (row.contentArchiveKey = none ∧ row.content = row.ingested ∧ row.contentHash = cfg.contentHash row.ingested) ∨
    ∃ m ∈ w.staging.manifests, m.status = .committed ∧ row.contentArchiveKey = some m.objectKey ∧
      row.subjectId = m.subjectId ∧
      ∃ item ∈ m.sourceState, item.itemId = row.observationId ∧ item.contentHash = cfg.contentHash row.ingested

structure Sound (cfg : ObservationConfig) (P : SelectionRule) (w : ObservationWorld) : Prop where
  batches : ∀ m ∈ w.staging.manifests, ∃ rows, Batch cfg P m.toSegmentInput rows
  keys : ∀ m ∈ w.staging.manifests, ∀ m' ∈ w.staging.manifests, m.objectKey = m'.objectKey → m = m'
  segments : ∀ g ∈ w.staging.segments, ∃ m ∈ w.staging.manifests, m.status = .committed ∧ ∃ now, g = m.segment now
  published : ∀ m ∈ w.staging.manifests, m.status = .committed → ∃ now, m.segment now ∈ w.staging.segments
  rows : ∀ row ∈ w.observations, RowSound cfg w row

/-- Manifests keep their identifiers and selections. -/
def Later (w w' : ObservationWorld) : Prop :=
  ∀ m ∈ w.staging.manifests, ∃ m' ∈ w'.staging.manifests, m'.manifestId = m.manifestId ∧
    m'.toSegmentInput = m.toSegmentInput

lemma Later.refl (w : ObservationWorld) : Later w w := fun m hm => ⟨m, hm, rfl, rfl⟩

lemma Later.trans {w₁ w₂ w₃ : ObservationWorld} (h : Later w₁ w₂) (h' : Later w₂ w₃) : Later w₁ w₃ := by
  intro m hm
  obtain ⟨m₂, hm₂, hid, hinput⟩ := h m hm
  obtain ⟨m₃, hm₃, hid', hinput'⟩ := h' m₂ hm₂
  exact ⟨m₃, hm₃, hid'.trans hid, hinput'.trans hinput⟩

lemma Later.of_eq (h : w'.staging = w.staging) : Later w w' := by
  intro m hm
  refine ⟨m, ?_, rfl, rfl⟩
  rw [h]
  exact hm

def contract (cfg : ObservationConfig) (P : SelectionRule) : Contract ObservationWorld where
  inv := Sound cfg P
  rely := Later
  refl := Later.refl
  trans := Later.trans

/-- A blanked row is read back from an intact object, within limits that the payload and its segment meet. -/
lemma Sound.load (h : Sound cfg P w) {row : ObservationRow} (hrow : row ∈ w.observations) {objectKey : String}
    (hkey : row.contentArchiveKey = some objectKey) {payload : Bytes} {hash : String}
    (hfile : w.files objectKey = some (.sealed payload hash))
    (hintact : ∀ g ∈ w.staging.segments, g.objectKey = objectKey → cfg.sha256 payload = g.compressedHash) :
    ∃ rows, P row.subjectId rows ∧ payload = cfg.compress (encodeSegment cfg row.subjectId rows) ∧
      ∀ maxCompressed maxDecompressed, 1 ≤ maxCompressed → 1 ≤ maxDecompressed → payload.length ≤ maxCompressed →
        (encodeSegment cfg row.subjectId rows).length ≤ maxDecompressed →
        loadContentWithin cfg w row.subjectId objectKey row.observationId maxCompressed maxDecompressed =
          .ok row.ingested := by
  rcases h.rows row hrow with ⟨hnone, -⟩ | ⟨m, hm, hcommitted, hmkey, hsubject, item, hitem, hid, hhash⟩
  · rw [hkey] at hnone
    cases hnone
  have hsame : objectKey = m.objectKey := Option.some.inj (hkey.symm.trans hmkey)
  subst hsame
  obtain ⟨rows, hbatch⟩ := h.batches m hm
  obtain ⟨now, hpublished⟩ := h.published m hm hcommitted
  have hpayload : payload = cfg.compress (encodeSegment cfg m.subjectId rows) := by
    apply cfg.sha256_injective
    rw [hintact _ hpublished rfl, ← hbatch.plaintext]
    rfl
  -- the first segment of the key is one of this manifest
  have hsegment : ∃ g, w.staging.segments.find? (fun g => g.subjectId = row.subjectId && g.objectKey = m.objectKey) =
      some g ∧ g.archiveFormat = segmentFormat ∧ g.compressedHash = cfg.sha256 payload := by
    have hsome : (w.staging.segments.find? (fun g => g.subjectId = row.subjectId && g.objectKey =
        m.objectKey)).isSome = true := by
      rw [List.find?_isSome]
      exact ⟨m.segment now, hpublished, by simp [StagingManifest.segment, hsubject]⟩
    obtain ⟨g, hg⟩ := Option.isSome_iff_exists.mp hsome
    have htest := List.find?_some hg
    simp only [Bool.and_eq_true, decide_eq_true_eq] at htest
    have hmem := List.mem_of_find?_eq_some hg
    obtain ⟨m', hm', -, now', rfl⟩ := h.segments g hmem
    have hmm : m' = m := h.keys m' hm' m hm htest.2
    subst hmm
    exact ⟨_, hg, hbatch.format, (hintact _ hmem rfl).symm⟩
  obtain ⟨g, hg, hformat, hcompressed⟩ := hsegment
  refine ⟨rows, by rw [hsubject]; exact hbatch.selected, by rw [hsubject]; exact hpayload, ?_⟩
  intro maxCompressed maxDecompressed hmaxCompressed hmaxDecompressed hsmall hfits
  have hlimits : ¬ (maxCompressed < 1 ∨ maxDecompressed < 1) := by omega
  have hget : w.get m.objectKey (some maxCompressed) = .ok payload := by
    have hstored : ¬ ((some maxCompressed).map (fun n => n + 37)).any
        (fun n => decide (n < (StoredObject.sealed payload hash).size)) = true := by
      rw [Option.map_some, Option.any_some, decide_eq_true_eq]
      change ¬ maxCompressed + 37 < payload.length + 37
      omega
    unfold ObservationWorld.get ObservationWorld.stored
    rw [hfile, orRaise_some, ok_bind, raiseIf_neg hstored, ok_bind]
    rfl
  have hraw : (cfg.decompress payload maxDecompressed).mapError ObservationError.archive =
      .ok (encodeSegment cfg m.subjectId rows) := by
    rw [hsubject] at hfits
    rw [hpayload, cfg.decompress_compress _ _ hfits]
    rfl
  obtain ⟨es, hes, hsubjectKey, hobservations⟩ := get?_body m.subjectId rows
  have howner : ¬ (Option.any (fun x => Document.same x (.str row.subjectId)) (some (Document.str m.subjectId))) =
      false := by
    rw [Option.any_some, (Document.same_iff _ _).mpr (by rw [hsubject])]
    decide
  have hfound : ∃ r ∈ rows, sourceItem r = item := by
    have hitem' := hitem
    rw [hbatch.source] at hitem'
    exact List.mem_map.mp hitem'
  obtain ⟨r, hr, rfl⟩ := hfound
  have hcontent : r.content = row.ingested := cfg.contentHash_injective ((hbatch.hashes r hr).symm.trans hhash)
  unfold loadContentWithin
  rw [raiseIf_neg hlimits, ok_bind, hg, orRaise_some, ok_bind, raiseIf_neg (not_not.mpr hformat), ok_bind, hget,
    ok_bind, raiseIf_neg (not_not.mpr hcompressed.symm), ok_bind,
    hraw, ok_bind, loads_encodeSegment, orRaise_some, ok_bind, hes]
  dsimp only
  rw [hsubjectKey, raiseIf_neg howner, ok_bind, hobservations]
  dsimp only
  have hfindContent := findContent_eq hbatch.hashes hbatch.ids hr
  have hidr : r.observationId = row.observationId := hid
  rw [hidr] at hfindContent
  rw [hfindContent, hcontent]

/-- The archive's own error for what is too large. -/
def Small : ArchiveError → Prop
  | .payloadLimitError _ => False
  | _ => True

def NotTooLarge : ObservationError → Prop
  | .archive e => Small e
  | .sourceConflict => True

/-- The archive's own error for what is too large is raised only where a selection need not be compact. -/
def Unlimited (cfg : ObservationConfig) (P : SelectionRule) (e : ObservationError) : Prop :=
  (∀ subjectId rows, P subjectId rows → Compact cfg subjectId rows) → NotTooLarge e

lemma fault_unlimited (fault : Fault) : Unlimited cfg P fault.error := by
  intro _
  cases fault with
  | os message => trivial
  | database message => trivial
  | other name => trivial

lemma unlimited_of_small {α : Type} {r : Except ArchiveError α} (h : Raises Small r) :
    Raises (Unlimited cfg P) (r.mapError ObservationError.archive) :=
  Raises.mapError (fun e he _ => h e he)

lemma raises_validateSourceBounds (m : StagingManifest) : Raises (Unlimited cfg P) (validateSourceBounds m) := by
  unfold validateSourceBounds
  exact (raises_raiseIf (fun _ => trivial)).bind (fun _ _ => (raises_raiseIf (fun _ => trivial)).bind
    (fun _ _ => raises_raiseIf (fun _ => trivial)))

/-- A segment within the limit passes the bounded decompression of the check. -/
lemma raises_verify {m : StagingManifest} {rows : List ObservationRow} (h : Batch cfg P m.toSegmentInput rows)
    (compressed : Bytes) :
    Raises (Unlimited cfg P) (verifyStagedPayload cfg m compressed) := by
  unfold verifyStagedPayload
  refine (raises_raiseIf (fun _ => trivial)).bind (fun _ hhash => ?_)
  have hsame : compressed = cfg.compress (encodeSegment cfg m.subjectId rows) :=
    cfg.sha256_injective ((not_not.mp (raiseIf_eq_ok.mp hhash)).trans h.plaintext)
  have hbody : Raises (Unlimited cfg P) (stagedBody cfg compressed) := by
    intro e he hcompact
    unfold stagedBody at he
    rw [hsame, cfg.decompress_compress _ _ (hcompact _ _ h.selected).1] at he
    have hparsed : Raises NotTooLarge (orRaise (loadsBytes cfg (encodeSegment cfg m.subjectId rows))
        (integrity "observation archive staged payload is invalid")) := raises_orRaise trivial
    exact hparsed e he
  refine hbody.bind (fun body _ => ?_)
  have hentry : ∀ item, Raises (Unlimited cfg P) (stagedEntry cfg item) := by
    intro item
    unfold stagedEntry
    split
    · split
      · exact (raises_raiseIf (fun _ => trivial)).bind
          (fun _ _ => (raises_raiseIf (fun _ => trivial)).bind (fun _ _ => raises_ok _))
      · exact raises_error (fun _ => trivial)
    · exact raises_error (fun _ => trivial)
  split
  · refine (raises_raiseIf (fun _ => trivial)).bind (fun _ _ => (raises_validateSourceBounds m).bind (fun _ _ => ?_))
    split
    · exact (raises_mapM hentry).bind (fun _ _ => (raises_raiseIf (fun _ => trivial)).bind
        (fun _ _ => raises_raiseIf (fun _ => trivial)))
    · exact raises_error (fun _ => trivial)
  · exact raises_error (fun _ => trivial)

lemma raises_prepare (t : StagingTables) (i : SegmentInput) (manifestId now : Nat) :
    Raises Small (prepare t i manifestId now) := by
  unfold prepare
  refine (raises_raiseIf trivial).bind (fun _ _ => ?_)
  split
  · exact (raises_raiseIf trivial).bind (fun _ _ => raises_ok _)
  · refine (raises_raiseIf trivial).bind (fun _ _ => (raises_raiseIf trivial).bind (fun _ _ => ?_))
    exact (raises_orRaise trivial).bind (fun _ _ => raises_ok _)

lemma raises_markStored (t : StagingTables) (manifestId byteSize : Nat) (storedHash : String) (now : Nat) :
    Raises Small (markStored t manifestId byteSize storedHash now) := by
  unfold markStored
  refine (raises_orRaise trivial).bind (fun m _ => ?_)
  split
  · exact raises_ok _
  · exact (raises_raiseIf trivial).bind (fun _ _ => (raises_raiseIf trivial).bind (fun _ _ => raises_ok _))

lemma raises_finalize (manifestId : Nat) (sourceState : List SourceItem) (subjectId : String) (now : Nat) :
    Raises (Unlimited cfg P) (w.finalize cfg manifestId sourceState subjectId now) := by
  have hcheck : ∀ item, Raises (Unlimited cfg P) (checkSource cfg w.observations subjectId item) := by
    intro item
    unfold checkSource
    split
    · refine (raises_raiseIf (fun _ => trivial)).bind
        (fun _ _ => (raises_raiseIf (fun _ => trivial)).bind (fun _ _ => ?_))
      exact raises_raiseIf (fun _ => trivial)
    · exact raises_error (fun _ => trivial)
  have hblank : ∀ objectKey observations item, Raises (Unlimited cfg P)
      (blankSource subjectId objectKey now observations item) := by
    intro objectKey observations item
    unfold blankSource
    split
    · exact (raises_raiseIf (fun _ => trivial)).bind (fun _ _ => raises_ok _)
    · exact raises_error (fun _ => trivial)
  have hpublish : ∀ m, Raises Small (publish w.staging m now) := by
    intro m
    unfold publish
    exact (raises_raiseIf trivial).bind (fun _ _ => raises_ok _)
  unfold ObservationWorld.finalize
  refine (raises_orRaise (fun _ => trivial)).bind (fun m _ => (raises_raiseIf (fun _ => trivial)).bind (fun _ _ => ?_))
  refine (raises_forM hcheck).bind (fun _ _ => ?_)
  exact (raises_foldlM (hblank m.objectKey)).bind (fun _ _ => (unlimited_of_small (hpublish m)).bind
    (fun _ _ => raises_ok _))

/-! ### What a step keeps -/

/-- A row is sound as long as the committed manifests stay. -/
lemma RowSound.keep (hmanifests : ∀ m ∈ w.staging.manifests, m.status = .committed → m ∈ w'.staging.manifests)
    {row : ObservationRow} (h : RowSound cfg w row) : RowSound cfg w' row := by
  rcases h with h | ⟨m, hm, hcommitted, h⟩
  · exact .inl h
  · exact .inr ⟨m, hmanifests m hm hcommitted, hcommitted, h⟩

/-- A manifest is replaced by one with the same selection. -/
lemma Later.replace {m m' : StagingManifest} (hm : m ∈ w.staging.manifests) (hid : m'.manifestId = m.manifestId)
    (hinput : m'.toSegmentInput = m.toSegmentInput)
    (hmanifests : w'.staging.manifests = w.staging.manifests.replace m') : Later w w' := by
  intro x hx
  rw [hmanifests]
  by_cases hkey : x.manifestId = m'.manifestId
  · have hxm : x = m := Table.eq_of_key hx hm (hkey.trans hid)
    subst hxm
    exact ⟨m', Table.mem_replace.mpr (.inl ⟨rfl, x, hx, hkey⟩), hid, hinput⟩
  · exact ⟨x, Table.mem_replace.mpr (.inr ⟨hx, hkey⟩), rfl, rfl⟩

/-- Every manifest of the new table was there with the same selection. -/
lemma before_replace {m m' x : StagingManifest} (hm : m ∈ w.staging.manifests) (hid : m'.manifestId = m.manifestId)
    (hinput : m'.toSegmentInput = m.toSegmentInput) (hx : x ∈ w.staging.manifests.replace m') :
    ∃ y ∈ w.staging.manifests, y.manifestId = x.manifestId ∧ y.toSegmentInput = x.toSegmentInput := by
  rcases Table.mem_replace.mp hx with ⟨rfl, -⟩ | ⟨hold, -⟩
  · exact ⟨m, hm, hid.symm, hinput.symm⟩
  · exact ⟨x, hold, rfl, rfl⟩

lemma Sound.batches_replace (h : Sound cfg P w) {m m' : StagingManifest} (hm : m ∈ w.staging.manifests)
    (hid : m'.manifestId = m.manifestId)
    (hinput : m'.toSegmentInput = m.toSegmentInput) :
    ∀ x ∈ w.staging.manifests.replace m', ∃ rows, Batch cfg P x.toSegmentInput rows := by
  intro x hx
  obtain ⟨y, hy, -, hsame⟩ := before_replace hm hid hinput hx
  rw [← hsame]
  exact h.batches y hy

lemma Sound.keys_replace (h : Sound cfg P w) {m m' : StagingManifest} (hm : m ∈ w.staging.manifests)
    (hid : m'.manifestId = m.manifestId)
    (hinput : m'.toSegmentInput = m.toSegmentInput) :
    ∀ x ∈ w.staging.manifests.replace m', ∀ x' ∈ w.staging.manifests.replace m', x.objectKey = x'.objectKey →
    x = x' := by
  intro x hx x' hx' hkey
  obtain ⟨y, hy, hyid, hysame⟩ := before_replace hm hid hinput hx
  obtain ⟨y', hy', hyid', hysame'⟩ := before_replace hm hid hinput hx'
  have hyy : y = y' := h.keys y hy y' hy' (by rw [hysame, hysame', hkey])
  exact Table.eq_of_key hx hx' (hyid.symm.trans ((congrArg StagingManifest.manifestId hyy).trans hyid'))

/-- A manifest that is not committed before or after the step. -/
lemma Sound.replace (h : Sound cfg P w) {m m' : StagingManifest} (hm : m ∈ w.staging.manifests)
    (hid : m'.manifestId = m.manifestId)
    (hinput : m'.toSegmentInput = m.toSegmentInput) (hbefore : m.status ≠ .committed) (hafter : m'.status ≠ .committed)
    (hmanifests : w'.staging.manifests = w.staging.manifests.replace m')
    (hsegments : w'.staging.segments = w.staging.segments)
    (hobservations : w'.observations = w.observations) : Sound cfg P w' := by
  have hkept : ∀ x ∈ w.staging.manifests, x.status = .committed → x ∈ w'.staging.manifests := by
    intro x hx hcommitted
    rw [hmanifests]
    refine Table.mem_replace.mpr (.inr ⟨hx, fun hkey => ?_⟩)
    rw [Table.eq_of_key hx hm (hkey.trans hid)] at hcommitted
    exact hbefore hcommitted
  constructor
  · rw [hmanifests]
    exact h.batches_replace hm hid hinput
  · rw [hmanifests]
    exact h.keys_replace hm hid hinput
  · intro g hg
    rw [hsegments] at hg
    obtain ⟨x, hx, hcommitted, now, hsegment⟩ := h.segments g hg
    exact ⟨x, hkept x hx hcommitted, hcommitted, now, hsegment⟩
  · intro x hx hcommitted
    rw [hmanifests] at hx
    rw [hsegments]
    rcases Table.mem_replace.mp hx with ⟨rfl, -⟩ | ⟨hold, -⟩
    · exact absurd hcommitted hafter
    · exact h.published x hold hcommitted
  · intro row hrow
    rw [hobservations] at hrow
    exact (h.rows row hrow).keep hkept

/-- What the state keeps, and how far it moves. -/
structure Kept (cfg : ObservationConfig) (P : SelectionRule) (w w' : ObservationWorld) : Prop where
  sound : Sound cfg P w'
  later : Later w w'

lemma Kept.refl (h : Sound cfg P w) : Kept cfg P w w := ⟨h, Later.refl w⟩

lemma Kept.replace (h : Sound cfg P w) {m m' : StagingManifest} (hm : m ∈ w.staging.manifests)
    (hid : m'.manifestId = m.manifestId)
    (hinput : m'.toSegmentInput = m.toSegmentInput) (hbefore : m.status ≠ .committed)
    (hafter : m'.status ≠ .committed) :
    Kept cfg P w { w with staging := { w.staging with manifests := w.staging.manifests.replace m' } } :=
  ⟨h.replace hm hid hinput hbefore hafter rfl rfl rfl, Later.replace hm hid hinput rfl⟩

lemma prepare_kept (h : Sound cfg P w) {i : SegmentInput} {rows : List ObservationRow} (hbatch : Batch cfg P i rows)
    {manifestId result now : Nat} {t : StagingTables} (hp : prepare w.staging i manifestId now = .ok (result, t)) :
    Kept cfg P w { w with staging := t } := by
  unfold prepare at hp
  obtain ⟨-, -, hp⟩ := bind_eq_ok.mp hp
  split at hp
  · obtain ⟨-, -, hp⟩ := bind_eq_ok.mp hp
    cases hp
    exact Kept.refl h
  · obtain ⟨-, -, hp⟩ := bind_eq_ok.mp hp
    obtain ⟨_, hfree, hp⟩ := bind_eq_ok.mp hp
    obtain ⟨manifests, hinsert, hp⟩ := bind_eq_ok.mp hp
    cases hp
    obtain ⟨-, hrows⟩ := Table.insert?_eq_some.mp (orRaise_eq_ok.mp hinsert)
    have hmem : ∀ x, x ∈ manifests ↔ x ∈ w.staging.manifests ∨
        x = ⟨i, manifestId, none, none, .prepared, none, now, none⟩ := by
      intro x
      rw [Table.mem_def, hrows, List.mem_append, List.mem_singleton]
      exact Iff.rfl
    have hnew : ∀ x ∈ w.staging.manifests, x.objectKey ≠ i.objectKey :=
      fun x hx hkey => raiseIf_eq_ok.mp hfree ⟨x, hx, hkey⟩
    refine ⟨⟨?_, ?_, ?_, ?_, ?_⟩, fun x hx => ⟨x, (hmem x).mpr (.inl hx), rfl, rfl⟩⟩
    · intro x hx
      rcases (hmem x).mp hx with hold | rfl
      · exact h.batches x hold
      · exact ⟨rows, hbatch⟩
    · intro x hx x' hx' hkey
      rcases (hmem x).mp hx with hold | rfl
      · rcases (hmem x').mp hx' with hold' | rfl
        · exact h.keys x hold x' hold' hkey
        · exact absurd hkey (hnew x hold)
      · rcases (hmem x').mp hx' with hold' | rfl
        · exact absurd hkey.symm (hnew x' hold')
        · rfl
    · intro g hg
      obtain ⟨x, hx, hcommitted, hsegment⟩ := h.segments g hg
      exact ⟨x, (hmem x).mpr (.inl hx), hcommitted, hsegment⟩
    · intro x hx hcommitted
      rcases (hmem x).mp hx with hold | rfl
      · exact h.published x hold hcommitted
      · cases hcommitted
    · exact fun row hrow => (h.rows row hrow).keep (fun x hx _ => (hmem x).mpr (.inl hx))

lemma markStored_kept (h : Sound cfg P w) {manifestId byteSize now : Nat} {storedHash : String} {t : StagingTables}
    (hs : markStored w.staging manifestId byteSize storedHash now = .ok t) : Kept cfg P w { w with staging := t } := by
  unfold markStored at hs
  obtain ⟨m, hm, hs⟩ := bind_eq_ok.mp hs
  obtain ⟨hmem, -⟩ := Table.find?_eq_some.mp (orRaise_eq_ok.mp hm)
  split at hs
  · next hprepared =>
    cases hs
    exact Kept.replace h hmem rfl rfl (by rw [hprepared]; decide) (fun hc => by cases hc)
  · obtain ⟨-, -, hs⟩ := bind_eq_ok.mp hs
    obtain ⟨-, -, hs⟩ := bind_eq_ok.mp hs
    cases hs
    exact Kept.refl h

lemma markAbandoned_kept (h : Sound cfg P w) (manifestId : Nat) (code : String) (now : Nat) :
    Kept cfg P w { w with staging := (markAbandoned w.staging manifestId code now).2 } := by
  unfold markAbandoned
  split
  · exact Kept.refl h
  · next m hm =>
    obtain ⟨hmem, -⟩ := Table.find?_eq_some.mp hm
    split
    · next hlive =>
      refine Kept.replace h hmem rfl rfl ?_ (fun hc => by cases hc)
      intro hcommitted
      rcases hlive with hlive | hlive
      · rw [hcommitted] at hlive
        cases hlive
      · rw [hcommitted] at hlive
        cases hlive
    · exact Kept.refl h

lemma markRemoved_kept (h : Sound cfg P w) (manifestId now : Nat) :
    Kept cfg P w { w with staging := markRemoved w.staging manifestId now } := by
  unfold markRemoved
  split
  · exact Kept.refl h
  · next m hm =>
    obtain ⟨hmem, -⟩ := Table.find?_eq_some.mp hm
    split
    · next habandoned => exact Kept.replace h hmem rfl rfl (by rw [habandoned]; decide) (fun hc => by cases hc)
    · exact Kept.refl h

/-- Blanking the sources of a manifest. -/
lemma blankSources_spec {observations observations' : Table ObservationRow.observationId}
    {subjectId objectKey : String} {now : Nat}
    {sources : List SourceItem} (h : sources.foldlM (blankSource subjectId objectKey now) observations =
      .ok observations') :
    ∀ row' ∈ observations', row' ∈ observations ∨
      ∃ row ∈ observations, row.contentArchiveKey = none ∧ row' = row.blanked objectKey now ∧
        ∃ item ∈ sources, item.itemId = row.observationId := by
  refine @foldlM_preserves _ _ _ _ (fun t => ∀ row' ∈ t, row' ∈ observations ∨
      ∃ row ∈ observations, row.contentArchiveKey = none ∧ row' = row.blanked objectKey now ∧
        ∃ item ∈ sources, item.itemId = row.observationId) _ _ _
    ?_ h (fun row' hrow' => .inl hrow')
  intro item hitem t t' ht hstep row' hrow'
  unfold blankSource at hstep
  split at hstep
  · next row hrow =>
    obtain ⟨_, hcheck, hstep⟩ := bind_eq_ok.mp hstep
    cases hstep
    have hfresh : row.contentArchiveKey = none := not_not.mp (not_or.mp (raiseIf_eq_ok.mp hcheck)).2
    obtain ⟨hmem, hid⟩ := Table.find?_eq_some.mp hrow
    rcases Table.mem_replace.mp hrow' with ⟨rfl, -⟩ | ⟨hold, -⟩
    · rcases ht row hmem with horiginal | ⟨row₀, -, -, rfl, -⟩
      · exact .inr ⟨row, horiginal, hfresh, rfl, item, hitem, hid.symm⟩
      · cases hfresh
    · exact ht row' hold
  · cases hstep

/-- The transaction of `_finalize_staged_manifest`. -/
lemma finalize_kept (h : Sound cfg P w) {manifestId now : Nat} {sources : List SourceItem} {subjectId : String}
    (howner : ∃ m ∈ w.staging.manifests, m.manifestId = manifestId ∧ m.subjectId = subjectId)
    (hf : w.finalize cfg manifestId sources subjectId now = .ok w') : Kept cfg P w w' := by
  unfold ObservationWorld.finalize at hf
  obtain ⟨m, hm, hf⟩ := bind_eq_ok.mp hf
  obtain ⟨_, hsame, hf⟩ := bind_eq_ok.mp hf
  obtain ⟨_, hchecks, hf⟩ := bind_eq_ok.mp hf
  obtain ⟨observations, hblank, hf⟩ := bind_eq_ok.mp hf
  obtain ⟨t, hpublish, hf⟩ := bind_eq_ok.mp hf
  cases hf
  obtain ⟨hfind, hstored⟩ := Option.filter_eq_some_iff.mp (orRaise_eq_ok.mp hm)
  obtain ⟨hmem, hid⟩ := Table.find?_eq_some.mp hfind
  have hstatus : m.status = .stored := of_decide_eq_true hstored
  have hsources : m.sourceState = sources := not_not.mp (raiseIf_eq_ok.mp hsame)
  have hsubject : m.subjectId = subjectId := by
    obtain ⟨m₀, hm₀, hid₀, hsubject₀⟩ := howner
    rw [Table.eq_of_key hmem hm₀ (hid.trans hid₀.symm)]
    exact hsubject₀
  have ht : t = ⟨w.staging.manifests.replace (m.asCommitted now), w.staging.segments ++ [m.segment now]⟩ := by
    unfold publish at hpublish
    obtain ⟨_, -, hpublish⟩ := bind_eq_ok.mp (mapError_eq_ok.mp hpublish)
    cases hpublish
    rfl
  subst ht
  have hcommitted : m.asCommitted now ∈ w.staging.manifests.replace (m.asCommitted now) :=
    Table.mem_replace.mpr (.inl ⟨rfl, m, hmem, rfl⟩)
  have hkept : ∀ x ∈ w.staging.manifests, x.status = .committed →
      x ∈ w.staging.manifests.replace (m.asCommitted now) := by
    intro x hx hx'
    refine Table.mem_replace.mpr (.inr ⟨hx, fun hkey => ?_⟩)
    rw [Table.eq_of_key hx hmem hkey, hstatus] at hx'
    cases hx'
  refine ⟨⟨h.batches_replace hmem rfl rfl, h.keys_replace hmem rfl rfl, ?_, ?_, ?_⟩,
    @Later.replace _ _ m (m.asCommitted now) hmem rfl rfl rfl⟩
  · intro g hg
    rcases List.mem_append.mp hg with hold | hnew
    · obtain ⟨x, hx, hx', hsegment⟩ := h.segments g hold
      exact ⟨x, hkept x hx hx', hx', hsegment⟩
    · exact ⟨m.asCommitted now, hcommitted, rfl, now, List.mem_singleton.mp hnew⟩
  · intro x hx hx'
    rcases Table.mem_replace.mp hx with ⟨rfl, -⟩ | ⟨hold, -⟩
    · exact ⟨now, List.mem_append_right _ (List.mem_singleton.mpr rfl)⟩
    · obtain ⟨time, htime⟩ := h.published x hold hx'
      exact ⟨time, List.mem_append_left _ htime⟩
  · intro row' hrow'
    rcases blankSources_spec hblank row' hrow' with hold | ⟨row, hrow, hfresh, rfl, item, hitem, hitemId⟩
    · exact (h.rows row' hold).keep hkept
    · have hcheck := of_forM_eq_ok hchecks item hitem
      unfold checkSource at hcheck
      rw [hitemId, Table.find?_key hrow] at hcheck
      dsimp only at hcheck
      obtain ⟨_, hunchanged, hcheck⟩ := bind_eq_ok.mp hcheck
      obtain ⟨_, hhash, -⟩ := bind_eq_ok.mp hcheck
      have howns : row.subjectId = subjectId := not_not.mp (not_or.mp (raiseIf_eq_ok.mp hunchanged)).1
      have hcontent : row.contentHash = item.contentHash := not_not.mp (not_or.mp (raiseIf_eq_ok.mp hhash)).2
      rcases h.rows row hrow with ⟨-, -, hingested⟩ | ⟨x, -, -, hkey, -⟩
      · refine .inr ⟨m.asCommitted now, hcommitted, rfl, rfl, howns.trans hsubject.symm, item, ?_, hitemId,
          hcontent.symm.trans hingested⟩
        change item ∈ m.sourceState
        rw [hsources]
        exact hitem
      · rw [hfresh] at hkey
        cases hkey

/-! ### Commands -/

/-- What a call knows before it runs a command. -/
def Pre (cfg : ObservationConfig) (P : SelectionRule) (c : ObservationCommand) (w : ObservationWorld) : Prop :=
  match c with
  | .prepare i => ∃ rows, Batch cfg P i rows
  | .finalize manifestId _ subjectId => ∃ m ∈ w.staging.manifests, m.manifestId = manifestId ∧ m.subjectId = subjectId
  | _ => True

/-- What it knows of the result. -/
def Post (cfg : ObservationConfig) (P : SelectionRule) : (c : ObservationCommand) → c.Result → ObservationWorld → Prop
  | .select subjectId _ _, rows, _ => rows ≠ [] → Selected cfg P subjectId rows
  | .getManifest manifestId, found, w => ∀ m, found = some m → m ∈ w.staging.manifests ∧ m.manifestId = manifestId
  | _, _, _ => True

/-- Reads with a limit. -/
def Limited : ObservationCommand → Prop
  | .get _ maxBytes => maxBytes ≠ none
  | .storedMetadata _ maxBytes => maxBytes ≠ none
  | _ => False

lemma Pre.later {c : ObservationCommand} (h : Pre cfg P c w) (hw : Later w w') : Pre cfg P c w' := by
  cases c with
  | finalize manifestId sources subjectId =>
    obtain ⟨m, hm, hid, hsubject⟩ := h
    obtain ⟨m', hm', hid', hinput⟩ := hw m hm
    exact ⟨m', hm', hid'.trans hid, (congrArg SegmentInput.subjectId hinput).trans hsubject⟩
  | _ => exact h

lemma boundedRead_sublist (candidates rows : List ObservationRow) (sourceBytes : Nat) :
    (ObservationWorld.boundedRead candidates rows sourceBytes).Sublist (rows ++ candidates) := by
  induction candidates generalizing rows sourceBytes with
  | nil =>
    rw [List.append_nil]
    exact List.Sublist.refl rows
  | cons candidate rest ih =>
    unfold ObservationWorld.boundedRead
    split
    · exact List.sublist_append_left rows (candidate :: rest)
    · split
      · have hrest := ih (rows ++ [candidate]) (sourceBytes + candidate.contentBytes)
        rw [List.append_assoc, List.singleton_append] at hrest
        exact hrest
      · exact (ih rows sourceBytes).trans ((List.Sublist.refl rows).append (List.sublist_cons_self candidate rest))

/-- The rows of a selection are rows of the table that are not archived. -/
lemma mem_selection {subjectId cutoff : String} {limit : Nat} {row : ObservationRow}
    (h : row ∈ w.selection subjectId cutoff limit) :
    row ∈ w.observations ∧ row.contentArchiveKey = none := by
  unfold ObservationWorld.selection at h
  have hcandidate := (boundedRead_sublist (w.candidates subjectId cutoff limit) [] 0).subset h
  unfold ObservationWorld.candidates at hcandidate
  have hfiltered := (List.mem_insertionSort _).mp (List.mem_of_mem_take hcandidate)
  obtain ⟨hmem, htest⟩ := List.mem_filter.mp hfiltered
  simp only [Bool.and_eq_true, Option.isNone_iff_eq_none] at htest
  exact ⟨hmem, htest.1.1.2⟩

lemma selection_ids (subjectId cutoff : String) (limit : Nat) :
    ((w.selection subjectId cutoff limit).map ObservationRow.observationId).Nodup := by
  have hread := (boundedRead_sublist (w.candidates subjectId cutoff limit) [] 0).map ObservationRow.observationId
  refine hread.nodup ?_
  unfold ObservationWorld.candidates
  refine ((List.take_sublist _ _).map ObservationRow.observationId).nodup ?_
  refine ((List.perm_insertionSort _ _).map ObservationRow.observationId).nodup_iff.mpr ?_
  exact (List.filter_sublist.map ObservationRow.observationId).nodup w.observations.nodup

lemma Sound.selected (h : Sound cfg P w) {subjectId cutoff : String} {limit : Nat}
    (hselected : P subjectId (w.selection subjectId cutoff limit)) :
    Selected cfg P subjectId (w.selection subjectId cutoff limit) := by
  refine ⟨hselected, ?_, selection_ids subjectId cutoff limit⟩
  intro row hrow
  obtain ⟨hmem, hfresh⟩ := mem_selection hrow
  rcases h.rows row hmem with ⟨-, hcontent, hhash⟩ | ⟨m, -, -, hkey, -⟩
  · rw [hcontent]
    exact hhash
  · rw [hfresh] at hkey
    cases hkey

/-- What every command does. -/
lemma run_kept (h : Sound cfg P w) {x : ObservationReading} {c : ObservationCommand} (hpre : Pre cfg P c w)
    (hfits : Selects P c x w) {r : c.Result}
    (hr : w.run cfg x c = .ok (r, w')) : Kept cfg P w w' ∧ Post cfg P c r w' := by
  have hsame : ∀ {v : ObservationWorld}, v.staging = w.staging → v.observations = w.observations → Kept cfg P w v := by
    intro v hstaging hobservations
    refine ⟨⟨?_, ?_, ?_, ?_, ?_⟩, Later.of_eq hstaging⟩
    · rw [hstaging]
      exact h.batches
    · rw [hstaging]
      exact h.keys
    · rw [hstaging]
      exact h.segments
    · rw [hstaging]
      exact h.published
    · rw [hobservations]
      exact fun row hrow => (h.rows row hrow).keep (by rw [hstaging]; exact fun m hm _ => hm)
  cases c with
  | recordRevision =>
    cases hr
    exact ⟨Kept.refl h, trivial⟩
  | liveManifests subjectId limit =>
    cases hr
    exact ⟨Kept.refl h, trivial⟩
  | select subjectId cutoff limit =>
    cases hr
    exact ⟨Kept.refl h, fun hne => h.selected (hfits hne)⟩
  | prepare i =>
    obtain ⟨⟨manifestId, t⟩, hp, hr⟩ := bind_eq_ok.mp hr
    cases hr
    obtain ⟨rows, hbatch⟩ := hpre
    exact ⟨prepare_kept h hbatch (mapError_eq_ok.mp hp), trivial⟩
  | assertLease =>
    cases hr
    exact ⟨Kept.refl h, trivial⟩
  | put objectKey payload =>
    cases hr
    exact ⟨hsame rfl rfl, trivial⟩
  | get objectKey maxBytes =>
    obtain ⟨payload, -, hr⟩ := bind_eq_ok.mp hr
    cases hr
    exact ⟨Kept.refl h, trivial⟩
  | getManifest manifestId =>
    cases hr
    exact ⟨Kept.refl h, fun m hm => Table.find?_eq_some.mp hm⟩
  | storedMetadata objectKey maxBytes =>
    obtain ⟨metadata, -, hr⟩ := bind_eq_ok.mp hr
    cases hr
    exact ⟨Kept.refl h, trivial⟩
  | markStored manifestId byteSize storedHash =>
    obtain ⟨t, hs, hr⟩ := bind_eq_ok.mp hr
    cases hr
    exact ⟨markStored_kept h (mapError_eq_ok.mp hs), trivial⟩
  | markAbandoned manifestId code =>
    cases hr
    exact ⟨markAbandoned_kept h manifestId code x.now, trivial⟩
  | markRemoved manifestId =>
    cases hr
    exact ⟨markRemoved_kept h manifestId x.now, trivial⟩
  | delete objectKey =>
    cases hr
    exact ⟨hsame rfl rfl, trivial⟩
  | finalize manifestId sources subjectId =>
    obtain ⟨v, hf, hr⟩ := bind_eq_ok.mp hr
    cases hr
    exact ⟨finalize_kept h hpre hf, trivial⟩
  | ingest observationId subjectId fetchedAt content =>
    obtain ⟨_, -, hr⟩ := bind_eq_ok.mp hr
    obtain ⟨observations, hinsert, hr⟩ := bind_eq_ok.mp hr
    cases hr
    obtain ⟨-, hrows⟩ := Table.insert?_eq_some.mp (orRaise_eq_ok.mp hinsert)
    refine ⟨⟨⟨h.batches, h.keys, h.segments, h.published, ?_⟩, Later.of_eq rfl⟩, trivial⟩
    intro row hrow
    have hrow' : row ∈ observations.rows := hrow
    rw [hrows] at hrow'
    rcases List.mem_append.mp hrow' with hold | hnew
    · exact (h.rows row hold).keep (fun m hm _ => hm)
    · rw [List.mem_singleton.mp hnew]
      exact .inl ⟨rfl, rfl, rfl⟩
  | replaceFile objectKey object =>
    cases hr
    exact ⟨hsame rfl rfl, trivial⟩

/-- Only a read with a limit raises the error for what is too large. -/
lemma raises_run {x : ObservationReading} {c : ObservationCommand} (hc : ¬ Limited c) :
    Raises (Unlimited cfg P) (w.run cfg x c) := by
  have hstored : ∀ objectKey, Raises (Unlimited cfg P) (w.stored objectKey none) := by
    intro objectKey
    unfold ObservationWorld.stored
    refine (raises_orRaise (fun _ => trivial)).bind (fun object _ => ?_)
    rw [raiseIf_neg (by simp)]
    exact raises_ok object
  cases c with
  | prepare i =>
    exact (unlimited_of_small (raises_prepare w.staging i x.manifestId x.now)).bind (fun _ _ => raises_ok _)
  | get objectKey maxBytes =>
    cases not_not.mp hc
    refine Raises.bind ?_ (fun _ _ => raises_ok _)
    unfold ObservationWorld.get
    refine (hstored objectKey).bind (fun object _ => ?_)
    cases object with
    | sealed payload hash => exact raises_ok payload
    | broken size hash => exact raises_error (fun _ => trivial)
  | storedMetadata objectKey maxBytes =>
    cases not_not.mp hc
    refine Raises.bind ?_ (fun _ _ => raises_ok _)
    unfold ObservationWorld.storedMetadata
    exact (hstored objectKey).bind (fun object _ => raises_ok _)
  | markStored manifestId byteSize storedHash =>
    exact (unlimited_of_small (raises_markStored w.staging manifestId byteSize storedHash x.now)).bind
      (fun _ _ => raises_ok _)
  | finalize manifestId sources subjectId =>
    exact (raises_finalize manifestId sources subjectId x.now).bind (fun _ _ => raises_ok _)
  | ingest observationId subjectId fetchedAt content =>
    exact (raises_raiseIf (fun _ => trivial)).bind
      (fun _ _ => (raises_orRaise (fun _ => trivial)).bind (fun _ _ => raises_ok _))
  | _ => exact raises_ok _

lemma exec_kept (h : Sound cfg P w) {x : ObservationReading} {c : ObservationCommand} (hpre : Pre cfg P c w)
    (hfits : Selects P c x w) {r : c.Result}
    (hr : (observationStore cfg).exec c x w = .ok (r, w')) : Kept cfg P w w' ∧ Post cfg P c r w' := by
  unfold observationStore at hr
  dsimp only at hr
  cases hfault : x.fault with
  | none =>
    rw [hfault] at hr
    exact run_kept h hpre hfits hr
  | some fault =>
    rw [hfault] at hr
    cases hr

lemma raises_exec {x : ObservationReading} {c : ObservationCommand} (hc : ¬ Limited c) :
    Raises (Unlimited cfg P) ((observationStore cfg).exec c x w) := by
  unfold observationStore
  dsimp only
  cases x.fault with
  | none => exact raises_run hc
  | some fault => exact raises_error (fault_unlimited fault)

open Call

/-- The call keeps the contract, and what it promises of its end. -/
abbrev Keeps {α : Type} (cfg : ObservationConfig) (P : SelectionRule)
    (Q : Except ObservationError α → ObservationWorld → Prop)
    (call : ObservationCall α) (w : ObservationWorld) : Prop :=
  call.Given (observationStore cfg) (contract cfg P) (Selects P) Q w

/-- It does not end because something is too large. -/
abbrev Quiet {α : Type} (cfg : ObservationConfig) (P : SelectionRule) (call : ObservationCall α)
    (w : ObservationWorld) : Prop :=
  Keeps cfg P (fun r _ => Raises (Unlimited cfg P) r) call w

variable {α β : Type}

/-- A transaction and what follows it, whether it returns or raises. -/
lemma keeps_perform {c : ObservationCommand} {k : Except ObservationError c.Result → ObservationCall α}
    {Q : Except ObservationError α → ObservationWorld → Prop} (hpre : Pre cfg P c w)
    (hok : ∀ r w', Later w w' → Sound cfg P w' → Post cfg P c r w' → Keeps cfg P Q (k (.ok r)) w')
    (herror : ∀ e w', (¬ Limited c → Unlimited cfg P e) → Keeps cfg P Q (k (.error e)) w') :
    Keeps cfg P Q (.perform c k) w := by
  intro w₁ x hw hsound hselects
  refine ⟨fun r w₂ hexec => ?_, fun e hexec => herror e w₁ (fun hc => raises_exec hc e hexec)⟩
  obtain ⟨hkept, hpost⟩ := exec_kept hsound (hpre.later hw) hselects hexec
  exact ⟨hkept.sound, hkept.later, hok r w₂ (hw.trans hkept.later) hkept.sound hpost⟩

/-- A transaction followed by the rest of its call. -/
lemma keeps_transact_bind {c : ObservationCommand} {f : c.Result → ObservationCall α}
    {Q : Except ObservationError α → ObservationWorld → Prop} (hpre : Pre cfg P c w)
    (hok : ∀ r w', Later w w' → Sound cfg P w' → Post cfg P c r w' → Keeps cfg P Q (f r) w')
    (herror : ∀ e v, (¬ Limited c → Unlimited cfg P e) → Q (.error e) v) : Keeps cfg P Q (transact c >>= f) w :=
  keeps_perform hpre hok (fun e _ he v _ => herror e v he)

lemma quiet_transact {c : ObservationCommand} (hpre : Pre cfg P c w) (hc : ¬ Limited c) : Quiet cfg P (transact c) w :=
  keeps_perform hpre (fun r _ _ _ _ _ _ => raises_ok r) (fun _ _ he _ _ => raises_error (he hc))

lemma quiet_transact_bind {c : ObservationCommand} {f : c.Result → ObservationCall α} (hpre : Pre cfg P c w)
    (hc : ¬ Limited c) (hok : ∀ r w', Later w w' → Sound cfg P w' → Post cfg P c r w' → Quiet cfg P (f r) w') :
    Quiet cfg P (transact c >>= f) w :=
  keeps_transact_bind hpre hok (fun _ _ he => raises_error (he hc))

lemma quiet_pure (a : α) : Quiet cfg P (pure a) w := given_pure (fun _ _ => raises_ok a)

lemma quiet_done {r : Except ObservationError α} (h : Raises (Unlimited cfg P) r) : Quiet cfg P (done r) w :=
  fun _ _ => h

lemma quiet_raise {e : ObservationError} (h : Unlimited cfg P e) : Quiet cfg P (raise e : ObservationCall α) w :=
  quiet_done (raises_error h)

lemma quiet_check_bind {r : Except ObservationError α} {f : α → ObservationCall β} (hr : Raises (Unlimited cfg P) r)
    (hok : ∀ a, r = .ok a → Quiet cfg P (f a) w) : Quiet cfg P (check r >>= f) w :=
  given_check_bind hok (fun e he _ _ => raises_error (hr e he))

/-- A call with a handler for what it raises. -/
lemma quiet_andThen {call : ObservationCall α} {f : Except ObservationError α → ObservationCall β}
    (h : Quiet cfg P call w) (hok : ∀ a w', Later w w' → Quiet cfg P (f (.ok a)) w')
    (herror : ∀ e w', Later w w' → Unlimited cfg P e → Quiet cfg P (f (.error e)) w') :
    Quiet cfg P (call.andThen f) w := by
  apply Given.andThen
  apply h.mono
  intro r w' hw hr
  cases r with
  | ok a => exact hok a w' hw
  | error e => exact herror e w' hw (hr e rfl)

lemma quiet_bind {call : ObservationCall α} {f : α → ObservationCall β} (h : Quiet cfg P call w)
    (hok : ∀ a w', Later w w' → Quiet cfg P (f a) w') :
    Quiet cfg P (call >>= f) w :=
  quiet_andThen h hok (fun _ _ _ he => quiet_raise he)

lemma quiet_deleteSuppressed (objectKey : String) : Quiet cfg P (deleteSuppressed objectKey) w := by
  refine quiet_andThen (quiet_transact trivial not_false) (fun _ _ _ => quiet_pure ()) (fun e w' _ he => ?_)
  split
  · exact quiet_pure ()
  · exact quiet_pure ()
  · exact quiet_done (raises_error he)

lemma quiet_abandonStaged (m : StagingManifest) (code : String) : Quiet cfg P (abandonStaged m code) w := by
  refine quiet_transact_bind trivial not_false (fun live w' _ _ _ => ?_)
  split
  · refine quiet_bind (quiet_deleteSuppressed m.objectKey) (fun _ w₂ _ => ?_)
    exact quiet_transact_bind trivial not_false (fun _ _ _ _ _ => quiet_pure true)
  · exact quiet_pure false

lemma quiet_abandonCounted (counts : Reconciled) (m : StagingManifest) (code : String) :
    Quiet cfg P (abandonCounted counts m code) w :=
  quiet_bind (quiet_abandonStaged m code) (fun _ _ _ => quiet_pure _)

lemma quiet_finalizeStaged (manifestId : Nat) (subjectId : String) :
    Quiet cfg P (finalizeStaged manifestId subjectId) w := by
  refine quiet_transact_bind trivial not_false (fun found w' _ _ hfound => ?_)
  refine quiet_check_bind (raises_orRaise (fun _ => trivial)) (fun m hm => ?_)
  obtain ⟨hsome, hsubject⟩ := Option.filter_eq_some_iff.mp (orRaise_eq_ok.mp hm)
  obtain ⟨hmem, hid⟩ := hfound m hsome
  split
  · exact quiet_pure _
  · refine quiet_check_bind (raises_raiseIf (fun _ => trivial)) (fun _ _ => ?_)
    refine quiet_check_bind (raises_validateSourceBounds m) (fun _ _ => ?_)
    exact quiet_transact_bind ⟨m, hmem, hid, of_decide_eq_true hsubject⟩ not_false (fun _ _ _ _ _ => quiet_pure _)

/-- `inspect` may raise anything. -/
lemma keeps_inspect (m : StagingManifest) : Keeps cfg P (fun _ _ => True) (inspect cfg m) w := by
  refine keeps_transact_bind trivial (fun metadata _ _ _ _ => ?_) (fun _ _ _ => trivial)
  refine keeps_transact_bind trivial (fun compressed _ _ _ _ => ?_) (fun _ _ _ => trivial)
  exact given_check_bind (fun _ _ => given_pure (fun _ _ => trivial)) (fun _ _ _ _ => trivial)

lemma unlimited_of_errorCode? {e : ObservationError} (h : errorCode? e = none) : Unlimited cfg P e := by
  intro _
  cases e with
  | sourceConflict => trivial
  | archive e =>
    cases e with
    | payloadLimitError message => cases h
    | _ => trivial

lemma quiet_unless_integrity {e : ObservationError} (he : Unlimited cfg P e) (counts : Reconciled) :
    Quiet cfg P (if isIntegrity e = true then pure counts else done (.error e)) w := by
  split
  · exact quiet_pure counts
  · exact quiet_done (raises_error he)

lemma quiet_finishStaged (subjectId : String) (counts : Reconciled) (m : StagingManifest) (size : Nat) (hash : String) :
    Quiet cfg P (finishStaged subjectId counts m size hash) w := by
  unfold finishStaged
  split
  · exact quiet_abandonCounted counts m _
  · refine quiet_andThen (quiet_finalizeStaged m.manifestId subjectId) (fun _ _ _ => quiet_pure _) (fun e w' _ he => ?_)
    cases e with
    | sourceConflict => exact quiet_abandonCounted counts m _
    | archive e => exact quiet_unless_integrity he counts

lemma quiet_reconcileOne (subjectId : String) (counts : Reconciled) (m : StagingManifest) :
    Quiet cfg P (reconcileOne cfg subjectId counts m) w := by
  unfold reconcileOne
  apply Given.andThen
  apply (keeps_inspect m).mono
  intro r w' _ _
  cases r with
  | error e =>
    dsimp only
    split
    · exact quiet_abandonCounted counts m _
    · next hcode => exact quiet_done (raises_error (unlimited_of_errorCode? hcode))
  | ok metadata =>
    dsimp only
    split
    · refine quiet_andThen (quiet_transact trivial not_false) (fun _ _ _ => quiet_finishStaged subjectId counts m _ _)
        (fun e _ _ he => ?_)
      exact quiet_unless_integrity he counts
    · exact quiet_finishStaged subjectId counts m _ _

lemma quiet_reconcileStaging (subjectId : String) (limit : ℤ) : Quiet cfg P (reconcileStaging cfg subjectId limit) w :=
  quiet_transact_bind trivial not_false (fun manifests _ _ _ _ =>
    given_loop (fun counts m _ _ => quiet_reconcileOne subjectId counts m) manifests ⟨0, 0⟩)

lemma quiet_publishStaged (subjectId : String) (m : StagingManifest) (count : Nat) :
    Quiet cfg P (publishStaged subjectId m count) w := by
  refine quiet_andThen (quiet_finalizeStaged m.manifestId subjectId) (fun _ _ _ => quiet_pure count)
    (fun e w' _ he => ?_)
  cases e with
  | archive e => exact quiet_done (raises_error he)
  | sourceConflict =>
    refine quiet_bind (quiet_abandonStaged m _) (fun live _ _ => ?_)
    split
    · exact quiet_raise (fun _ => trivial)
    · refine quiet_transact_bind trivial not_false (fun current _ _ _ _ => ?_)
      split
      · exact quiet_pure count
      · exact quiet_raise (fun _ => trivial)

lemma quiet_archiveRows {subjectId : String} {rows : List ObservationRow} (h : Selected cfg P subjectId rows)
    (segmentId : Nat) :
    Quiet cfg P (archiveRows cfg subjectId segmentId rows) w := by
  unfold archiveRows
  have hsize : Raises (Unlimited cfg P)
      (raiseIf (maxStagedDecompressedBytes < (encodeSegment cfg subjectId rows).length)
      (ObservationError.archive (.payloadLimitError "observation archive staged payload exceeds the size limit"))) := by
    intro e he hcompact
    rw [raiseIf_neg (Nat.not_lt.mpr (hcompact subjectId rows h.selected).1)] at he
    cases he
  refine quiet_check_bind hsize (fun _ _ => ?_)
  refine quiet_transact_bind ⟨rows, batch_segmentInput h segmentId⟩ not_false (fun manifestId _ _ _ _ => ?_)
  refine quiet_transact_bind trivial not_false (fun _ _ _ _ _ => ?_)
  refine quiet_transact_bind trivial not_false (fun digest _ _ _ _ => ?_)
  refine quiet_transact_bind trivial (not_not.mpr rfl) (fun restored _ _ _ _ => ?_)
  refine quiet_check_bind (raises_raiseIf (fun _ => trivial)) (fun _ _ => ?_)
  refine quiet_transact_bind trivial not_false (fun found w' _ hsound hfound => ?_)
  refine quiet_check_bind (raises_orRaise (fun _ => trivial)) (fun m hm => ?_)
  obtain ⟨rows', hbatch⟩ := hsound.batches m (hfound m (orRaise_eq_ok.mp hm)).1
  refine quiet_check_bind (raises_verify hbatch restored) (fun _ _ => ?_)
  refine quiet_transact_bind trivial (not_not.mpr rfl) (fun metadata _ _ _ _ => ?_)
  refine quiet_transact_bind trivial not_false (fun _ _ _ _ _ => ?_)
  refine quiet_transact_bind trivial not_false (fun _ _ _ _ _ => ?_)
  exact quiet_publishStaged subjectId m rows.length

lemma quiet_archiveCold (subjectId : String) (olderThanDays limit : ℤ) (cutoff : String) (segmentId : Nat) :
    Quiet cfg P (archiveCold cfg subjectId olderThanDays limit cutoff segmentId) w := by
  refine quiet_check_bind (raises_raiseIf (fun _ => trivial)) (fun _ _ => ?_)
  refine quiet_transact_bind trivial not_false (fun _ _ _ _ _ => ?_)
  refine quiet_bind (quiet_reconcileStaging subjectId 8) (fun _ _ _ => ?_)
  refine quiet_transact_bind trivial not_false (fun rows _ _ _ hselected => ?_)
  split
  · exact quiet_pure 0
  · next hne => exact quiet_archiveRows (hselected hne) segmentId

lemma quiet_observationCall (action : ObservationAction) : Quiet cfg P (observationCall cfg action) w := by
  cases action with
  | archiveCold subjectId olderThanDays limit cutoff segmentId =>
    exact quiet_bind (quiet_archiveCold subjectId olderThanDays limit cutoff segmentId) (fun _ _ _ => quiet_pure ())
  | reconcileStaging subjectId limit =>
    exact quiet_bind (quiet_reconcileStaging subjectId limit) (fun _ _ _ => quiet_pure ())
  | ingest observationId subjectId fetchedAt content => exact quiet_transact trivial not_false
  | replaceFile objectKey object => exact quiet_transact trivial not_false

lemma sound_of_fresh (h : w.Fresh cfg) : Sound cfg P w := by
  obtain ⟨hobservations, hmanifests, hsegments⟩ := h
  have hnone : ∀ m, m ∉ w.staging.manifests := by
    intro m hm
    rw [Table.mem_def, hmanifests] at hm
    cases hm
  refine ⟨fun m hm => absurd hm (hnone m), fun m hm => absurd hm (hnone m), ?_, fun m hm => absurd hm (hnone m), ?_⟩
  · intro g hg
    rw [hsegments] at hg
    cases hg
  · intro row hrow
    obtain ⟨hkey, hcontent, hhash, -⟩ := hobservations row hrow
    exact .inl ⟨hkey, hcontent, hcontent ▸ hhash⟩

lemma sound_of_reachable
    {s : Store.Running ObservationWorld ObservationReading ObservationCommand.Result ObservationError}
    (hs : (observationMachine cfg).ReachableUnder (Store.Guarded (Selects P)) s) :
    Sound cfg P s.state ∧ ∀ call ∈ s.calls, Quiet cfg P call s.state :=
  Store.given_of_reachable (K := contract cfg P) (fun _ => sound_of_fresh)
    (fun action _ _ => quiet_observationCall action) hs

/-- The run: where every selection is compact, blanked rows are read back and nothing is too large. -/
theorem archived_readable
    {s : Store.Running ObservationWorld ObservationReading ObservationCommand.Result ObservationError}
    (hs : (observationMachine cfg).ReachableUnder (Store.Guarded (Fits cfg)) s) :
    (∀ row ∈ s.state.observations, ∀ objectKey, row.contentArchiveKey = some objectKey →
      ∀ payload hash, s.state.files objectKey = some (.sealed payload hash) →
        (∀ g ∈ s.state.staging.segments, g.objectKey = objectKey → cfg.sha256 payload = g.compressedHash) →
        loadContent cfg s.state row.subjectId objectKey row.observationId = .ok row.ingested) ∧
      ∀ message, Call.done (.error (.archive (.payloadLimitError message))) ∉ s.calls := by
  obtain ⟨hsound, hcalls⟩ := @sound_of_reachable cfg (Compact cfg) s hs
  refine ⟨fun row hrow objectKey hkey payload hash hfile hintact => ?_, fun message hmem => ?_⟩
  · obtain ⟨rows, hcompact, hpayload, hload⟩ := hsound.load hrow hkey hfile hintact
    have hsmall := hcompact.2
    rw [← hpayload] at hsmall
    exact hload 16000000 64000000 (by decide) (by decide) hsmall hcompact.1
  · exact hcalls _ hmem s.state (Later.refl _) _ rfl (fun _ _ h => h)

lemma selects_any (c : ObservationCommand) (x : ObservationReading) (w : ObservationWorld) :
    Selects (fun _ _ => True) c x w := by
  cases c with
  | select subjectId cutoff limit => exact fun _ => trivial
  | _ => trivial

/-- The segments of one key agree on their payload. -/
lemma Sound.compressedHash_eq (h : Sound cfg P w) {g g' : SegmentRow} (hg : g ∈ w.staging.segments)
    (hg' : g' ∈ w.staging.segments) (hkey : g.objectKey = g'.objectKey) : g.compressedHash = g'.compressedHash := by
  obtain ⟨m, hm, -, now, rfl⟩ := h.segments g hg
  obtain ⟨m', hm', -, now', rfl⟩ := h.segments g' hg'
  have hsame : m = m' := h.keys m hm m' hm' hkey
  rw [hsame]
  rfl

/-- Whatever is selected and whatever fails, no content is lost: in every run a row holds what was stored, or it
names a segment whose object gives it back to a reader whose limits are large enough. -/
theorem content_kept {s : Store.Running ObservationWorld ObservationReading ObservationCommand.Result ObservationError}
    (hs : (observationMachine cfg).Reachable s) (row : ObservationRow) (hrow : row ∈ s.state.observations) :
    (row.contentArchiveKey = none ∧ row.content = row.ingested) ∨
      ∃ g ∈ s.state.staging.segments, row.contentArchiveKey = some g.objectKey ∧
        ∀ payload hash, s.state.files g.objectKey = some (.sealed payload hash) →
        cfg.sha256 payload = g.compressedHash →
          ∃ size, ∀ maxCompressed maxDecompressed, payload.length < maxCompressed → size < maxDecompressed →
            loadContentWithin cfg s.state row.subjectId g.objectKey row.observationId maxCompressed maxDecompressed =
              .ok row.ingested := by
  obtain ⟨hsound, -⟩ := @sound_of_reachable cfg (fun _ _ => True) s (hs.mono (fun _ _ _ c x _ => selects_any c x _))
  rcases hsound.rows row hrow with ⟨hkey, hcontent, -⟩ | ⟨m, hm, hcommitted, hkey, -⟩
  · exact .inl ⟨hkey, hcontent⟩
  · obtain ⟨now, hpublished⟩ := hsound.published m hm hcommitted
    refine .inr ⟨m.segment now, hpublished, hkey, fun payload hash hfile hintact => ?_⟩
    have hagree : ∀ g ∈ s.state.staging.segments, g.objectKey = m.objectKey → cfg.sha256 payload = g.compressedHash :=
      fun g hg hsame => hintact.trans (hsound.compressedHash_eq hpublished hg hsame.symm)
    obtain ⟨rows, -, -, hload⟩ := hsound.load hrow hkey hfile hagree
    refine ⟨(encodeSegment cfg row.subjectId rows).length,
      fun maxCompressed maxDecompressed hcompressed hdecompressed => ?_⟩
    exact hload maxCompressed maxDecompressed (by omega) (by omega) (Nat.le_of_lt hcompressed)
      (Nat.le_of_lt hdecompressed)

lemma length_le_entry {floats : JsonText.Floats} (e : String × Document) :
    (JsonText.write floats e.2).length ≤ (JsonText.writeEntry floats e).length := by
  obtain ⟨key, x⟩ := e
  rw [JsonText.writeEntry, List.length_append, List.length_cons]
  dsimp only
  omega

lemma length_le_entries {floats : JsonText.Floats} {e : String × Document} {es : Document.Entries} (h : e ∈ es) :
    (JsonText.write floats e.2).length ≤ (JsonText.writeEntries floats es).length := by
  have hentry := @length_le_entry floats e
  induction es with
  | nil => cases h
  | cons f fs ih =>
    rw [JsonText.writeEntries, List.length_cons, List.length_append]
    rcases List.mem_cons.mp h with rfl | hmem
    · omega
    · have hrest := ih hmem
      omega

lemma length_le_object {floats : JsonText.Floats} {key : String} {x : Document} {es : Document.Entries}
    (h : Document.get? es key = some x) :
    (JsonText.write floats x).length ≤ (JsonText.write floats (.obj es)).length := by
  unfold Document.get? at h
  obtain ⟨e, he, rfl⟩ := Option.map_eq_some_iff.mp h
  have hmem := List.mem_of_find?_eq_some he
  have hentry := @length_le_entry floats e
  cases es with
  | nil => cases hmem
  | cons f fs =>
    rw [JsonText.write, List.length_cons, List.length_append]
    rcases List.mem_cons.mp hmem with rfl | hmem
    · omega
    · have hrest := @length_le_entries floats e fs hmem
      omega

lemma length_le_items {floats : JsonText.Floats} {size : Nat} {xs : List Document}
    (h : ∀ x ∈ xs, size ≤ (JsonText.write floats x).length) :
    xs.length * size ≤ (JsonText.writeItems floats xs).length := by
  induction xs with
  | nil =>
    rw [List.length_nil, Nat.zero_mul]
    exact Nat.zero_le _
  | cons x xs ih =>
    have hfirst := h x List.mem_cons_self
    have hrest := ih (fun y hy => h y (List.mem_cons_of_mem x hy))
    rw [JsonText.writeItems, List.length_cons, List.length_cons, List.length_append, Nat.succ_mul]
    omega

lemma length_le_array {floats : JsonText.Floats} {size : Nat} {xs : List Document}
    (h : ∀ x ∈ xs, size ≤ (JsonText.write floats x).length) :
    xs.length * size ≤ (JsonText.write floats (.arr xs)).length := by
  cases xs with
  | nil =>
    rw [List.length_nil, Nat.zero_mul]
    exact Nat.zero_le _
  | cons x xs =>
    have hfirst := h x List.mem_cons_self
    have hrest := length_le_items (fun y hy => h y (List.mem_cons_of_mem x hy))
    rw [JsonText.write, List.length_cons, List.length_cons, List.length_append, Nat.succ_mul]
    omega

/-- A segment is at least as long as its contents with their escapes. -/
lemma escaped_le {subjectId : String} {rows : List ObservationRow} {size : Nat}
    (h : ∀ row ∈ rows, size ≤ (row.content.toList.flatMap Json.escape).length) :
    rows.length * size ≤ (encodeSegment cfg subjectId rows).length := by
  have hentry : ∀ x ∈ rows.map (fun row => (observationEntry row).sorted), size ≤
      (JsonText.write cfg.floats x).length := by
    intro x hx
    obtain ⟨row, hrow, rfl⟩ := List.mem_map.mp hx
    obtain ⟨es, hes, -, hcontent, -⟩ := get?_entry row
    have hobject := @length_le_object cfg.floats _ _ _ hcontent
    have hescaped := h row hrow
    rw [JsonText.write, Json.string, List.length_cons, List.length_append] at hobject
    rw [hes]
    omega
  obtain ⟨es, hes, -, hobservations⟩ := get?_body subjectId rows
  have harray := length_le_array hentry
  rw [List.length_map] at harray
  unfold encodeSegment JsonText.canonicalJson
  rw [hes]
  exact Nat.le_trans harray (Nat.le_trans (@length_le_object cfg.floats _ _ _ hobservations) (length_le_utf8Encode _))

/-- Rows within the source limit are all read. -/
lemma boundedRead_all (candidates rows : List ObservationRow) {size sourceBytes : Nat}
    (hsize : ∀ row ∈ candidates, row.contentBytes ≤ size)
    (hfit : sourceBytes + candidates.length * size ≤ maxSourceBytes) :
    ObservationWorld.boundedRead candidates rows sourceBytes = rows ++ candidates := by
  induction candidates generalizing rows sourceBytes with
  | nil =>
    rw [List.append_nil]
    rfl
  | cons candidate rest ih =>
    have hfirst := hsize candidate List.mem_cons_self
    rw [List.length_cons, Nat.succ_mul] at hfit
    unfold ObservationWorld.boundedRead
    rw [if_neg (fun h => by omega), if_pos (by omega),
      ih (rows ++ [candidate]) (fun row hrow => hsize row (List.mem_cons_of_mem _ hrow)) (by omega),
      List.append_assoc, List.singleton_append]

/-! ### Sample runs -/

def sampleDecompress (b : Bytes) (max : Nat) : Except ArchiveError Bytes :=
  if b.length ≤ max then .ok b else .error (.payloadLimitError "archive payload exceeds the decompressed limit")

lemma sampleDecompress_eq (b : Bytes) (max : Nat) (h : b.length ≤ max) : sampleDecompress b max = .ok b := if_pos h

def sampleConfig : ObservationConfig where
  floats := JsonText.Floats.fractions
  sha256 := Digest.raw
  sha256_injective := Digest.raw_injective
  contentHash s := s
  contentHash_injective := Function.injective_id
  compress b := b
  decompress := sampleDecompress
  decompress_compress := sampleDecompress_eq
  keyId := "k"
  keyFingerprint := "f"

def sampleReading (n : Nat) : ObservationReading := ⟨n, n, "h", none⟩

def sampleId (i : Nat) : String := String.ofList (List.replicate i 'o')

lemma sampleId_injective : Function.Injective sampleId := by
  intro i j h
  have hlength := congrArg List.length (String.ofList_injective h)
  rw [List.length_replicate, List.length_replicate] at hlength
  exact hlength

def sampleRow (content : Nat → String) (i : Nat) : ObservationRow :=
  ⟨sampleId i, "s", "2026-01-01", content i, content i, none, none, content i⟩

lemma sampleRow_ids (content : Nat → String) (count : Nat) :
    (((List.range count).map (sampleRow content)).map ObservationRow.observationId).Nodup := by
  rw [List.map_map]
  exact List.nodup_range.map sampleId_injective

/-- So many observations. -/
def sampleRows (content : Nat → String) (count : Nat) : Table ObservationRow.observationId where
  rows := (List.range count).map (sampleRow content)
  nodup := sampleRow_ids content count

def sampleWorld (content : Nat → String) (count : Nat) : ObservationWorld :=
  ⟨sampleRows content count, ⟨Table.empty, []⟩, fun _ => none⟩

def sampleStart (content : Nat → String) (count : Nat) :
    Store.Running ObservationWorld ObservationReading ObservationCommand.Result ObservationError :=
  ⟨sampleWorld content count, [], none, []⟩

/-- They are archived a month later. -/
def sampleMoves (steps : Nat) : List (Store.Move ObservationAction ObservationReading) :=
  .start (.archiveCold "s" 30 200 "2026-02-01" 7) :: (List.range steps).map (fun n => .advance 0 (sampleReading n))

def sampleRun (content : Nat → String) (count steps : Nat) :
    Store.Running ObservationWorld ObservationReading ObservationCommand.Result ObservationError :=
  (sampleMoves steps).foldl (observationMachine sampleConfig).step (sampleStart content count)

lemma sample_init {content : Nat → String} {count : Nat} (h : ∀ i < count, (content i).length ≤ maxContentChars) :
    (observationMachine sampleConfig).init (sampleStart content count) := by
  refine ⟨⟨fun row hrow => ?_, rfl, rfl⟩, rfl, rfl, rfl⟩
  obtain ⟨i, hi, rfl⟩ := List.mem_map.mp hrow
  exact ⟨rfl, rfl, rfl, h i (List.mem_range.mp hi)⟩

/-- All of them are selected. -/
lemma selection_sample {content : String} {count : Nat} (hcount : count ≤ 200)
    (hbytes : count * (utf8Encode content.toList).length ≤ maxSourceBytes) :
    ((sampleWorld (fun _ => content) count).selection "s" "2026-02-01" 200).Perm
      ((List.range count).map (sampleRow (fun _ => content))) := by
  have hfilter : (sampleWorld (fun _ => content) count).observations.rows.filter (fun row => row.subjectId =
      "s" && row.contentArchiveKey.isNone &&
      decide (row.fetchedAt < "2026-02-01") && row.contentBytes ≤ maxSourceBytes) =
        (List.range count).map (sampleRow (fun _ => content)) := by
    refine List.filter_eq_self.mpr (fun row hmem => ?_)
    obtain ⟨i, hi, rfl⟩ := List.mem_map.mp hmem
    have hpositive : 1 ≤ count := Nat.lt_of_le_of_lt (Nat.zero_le i) (List.mem_range.mp hi)
    have hrow : ("s" = "s" && (none : Option String).isNone && decide ("2026-01-01" < "2026-02-01")) = true := by
      decide +kernel
    have hsize : (utf8Encode content.toList).length ≤ maxSourceBytes :=
      Nat.le_trans (Nat.le_mul_of_pos_left _ hpositive) hbytes
    exact Bool.and_eq_true_iff.mpr ⟨hrow, decide_eq_true hsize⟩
  have hperm : ((sampleWorld (fun _ => content) count).candidates "s" "2026-02-01" 200).Perm
      ((List.range count).map (sampleRow (fun _ => content))) := by
    unfold ObservationWorld.candidates
    rw [hfilter, List.take_of_length_le]
    · exact List.perm_insertionSort _ _
    · rw [List.length_insertionSort, List.length_map, List.length_range]
      exact hcount
  have hread : (sampleWorld (fun _ => content) count).selection "s" "2026-02-01" 200 =
      (sampleWorld (fun _ => content) count).candidates "s" "2026-02-01" 200 := by
    refine boundedRead_all _ [] (fun row hrow => ?_) (?_ : 0 + _ * (utf8Encode content.toList).length ≤ _)
    · obtain ⟨i, -, rfl⟩ := List.mem_map.mp (hperm.mem_iff.mp hrow)
      exact Nat.le_refl _
    · rw [hperm.length_eq, List.length_map, List.length_range, Nat.zero_add]
      exact hbytes
  rw [hread]
  exact hperm

lemma calls_sample (content : String) (count : Nat) : (sampleRun (fun _ => content) count 3).calls =
    [(if (sampleWorld (fun _ => content) count).selection "s" "2026-02-01" 200 = [] then pure 0
      else archiveRows sampleConfig "s" 7 ((sampleWorld (fun _ => content) count).selection "s" "2026-02-01" 200)) >>=
      fun _ => pure ()] := by
  rfl

/-- What is too long when it is encoded is not archived. -/
lemma blocked_of_long {content : String} {count : Nat} (hcount : count ≤ 200)
    (hbytes : count * (utf8Encode content.toList).length ≤ maxSourceBytes)
    (hlong : maxStagedDecompressedBytes < count * (content.toList.flatMap Json.escape).length) :
    Call.done (.error (.archive (.payloadLimitError "observation archive staged payload exceeds the size limit"))) ∈
      (sampleRun (fun _ => content) count 3).calls := by
  have hperm := selection_sample hcount hbytes
  have hencoded : maxStagedDecompressedBytes <
      (encodeSegment sampleConfig "s" ((sampleWorld (fun _ => content) count).selection "s" "2026-02-01"
        200)).length := by
    refine Nat.lt_of_lt_of_le hlong ?_
    have hlength : ((sampleWorld (fun _ => content) count).selection "s" "2026-02-01" 200).length = count := by
      rw [hperm.length_eq, List.length_map, List.length_range]
    have hle := @escaped_le sampleConfig "s" _ (content.toList.flatMap Json.escape).length (fun row hrow => by
      obtain ⟨i, -, rfl⟩ := List.mem_map.mp (hperm.mem_iff.mp hrow)
      exact Nat.le_refl _)
    rw [hlength] at hle
    exact hle
  have hsome : (sampleWorld (fun _ => content) count).selection "s" "2026-02-01" 200 ≠ [] := by
    intro hnone
    have hlength := hperm.length_eq
    rw [hnone, List.length_map, List.length_range] at hlength
    rw [← hlength, List.length_nil, Nat.zero_mul] at hlong
    exact absurd hlong (Nat.not_lt_zero _)
  rw [calls_sample, if_neg hsome]
  unfold archiveRows raiseIf
  rw [if_pos hencoded]
  exact List.mem_singleton.mpr rfl

/-- Quotes, each written as two characters. -/
def quotes (n : Nat) : String := String.ofList (List.replicate n Json.mark)

lemma escaped_quotes (n : Nat) : ((quotes n).toList.flatMap Json.escape).length = 2 * n := by
  unfold quotes
  rw [String.toList_ofList]
  induction n with
  | zero => rfl
  | succ n ih =>
    rw [List.replicate_succ, List.flatMap_cons, List.length_append, ih]
    change 2 + 2 * n = 2 * (n + 1)
    omega

lemma bytes_quotes (n : Nat) : (utf8Encode (quotes n).toList).length = n := by
  unfold quotes utf8Encode
  rw [String.toList_ofList]
  induction n with
  | zero => rfl
  | succ n ih =>
    rw [List.replicate_succ, List.flatMap_cons, List.length_append, ih]
    change 1 + n = n + 1
    omega

lemma length_quotes (n : Nat) : (quotes n).length = n := by
  unfold quotes
  rw [String.length_ofList, List.length_replicate]

/-- A hundred observations of half a million quotes are stored, and archiving them raises what it never should. -/
theorem quotes_blocked : (observationMachine sampleConfig).init (sampleStart (fun _ => quotes 500000) 100) ∧
    Call.done (.error (.archive (.payloadLimitError "observation archive staged payload exceeds the size limit"))) ∈
      ((sampleMoves 3).foldl (observationMachine sampleConfig).step
        (sampleStart (fun _ => quotes 500000) 100)).calls := by
  refine ⟨sample_init (fun _ _ => ?_), blocked_of_long (by decide) ?_ ?_⟩
  · rw [length_quotes]
    decide
  · rw [bytes_quotes]
    decide
  · rw [escaped_quotes]
    decide

/-- Contents with characters that are escaped. -/
def escapedContent (i : Nat) : String := if i = 0 then "\"a\"" else "\\\n"

def sealedSample : Bytes := encodeSegment sampleConfig "s" ((List.range 2).map (sampleRow escapedContent))

set_option maxRecDepth 4000 in
/-- Every step is allowed, and at the end both rows are in one published segment. -/
lemma sample_published :
    (observationMachine sampleConfig).Meets (Store.Guarded (Fits sampleConfig)) (sampleStart escapedContent 2)
      (sampleMoves 13) ∧
    (sampleRun escapedContent 2 13).state.observations.rows =
      (List.range 2).map (fun i => (sampleRow escapedContent i).blanked (objectKeyOf 7) 12) ∧
    (sampleRun escapedContent 2 13).state.files (objectKeyOf 7) = some (.sealed sealedSample "h") ∧
    ∀ g ∈ (sampleRun escapedContent 2 13).state.staging.segments, g.objectKey = objectKeyOf 7 →
      sampleConfig.sha256 sealedSample = g.compressedHash := by
  decide +kernel

lemma escapedContent_short (i : Nat) : (escapedContent i).length ≤ maxContentChars := by
  unfold escapedContent
  split <;> decide

lemma sample_reachable : (observationMachine sampleConfig).ReachableUnder (Store.Guarded (Fits sampleConfig))
    (sampleRun escapedContent 2 13) :=
  @Machine.reachableUnder_foldl _ _ (observationMachine sampleConfig) _ (sampleStart escapedContent 2)
    (sample_init (fun i _ => escapedContent_short i)) _ sample_published.1

lemma sample_blanked {i : Nat} (hi : i ∈ List.range 2) :
    (sampleRow escapedContent i).blanked (objectKeyOf 7) 12 ∈
      (sampleRun escapedContent 2 13).state.observations.rows := by
  rw [sample_published.2.1]
  exact List.mem_map_of_mem hi

lemma sample_archiveKey (i : Nat) :
    ((sampleRow escapedContent i).blanked (objectKeyOf 7) 12).contentArchiveKey = some (objectKeyOf 7) := rfl

/-- Two observations with quotes, a backslash and a line break, archived in one segment and read back. -/
theorem archived_readable_escaped :
    loadContent sampleConfig (sampleRun escapedContent 2 13).state "s" (objectKeyOf 7) (sampleId 0) =
        .ok (escapedContent 0) ∧
      loadContent sampleConfig (sampleRun escapedContent 2 13).state "s" (objectKeyOf 7) (sampleId 1) =
        .ok (escapedContent 1) := by
  obtain ⟨-, -, hfile, hintact⟩ := sample_published
  have hload : ∀ i ∈ List.range 2, loadContent sampleConfig (sampleRun escapedContent 2 13).state "s" (objectKeyOf 7)
      (sampleId i) = .ok (escapedContent i) := by
    intro i hi
    have hrow := sample_blanked hi
    have hkey := sample_archiveKey i
    exact (archived_readable sample_reachable).1 ((sampleRow escapedContent i).blanked (objectKeyOf 7) 12) hrow
      (objectKeyOf 7) hkey sealedSample "h" hfile hintact
  exact ⟨hload 0 (by decide), hload 1 (by decide)⟩

/-- The row is read back under every limit above its segment's sizes. -/
def ReadBack (i : Nat) : Prop :=
  ∃ size, ∀ maxCompressed maxDecompressed, sealedSample.length < maxCompressed → size < maxDecompressed →
    loadContentWithin sampleConfig (sampleRun escapedContent 2 13).state "s" (objectKeyOf 7) (sampleId i)
      maxCompressed maxDecompressed = .ok (escapedContent i)

theorem content_kept_escaped : ReadBack 0 ∧ ReadBack 1 := by
  obtain ⟨-, -, hfile, hintact⟩ := sample_published
  have hload : ∀ i ∈ List.range 2, ReadBack i := by
    intro i hi
    have hrow := sample_blanked hi
    have hkey := sample_archiveKey i
    rcases content_kept sample_reachable.reachable ((sampleRow escapedContent i).blanked (objectKeyOf 7) 12) hrow with
      ⟨hnone, -⟩ | ⟨g, hg, hsome, hload⟩
    · rw [hkey] at hnone
      cases hnone
    · have hsame : g.objectKey = objectKeyOf 7 := (Option.some.inj (hkey.symm.trans hsome)).symm
      rw [hsame] at hload
      exact hload sealedSample "h" hfile (hintact g hg hsame)
  exact ⟨hload 0 (by decide), hload 1 (by decide)⟩

end Noyra.Archive.Observations.Proofs
