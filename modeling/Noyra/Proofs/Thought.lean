import Noyra.Cognition.Thought

/-!
# The envelope of an intrinsic thought

The escaped context is read back as the payload that was kept, holds no boundary marker, and fits the limit; the rows
kept are the first ones of every list, and their ids are the ones that may be cited.
-/

namespace Noyra.Cognition.Proofs
open Noyra.Lib Noyra.Lib.Json Noyra.Lib.JsonText Noyra.Cognition

variable {cfg : ThoughtConfig} {limit : Nat}

/-- The characters that the escaping spells. -/
def markerSoft : Soft where
  test c := c = '<' || c = '>' || c = '_'
  plain c h := by
    simp only [Bool.or_eq_true, decide_eq_true_eq] at h
    rcases h with (rfl | rfl) | rfl <;> decide
  code c h := by
    simp only [Bool.or_eq_true, decide_eq_true_eq] at h
    rcases h with (rfl | rfl) | rfl <;> decide

/-- What must not occur in a message. -/
def markers : List (List Char) := ["<".toList, ">".toList, "BEGIN_".toList, "END_".toList]

lemma marker_ne_nil : ∀ m ∈ markers, m ≠ [] := by decide

lemma marker_plain : ∀ m ∈ markers, ∀ c ∈ m, isMarkup c = false := by
  have hall : markers.all (fun m => m.all (fun c => !isMarkup c)) = true := by decide
  simpa only [List.all_eq_true, Bool.not_eq_true'] using hall

/-- One of the four replacements. -/
lemma replace_marker (pattern new init : List Char) (z : Char) (hp : pattern = init ++ [z])
    (hn : new = init ++ spelled z)
    (hz : markerSoft.test z = true) (hw : ∀ c ∈ pattern, isMarkup c = false) (text : List Char) :
    Respelled markerSoft text (replaceText pattern new text) ∧ ¬ pattern <:+: replaceText pattern new text := by
  subst hp hn
  exact ⟨respelled_replaceText hz text, not_infix_replaceText hz hw text⟩

lemma respelled_escape (text : List Char) :
    Respelled markerSoft text (escapeContextData text) ∧ ∀ m ∈ markers, ¬ m <:+: escapeContextData text := by
  have hless := replace_marker "<".toList "\\u003c".toList [] '<' (by decide) (by decide)
    (by decide) (marker_plain _ (by decide)) text
  have hmore := replace_marker ">".toList "\\u003e".toList [] '>' (by decide) (by decide)
    (by decide) (marker_plain _ (by decide)) (replaceText "<".toList "\\u003c".toList text)
  have hbegin := replace_marker "BEGIN_".toList "BEGIN\\u005f".toList "BEGIN".toList '_'
    (by decide) (by decide) (by decide) (marker_plain _ (by decide))
    (replaceText ">".toList "\\u003e".toList (replaceText "<".toList "\\u003c".toList text))
  have hend := replace_marker "END_".toList "END\\u005f".toList "END".toList '_'
    (by decide) (by decide) (by decide) (marker_plain _ (by decide))
    (replaceText "BEGIN_".toList "BEGIN\\u005f".toList
      (replaceText ">".toList "\\u003e".toList (replaceText "<".toList "\\u003c".toList text)))
  have htail := hbegin.1.trans hend.1
  refine ⟨(hless.1.trans hmore.1).trans htail, fun m hm hin => ?_⟩
  -- a marker in the result was there after its own replacement already
  have hne := marker_ne_nil m hm
  have hplain := marker_plain m hm
  unfold markers at hm
  simp only [List.mem_cons, List.not_mem_nil, or_false] at hm
  rcases hm with rfl | rfl | rfl | rfl
  · exact hless.2 ((hmore.1.trans htail).infix_of hne hplain hin)
  · exact hmore.2 (htail.infix_of hne hplain hin)
  · exact hbegin.2 (hend.1.infix_of hne hplain hin)
  · exact hend.2 hin

/-- A text without markers stays as it is. -/
lemma escape_of_clean {text : List Char} (h : ∀ m ∈ markers, ¬ m <:+: text) : escapeContextData text = text := by
  have hless := h "<".toList (by decide)
  have hmore := h ">".toList (by decide)
  have hbegin := h "BEGIN_".toList (by decide)
  have hend := h "END_".toList (by decide)
  unfold escapeContextData
  dsimp only
  rw [replaceText_of_absent hless, replaceText_of_absent hmore, replaceText_of_absent hbegin,
    replaceText_of_absent hend]

theorem escape_escape (text : List Char) : escapeContextData (escapeContextData text) = escapeContextData text :=
  escape_of_clean (respelled_escape text).2

lemma keyed_row {es : Document.Entries} (hn : (es.map Prod.fst).Nodup) (h : ∀ e ∈ es, e.2.keyed = true) :
    Document.keyed (.obj es) = true :=
  Document.keyed_obj.mpr ⟨hn, h⟩

lemma keyed_nullable (s : Option String) : (nullable s).keyed = true := by
  cases s <;> rfl

lemma keyed_event (r : EventRow) : r.document.keyed = true := by
  apply keyed_row <;> simp [Document.keyed]

lemma keyed_memory (r : MemoryRow) : r.document.keyed = true := by
  apply keyed_row <;> simp [Document.keyed]

lemma keyed_belief (r : BeliefRow) : r.document.keyed = true := by
  apply keyed_row <;> simp [Document.keyed]

lemma keyed_goal (r : GoalRow) : r.document.keyed = true := by
  apply keyed_row <;> simp [Document.keyed]

lemma keyed_relationship (r : RelationshipRow) : r.document.keyed = true := by
  apply keyed_row <;> simp [Document.keyed]

lemma keyed_affect (r : AffectRow) : r.document.keyed = true := by
  apply keyed_row <;> simp [Document.keyed, keyed_nullable]

lemma keyed_selfModel (r : SelfModelRow) : r.document.keyed = true := by
  apply keyed_row <;> simp [Document.keyed]

lemma keyed_episode (r : EpisodeRow) : r.document.keyed = true := by
  apply keyed_row <;> simp [Document.keyed]

lemma keyed_agenda (r : ThoughtAgendaRecord) : (r.document cfg).keyed = true := by
  apply keyed_row <;> simp [Document.keyed, keyed_nullable]

lemma keyed_rows {α : Type} {f : α → Document} (h : ∀ r, (f r).keyed = true) (rows : List α) :
    Document.keyed (.arr (rows.map f)) = true := by
  apply Document.keyed_arr.mpr
  intro x hx
  obtain ⟨r, _, rfl⟩ := List.mem_map.mp hx
  exact h r

lemma nodup_entries (p : Payload) : ((p.entries cfg).map Prod.fst).Nodup := by
  simp [Payload.entries]

lemma keyed_payload (p : Payload) : (p.document cfg).keyed = true := by
  apply keyed_row (nodup_entries p)
  unfold Payload.entries
  simp only [List.forall_mem_cons]
  refine ⟨keyed_agenda _, keyed_rows keyed_episode _, keyed_rows keyed_event _, keyed_rows keyed_memory _,
    keyed_rows keyed_belief _,
    keyed_rows keyed_goal _, keyed_rows keyed_relationship _, keyed_rows keyed_affect _, ?_,
      keyed_rows (fun r => r.keyed) _,
    fun e he => by cases he⟩
  cases p.selfModel with
  | none => rfl
  | some r => exact keyed_selfModel r

/-- The texts under a key in the rows of a list. -/
def shownIds (parsed : Document) (listKey idKey : String) : List String :=
  match parsed with
  | .obj entries =>
    match Document.get? entries listKey with
    | some (.arr rows) => rows.filterMap (fun row =>
        match row with
        | .obj es =>
          match Document.get? es idKey with
          | some (.str s) => some s
          | _ => none
        | _ => none)
    | _ => []
  | _ => []

lemma shownIds_sorted {α : Type} {f : α → Document.Entries} (id : α → String) {entries : Document.Entries}
    {listKey idKey : String} {rows : List α} (hn : (entries.map Prod.fst).Nodup)
    (hlist : Document.get? entries listKey = some (.arr (rows.map (fun r => .obj (f r)))))
    (hrow : ∀ r, ((f r).map Prod.fst).Nodup ∧ Document.get? (f r) idKey = some (.str (id r))) :
    shownIds (Document.sorted (.obj entries)) listKey idKey = rows.map id := by
  unfold shownIds
  rw [Document.sorted_obj]
  dsimp only
  rw [Document.get?_sorted hn, hlist, Option.map_some, Document.sorted_arr]
  dsimp only
  rw [List.map_map, List.filterMap_map]
  rw [← List.filterMap_eq_map]
  apply List.filterMap_congr
  intro r _
  obtain ⟨hnr, hid⟩ := hrow r
  dsimp only [Function.comp]
  rw [Document.sorted_obj]
  dsimp only
  rw [Document.get?_sorted hnr, hid]
  rfl

/-- The ids that may be cited are the ones the message shows. -/
structure Shown (ctx : ThoughtContext) (parsed : Document) : Prop where
  events : ctx.eventIds = (shownIds parsed "events" "event_id").toFinset
  memories : ctx.memoryIds = (shownIds parsed "memories" "memory_id").toFinset
  beliefs : ctx.beliefIds = (shownIds parsed "beliefs" "belief_id").toFinset
  goals : ctx.goalIds = (shownIds parsed "goals" "goal_id").toFinset
  relationships : ctx.relationshipIds = (shownIds parsed "relationships" "relationship_id").toFinset

/-- The rows kept are the first ones of every list. -/
structure KeptOf (kept selected : Payload) : Prop where
  agenda : kept.agenda = selected.agenda
  selfModel : kept.selfModel = selected.selfModel
  recentAttempts : kept.recentAttempts <+: selected.recentAttempts
  events : kept.events <+: selected.events
  memories : kept.memories <+: selected.memories
  beliefs : kept.beliefs <+: selected.beliefs
  goals : kept.goals <+: selected.goals
  relationships : kept.relationships <+: selected.relationships
  affect : kept.affect <+: selected.affect
  commonKnowledgeAdvisories : kept.commonKnowledgeAdvisories <+: selected.commonKnowledgeAdvisories

lemma KeptOf.refl (p : Payload) : KeptOf p p := by
  constructor <;> rfl

lemma KeptOf.trans {p q r : Payload} (h : KeptOf p q) (h' : KeptOf q r) : KeptOf p r where
  agenda := h.agenda.trans h'.agenda
  selfModel := h.selfModel.trans h'.selfModel
  recentAttempts := h.recentAttempts.trans h'.recentAttempts
  events := h.events.trans h'.events
  memories := h.memories.trans h'.memories
  beliefs := h.beliefs.trans h'.beliefs
  goals := h.goals.trans h'.goals
  relationships := h.relationships.trans h'.relationships
  affect := h.affect.trans h'.affect
  commonKnowledgeAdvisories := h.commonKnowledgeAdvisories.trans h'.commonKnowledgeAdvisories

lemma keptOf_pop (p : Payload) (key : ListKey) : KeptOf (p.pop key) p := by
  cases key <;> constructor <;> first | rfl | exact List.dropLast_prefix _

lemma size_le_foldl (p : Payload) (keys : List ListKey) (start : ListKey) :
    p.size start ≤ p.size (keys.foldl (fun best key => if p.size best < p.size key then key else best) start) ∧
    ∀ key ∈ keys, p.size key ≤ p.size
      (keys.foldl (fun best key => if p.size best < p.size key then key else best) start) := by
  induction keys generalizing start with
  | nil =>
    refine ⟨le_rfl, fun key hkey => ?_⟩
    cases hkey
  | cons k keys ih =>
    rw [List.foldl_cons]
    by_cases h : p.size start < p.size k
    · rw [if_pos h]
      have hstep := ih k
      refine ⟨by omega, fun key hkey => ?_⟩
      rcases List.mem_cons.mp hkey with rfl | hkey
      · exact hstep.1
      · exact hstep.2 key hkey
    · rw [if_neg h]
      have hstep := ih start
      refine ⟨hstep.1, fun key hkey => ?_⟩
      rcases List.mem_cons.mp hkey with rfl | hkey
      · omega
      · exact hstep.2 key hkey

/-- No list is longer than the largest one. -/
lemma size_le_largest (p : Payload) (key : ListKey) : p.size key ≤ p.size p.largest := by
  have h := size_le_foldl p listKeys.tail .events
  cases key with
  | events => exact h.1
  | _ => exact h.2 _ (by decide)

/-- The text of the payload, as it is measured. -/
abbrev textOf (cfg : ThoughtConfig) (p : Payload) : List Char :=
  escapeContextData (canonicalJson cfg.floats (p.document cfg))

theorem shrink_spec (p : Payload) :
    KeptOf (shrink cfg limit p).2 p ∧
      (((shrink cfg limit p).1 = .ok () ∧ (textOf cfg (shrink cfg limit p).2).length ≤ limit) ∨
        ((shrink cfg limit p).1 = .error (.validation "thought context cannot fit its limit") ∧
          ∀ key, (shrink cfg limit p).2.size key = 0)) := by
  fun_induction shrink cfg limit p with
  | case1 p hlong hsome ih =>
    exact ⟨ih.1.trans (keptOf_pop p _), ih.2⟩
  | case2 p hlong hnone =>
    refine ⟨KeptOf.refl p, .inr ⟨rfl, fun key => ?_⟩⟩
    exact Nat.le_zero.mp (not_not.mp hnone ▸ size_le_largest p key)
  | case3 p hfits =>
    exact ⟨KeptOf.refl p, .inl ⟨rfl, not_lt.mp hfits⟩⟩

/-- The envelope as a document. -/
def envelope (x : Document) : Document := .obj [("format", .str "noyra-private-intrinsic-thought/v2"), ("context", x)]

lemma write_envelope (floats : Floats) (x : Document) :
    write floats (envelope x) = envelopeHead ++ (write floats x ++ ['}']) := by
  have hformat : Json.string "format" = "\"format\"".toList := by decide
  have hvalue : Json.string "noyra-private-intrinsic-thought/v2" = "\"noyra-private-intrinsic-thought/v2\"".toList := by
    decide
  have hcontext : Json.string "context" = "\"context\"".toList := by decide
  have hhead : envelopeHead = '{' :: ("\"format\"".toList ++ (':' :: ("\"noyra-private-intrinsic-thought/v2\"".toList ++
      (',' :: ("\"context\"".toList ++ [':']))))) := by decide
  unfold envelope
  rw [write, writeEntry, writeEntries, writeEntry, writeEntries, write, hformat, hvalue, hcontext, hhead]
  simp only [List.cons_append, List.append_assoc, List.nil_append]

lemma keyed_envelope {x : Document} (h : x.keyed = true) : (envelope x).keyed = true := by
  apply keyed_row
  · show ["format", "context"].Nodup
    decide
  · intro e he
    rcases List.mem_cons.mp he with rfl | he
    · rfl
    · rw [List.mem_singleton.mp he]
      exact h

/-- No marker crosses the border of the context. -/
lemma envelope_clean {data : List Char} (h : ∀ m ∈ markers, ¬ m <:+: data) :
    ∀ m ∈ markers, ¬ m <:+: envelopeHead ++ (data ++ ['}']) := by
  have hall : markers.all (fun m => m.all (fun c => !envelopeHead.contains c && c != '}')) = true := by decide
  simp only [List.all_eq_true, Bool.and_eq_true, Bool.not_eq_true', List.contains_eq_mem, decide_eq_false_iff_not,
    bne_iff_ne] at hall
  have hhead : ∀ m ∈ markers, ∀ c ∈ m, c ∉ envelopeHead := fun m hm c hc => (hall m hm c hc).1
  have hclose : ∀ m ∈ markers, ∀ c ∈ m, c ∉ ['}'] := fun m hm c hc => List.mem_singleton.not.mpr (hall m hm c hc).2
  intro m hm hin
  have hne := marker_ne_nil m hm
  have hdata := infix_of_append_left hne (hhead m hm) hin
  rw [← List.append_nil ['}']] at hdata
  rcases infix_of_append_middle hne (by decide) (hclose m hm) hdata with hin' | hnil
  · exact h m hm hin'
  · exact hne (List.infix_nil.mp hnil)

/-- The message of a context whose text is escaped. -/
lemma user_content (ctx : ThoughtContext) {text : List Char} (h : ctx.serialized = escapeContextData text) :
    (messages ctx).2.content = envelopeHead ++ (escapeContextData text ++ ['}']) := by
  unfold messages
  dsimp only
  rw [h, escape_escape]

lemma loads_message (x : Document) (hx : x.keyed = true) :
    loads cfg.floats (envelopeHead ++ (escapeContextData (canonicalJson cfg.floats x) ++ ['}'])) = some
      (envelope x.sorted) := by
  apply @loads_respelled markerSoft _ _ (keyed_envelope (Document.keyed_sorted x hx))
  rw [write_envelope]
  exact (Respelled.refl _).append ((respelled_escape _).1.append (Respelled.refl _))

lemma context_shown {ctx : ThoughtContext} {kept : Payload}
    (hevents : ctx.eventIds = (kept.events.map EventRow.eventId).toFinset)
    (hmemories : ctx.memoryIds = (kept.memories.map MemoryRow.memoryId).toFinset)
    (hbeliefs : ctx.beliefIds = (kept.beliefs.map BeliefRow.beliefId).toFinset)
    (hgoals : ctx.goalIds = (kept.goals.map GoalRow.goalId).toFinset)
    (hrelationships : ctx.relationshipIds = (kept.relationships.map RelationshipRow.relationshipId).toFinset) :
    Shown ctx (kept.document cfg).sorted where
  events := by
    rw [hevents, Payload.document, shownIds_sorted EventRow.eventId (nodup_entries kept) rfl]
    exact fun r => ⟨(Document.keyed_obj.mp (keyed_event r)).1, rfl⟩
  memories := by
    rw [hmemories, Payload.document, shownIds_sorted MemoryRow.memoryId (nodup_entries kept) rfl]
    exact fun r => ⟨(Document.keyed_obj.mp (keyed_memory r)).1, rfl⟩
  beliefs := by
    rw [hbeliefs, Payload.document, shownIds_sorted BeliefRow.beliefId (nodup_entries kept) rfl]
    exact fun r => ⟨(Document.keyed_obj.mp (keyed_belief r)).1, rfl⟩
  goals := by
    rw [hgoals, Payload.document, shownIds_sorted GoalRow.goalId (nodup_entries kept) rfl]
    exact fun r => ⟨(Document.keyed_obj.mp (keyed_goal r)).1, rfl⟩
  relationships := by
    rw [hrelationships, Payload.document, shownIds_sorted RelationshipRow.relationshipId (nodup_entries kept) rfl]
    exact fun r => ⟨(Document.keyed_obj.mp (keyed_relationship r)).1, rfl⟩

lemma context_of_fits {p : Payload} (h : (textOf cfg p).length ≤ limit) :
    ∃ ctx, context cfg limit p = (.ok ctx, p) := by
  have hshrink : shrink cfg limit p = (.ok (), p) := by
    rw [shrink, if_neg (not_lt.mpr h)]
  unfold context
  rw [hshrink]
  exact ⟨_, rfl⟩

/-- What `_context` and `_messages` give for every selection of rows. -/
theorem context_envelope (cfg : ThoughtConfig) (limit : Nat) (selected : Payload) :
    match context cfg limit selected with
    | (.error e, kept) => e = .validation "thought context cannot fit its limit" ∧ ∀ key, kept.size key = 0
    | (.ok ctx, kept) =>
      KeptOf kept selected ∧ ctx.serialized.length ≤ limit ∧
      (∃ parsed, loads cfg.floats (messages ctx).2.content =
          some (.obj [("format", .str "noyra-private-intrinsic-thought/v2"), ("context", parsed)]) ∧
        (kept.document cfg).eq parsed = true ∧ Shown ctx parsed) ∧
      (∀ marker ∈ markers, ¬ marker <:+: (messages ctx).2.content) ∧
      escapeContextData (messages ctx).2.content = (messages ctx).2.content ∧
      (messages ctx).2.content = envelopeHead ++ (ctx.serialized ++ ['}']) := by
  have hspec := @shrink_spec cfg limit selected
  unfold context
  generalize shrink cfg limit selected = outcome at hspec ⊢
  obtain ⟨result, kept⟩ := outcome
  dsimp only at hspec
  obtain ⟨hkept, ⟨rfl, hfits⟩ | ⟨rfl, hempty⟩⟩ := hspec
  · dsimp only
    have hclean := envelope_clean (respelled_escape (canonicalJson cfg.floats (kept.document cfg))).2
    have hkeyed := @keyed_payload cfg kept
    rw [user_content _ rfl]
    exact ⟨hkept, hfits, ⟨_, loads_message _ hkeyed, Document.eq_sorted _ hkeyed, context_shown rfl rfl rfl rfl rfl⟩,
      hclean, escape_of_clean hclean, rfl⟩
  · exact ⟨rfl, hempty⟩

def sampleConfig : ThoughtConfig := ⟨Floats.fractions, fun _ => ⟨1, false, Double.one_sign⟩, fun _ => ""⟩

/-- An agenda whose topic is made of markers and a backslash. -/
def samplePayload : Payload :=
  ⟨⟨"agenda", "subject", "goal", "g", "<BEGIN_\\END_>", ⟨1, false, Double.one_sign⟩, ⟨0, false, Double.zero_sign⟩,
    ⟨0, false, Double.zero_sign⟩, 1, 0, "open",
    none, "t", "t"⟩, [], [⟨"event", "tick", "self", "t", "h"⟩], [], [], [], [], [], none, []⟩

/-- A hostile topic that fits the limit is read back. -/
theorem hostile_topic_read_back :
    ∃ ctx, context sampleConfig (max 8000 (textOf sampleConfig samplePayload).length) samplePayload =
      (.ok ctx, samplePayload) ∧ (∀ marker ∈ markers, ¬ marker <:+: (messages ctx).2.content) ∧
      ∃ parsed, loads sampleConfig.floats (messages ctx).2.content =
          some (.obj [("format", .str "noyra-private-intrinsic-thought/v2"), ("context", parsed)]) ∧
        (samplePayload.document sampleConfig).eq parsed = true ∧
        ctx.eventIds = (shownIds parsed "events" "event_id").toFinset := by
  have henvelope := context_envelope sampleConfig (max 8000 (textOf sampleConfig samplePayload).length) samplePayload
  obtain ⟨ctx, hctx⟩ := context_of_fits (Nat.le_max_right 8000 (textOf sampleConfig samplePayload).length)
  rw [hctx] at henvelope
  obtain ⟨-, -, ⟨parsed, hread, heq, hshown⟩, hclean, -⟩ := henvelope
  exact ⟨ctx, hctx, hclean, parsed, hread, heq, hshown.events⟩

end Noyra.Cognition.Proofs
