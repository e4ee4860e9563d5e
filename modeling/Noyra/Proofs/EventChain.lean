import Noyra.Core.Events
import Noyra.Lib.HashChain
import Mathlib.Data.List.Nodup
import Mathlib.Data.List.Perm.Subperm
import Mathlib.Logic.Relation

/-!
# The event chain

The links of a subject are the hash chain over its events in the order of their insertion, which is what
`verifyChain` recomputes. What it accepts determines the events, also in a database that was not written
by `append`.
-/

namespace Noyra.Core.Proofs
open Noyra.Lib Noyra.Core

variable {cfg : EventConfig} {db db' : EventTables} {x : AppendReading} {i : AppendInput}

/-- The event without the columns that its chain hash does not cover. -/
def hashedPart (e : EventRow) : EventRow :=
  { e with payloadJson := .null, processingStatus := .null, payloadArchiveKey := .null }

def link (cfg : EventConfig) (sequence : Nat) (previous : Option String) (fields : EventFields) : String :=
  cfg.contentHash ⟨sequence, previous, fields⟩

lemma link_binding (h : Function.Injective cfg.contentHash) : HashChain.Binding (link cfg) := by
  intro m n p q a b hlink
  have heq := h hlink
  simp only [ChainFields.mk.injEq] at heq
  exact ⟨heq.2.1, heq.2.2⟩

lemma json_inj {c d : TextCell} {v : Option String} (hc : c.json = .ok v) (hd : d.json = .ok v) : c = d := by
  cases c with
  | null =>
    cases hc
    cases d <;> simp_all [TextCell.json]
  | text s =>
    cases hc
    cases d <;> simp_all [TextCell.json]
  | blob b => cases hc

lemma hashedPart_eq_of_fields {e e' : EventRow} {f : EventFields} (h : e.fields = .ok f) (h' : e'.fields = .ok f) :
    hashedPart e = hashedPart e' := by
  simp only [EventRow.fields, bind_eq_ok, Except.ok.injEq] at h h'
  obtain ⟨s, h1, i, h2, t, h3, c, h4, o, h5, b, h6, p, h7, l, h8, k, h9, rfl⟩ := h
  obtain ⟨_, h1', _, h2', _, h3', _, h4', _, h5', _, h6', _, h7', _, h8', _, h9', heq⟩ := h'
  cases heq
  simp only [hashedPart, EventRow.mk.injEq, and_true, true_and]
  exact ⟨json_inj h2 h2', json_inj h1 h1', json_inj h3 h3', json_inj h4 h4', json_inj h5 h5', json_inj h6 h6',
    json_inj h7 h7', json_inj h8 h8', json_inj h9 h9'⟩

/-- The loop recomputes the hash chain of the rows it accepts. -/
lemma verifyRows_root {rows : List (ChainRoot × EventRow)} {verified n : Nat} {previous r : Option String}
    (h : verifyRows cfg verified previous rows = .ok (n, r)) :
    ∃ fs, rows.map (fun row => row.2.fields) = fs.map .ok ∧ n = verified + rows.length ∧
      r = HashChain.root (link cfg) verified previous fs := by
  induction rows generalizing verified previous with
  | nil =>
    cases h
    exact ⟨[], rfl, rfl, rfl⟩
  | cons row rows ih =>
    obtain ⟨root, event⟩ := row
    simp only [verifyRows, chainHash, bind_eq_ok, orRaise_eq_ok, raiseIf_eq_ok, Except.ok.injEq] at h
    obtain ⟨expected, ⟨f, hf, hexpected⟩, persisted, -, -, -, hrest⟩ := h
    obtain ⟨fs, hfs, hn, hr⟩ := ih hrest
    refine ⟨f :: fs, ?_, ?_, ?_⟩
    · simp [hf, hfs]
    · simp only [List.length_cons]
      omega
    · rw [hr, ← hexpected]
      rfl

lemma verifyChain_root {subjectId : String} {report : ChainReport} (h : verifyChain cfg db subjectId = .ok report) :
    ∃ fs, (db.chainRows subjectId).map (fun row => row.2.fields) = fs.map .ok ∧
      report.rootHash = HashChain.root (link cfg) 0 none fs ∧ fs.length = report.eventCount ∧
      (db.chainRows subjectId).length = (db.eventsOf subjectId).length := by
  simp only [verifyChain, bind_eq_ok, raiseIf_eq_ok, Except.ok.injEq] at h
  obtain ⟨-, -, ⟨verified, previous⟩, hrows, -, hcount, hreport⟩ := h
  obtain ⟨fs, hfs, hn, hr⟩ := verifyRows_root hrows
  have hlen : fs.length = (db.chainRows subjectId).length := by
    have := congrArg List.length hfs
    simpa using this.symm
  subst hreport
  simp only [Decidable.not_not] at hcount
  exact ⟨fs, hfs, hr, by simp only; omega, by omega⟩

lemma mem_joined {r : ChainRoot} {e : EventRow} :
    e ∈ db.joined r ↔ e ∈ db.events ∧ e.eventId = r.eventId ∧ e.eventId ≠ .null ∧ e.subjectId = r.subjectId := by
  simp [EventTables.joined]

lemma mem_chainRows {subjectId : String} {row : ChainRoot × EventRow} (h : row ∈ db.chainRows subjectId) :
    row.1 ∈ db.rootsOf subjectId ∧ row.2 ∈ db.joined row.1 := by
  simp only [EventTables.chainRows, EventTables.sortedRoots, List.mem_flatMap, List.mem_mergeSort, List.mem_map] at h
  obtain ⟨r, hr, e, he, rfl⟩ := h
  exact ⟨hr, he⟩

/-- At most one event is joined with a link. -/
lemma joined_pairwise (r : ChainRoot) : (db.joined r).Pairwise (fun a b => a.eventId ≠ b.eventId) := by
  unfold EventTables.joined
  rw [List.pairwise_filter]
  refine db.event_key.imp ?_
  intro a b hab ha hb heq
  simp only [decide_eq_true_eq] at ha
  exact ha.2.1 (hab heq)

lemma chainRows_nodup (subjectId : String) : ((db.chainRows subjectId).map (fun row => row.2.eventId)).Nodup := by
  rw [List.Nodup, List.pairwise_map, EventTables.chainRows, List.pairwise_flatMap]
  constructor
  · intro r _
    rw [List.pairwise_map]
    exact joined_pairwise r
  · have hroots : (db.rootsOf subjectId).Pairwise (fun a b => a.eventId = b.eventId → a.eventId = .null) := by
      unfold EventTables.rootsOf
      exact db.root_key.filter _
    have hsym : ∀ {a b : ChainRoot}, (a.eventId = b.eventId → a.eventId = .null) →
        (b.eventId = a.eventId → b.eventId = .null) := by
      intro a b hab heq
      rw [heq]
      exact hab heq.symm
    have hperm := List.mergeSort_perm (db.rootsOf subjectId) (fun a b => a.sequenceNumber.le b.sequenceNumber)
    have hsorted := (hperm.pairwise_iff hsym).mpr hroots
    refine hsorted.imp ?_
    intro a b hab p hp q hq heq
    obtain ⟨e, he, rfl⟩ := List.mem_map.mp hp
    obtain ⟨e', he', rfl⟩ := List.mem_map.mp hq
    rw [mem_joined] at he he'
    apply he.2.2.1
    rw [he.2.1]
    exact hab (by rw [← he.2.1, ← he'.2.1]; exact heq)

/-- The rows of an accepted chain are the events of the subject, in the order of the chain. -/
lemma chainRows_perm {subjectId : String} (h : (db.chainRows subjectId).length = (db.eventsOf subjectId).length) :
    ((db.chainRows subjectId).map Prod.snd).Perm (db.eventsOf subjectId) := by
  have hnodup : ((db.chainRows subjectId).map Prod.snd).Nodup := by
    apply List.Nodup.of_map EventRow.eventId
    rw [List.map_map]
    exact chainRows_nodup subjectId
  have hsub : (db.chainRows subjectId).map Prod.snd ⊆ db.eventsOf subjectId := by
    intro e he
    obtain ⟨row, hrow, rfl⟩ := List.mem_map.mp he
    obtain ⟨hroot, hevent⟩ := mem_chainRows hrow
    rw [mem_joined] at hevent
    simp only [EventTables.rootsOf, List.mem_filter, decide_eq_true_eq] at hroot
    simp only [EventTables.eventsOf, List.mem_filter, decide_eq_true_eq]
    exact ⟨hevent.1, hevent.2.2.2.trans hroot.2⟩
  apply (List.subperm_of_subset hnodup hsub).perm_of_length_le
  simp [h]

/-- Two databases with the same verified root hold the same events in the same order. -/
lemma chainRows_eq {db₁ db₂ : EventTables} {subjectId : String} {report : ChainReport}
    (hinj : Function.Injective cfg.contentHash) (h₁ : verifyChain cfg db₁ subjectId = .ok report)
    (h₂ : verifyChain cfg db₂ subjectId = .ok report) :
    (db₁.chainRows subjectId).map (fun row => hashedPart row.2) = (db₂.chainRows subjectId).map
      (fun row => hashedPart row.2) := by
  obtain ⟨fs₁, hfs₁, hroot₁, hlen₁, -⟩ := verifyChain_root h₁
  obtain ⟨fs₂, hfs₂, hroot₂, hlen₂, -⟩ := verifyChain_root h₂
  have hfs : fs₁ = fs₂ :=
    HashChain.entries_of_root _ (link_binding hinj) (hlen₁.trans hlen₂.symm) (hroot₁.symm.trans hroot₂)
  subst hfs
  apply List.ext_getElem
  · have hl₁ := congrArg List.length hfs₁
    have hl₂ := congrArg List.length hfs₂
    simp only [List.length_map] at *
    omega
  · intro n hn₁ hn₂
    simp only [List.length_map] at hn₁ hn₂
    have hn : n < fs₁.length := by
      have := congrArg List.length hfs₁
      simp only [List.length_map] at this
      omega
    have hget₁ := List.getElem_of_eq hfs₁ (i := n) (by simpa using hn₁)
    have hget₂ := List.getElem_of_eq hfs₂ (i := n) (by simpa using hn₂)
    simp only [List.getElem_map] at hget₁ hget₂ ⊢
    exact hashedPart_eq_of_fields hget₁ hget₂

def linkHash (cfg : EventConfig) (e : EventRow) (sequence : Nat) (previous : Option String) : String :=
  match chainHash cfg e sequence previous with
  | .ok root => root
  | .error _ => ""

def linkRow (cfg : EventConfig) (e : EventRow) (sequence : Nat) (previous : Option String) : ChainRoot :=
  ⟨e.eventId, e.subjectId, .integer sequence, .ofOption previous, .text (linkHash cfg e sequence previous)⟩

/-- The links that follow `n` links, the last of which has the hash `previous`. -/
def chainOf (cfg : EventConfig) : Nat → Option String → List EventRow → List ChainRoot
  | _, _, [] => []
  | n, previous, e :: events =>
    linkRow cfg e (n + 1) previous :: chainOf cfg (n + 1) (some (linkHash cfg e (n + 1) previous)) events

/-- The hash of the last of these links. -/
def tip (cfg : EventConfig) : Nat → Option String → List EventRow → Option String
  | _, previous, [] => previous
  | n, previous, e :: events => tip cfg (n + 1) (some (linkHash cfg e (n + 1) previous)) events

/-- Every column that the chain hashes is a text. -/
def Textual (e : EventRow) : Prop := (∃ f, e.fields = .ok f) ∧ e.eventId ≠ .null

lemma Textual.chainHash_eq {e : EventRow} (h : Textual e) (n : Nat) (previous : Option String) :
    chainHash cfg e n previous = .ok (linkHash cfg e n previous) := by
  obtain ⟨⟨f, hf⟩, -⟩ := h
  simp [linkHash, chainHash, hf]

lemma tip_append (n : Nat) (previous : Option String) (events : List EventRow) (e : EventRow) :
    tip cfg n previous (events ++ [e]) =
      some (linkHash cfg e (n + events.length + 1) (tip cfg n previous events)) := by
  induction events generalizing n previous with
  | nil => rfl
  | cons a events ih =>
    simp only [List.cons_append, tip, List.length_cons, ih]
    congr 2
    omega

lemma chainOf_append (n : Nat) (previous : Option String) (events : List EventRow) (e : EventRow) :
    chainOf cfg n previous (events ++ [e]) =
      chainOf cfg n previous events ++ [linkRow cfg e (n + events.length + 1) (tip cfg n previous events)] := by
  induction events generalizing n previous with
  | nil => rfl
  | cons a events ih =>
    simp only [List.cons_append, chainOf, tip, List.length_cons, ih]
    congr 4
    omega

lemma length_chainOf (n : Nat) (previous : Option String) (events : List EventRow) :
    (chainOf cfg n previous events).length = events.length := by
  induction events generalizing n previous with
  | nil => rfl
  | cons a events ih => simp [chainOf, ih]

/-- The last link carries the hash that the next one continues from. -/
lemma tip_eq_getLast (events : List EventRow) :
    ((chainOf cfg 0 none events).getLast?.map (fun r => r.rootHash.str cfg)) = tip cfg 0 none events := by
  induction events using List.reverseRecOn with
  | nil => rfl
  | append_singleton events e _ =>
    rw [chainOf_append, tip_append, List.getLast?_concat]
    rfl

lemma sequence_chainOf {n : Nat} {previous : Option String} {events : List EventRow} {r : ChainRoot}
    (h : r ∈ chainOf cfg n previous events) : ∃ m : Nat, r.sequenceNumber = .integer m ∧ n < m := by
  induction events generalizing n previous with
  | nil => cases h
  | cons a events ih =>
    rcases List.mem_cons.mp h with rfl | h
    · exact ⟨n + 1, rfl, by omega⟩
    · obtain ⟨m, hm, hlt⟩ := ih h
      exact ⟨m, hm, by omega⟩

lemma chainOf_sorted (n : Nat) (previous : Option String) (events : List EventRow) :
    (chainOf cfg n previous events).Pairwise (fun a b => a.sequenceNumber.le b.sequenceNumber) := by
  induction events generalizing n previous with
  | nil => exact List.Pairwise.nil
  | cons a events ih =>
    refine List.Pairwise.cons ?_ (ih _ _)
    intro r hr
    obtain ⟨m, hm, hlt⟩ := sequence_chainOf hr
    rw [hm]
    simp only [linkRow, IntegerCell.le, decide_eq_true_eq]
    omega

/-- The chain of textual events passes the loop. -/
lemma verifyRows_chainOf {events : List EventRow} (ht : ∀ e ∈ events, Textual e) (n : Nat)
    (previous : Option String) :
    verifyRows cfg n previous ((chainOf cfg n previous events).zip events) =
      .ok (n + events.length, tip cfg n previous events) := by
  induction events generalizing n previous with
  | nil => rfl
  | cons a events ih =>
    have ha : chainHash cfg a (n + 1) previous = .ok (linkHash cfg a (n + 1) previous) :=
      (ht a List.mem_cons_self).chainHash_eq (n + 1) previous
    have hrest := ih (fun e he => ht e (List.mem_cons_of_mem a he)) (n + 1) (some (linkHash cfg a (n + 1) previous))
    simp only [chainOf, List.zip_cons_cons, verifyRows, ha, ok_bind, tip, List.length_cons]
    have hpersisted : strictInt cfg (linkRow cfg a (n + 1) previous).sequenceNumber = some ((n + 1 : Nat) : Int) := rfl
    rw [hpersisted, orRaise_some, ok_bind]
    rw [raiseIf_neg (by simp [linkRow]), ok_bind, hrest]
    congr 2
    omega

/-- The causal parents that an event names. -/
def CausalParent (e : EventRow) (parentId : String) : Prop :=
  ∃ parents, e.causalParentIdsJson = .text (canonicalJson parents) ∧ parentId ∈ parents

/-- The parents of every event were there before it. -/
def EarlierParents (events : List EventRow) : Prop :=
  ∀ (n : Nat) e, events[n]? = some e → ∀ parentId, CausalParent e parentId →
    ∃ m < n, ∃ parent, events[m]? = some parent ∧ parent.eventId = .text parentId ∧ parent.subjectId = e.subjectId

structure Chained (cfg : EventConfig) (db : EventTables) : Prop where
  textual : ∀ e ∈ db.events, Textual e
  chain : ∀ subjectId, db.rootsOf subjectId = chainOf cfg 0 none (db.eventsOf subjectId)
  parents : EarlierParents db.events

lemma event_unique {a b : EventRow} (ha : a ∈ db.events) (hb : b ∈ db.events) (hid : a.eventId = b.eventId)
    (hn : a.eventId ≠ .null) : a = b := by
  have hpair : db.events.Pairwise (fun a b => a.eventId = b.eventId → a.eventId ≠ .null → a = b) := by
    refine db.event_key.imp ?_
    intro a b hab heq hnull
    exact absurd (hab heq) hnull
  have hflip : db.events.Pairwise (flip fun a b => a.eventId = b.eventId → a.eventId ≠ .null → a = b) := by
    refine hpair.imp ?_
    intro a b hab heq hnull
    exact (hab heq.symm (heq ▸ hnull)).symm
  exact hpair.forall_of_forall_of_flip (fun a _ _ _ => rfl) hflip ha hb hid hn

lemma joined_self {e : EventRow} {r : ChainRoot} (he : e ∈ db.events) (hn : e.eventId ≠ .null)
    (hid : r.eventId = e.eventId) (hs : r.subjectId = e.subjectId) : db.joined r = [e] := by
  have hmem : e ∈ db.joined r := mem_joined.mpr ⟨he, hid.symm, hn, hs.symm⟩
  have hall : ∀ a ∈ db.joined r, a = e := by
    intro a ha
    rw [mem_joined] at ha
    exact event_unique ha.1 he (ha.2.1.trans hid) ha.2.2.1
  have hpair : (db.joined r).Pairwise (fun a b => a.eventId ≠ b.eventId) := joined_pairwise r
  cases hj : db.joined r with
  | nil => simp [hj] at hmem
  | cons a rest =>
    rw [hj] at hall hpair
    obtain rfl := hall a List.mem_cons_self
    cases rest with
    | nil => rfl
    | cons b rest =>
      have hb := hall b (by simp)
      rw [List.pairwise_cons] at hpair
      exact absurd (congrArg EventRow.eventId hb.symm) (hpair.1 b List.mem_cons_self)

lemma flatMap_joined {events : List EventRow} (hmem : ∀ e ∈ events, e ∈ db.events ∧ e.eventId ≠ .null) (n : Nat)
    (previous : Option String) :
    (chainOf cfg n previous events).flatMap (fun r => (db.joined r).map (fun e => (r, e))) =
      (chainOf cfg n previous events).zip events := by
  induction events generalizing n previous with
  | nil => rfl
  | cons a events ih =>
    obtain ⟨ha, hn⟩ := hmem a List.mem_cons_self
    have hj : db.joined (linkRow cfg a (n + 1) previous) = [a] := joined_self ha hn rfl rfl
    simp only [chainOf, List.flatMap_cons, hj, List.map_cons, List.map_nil, List.zip_cons_cons]
    rw [ih (fun e he => hmem e (List.mem_cons_of_mem a he))]
    rfl

lemma Chained.sortedRoots (hc : Chained cfg db) (subjectId : String) :
    db.sortedRoots subjectId = chainOf cfg 0 none (db.eventsOf subjectId) := by
  unfold EventTables.sortedRoots
  rw [hc.chain]
  exact List.mergeSort_of_pairwise (chainOf_sorted _ _ _)

lemma Chained.mem_eventsOf (hc : Chained cfg db) {subjectId : String} {e : EventRow}
    (he : e ∈ db.eventsOf subjectId) : e ∈ db.events ∧ Textual e := by
  have hmem : e ∈ db.events := (List.mem_filter.mp he).1
  exact ⟨hmem, hc.textual e hmem⟩

/-- A chained database passes `verify_chain`. -/
lemma Chained.verify (hc : Chained cfg db) (subjectId : String) :
    verifyChain cfg db subjectId =
      .ok ⟨(db.eventsOf subjectId).length, tip cfg 0 none (db.eventsOf subjectId)⟩ := by
  have hrows : db.chainRows subjectId = (chainOf cfg 0 none (db.eventsOf subjectId)).zip (db.eventsOf subjectId) := by
    unfold EventTables.chainRows
    rw [hc.sortedRoots]
    exact flatMap_joined (fun e he => ⟨(hc.mem_eventsOf he).1, (hc.mem_eventsOf he).2.2⟩) _ _
  have htextual : ∀ e ∈ db.eventsOf subjectId, Textual e := fun e he => (hc.mem_eventsOf he).2
  have hloop := @verifyRows_chainOf cfg _ htextual 0 none
  unfold verifyChain
  simp only [hc.chain, length_chainOf, ne_eq, not_true_eq_false, raiseIf_neg, not_false_eq_true, ok_bind]
  rw [hrows, hloop]
  simp [raiseIf]

lemma insertEvent_ok {e : EventRow} (h : db.insertEvent e = .ok db') :
    db'.events = db.events ++ [e] ∧ db'.roots = db.roots := by
  unfold EventTables.insertEvent at h
  split at h
  · cases h
    exact ⟨rfl, rfl⟩
  · cases h

lemma insertLink_ok {subjectId : String} {e : EventRow} {n : Nat} {previous : Option String} {root : String}
    (h : db.insertLink cfg subjectId e n previous = .ok (root, db')) :
    chainHash cfg e n previous = .ok root ∧ db'.events = db.events ∧
      db'.roots = db.roots ++ [⟨e.eventId, .text subjectId, .integer n, .ofOption previous, .text root⟩] := by
  simp only [EventTables.insertLink, EventTables.insertRoot, bind_eq_ok, raiseIf_eq_ok] at h
  obtain ⟨root', hroot, mid, ⟨-, -, hmid⟩, hpair⟩ := h
  split at hmid
  · cases hmid
    cases hpair
    exact ⟨hroot, rfl, rfl⟩
  · cases hmid

lemma checkParents_ok {subjectId occurredAt : String} {runtimeTimestamp : Bool} {parents : List String}
    (h : checkParents cfg db subjectId occurredAt runtimeTimestamp parents = .ok ()) :
    ∀ p ∈ parents, ∃ e ∈ db.events, e.eventId = .text p ∧ e.subjectId = .text subjectId := by
  induction parents with
  | nil =>
    intro p hp
    cases hp
  | cons a parents ih =>
    simp only [checkParents, bind_eq_ok, orRaise_eq_ok, raiseIf_eq_ok] at h
    obtain ⟨parent, hparent, -, hsubject, -, -, hrest⟩ := h
    intro p hp
    rcases List.mem_cons.mp hp with rfl | hp
    · refine ⟨parent, List.mem_of_find?_eq_some hparent, ?_, ?_⟩
      · simpa using List.find?_some hparent
      · simpa using hsubject
    · exact ih hrest p hp

/-- What a successful append does: nothing, or a new event with its link. -/
lemma append_cases {record : EventRecord} (h : append cfg x db i = .ok (record, db')) :
    (db' = db ∧ ∃ e, db.event? (i.id x) = some e) ∨
    (db.event? (i.id x) = none ∧ ∃ occurredAt mid,
      checkParents cfg db i.subjectId occurredAt i.occurredAt.isNone i.causalParentIds = .ok () ∧
      db.insertEvent (newEvent cfg x i occurredAt) = .ok mid ∧ mid.appendChain cfg i.subjectId (i.id x) = .ok db' ∧
      record.row = newEvent cfg x i occurredAt) := by
  simp only [append, bind_eq_ok, raiseIf_eq_ok] at h
  obtain ⟨-, -, -, -, occurredAt, -, -, -, -, -, h⟩ := h
  split at h
  · next existing hfound =>
    obtain ⟨r, -, hr⟩ := bind_eq_ok.mp h
    cases hr
    exact .inl ⟨rfl, existing, hfound⟩
  · next hfound =>
    simp only [insertNewEvent, bind_eq_ok, raiseIf_eq_ok, Except.ok.injEq, Prod.mk.injEq] at h
    obtain ⟨_, hparents, -, -, mid, hmid, -, -, db'', hchain, hrow, rfl⟩ := h
    exact .inr ⟨hfound, occurredAt, mid, hparents, hmid, hchain, by rw [← hrow]⟩

lemma textual_newEvent (occurredAt : String) : Textual (newEvent cfg x i occurredAt) :=
  ⟨⟨_, rfl⟩, by simp [newEvent]⟩

lemma event?_append {e : EventRow} {id : String} (hnone : db.event? id = none) (hid : e.eventId = .text id)
    (he : db'.events = db.events ++ [e]) : db'.event? id = some e := by
  unfold EventTables.event? at *
  rw [he, List.find?_append, hnone]
  simp [hid]

/-- In a chained database the link of a new event continues the chain of its subject. -/
lemma appendChain_ok {mid : EventTables} {e : EventRow} {subjectId id : String} (hc : Chained cfg db)
    (hnone : db.event? id = none) (hid : e.eventId = .text id) (hs : e.subjectId = .text subjectId) (ht : Textual e)
    (hevents : mid.events = db.events ++ [e]) (hroots : mid.roots = db.roots)
    (h : mid.appendChain cfg subjectId id = .ok db') :
    db'.events = mid.events ∧
      db'.roots = mid.roots ++
        [linkRow cfg e ((db.eventsOf subjectId).length + 1) (tip cfg 0 none (db.eventsOf subjectId))] := by
  have hof : mid.eventsOf subjectId = db.eventsOf subjectId ++ [e] := by
    simp [EventTables.eventsOf, hevents, hs]
  have hrof : mid.rootsOf subjectId = db.rootsOf subjectId := by
    simp [EventTables.rootsOf, hroots]
  have hcount : (db.rootsOf subjectId).length = (db.eventsOf subjectId).length := by
    rw [hc.chain, length_chainOf]
  have hsorted : mid.sortedRoots subjectId = chainOf cfg 0 none (db.eventsOf subjectId) := by
    rw [← hc.sortedRoots]
    simp [EventTables.sortedRoots, hrof]
  unfold EventTables.appendChain at h
  simp only [hof, hrof, hcount, List.length_append, List.length_singleton] at h
  -- the chain is never empty beside older events, so nothing is filled in
  rw [if_neg (by omega)] at h
  simp only [bind_eq_ok, orRaise_eq_ok, hsorted, tip_eq_getLast, Except.ok.injEq] at h
  obtain ⟨-, -, event, hevent, ⟨root, last⟩, hlink, rfl⟩ := h
  obtain rfl : event = e := Option.some.inj (hevent.symm.trans (event?_append hnone hid hevents))
  obtain ⟨hhash, hlast, hrootsLast⟩ := insertLink_ok hlink
  rw [ht.chainHash_eq] at hhash
  refine ⟨hlast, ?_⟩
  rw [hrootsLast]
  cases hhash
  simp [linkRow, hs]

lemma earlierParents_append {e : EventRow} {events : List EventRow} (h : EarlierParents events)
    (he : ∀ parentId, CausalParent e parentId →
      ∃ parent ∈ events, parent.eventId = .text parentId ∧ parent.subjectId = e.subjectId) :
    EarlierParents (events ++ [e]) := by
  intro n a ha parentId hp
  by_cases hn : n < events.length
  · rw [List.getElem?_append_left hn] at ha
    obtain ⟨m, hm, parent, hparent, hrest⟩ := h n a ha parentId hp
    refine ⟨m, hm, parent, ?_, hrest⟩
    rw [List.getElem?_append_left (by omega)]
    exact hparent
  · obtain ⟨hlt, hget⟩ := List.getElem?_eq_some_iff.mp ha
    have hlen : n = events.length := by
      simp only [List.length_append, List.length_singleton] at hlt
      omega
    subst hlen
    obtain rfl : e = a := by simpa using hget
    obtain ⟨parent, hmem, hrest⟩ := he parentId hp
    obtain ⟨m, hm, hget'⟩ := List.getElem_of_mem hmem
    refine ⟨m, hm, parent, ?_, hrest⟩
    rw [List.getElem?_append_left hm, ← hget']
    exact List.getElem?_eq_getElem hm

lemma canonicalJson_injective : Function.Injective canonicalJson := by
  intro a b h
  apply Json.array_injective
  exact String.ofList_injective h

lemma append_chained {record : EventRecord} (hc : Chained cfg db) (h : append cfg x db i = .ok (record, db')) :
    Chained cfg db' := by
  rcases append_cases h with ⟨rfl, -⟩ | ⟨hnone, occurredAt, mid, hparents, hmid, hchain, -⟩
  · exact hc
  obtain ⟨hevents, hroots⟩ := insertEvent_ok hmid
  obtain ⟨hevents', hroots'⟩ :=
    appendChain_ok hc hnone rfl rfl (textual_newEvent occurredAt) hevents hroots hchain
  rw [hevents] at hevents'
  rw [hroots] at hroots'
  refine ⟨?_, ?_, ?_⟩
  · intro e he
    rw [hevents', List.mem_append, List.mem_singleton] at he
    rcases he with he | rfl
    · exact hc.textual e he
    · exact textual_newEvent occurredAt
  · intro subjectId
    unfold EventTables.rootsOf EventTables.eventsOf
    rw [hevents', hroots', List.filter_append, List.filter_append]
    have hold := hc.chain subjectId
    unfold EventTables.rootsOf EventTables.eventsOf at hold
    rw [hold]
    by_cases hs : i.subjectId = subjectId
    · subst hs
      simp [linkRow, newEvent, EventTables.eventsOf, chainOf_append]
    · simp [linkRow, newEvent, hs]
  · rw [hevents']
    refine earlierParents_append hc.parents ?_
    rintro parentId ⟨parents, hjson, hp⟩
    have heq : parents = i.causalParentIds := by
      apply canonicalJson_injective
      simpa [newEvent] using hjson.symm
    rw [heq] at hp
    exact checkParents_ok hparents parentId hp

lemma chained_empty : Chained cfg .empty where
  textual := by
    intro e he
    cases he
  chain := by
    intro subjectId
    rfl
  parents := by
    intro n e he
    cases he

lemma eventStep_chained (hc : Chained cfg db) (a : AppendInput × AppendReading) : Chained cfg (eventStep cfg db a) := by
  unfold eventStep
  split
  · next record db' h => exact append_chained hc h
  · exact hc

lemma chained_of_reachable (h : (eventMachine cfg).Reachable db) : Chained cfg db := by
  refine Machine.ReachableUnder.invariant ?_ ?_ h
  · rintro s rfl
    exact chained_empty
  · intro s a hs _
    exact eventStep_chained hs a

lemma backfill_events {subjectId : String} {n : Nat} {previous : Option String} {events : List EventRow}
    (h : EventTables.backfill cfg subjectId n previous events db = .ok db') : db'.events = db.events := by
  induction events generalizing n previous db with
  | nil =>
    cases h
    rfl
  | cons e events ih =>
    simp only [EventTables.backfill, bind_eq_ok] at h
    obtain ⟨⟨root, mid⟩, hlink, hrest⟩ := h
    exact (ih hrest).trans (insertLink_ok hlink).2.1

lemma appendChain_events {subjectId id : String} (h : db.appendChain cfg subjectId id = .ok db') :
    db'.events = db.events := by
  unfold EventTables.appendChain at h
  dsimp only at h
  split at h
  · exact backfill_events h
  · simp only [bind_eq_ok, Except.ok.injEq] at h
    obtain ⟨-, -, event, -, ⟨root, last⟩, hlink, rfl⟩ := h
    exact (insertLink_ok hlink).2.1

/-- Events are never removed. -/
lemma eventStep_event? {id : String} {e : EventRow} (a : AppendInput × AppendReading) (h : db.event? id = some e) :
    (eventStep cfg db a).event? id = some e := by
  unfold eventStep
  split
  · next record db' happend =>
    rcases append_cases happend with ⟨rfl, -⟩ | ⟨-, occurredAt, mid, -, hmid, hchain, -⟩
    · exact h
    · obtain ⟨hevents, -⟩ := insertEvent_ok hmid
      have hkept : db'.events = mid.events := appendChain_events hchain
      unfold EventTables.event? at *
      rw [hkept, hevents, List.find?_append, h]
      rfl
  · exact h

lemma foldl_event? {id : String} {e : EventRow} (later : List (AppendInput × AppendReading))
    (h : db.event? id = some e) : (later.foldl (eventStep cfg) db).event? id = some e := by
  induction later generalizing db with
  | nil => exact h
  | cons a later ih => exact ih (eventStep_event? a h)

/-- An append under an id that is taken changes nothing. -/
lemma eventStep_replay {e : EventRow} (h : db.event? (i.id x) = some e) : eventStep cfg db (i, x) = db := by
  unfold eventStep
  split
  · next record db' happend =>
    rcases append_cases happend with ⟨rfl, -⟩ | ⟨hnone, -⟩
    · rfl
    · rw [h] at hnone
      cases hnone
  · rfl

lemma append_event? {record : EventRecord} (h : append cfg x db i = .ok (record, db')) :
    ∃ e, db'.event? (i.id x) = some e := by
  rcases append_cases h with ⟨rfl, hfound⟩ | ⟨hnone, occurredAt, mid, -, hmid, hchain, -⟩
  · exact hfound
  · refine ⟨newEvent cfg x i occurredAt, event?_append hnone rfl ?_⟩
    rw [appendChain_events hchain, (insertEvent_ok hmid).1]

/-- `parentId` is a causal parent of the event `id`. -/
def IsParentOf (db : EventTables) (parentId id : String) : Prop :=
  ∃ e ∈ db.events, e.eventId = .text id ∧ CausalParent e parentId

lemma position_unique {m n : Nat} {a b : EventRow} (ha : db.events[m]? = some a) (hb : db.events[n]? = some b)
    (hid : a.eventId = b.eventId) (hn : a.eventId ≠ .null) : m = n := by
  have hkey := List.pairwise_iff_getElem.mp db.event_key
  obtain ⟨hm, rfl⟩ := List.getElem?_eq_some_iff.mp ha
  obtain ⟨hlt, rfl⟩ := List.getElem?_eq_some_iff.mp hb
  rcases Nat.lt_trichotomy m n with h | h | h
  · exact absurd (hkey m n hm hlt h hid) hn
  · exact h
  · rw [hid] at hn
    exact absurd (hkey n m hlt hm h hid.symm) hn

/-- The event `id` is the `n`-th one inserted. -/
def StandsAt (db : EventTables) (n : Nat) (id : String) : Prop :=
  ∃ e, db.events[n]? = some e ∧ EventRow.eventId e = .text id

lemma StandsAt.unique {m n : Nat} {id : String} (h : StandsAt db m id) (h' : StandsAt db n id) : m = n := by
  obtain ⟨e, he, hid⟩ := h
  obtain ⟨e', he', hid'⟩ := h'
  exact position_unique he he' (hid.trans hid'.symm) (by simp [hid])

lemma parent_earlier (h : EarlierParents db.events) {p c : String} (hp : IsParentOf db p c) :
    ∃ m n, m < n ∧ StandsAt db m p ∧ StandsAt db n c := by
  obtain ⟨e, he, hid, hcausal⟩ := hp
  obtain ⟨n, hn, hget⟩ := List.getElem_of_mem he
  have hn' : db.events[n]? = some e := by
    rw [← hget]
    exact List.getElem?_eq_getElem hn
  obtain ⟨m, hm, parent, hparent, hpid, -⟩ := h n e hn' p hcausal
  exact ⟨m, n, hm, ⟨parent, hparent, hpid⟩, e, hn', hid⟩

/-- An ancestor stands before its descendant. -/
lemma ancestor_earlier (h : EarlierParents db.events) {a b : String} (hab : Relation.TransGen (IsParentOf db) a b) :
    ∃ m n, m < n ∧ StandsAt db m a ∧ StandsAt db n b := by
  induction hab with
  | single hp => exact parent_earlier h hp
  | tail _ hp ih =>
    obtain ⟨m, n, hmn, hfirst, hmiddle⟩ := ih
    obtain ⟨m', n', hmn', hmiddle', hlast⟩ := parent_earlier h hp
    have hpos : m' = n := hmiddle'.unique hmiddle
    exact ⟨m, n', by omega, hfirst, hlast⟩

lemma acyclic (h : EarlierParents db.events) (id : String) : ¬Relation.TransGen (IsParentOf db) id id := by
  intro hcycle
  obtain ⟨m, n, hmn, hm, hn⟩ := ancestor_earlier h hcycle
  have hpos : m = n := hm.unique hn
  omega

/-- Every database that appends produce passes `verify_chain`, its causality is acyclic and replays leave it as it
is; and a verified root binds the events of any database, also of one that was tampered with. -/
theorem eventChain_sound (cfg : EventConfig) :
    (∀ db, (eventMachine cfg).Reachable db →
      (∀ subjectId, ∃ report, verifyChain cfg db subjectId = .ok report) ∧
      EarlierParents db.events ∧ (∀ id, ¬Relation.TransGen (IsParentOf db) id id) ∧
      ∀ i x record db', append cfg x db i = .ok (record, db') →
        ∀ (later : List (AppendInput × AppendReading)) (y : AppendReading), i.id y = i.id x →
        eventStep cfg (later.foldl (eventStep cfg) db') (i, y) = later.foldl (eventStep cfg) db') ∧
    (Function.Injective cfg.contentHash → ∀ db₁ db₂ subjectId report,
      verifyChain cfg db₁ subjectId = .ok report → verifyChain cfg db₂ subjectId = .ok report →
      (db₁.chainRows subjectId).map (fun row => hashedPart row.2) =
        (db₂.chainRows subjectId).map (fun row => hashedPart row.2) ∧
      ((db₁.chainRows subjectId).map Prod.snd).Perm (db₁.eventsOf subjectId) ∧
      ((db₂.chainRows subjectId).map Prod.snd).Perm (db₂.eventsOf subjectId)) := by
  constructor
  · intro db hreach
    have hc := chained_of_reachable hreach
    refine ⟨fun subjectId => ⟨_, hc.verify subjectId⟩, hc.parents, acyclic hc.parents, ?_⟩
    intro i x record db' happend later y hid
    obtain ⟨e, he⟩ := append_event? happend
    rw [← hid] at he
    exact eventStep_replay (foldl_event? later he)
  · intro hinj db₁ db₂ subjectId report h₁ h₂
    obtain ⟨-, -, -, -, hlen₁⟩ := verifyChain_root h₁
    obtain ⟨-, -, -, -, hlen₂⟩ := verifyChain_root h₂
    exact ⟨chainRows_eq hinj h₁ h₂, chainRows_perm hlen₁, chainRows_perm hlen₂⟩

/-- Two events, the second caused by the first, hashed without collisions. -/
def sampleConfig : EventConfig where
  contentHash f := canonicalJson
    ([String.ofList (List.replicate f.sequenceNumber '1')] ++
      [f.previousRootHash, f.event.subjectId, f.event.eventId, f.event.eventType, f.event.source, f.event.occurredAt,
        f.event.observedAt, f.event.payloadHash, f.event.privacyLevel, f.event.causalParentIdsJson].map
        (fun | some s => canonicalJson [s] | none => canonicalJson []))
  payloadHash payload := payload
  normalizeTimestamp t := .ok t
  intText _ := none
  bytesText _ := ""
  loadsTexts _ := none

def sampleReading : AppendReading where
  newId := "evt_new"
  now := "2026-01-01T00:00:00.000+00:00"
  observedAt := "2026-01-01T00:00:00.000+00:00"
  withdrawn _ := false
  knownSubject := true
  training := none
  archived _ _ := .ok ""

def sampleAppend (eventId : String) (parents : List String) : AppendInput where
  subjectId := "subject"
  eventType := "observation"
  source := "runtime"
  payload := "\x7b\x7d"
  privacyLevel := "private"
  causalParentIds := parents
  occurredAt := none
  eventId := some eventId

def sampleEvents : EventTables :=
  [(sampleAppend "evt_1" [], sampleReading), (sampleAppend "evt_2" ["evt_1"], sampleReading)].foldl
    (eventStep sampleConfig) .empty

lemma sampleConfig_injective : Function.Injective sampleConfig.contentHash := by
  have hoption : Function.Injective (fun | some s => canonicalJson [s] | none => canonicalJson [] : Option String →
      String) := by
    intro a b h
    cases a <;> cases b <;> simp_all [canonicalJson_injective.eq_iff]
  intro f g h
  have hlist := canonicalJson_injective h
  simp only [List.cons_append, List.nil_append, List.map_cons, List.map_nil, List.cons.injEq, and_true] at hlist
  obtain ⟨hseq, hprev, h1, h2, h3, h4, h5, h6, h7, h8, h9⟩ := hlist
  have hnumber : f.sequenceNumber = g.sequenceNumber := by
    have := congrArg List.length (String.ofList_injective hseq)
    simpa using this
  obtain ⟨fn, fp, fe⟩ := f
  obtain ⟨gn, gp, ge⟩ := g
  obtain ⟨_, _, _, _, _, _, _, _, _⟩ := fe
  obtain ⟨_, _, _, _, _, _, _, _, _⟩ := ge
  simp only [ChainFields.mk.injEq, EventFields.mk.injEq]
  exact ⟨hnumber, hoption hprev, hoption h1, hoption h2, hoption h3, hoption h4, hoption h5, hoption h6, hoption h7,
    hoption h8, hoption h9⟩

theorem eventChain_sound_sample :
    sampleEvents.events.map EventRow.eventId = [.text "evt_1", .text "evt_2"] ∧
    (∃ report, verifyChain sampleConfig sampleEvents "subject" = .ok report) ∧
    (∀ id, ¬Relation.TransGen (IsParentOf sampleEvents) id id) ∧
    ((sampleEvents.chainRows "subject").map Prod.snd).Perm (sampleEvents.eventsOf "subject") := by
  have hreach : (eventMachine sampleConfig).Reachable sampleEvents := Machine.reachable_foldl rfl _
  obtain ⟨hverify, -, hacyclic, -⟩ := (eventChain_sound sampleConfig).1 sampleEvents hreach
  obtain ⟨report, hreport⟩ := hverify "subject"
  have hbound := (eventChain_sound sampleConfig).2 sampleConfig_injective sampleEvents sampleEvents "subject" report
    hreport hreport
  exact ⟨by decide, ⟨report, hreport⟩, hacyclic, hbound.2.1⟩

end Noyra.Core.Proofs
