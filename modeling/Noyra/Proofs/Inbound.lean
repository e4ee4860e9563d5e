import Mathlib.Tactic.Lemma
import Mathlib.Data.List.Basic
import Noyra.Interaction.Ingest

/-!
# Inbound messages are processed once

The tables satisfy an invariant on their own, whatever the workers do: one event row for each provider event,
one interaction for each key, and every interaction, source and link traced back to an event. A call relies on
its event row, which other calls may settle but never remove.
-/

namespace Noyra.Interaction.Proofs
open Noyra.Lib

variable {cfg : InboundConfig} {db db' : InboundTables} {s s' : IngestState} {n n' : Nat}

def rowKey (cfg : InboundConfig) (row : EventRow) : String :=
  eventKey cfg row.transportId row.externalAccountId row.providerEventId

/-- The row is the event that the envelope delivers. -/
def IsOf (cfg : InboundConfig) (row : EventRow) (e : InboundEnvelope) : Prop :=
  row.transportId = e.transportId ∧ row.externalAccountId = e.externalAccountId ∧
    row.providerEventId = e.providerEventId ∧ row.describes cfg e = true

lemma describes_iff {row : EventRow} {e : InboundEnvelope} :
    row.describes cfg e = true ↔
      row.contentHash = cfg.hashText e.content ∧ row.externalSenderId = e.externalSenderId ∧
        row.externalAccountId = e.externalAccountId ∧ row.conversationId = e.conversationId ∧
        row.channel = e.channel ∧ row.externalThreadId = e.threadId ∧ row.replySelector = e.replySelector ∧
        row.replyContextVersion = 1 := by
  simp [EventRow.describes, and_assoc]

lemma IsOf.key {row : EventRow} {e : InboundEnvelope} (h : IsOf cfg row e) :
    rowKey cfg row = e.idempotencyKey cfg := by
  unfold rowKey InboundEnvelope.idempotencyKey
  rw [h.1, h.2.1, h.2.2.1]

/-- Two deliveries of one event agree on everything but the content, of which the hash is compared. -/
structure Agree (e e' : InboundEnvelope) : Prop where
  channel : e.channel = e'.channel
  transport : e.transportId = e'.transportId
  account : e.externalAccountId = e'.externalAccountId
  event : e.providerEventId = e'.providerEventId
  sender : e.externalSenderId = e'.externalSenderId
  conversation : e.conversationId = e'.conversationId
  thread : e.threadId = e'.threadId

lemma IsOf.agree {row : EventRow} {e e' : InboundEnvelope} (h : IsOf cfg row e) (h' : IsOf cfg row e') :
    Agree e e' := by
  obtain ⟨-, hsender, -, hconv, hchannel, hthread, -, -⟩ := describes_iff.mp h.2.2.2
  obtain ⟨-, ksender, -, kconv, kchannel, kthread, -, -⟩ := describes_iff.mp h'.2.2.2
  exact ⟨hchannel.symm.trans kchannel, h.1.symm.trans h'.1, h.2.1.symm.trans h'.2.1,
    h.2.2.1.symm.trans h'.2.2.1, hsender.symm.trans ksender, hconv.symm.trans kconv, hthread.symm.trans kthread⟩

lemma Agree.counterparty {e e' : InboundEnvelope} (h : Agree e e') : e.counterparty = e'.counterparty := by
  unfold InboundEnvelope.counterparty
  rw [h.channel, h.sender, h.conversation]

lemma Agree.sourceNamespace {e e' : InboundEnvelope} (h : Agree e e') :
    sourceNamespace cfg e = sourceNamespace cfg e' := by
  unfold Interaction.sourceNamespace
  rw [h.channel, h.transport, h.account]

lemma Agree.participantConversation {e e' : InboundEnvelope} (h : Agree e e') :
    participantConversation cfg e = participantConversation cfg e' := by
  unfold Interaction.participantConversation
  rw [h.channel, h.transport, h.account, h.conversation, h.thread]

/-- The same event, perhaps settled differently. -/
def SameEvent (a b : EventRow) : Prop := { a with status := b.status, interactionId := b.interactionId } = b

lemma SameEvent.refl (a : EventRow) : SameEvent a a := rfl

lemma SameEvent.eq {a b : EventRow} (h : SameEvent a b) :
    { a with status := b.status, interactionId := b.interactionId } = b := h

lemma SameEvent.eventId {a b : EventRow} (h : SameEvent a b) : a.eventId = b.eventId := by
  rw [← h.eq]

lemma SameEvent.subjectId {a b : EventRow} (h : SameEvent a b) : a.subjectId = b.subjectId := by
  rw [← h.eq]

lemma SameEvent.transportId {a b : EventRow} (h : SameEvent a b) : a.transportId = b.transportId := by
  rw [← h.eq]

lemma SameEvent.externalAccountId {a b : EventRow} (h : SameEvent a b) : a.externalAccountId = b.externalAccountId := by
  rw [← h.eq]

lemma SameEvent.providerEventId {a b : EventRow} (h : SameEvent a b) : a.providerEventId = b.providerEventId := by
  rw [← h.eq]

lemma SameEvent.key {a b : EventRow} (h : SameEvent a b) :
    rowKey cfg a = rowKey cfg b := by
  unfold rowKey
  rw [h.transportId, h.externalAccountId, h.providerEventId]

lemma SameEvent.isOf {a b : EventRow} {e : InboundEnvelope} (h : SameEvent a b) (ha : IsOf cfg a e) : IsOf cfg b e := by
  rw [← h.eq]
  exact ha

/-- The row and the envelope that an interaction was made from. -/
structure Origin (cfg : InboundConfig) (db : InboundTables) (x : InteractionRow) (row : EventRow)
    (e : InboundEnvelope) : Prop where
  mem : row ∈ db.events
  subject : row.subjectId = x.subjectId
  isOf : IsOf cfg row e
  key : x.idempotencyKey = e.idempotencyKey cfg
  channel : x.channel = e.channel
  counterparty : x.counterparty = e.counterparty

/-- The source that a message of an envelope is attributed to. -/
structure SourceOf (cfg : InboundConfig) (source : SourceRow) (subjectId : String) (e : InboundEnvelope) : Prop where
  subject : source.subjectId = subjectId
  channel : source.channel = e.channel
  space : source.sourceNamespace = sourceNamespace cfg e
  sender : source.senderId = e.externalSenderId

/-- The invariant of the tables. -/
structure TablesInv (cfg : InboundConfig) (db : InboundTables) (n : Nat) : Prop where
  eventIds : ∀ row ∈ db.events, row.eventId < n
  interactionIds : ∀ x ∈ db.interactions, x.interactionId < n
  entityIds : ∀ x ∈ db.entities, x.entityId < n
  sourceIds : ∀ x ∈ db.sources, x.sourceId < n
  oneEvent : ∀ a ∈ db.events, ∀ b ∈ db.events, a.subjectId = b.subjectId → a.transportId = b.transportId →
    a.externalAccountId = b.externalAccountId → a.providerEventId = b.providerEventId → a = b
  placed : ∀ row ∈ db.events, ∃ t ∈ db.transports, t.transportId = row.transportId ∧ t.subjectId = row.subjectId
  settled : ∀ row ∈ db.events, row.status = .processed ↔ row.interactionId.isSome
  oneInteraction : ∀ x ∈ db.interactions, ∀ y ∈ db.interactions, x.subjectId = y.subjectId →
    x.idempotencyKey = y.idempotencyKey → x = y
  owned : ∀ row ∈ db.events, ∀ i, row.interactionId = some i → ∃ x ∈ db.interactions,
    x.interactionId = i ∧ x.subjectId = row.subjectId ∧ x.idempotencyKey = rowKey cfg row
  origin : ∀ x ∈ db.interactions, ∃ row e, Origin cfg db x row e
  messaged : ∀ m ∈ db.messages, ∃ x ∈ db.interactions, x.interactionId = m.interactionId
  oneSource : ∀ a ∈ db.sources, ∀ b ∈ db.sources, a.subjectId = b.subjectId → a.channel = b.channel →
    a.sourceNamespace = b.sourceNamespace → a.senderId = b.senderId → a = b
  entity : ∀ source ∈ db.sources, ∃ x ∈ db.entities, x.entityId = source.entityId
  attributed : ∀ link ∈ db.links, ∃ x ∈ db.interactions, ∃ row e, ∃ source ∈ db.sources,
    Origin cfg db x row e ∧ SourceOf cfg source x.subjectId e ∧
      link = ⟨x.interactionId, x.subjectId, source.entityId, source.sourceId, participantConversation cfg e⟩

/-- What a call may rely on: event rows are settled but not removed, a processed one is final, and
interactions are kept. -/
structure Later (db db' : InboundTables) : Prop where
  events : ∀ row ∈ db.events, ∃ row' ∈ db'.events, SameEvent row row' ∧ (row.status = .processed → row' = row)
  interactions : ∀ x ∈ db.interactions, x ∈ db'.interactions

lemma Later.refl (db : InboundTables) : Later db db :=
  ⟨fun row hrow => ⟨row, hrow, SameEvent.refl row, fun _ => rfl⟩, fun _ h => h⟩

lemma Later.of_eq (he : db'.events = db.events) (hx : ∀ x ∈ db.interactions, x ∈ db'.interactions) : Later db db' := by
  refine ⟨?_, hx⟩
  rw [he]
  exact (Later.refl db).events

lemma TablesInv.mono (h : TablesInv cfg db n) (hn : n ≤ n') : TablesInv cfg db n' :=
  { h with
    eventIds := fun row hrow => Nat.lt_of_lt_of_le (h.eventIds row hrow) hn
    interactionIds := fun x hx => Nat.lt_of_lt_of_le (h.interactionIds x hx) hn
    entityIds := fun x hx => Nat.lt_of_lt_of_le (h.entityIds x hx) hn
    sourceIds := fun x hx => Nat.lt_of_lt_of_le (h.sourceIds x hx) hn }

lemma mem_insertRow {κ ρ : Type} {key : ρ → κ} [DecidableEq κ] {t t' : Table key} {row x : ρ}
    (h : insertRow t row = .ok t') : x ∈ t' ↔ x ∈ t ∨ x = row := by
  obtain ⟨-, hrows⟩ := Table.insert?_eq_some.mp (orRaise_eq_ok.mp h)
  rw [Table.mem_def, hrows, List.mem_append, List.mem_singleton]
  exact Iff.rfl

/-- Settling one event changes no other row. -/
lemma mem_settled {row row' x : EventRow} (hrow : row ∈ db.events) (hsame : SameEvent row row')
    (hx : x ∈ db.events.replace row') : ∃ y ∈ db.events, SameEvent y x ∧ (x = row' ∧ y = row ∨ x = y) := by
  rcases Table.mem_replace.mp hx with ⟨rfl, -⟩ | ⟨hx, -⟩
  · exact ⟨row, hrow, hsame, .inl ⟨rfl, rfl⟩⟩
  · exact ⟨x, hx, SameEvent.refl x, .inr rfl⟩

lemma exists_settled {row row' x : EventRow} (hrow : row ∈ db.events) (hsame : SameEvent row row')
    (hx : x ∈ db.events) : ∃ y ∈ db.events.replace row', SameEvent x y ∧ (x = row ∨ y = x) := by
  by_cases hid : x.eventId = row'.eventId
  · have hxr : x = row := Table.eq_of_key hx hrow (hid.trans hsame.eventId.symm)
    refine ⟨row', Table.mem_replace.mpr (.inl ⟨rfl, row, hrow, hsame.eventId⟩), ?_, .inl hxr⟩
    rw [hxr]
    exact hsame
  · exact ⟨x, Table.mem_replace.mpr (.inr ⟨hx, hid⟩), SameEvent.refl x, .inr rfl⟩

lemma Origin.settle {row row' r : EventRow} {x : InteractionRow} {e : InboundEnvelope} (hrow : row ∈ db.events)
    (hsame : SameEvent row row') (h : Origin cfg db x r e) :
    ∃ r', Origin cfg { db with events := db.events.replace row' } x r' e := by
  obtain ⟨r', hr', hrr, -⟩ := exists_settled hrow hsame h.mem
  exact ⟨r', hr', hrr.subjectId.symm.trans h.subject, hrr.isOf h.isOf, h.key, h.channel, h.counterparty⟩

/-- Settling an event. -/
lemma TablesInv.settle {row row' : EventRow} (h : TablesInv cfg db n) (hrow : row ∈ db.events)
    (hsame : SameEvent row row') (hsettled : row'.status = .processed ↔ row'.interactionId.isSome)
    (howned : ∀ i, row'.interactionId = some i → ∃ x ∈ db.interactions,
      x.interactionId = i ∧ x.subjectId = row.subjectId ∧ x.idempotencyKey = rowKey cfg row) :
    TablesInv cfg { db with events := db.events.replace row' } n :=
  { h with
    eventIds := by
      intro x hx
      obtain ⟨y, hy, hyx, -⟩ := mem_settled hrow hsame hx
      exact hyx.eventId ▸ h.eventIds y hy
    oneEvent := by
      intro a ha b hb h1 h2 h3 h4
      obtain ⟨a', ha', haa, -⟩ := mem_settled hrow hsame ha
      obtain ⟨b', hb', hbb, -⟩ := mem_settled hrow hsame hb
      have hab : a' = b' := by
        apply h.oneEvent a' ha' b' hb'
        · rw [haa.subjectId, hbb.subjectId, h1]
        · rw [haa.transportId, hbb.transportId, h2]
        · rw [haa.externalAccountId, hbb.externalAccountId, h3]
        · rw [haa.providerEventId, hbb.providerEventId, h4]
      exact Table.eq_of_key ha hb (by rw [← haa.eventId, ← hbb.eventId, hab])
    placed := by
      intro x hx
      obtain ⟨y, hy, hyx, -⟩ := mem_settled hrow hsame hx
      obtain ⟨t, ht, h1, h2⟩ := h.placed y hy
      exact ⟨t, ht, h1.trans hyx.transportId, h2.trans hyx.subjectId⟩
    settled := by
      intro x hx
      obtain ⟨y, hy, -, ⟨rfl, -⟩ | rfl⟩ := mem_settled hrow hsame hx
      · exact hsettled
      · exact h.settled x hy
    owned := by
      intro x hx i hi
      obtain ⟨y, hy, hyx, ⟨rfl, rfl⟩ | rfl⟩ := mem_settled hrow hsame hx
      · obtain ⟨z, hz, h1, h2, h3⟩ := howned i hi
        exact ⟨z, hz, h1, h2.trans hyx.subjectId, h3.trans hyx.key⟩
      · exact h.owned x hy i hi
    origin := by
      intro x hx
      obtain ⟨r, e, ho⟩ := h.origin x hx
      obtain ⟨r', ho'⟩ := ho.settle hrow hsame
      exact ⟨r', e, ho'⟩
    attributed := by
      intro link hlink
      obtain ⟨x, hx, r, e, source, hsource, ho, hso, heq⟩ := h.attributed link hlink
      obtain ⟨r', ho'⟩ := ho.settle hrow hsame
      exact ⟨x, hx, r', e, source, hsource, ho', hso, heq⟩ }

lemma Later.settle {row row' : EventRow} (hrow : row ∈ db.events) (hsame : SameEvent row row')
    (hopen : row.status ≠ .processed) : Later db { db with events := db.events.replace row' } := by
  refine ⟨?_, fun _ h => h⟩
  intro x hx
  obtain ⟨y, hy, hxy, rfl | rfl⟩ := exists_settled hrow hsame hx
  · exact ⟨y, hy, hxy, fun hp => absurd hp hopen⟩
  · exact ⟨y, hy, hxy, fun _ => rfl⟩

lemma Origin.of_events {x : InteractionRow} {row : EventRow} {e : InboundEnvelope} (h : Origin cfg db x row e)
    (hev : ∀ row ∈ db.events, row ∈ db'.events) : Origin cfg db' x row e :=
  ⟨hev row h.mem, h.subject, h.isOf, h.key, h.channel, h.counterparty⟩

/-- A first delivery. -/
lemma TablesInv.insertEvent {row : EventRow} {events : Table EventRow.eventId} (h : TablesInv cfg db n)
    (hins : insertRow db.events row = .ok events) (hid : row.eventId < n)
    (hnew : ∀ a ∈ db.events, a.subjectId = row.subjectId → a.transportId = row.transportId →
      a.externalAccountId = row.externalAccountId → a.providerEventId ≠ row.providerEventId)
    (hplaced : ∃ t ∈ db.transports, t.transportId = row.transportId ∧ t.subjectId = row.subjectId)
    (hstatus : row.status ≠ .processed) (hnone : row.interactionId = none) :
    TablesInv cfg { db with events := events } n :=
  { h with
    eventIds := by
      intro x hx
      rcases (mem_insertRow hins).mp hx with hx | rfl
      · exact h.eventIds x hx
      · exact hid
    oneEvent := by
      intro a ha b hb h1 h2 h3 h4
      rcases (mem_insertRow hins).mp ha with ha | rfl
      · rcases (mem_insertRow hins).mp hb with hb | rfl
        · exact h.oneEvent a ha b hb h1 h2 h3 h4
        · exact absurd h4 (hnew a ha h1 h2 h3)
      · rcases (mem_insertRow hins).mp hb with hb | rfl
        · exact absurd h4.symm (hnew b hb h1.symm h2.symm h3.symm)
        · rfl
    placed := by
      intro x hx
      rcases (mem_insertRow hins).mp hx with hx | rfl
      · exact h.placed x hx
      · exact hplaced
    settled := by
      intro x hx
      rcases (mem_insertRow hins).mp hx with hx | rfl
      · exact h.settled x hx
      · simp [hstatus, hnone]
    owned := by
      intro x hx i hi
      rcases (mem_insertRow hins).mp hx with hx | rfl
      · exact h.owned x hx i hi
      · rw [hnone] at hi
        cases hi
    origin := by
      intro x hx
      obtain ⟨r, e, ho⟩ := h.origin x hx
      exact ⟨r, e, ho.of_events (fun r hr => (mem_insertRow hins).mpr (.inl hr))⟩
    attributed := by
      intro link hlink
      obtain ⟨x, hx, r, e, source, hsource, ho, hso, heq⟩ := h.attributed link hlink
      exact ⟨x, hx, r, e, source, hsource, ho.of_events (fun r hr => (mem_insertRow hins).mpr (.inl hr)), hso, heq⟩ }

lemma Later.insertEvent {row : EventRow} {events : Table EventRow.eventId}
    (hins : insertRow db.events row = .ok events) : Later db { db with events := events } :=
  ⟨fun x hx => ⟨x, (mem_insertRow hins).mpr (.inl hx), SameEvent.refl x, fun _ => rfl⟩, fun _ h => h⟩

/-- A new interaction for an event. -/
lemma TablesInv.insertInteraction {x : InteractionRow} {row : EventRow} {e : InboundEnvelope}
    {interactions : Table InteractionRow.interactionId} (h : TablesInv cfg db n)
    (hins : insertRow db.interactions x = .ok interactions) (hid : x.interactionId < n)
    (hnew : ∀ y ∈ db.interactions, y.subjectId = x.subjectId → y.idempotencyKey ≠ x.idempotencyKey)
    (ho : Origin cfg db x row e) : TablesInv cfg { db with interactions := interactions } n :=
  { h with
    interactionIds := by
      intro y hy
      rcases (mem_insertRow hins).mp hy with hy | rfl
      · exact h.interactionIds y hy
      · exact hid
    oneInteraction := by
      intro a ha b hb h1 h2
      rcases (mem_insertRow hins).mp ha with ha | rfl
      · rcases (mem_insertRow hins).mp hb with hb | rfl
        · exact h.oneInteraction a ha b hb h1 h2
        · exact absurd h2 (hnew a ha h1)
      · rcases (mem_insertRow hins).mp hb with hb | rfl
        · exact absurd h2.symm (hnew b hb h1.symm)
        · rfl
    owned := by
      intro r hr i hi
      obtain ⟨y, hy, hrest⟩ := h.owned r hr i hi
      exact ⟨y, (mem_insertRow hins).mpr (.inl hy), hrest⟩
    origin := by
      intro y hy
      rcases (mem_insertRow hins).mp hy with hy | rfl
      · obtain ⟨r, e', ho'⟩ := h.origin y hy
        exact ⟨r, e', ho'.of_events (fun _ hr => hr)⟩
      · exact ⟨row, e, ho.of_events (fun _ hr => hr)⟩
    messaged := by
      intro m hm
      obtain ⟨y, hy, hrest⟩ := h.messaged m hm
      exact ⟨y, (mem_insertRow hins).mpr (.inl hy), hrest⟩
    attributed := by
      intro link hlink
      obtain ⟨y, hy, r, e', source, hsource, ho', hso, heq⟩ := h.attributed link hlink
      exact ⟨y, (mem_insertRow hins).mpr (.inl hy), r, e', source, hsource, ho'.of_events (fun _ hr => hr), hso, heq⟩ }

lemma TablesInv.of_messages {messages : Table MessageRow.interactionId} (h : TablesInv cfg db n)
    (hm : ∀ m ∈ messages, ∃ x ∈ db.interactions, x.interactionId = m.interactionId) :
    TablesInv cfg { db with messages := messages } n :=
  { h with
    messaged := hm
    origin := by
      intro x hx
      obtain ⟨r, e, ho⟩ := h.origin x hx
      exact ⟨r, e, ho.of_events (fun _ hr => hr)⟩
    attributed := by
      intro link hlink
      obtain ⟨x, hx, r, e, source, hsource, ho, hso, heq⟩ := h.attributed link hlink
      exact ⟨x, hx, r, e, source, hsource, ho.of_events (fun _ hr => hr), hso, heq⟩ }

/-- A new participant with its source. -/
lemma TablesInv.insertSource {entity : EntityRow} {source : SourceRow} {entities : Table EntityRow.entityId}
    {sources : Table SourceRow.sourceId} (h : TablesInv cfg db n)
    (hent : insertRow db.entities entity = .ok entities) (hsrc : insertRow db.sources source = .ok sources)
    (heid : entity.entityId < n) (hsid : source.sourceId < n) (howner : source.entityId = entity.entityId)
    (hnew : ∀ a ∈ db.sources, a.subjectId = source.subjectId → a.channel = source.channel →
      a.sourceNamespace = source.sourceNamespace → a.senderId ≠ source.senderId) :
    TablesInv cfg { db with entities := entities, sources := sources } n :=
  { h with
    entityIds := by
      intro x hx
      rcases (mem_insertRow hent).mp hx with hx | rfl
      · exact h.entityIds x hx
      · exact heid
    sourceIds := by
      intro x hx
      rcases (mem_insertRow hsrc).mp hx with hx | rfl
      · exact h.sourceIds x hx
      · exact hsid
    oneSource := by
      intro a ha b hb h1 h2 h3 h4
      rcases (mem_insertRow hsrc).mp ha with ha | rfl
      · rcases (mem_insertRow hsrc).mp hb with hb | rfl
        · exact h.oneSource a ha b hb h1 h2 h3 h4
        · exact absurd h4 (hnew a ha h1 h2 h3)
      · rcases (mem_insertRow hsrc).mp hb with hb | rfl
        · exact absurd h4.symm (hnew b hb h1.symm h2.symm h3.symm)
        · rfl
    entity := by
      intro x hx
      rcases (mem_insertRow hsrc).mp hx with hx | rfl
      · obtain ⟨y, hy, hid⟩ := h.entity x hx
        exact ⟨y, (mem_insertRow hent).mpr (.inl hy), hid⟩
      · exact ⟨entity, (mem_insertRow hent).mpr (.inr rfl), howner.symm⟩
    origin := by
      intro x hx
      obtain ⟨r, e, ho⟩ := h.origin x hx
      exact ⟨r, e, ho.of_events (fun _ hr => hr)⟩
    attributed := by
      intro link hlink
      obtain ⟨x, hx, r, e, src, hs, ho, hso, heq⟩ := h.attributed link hlink
      exact ⟨x, hx, r, e, src, (mem_insertRow hsrc).mpr (.inl hs), ho.of_events (fun _ hr => hr), hso, heq⟩ }

lemma TablesInv.insertLink {link : LinkRow} {links : Table LinkRow.interactionId} {x : InteractionRow} {row : EventRow}
    {e : InboundEnvelope} {source : SourceRow} (h : TablesInv cfg db n) (hins : insertRow db.links link = .ok links)
    (hx : x ∈ db.interactions) (ho : Origin cfg db x row e) (hsource : source ∈ db.sources)
    (hso : SourceOf cfg source x.subjectId e)
    (heq : link = ⟨x.interactionId, x.subjectId, source.entityId, source.sourceId, participantConversation cfg e⟩) :
    TablesInv cfg { db with links := links } n :=
  { h with
    origin := by
      intro y hy
      obtain ⟨r, e', ho'⟩ := h.origin y hy
      exact ⟨r, e', ho'.of_events (fun _ hr => hr)⟩
    attributed := by
      intro l hl
      rcases (mem_insertRow hins).mp hl with hl | rfl
      · obtain ⟨y, hy, r, e', src, hs, ho', hso', heq'⟩ := h.attributed l hl
        exact ⟨y, hy, r, e', src, hs, ho'.of_events (fun _ hr => hr), hso', heq'⟩
      · exact ⟨x, hx, row, e, source, hsource, ho.of_events (fun _ hr => hr), hso, heq⟩ }

/-- The tables that operators do not change, and what they keep of the others. -/
structure Operated (db db' : InboundTables) : Prop where
  events : db'.events = db.events
  interactions : db'.interactions = db.interactions
  messages : db'.messages = db.messages
  sources : db'.sources = db.sources
  links : db'.links = db.links
  transports : ∀ t ∈ db.transports, ∃ t' ∈ db'.transports, t'.transportId = t.transportId ∧ t'.subjectId = t.subjectId
  entities : ∀ x ∈ db.entities, ∃ y ∈ db'.entities, y.entityId = x.entityId
  entityIds : ∀ y ∈ db'.entities, ∃ x ∈ db.entities, x.entityId = y.entityId

lemma Operated.later (h : Operated db db') : Later db db' :=
  Later.of_eq h.events (fun x hx => by rw [h.interactions]; exact hx)

lemma Origin.operated {x : InteractionRow} {row : EventRow} {e : InboundEnvelope} (h : Operated db db')
    (ho : Origin cfg db x row e) : Origin cfg db' x row e :=
  ho.of_events (fun r hr => by rw [h.events]; exact hr)

lemma TablesInv.operated (hop : Operated db db') (h : TablesInv cfg db n) : TablesInv cfg db' n where
  eventIds := by rw [hop.events]; exact h.eventIds
  interactionIds := by rw [hop.interactions]; exact h.interactionIds
  entityIds := by
    intro y hy
    obtain ⟨x, hx, hid⟩ := hop.entityIds y hy
    exact hid ▸ h.entityIds x hx
  sourceIds := by rw [hop.sources]; exact h.sourceIds
  oneEvent := by rw [hop.events]; exact h.oneEvent
  placed := by
    intro row hrow
    rw [hop.events] at hrow
    obtain ⟨t, ht, h1, h2⟩ := h.placed row hrow
    obtain ⟨t', ht', k1, k2⟩ := hop.transports t ht
    exact ⟨t', ht', k1.trans h1, k2.trans h2⟩
  settled := by rw [hop.events]; exact h.settled
  oneInteraction := by rw [hop.interactions]; exact h.oneInteraction
  owned := by rw [hop.events, hop.interactions]; exact h.owned
  origin := by
    intro x hx
    rw [hop.interactions] at hx
    obtain ⟨r, e, ho⟩ := h.origin x hx
    exact ⟨r, e, ho.operated hop⟩
  messaged := by rw [hop.messages, hop.interactions]; exact h.messaged
  oneSource := by rw [hop.sources]; exact h.oneSource
  entity := by
    intro source hs
    rw [hop.sources] at hs
    obtain ⟨x, hx, hid⟩ := h.entity source hs
    obtain ⟨y, hy, hyx⟩ := hop.entities x hx
    exact ⟨y, hy, hyx.trans hid⟩
  attributed := by
    intro link hlink
    rw [hop.links] at hlink
    obtain ⟨x, hx, r, e, source, hs, ho, hso, heq⟩ := h.attributed link hlink
    exact ⟨x, by rw [hop.interactions]; exact hx, r, e, source, by rw [hop.sources]; exact hs, ho.operated hop, hso,
      heq⟩

lemma Operated.of_frame (h1 : db'.events = db.events) (h2 : db'.interactions = db.interactions)
    (h3 : db'.messages = db.messages) (h4 : db'.sources = db.sources) (h5 : db'.links = db.links)
    (h6 : db'.transports = db.transports) (h7 : db'.entities = db.entities) : Operated db db' where
  events := h1
  interactions := h2
  messages := h3
  sources := h4
  links := h5
  transports := by rw [h6]; exact fun t ht => ⟨t, ht, rfl, rfl⟩
  entities := by rw [h7]; exact fun x hx => ⟨x, hx, rfl⟩
  entityIds := by rw [h7]; exact fun x hx => ⟨x, hx, rfl⟩

lemma Operated.refl (db : InboundTables) : Operated db db := Operated.of_frame rfl rfl rfl rfl rfl rfl rfl

lemma operated_configureTransport (row : TransportRow) : Operated db (configureTransport db row) := by
  unfold configureTransport
  split
  · next transports hins =>
    obtain ⟨-, hrows⟩ := Table.insert?_eq_some.mp hins
    refine { Operated.refl db with transports := ?_ }
    intro t ht
    refine ⟨t, ?_, rfl, rfl⟩
    rw [Table.mem_def, hrows]
    exact List.mem_append_left _ ht
  · exact Operated.refl db

lemma operated_setTransportStatus (transportId subjectId : String) (status : ServiceStatus) :
    Operated db (setTransportStatus db transportId subjectId status) := by
  unfold setTransportStatus
  split
  · exact Operated.refl db
  · next row hrow =>
    split
    · exact Operated.refl db
    · refine { Operated.refl db with transports := ?_ }
      obtain ⟨hmem, -⟩ := Table.find?_eq_some.mp hrow
      intro t ht
      by_cases hid : t.transportId = row.transportId
      · have htr : t = row := Table.eq_of_key ht hmem hid
        refine ⟨{ row with status := status }, Table.mem_replace.mpr (.inl ⟨rfl, row, hmem, rfl⟩), ?_, ?_⟩
        · rw [htr]
        · rw [htr]
      · exact ⟨t, Table.mem_replace.mpr (.inr ⟨ht, hid⟩), rfl, rfl⟩

lemma operated_bindAccount (row : BindingRow) : Operated db (bindAccount db row) := by
  unfold bindAccount
  split
  · exact Operated.refl db
  · split
    · exact Operated.of_frame rfl rfl rfl rfl rfl rfl rfl
    · exact Operated.refl db

lemma operated_changeBinding (bindingId : Nat) (subjectId : String) (status : ServiceStatus) :
    Operated db (changeBinding db bindingId subjectId status) := by
  unfold changeBinding
  split
  · exact Operated.refl db
  · split
    · exact Operated.refl db
    · exact Operated.of_frame rfl rfl rfl rfl rfl rfl rfl

lemma operated_routePrivateChat (subjectId : String) (bindingId : Nat) (conversationId : String) :
    Operated db (routePrivateChat db subjectId bindingId conversationId) := by
  unfold routePrivateChat
  simp only
  split
  · exact Operated.of_frame rfl rfl rfl rfl rfl rfl rfl
  · exact Operated.refl db

lemma operated_unlinkPrivateChat (subjectId : String) (bindingId : Nat) :
    Operated db (unlinkPrivateChat db subjectId bindingId) := by
  unfold unlinkPrivateChat
  split
  · exact Operated.refl db
  · split
    · exact Operated.of_frame rfl rfl rfl rfl rfl rfl rfl
    · exact Operated.refl db

lemma operated_setParticipant (entityId : Nat) (status : ParticipantStatus) :
    Operated db (setParticipant db entityId status) := by
  unfold setParticipant
  split
  · exact Operated.refl db
  · next entity hentity =>
    obtain ⟨hmem, -⟩ := Table.find?_eq_some.mp hentity
    refine { Operated.refl db with entities := ?_, entityIds := ?_ }
    · intro x hx
      by_cases hid : x.entityId = entity.entityId
      · exact ⟨{ entity with status := status }, Table.mem_replace.mpr (.inl ⟨rfl, entity, hmem, rfl⟩), hid.symm⟩
      · exact ⟨x, Table.mem_replace.mpr (.inr ⟨hx, hid⟩), rfl⟩
    · intro y hy
      rcases Table.mem_replace.mp hy with ⟨rfl, -⟩ | ⟨hy, -⟩
      · exact ⟨entity, hmem, rfl⟩
      · exact ⟨y, hy, rfl⟩

lemma operated_guess {c : ChallengeRow} {e : InboundEnvelope} {now : Nat} : Operated db (guess cfg db c e now).2 := by
  unfold guess
  split
  · exact Operated.of_frame rfl rfl rfl rfl rfl rfl rfl
  · split
    · exact Operated.refl db
    · split
      · exact Operated.of_frame rfl rfl rfl rfl rfl rfl rfl
      · exact Operated.of_frame rfl rfl rfl rfl rfl rfl rfl

lemma observeIdentity_operated {e : InboundEnvelope} {now : Nat} {o : Observation}
    (h : observeIdentity cfg db e now = .ok (o, db')) : Operated db db' := by
  unfold observeIdentity at h
  split at h
  · cases h
    exact Operated.refl _
  · obtain ⟨t, -, h⟩ := bind_eq_ok.mp h
    split at h
    · cases h
      exact Operated.refl _
    · split at h
      · cases h
        exact Operated.refl _
      · split at h
        · obtain ⟨_, -, h⟩ := bind_eq_ok.mp h
          cases h
          exact Operated.refl _
        · split at h
          · obtain ⟨_, -, h⟩ := bind_eq_ok.mp h
            cases h
            exact Operated.refl _
          · next c _ =>
            have hdb : db' = (guess cfg db c e now).2 := congrArg Prod.snd (Except.ok.inj h).symm
            rw [hdb]
            exact operated_guess

/-! ### The transactions of a call -/

/-- A call has its event. -/
def Holds (cfg : InboundConfig) (db : InboundTables) (e : InboundEnvelope) (g : Registered) : Prop :=
  ∃ row ∈ db.events, row.eventId = g.eventId ∧ row.subjectId = g.subjectId ∧ IsOf cfg row e

/-- The event of the envelope is processed with this interaction. -/
def Settled (cfg : InboundConfig) (db : InboundTables) (e : InboundEnvelope) (a : InboundAccepted) : Prop :=
  ∃ row ∈ db.events, IsOf cfg row e ∧ row.eventId = a.eventId ∧ row.status = .processed ∧
    row.interactionId = some a.interactionId

/-- The interaction of the envelope. -/
def Has (cfg : InboundConfig) (db : InboundTables) (e : InboundEnvelope) (g : Registered) (i : Nat) : Prop :=
  ∃ x ∈ db.interactions, x.interactionId = i ∧ x.subjectId = g.subjectId ∧ x.idempotencyKey = e.idempotencyKey cfg

lemma Holds.later {e : InboundEnvelope} {g : Registered} (h : Holds cfg db e g) (hl : Later db db') :
    Holds cfg db' e g := by
  obtain ⟨row, hrow, h1, h2, h3⟩ := h
  obtain ⟨row', hrow', hsame, -⟩ := hl.events row hrow
  exact ⟨row', hrow', hsame.eventId.symm.trans h1, hsame.subjectId.symm.trans h2, hsame.isOf h3⟩

lemma Settled.later {e : InboundEnvelope} {a : InboundAccepted} (h : Settled cfg db e a) (hl : Later db db') :
    Settled cfg db' e a := by
  obtain ⟨row, hrow, h1, h2, h3, h4⟩ := h
  obtain ⟨row', hrow', -, hfinal⟩ := hl.events row hrow
  rw [hfinal h3] at hrow'
  exact ⟨row, hrow', h1, h2, h3, h4⟩

lemma Has.later {e : InboundEnvelope} {g : Registered} {i : Nat} (h : Has cfg db e g i) (hl : Later db db') :
    Has cfg db' e g i := by
  obtain ⟨x, hx, hrest⟩ := h
  exact ⟨x, hl.interactions x hx, hrest⟩

lemma eventOf_eq_some {subjectId : String} {e : InboundEnvelope} {row : EventRow}
    (h : db.eventOf subjectId e = some row) :
    row ∈ db.events ∧ row.subjectId = subjectId ∧ row.transportId = e.transportId ∧
      row.externalAccountId = e.externalAccountId ∧ row.providerEventId = e.providerEventId := by
  refine ⟨List.mem_of_find?_eq_some h, ?_⟩
  have := List.find?_some h
  simpa [and_assoc] using this

lemma eventOf_eq_none {subjectId : String} {e : InboundEnvelope} (h : db.eventOf subjectId e = none) :
    ∀ a ∈ db.events, a.subjectId = subjectId → a.transportId = e.transportId →
      a.externalAccountId = e.externalAccountId → a.providerEventId ≠ e.providerEventId := by
  intro a ha h1 h2 h3 h4
  have := List.find?_eq_none.mp h a ha
  simp [h1, h2, h3, h4] at this

lemma activeTransport_eq_some {transportId : String} {channel : InboundChannel} {t : TransportRow}
    (h : db.activeTransport transportId channel = some t) :
    t ∈ db.transports ∧ t.transportId = transportId ∧ t.channel = channel ∧ t.status = .active := by
  obtain ⟨hfind, hcond⟩ := Option.filter_eq_some_iff.mp h
  obtain ⟨hmem, hid⟩ := Table.find?_eq_some.mp hfind
  rw [Bool.and_eq_true, decide_eq_true_eq, decide_eq_true_eq] at hcond
  exact ⟨hmem, hid, hcond.1, hcond.2⟩

lemma newEvent_isOf {e : InboundEnvelope} {subjectId : String} {eventId priority : Nat} :
    IsOf cfg (newEvent cfg e subjectId eventId priority) e :=
  ⟨rfl, rfl, rfl, describes_iff.mpr ⟨rfl, rfl, rfl, rfl, rfl, rfl, rfl, rfl⟩⟩

lemma retryEvent_answered {e : InboundEnvelope} {row : EventRow} {g : Registered} {a : InboundAccepted}
    (h : retryEvent cfg db e row g = .ok (.answered a, db')) :
    db' = db ∧ row.describes cfg e = true ∧ row.eventId = a.eventId ∧ row.status = .processed ∧
      row.interactionId = some a.interactionId := by
  unfold retryEvent at h
  obtain ⟨_, hdesc, h⟩ := bind_eq_ok.mp h
  rw [raiseIf_eq_ok, Bool.not_eq_false] at hdesc
  split at h
  · next i hi =>
    obtain ⟨_, hst, h⟩ := bind_eq_ok.mp h
    rw [raiseIf_eq_ok, ne_eq, not_not] at hst
    cases h
    exact ⟨rfl, hdesc, rfl, hst, hi⟩
  · obtain ⟨_, -, h⟩ := bind_eq_ok.mp h
    cases h

lemma retryEvent_pending {e : InboundEnvelope} {row : EventRow} {g g' : Registered}
    (h : retryEvent cfg db e row g = .ok (.pending g', db')) :
    row.describes cfg e = true ∧ row.interactionId = none ∧ row.status ≠ .processed ∧ g'.eventId = row.eventId ∧
      g'.subjectId = g.subjectId ∧ db' = { db with events := db.events.replace { row with status := .received } } := by
  unfold retryEvent at h
  obtain ⟨_, hdesc, h⟩ := bind_eq_ok.mp h
  rw [raiseIf_eq_ok, Bool.not_eq_false] at hdesc
  split at h
  · obtain ⟨_, -, h⟩ := bind_eq_ok.mp h
    cases h
  · next hi =>
    obtain ⟨_, hst, h⟩ := bind_eq_ok.mp h
    rw [raiseIf_eq_ok] at hst
    cases h
    exact ⟨hdesc, hi, hst, rfl, rfl, rfl⟩

lemma registerEvent_answered {e : InboundEnvelope} {a : InboundAccepted}
    (h : registerEvent cfg db e n = .ok (.answered a, db')) : db' = db ∧ Settled cfg db e a := by
  unfold registerEvent at h
  obtain ⟨t, -, h⟩ := bind_eq_ok.mp h
  obtain ⟨b, -, h⟩ := bind_eq_ok.mp h
  obtain ⟨_, -, h⟩ := bind_eq_ok.mp h
  simp only at h
  split at h
  · next row hrow =>
    obtain ⟨hdb, hdesc, h1, h2, h3⟩ := retryEvent_answered h
    obtain ⟨hmem, -, k1, k2, k3⟩ := eventOf_eq_some hrow
    exact ⟨hdb, row, hmem, ⟨k1, k2, k3, hdesc⟩, h1, h2, h3⟩
  · obtain ⟨_, -, h⟩ := bind_eq_ok.mp h
    cases h

lemma registerEvent_pending {e : InboundEnvelope} {g : Registered} (hinv : TablesInv cfg db n)
    (h : registerEvent cfg db e n = .ok (.pending g, db')) :
    TablesInv cfg db' (n + 1) ∧ Later db db' ∧ Holds cfg db' e g := by
  unfold registerEvent at h
  obtain ⟨t, ht, h⟩ := bind_eq_ok.mp h
  obtain ⟨b, -, h⟩ := bind_eq_ok.mp h
  obtain ⟨_, -, h⟩ := bind_eq_ok.mp h
  obtain ⟨htmem, htid, -, -⟩ := activeTransport_eq_some (orRaise_eq_ok.mp ht)
  have hinv' : TablesInv cfg db (n + 1) := hinv.mono (Nat.le_succ n)
  simp only at h
  split at h
  · next row hrow =>
    obtain ⟨hdesc, hnone, hopen, h1, h2, rfl⟩ := retryEvent_pending h
    obtain ⟨hmem, hsub, k1, k2, k3⟩ := eventOf_eq_some hrow
    have hsame : SameEvent row { row with status := .received } := by
      unfold SameEvent
      rw [hnone]
    refine ⟨hinv'.settle hmem hsame ?_ ?_, Later.settle hmem hsame hopen, ?_⟩
    · simp [hnone]
    · intro i hi
      rw [hnone] at hi
      cases hi
    · refine ⟨_, Table.mem_replace.mpr (.inl ⟨rfl, row, hmem, rfl⟩), h1.symm, hsub.trans h2.symm, ?_⟩
      exact hsame.isOf ⟨k1, k2, k3, hdesc⟩
  · next hnew =>
    obtain ⟨events, hins, h⟩ := bind_eq_ok.mp h
    cases h
    refine ⟨hinv'.insertEvent hins (Nat.lt_succ_self n) (eventOf_eq_none hnew) ⟨t, htmem, htid, rfl⟩ ?_ rfl,
      Later.insertEvent hins, ?_⟩
    · exact fun hst => by cases hst
    · exact ⟨_, (mem_insertRow hins).mpr (.inr rfl), rfl, rfl, newEvent_isOf⟩

/-- Linking a message to its conversation touches only the messages. -/
lemma linkMessage_ok {subjectId : String} {i : Nat} {route : Option String}
    (h : linkMessage db subjectId i route = .ok db') :
    ∃ messages, db' = { db with messages := messages } ∧
      ∀ m ∈ messages, m ∈ db.messages ∨ m.interactionId = i := by
  cases route with
  | none =>
    cases h
    exact ⟨db.messages, rfl, fun m hm => .inl hm⟩
  | some conversationId =>
    unfold linkMessage at h
    obtain ⟨c, -, h⟩ := bind_eq_ok.mp h
    obtain ⟨_, -, h⟩ := bind_eq_ok.mp h
    split at h
    · obtain ⟨_, -, h⟩ := bind_eq_ok.mp h
      cases h
      exact ⟨db.messages, rfl, fun m hm => .inl hm⟩
    · obtain ⟨messages, hins, h⟩ := bind_eq_ok.mp h
      cases h
      refine ⟨messages, rfl, ?_⟩
      intro m hm
      rcases (mem_insertRow hins).mp hm with hm | rfl
      · exact .inl hm
      · exact .inr rfl

lemma linkMessage_inv {subjectId : String} {route : Option String} {x : InteractionRow} (hinv : TablesInv cfg db n)
    (hx : x ∈ db.interactions) (h : linkMessage db subjectId x.interactionId route = .ok db') :
    TablesInv cfg db' n := by
  obtain ⟨messages, rfl, hm⟩ := linkMessage_ok h
  apply hinv.of_messages
  intro m hmem
  rcases hm m hmem with hmem | hid
  · exact hinv.messaged m hmem
  · exact ⟨x, hx, hid.symm⟩

lemma interactionOf_eq_some {subjectId key : String} {x : InteractionRow}
    (h : db.interactionOf subjectId key = some x) :
    x ∈ db.interactions ∧ x.subjectId = subjectId ∧ x.idempotencyKey = key := by
  refine ⟨List.mem_of_find?_eq_some h, ?_⟩
  simpa using List.find?_some h

lemma interactionOf_eq_none {subjectId key : String} (h : db.interactionOf subjectId key = none) :
    ∀ x ∈ db.interactions, x.subjectId = subjectId → x.idempotencyKey ≠ key := by
  intro x hx h1 h2
  have := List.find?_eq_none.mp h x hx
  simp [h1, h2] at this

lemma Holds.origin {e : InboundEnvelope} {g : Registered} {x : InteractionRow} (h : Holds cfg db e g)
    (hsub : x.subjectId = g.subjectId) (hkey : x.idempotencyKey = e.idempotencyKey cfg) (hch : x.channel = e.channel)
    (hcp : x.counterparty = e.counterparty) : ∃ row, Origin cfg db x row e := by
  obtain ⟨row, hrow, -, h2, h3⟩ := h
  exact ⟨row, hrow, h2.trans hsub.symm, h3, hkey, hch, hcp⟩

/-- The interaction of a call, with the envelope as its origin. -/
structure Created (cfg : InboundConfig) (n : Nat) (db db' : InboundTables) (e : InboundEnvelope) (g : Registered)
    (i : Nat) : Prop where
  inv : TablesInv cfg db' n
  later : Later db db'
  events : db'.events = db.events
  sources : db'.sources = db.sources
  entities : db'.entities = db.entities
  links : db'.links = db.links
  interaction : ∃ x ∈ db'.interactions, ∃ row, x.interactionId = i ∧ x.subjectId = g.subjectId ∧ Origin cfg db' x row e

lemma createConnection_ok {e : InboundEnvelope} {g : Registered} {fresh i : Nat} (hinv : TablesInv cfg db n)
    (hfresh : fresh < n) (hh : Holds cfg db e g) (h : createConnection cfg db e g fresh = .ok (i, db')) :
    Created cfg n db db' e g i := by
  unfold createConnection at h
  obtain ⟨_, -, h⟩ := bind_eq_ok.mp h
  split at h
  · next x hx =>
    obtain ⟨hmem, hsub, hkey⟩ := interactionOf_eq_some hx
    obtain ⟨linked, hlink, h⟩ := bind_eq_ok.mp h
    obtain ⟨_, hsame, h⟩ := bind_eq_ok.mp h
    cases h
    simp only [raiseIf_eq_ok, not_or, ne_eq, not_not] at hsame
    obtain ⟨row, ho⟩ := hh.origin hsub hkey hsame.1 hsame.2.1
    have hinv' := linkMessage_inv hinv hmem hlink
    obtain ⟨messages, rfl, -⟩ := linkMessage_ok hlink
    exact ⟨hinv', Later.of_eq rfl (fun _ h => h), rfl, rfl, rfl, rfl, x, hmem, row, rfl, hsub,
      ho.of_events (fun _ h => h)⟩
  · next hnone =>
    obtain ⟨interactions, hins, h⟩ := bind_eq_ok.mp h
    obtain ⟨linked, hlink, h⟩ := bind_eq_ok.mp h
    cases h
    obtain ⟨row, ho⟩ := hh.origin (x := ⟨fresh, g.subjectId, e.channel, e.counterparty, e.content,
      e.idempotencyKey cfg⟩) rfl rfl rfl rfl
    have hmem := (mem_insertRow hins).mpr (.inr rfl)
    have hnew := hinv.insertInteraction hins hfresh (interactionOf_eq_none hnone) ho
    have hinv' := linkMessage_inv hnew hmem hlink
    obtain ⟨messages, rfl, -⟩ := linkMessage_ok hlink
    refine ⟨hinv', Later.of_eq rfl ?_, rfl, rfl, rfl, rfl, _, hmem, row, rfl, rfl, ho.of_events (fun _ h => h)⟩
    exact fun x hx => (mem_insertRow hins).mpr (.inl hx)

lemma sourceOf_eq_some {subjectId space sender : String} {channel : InboundChannel} {source : SourceRow}
    (h : db.sourceOf subjectId channel space sender = some source) :
    source ∈ db.sources ∧ source.subjectId = subjectId ∧ source.channel = channel ∧ source.sourceNamespace = space ∧
      source.senderId = sender := by
  refine ⟨List.mem_of_find?_eq_some h, ?_⟩
  simpa [and_assoc] using List.find?_some h

lemma sourceOf_eq_none {subjectId space sender : String} {channel : InboundChannel}
    (h : db.sourceOf subjectId channel space sender = none) :
    ∀ a ∈ db.sources, a.subjectId = subjectId → a.channel = channel → a.sourceNamespace = space →
      a.senderId ≠ sender := by
  intro a ha h1 h2 h3 h4
  have := List.find?_eq_none.mp h a ha
  simp [h1, h2, h3, h4] at this

/-- The source of a call, and the tables after it is known. -/
lemma participantSource_ok {e : InboundEnvelope} {subjectId : String} {entityId sourceId : Nat} {who : Nat × Nat}
    (hinv : TablesInv cfg db n) (hent : entityId < n) (hsrc : sourceId < n)
    (h : participantSource cfg db e subjectId entityId sourceId = .ok (who, db')) :
    TablesInv cfg db' n ∧
      (∃ entities sources, db' = { db with entities := entities, sources := sources }) ∧
      ∃ source ∈ db'.sources, SourceOf cfg source subjectId e ∧ who = (source.entityId, source.sourceId) := by
  unfold participantSource at h
  obtain ⟨_, -, h⟩ := bind_eq_ok.mp h
  split at h
  · next source hsource =>
    obtain ⟨entity, -, h⟩ := bind_eq_ok.mp h
    obtain ⟨_, -, h⟩ := bind_eq_ok.mp h
    cases h
    obtain ⟨hmem, h1, h2, h3, h4⟩ := sourceOf_eq_some hsource
    exact ⟨hinv, ⟨db.entities, db.sources, rfl⟩, source, hmem, ⟨h1, h2, h3, h4⟩, rfl⟩
  · next hnone =>
    obtain ⟨_, -, h⟩ := bind_eq_ok.mp h
    obtain ⟨entities, hins, h⟩ := bind_eq_ok.mp h
    obtain ⟨sources, hins', h⟩ := bind_eq_ok.mp h
    cases h
    refine ⟨hinv.insertSource hins hins' hent hsrc rfl (sourceOf_eq_none hnone), ⟨entities, sources, rfl⟩, _,
      (mem_insertRow hins').mpr (.inr rfl), ⟨rfl, rfl, rfl, rfl⟩, rfl⟩

lemma participantLink_ok {link : LinkRow} {x : InteractionRow} {row : EventRow} {e : InboundEnvelope}
    {source : SourceRow} (hinv : TablesInv cfg db n) (hx : x ∈ db.interactions) (ho : Origin cfg db x row e)
    (hsource : source ∈ db.sources) (hso : SourceOf cfg source x.subjectId e)
    (heq : link = ⟨x.interactionId, x.subjectId, source.entityId, source.sourceId, participantConversation cfg e⟩)
    (h : participantLink db link = .ok db') : TablesInv cfg db' n ∧ ∃ links, db' = { db with links := links } := by
  unfold participantLink at h
  obtain ⟨_, -, h⟩ := bind_eq_ok.mp h
  split at h
  · obtain ⟨_, -, h⟩ := bind_eq_ok.mp h
    cases h
    exact ⟨hinv, db.links, rfl⟩
  · obtain ⟨links, hins, h⟩ := bind_eq_ok.mp h
    cases h
    exact ⟨hinv.insertLink hins hx ho hsource hso heq, links, rfl⟩

lemma verifyAuthor_inv {i : Nat} {g : Registered} (hinv : TablesInv cfg db n) :
    TablesInv cfg (verifyAuthor db i g) n ∧ ∃ messages, verifyAuthor db i g = { db with messages := messages } := by
  unfold verifyAuthor
  split
  · next conversationId message hroute hm =>
    split
    · refine ⟨hinv.of_messages ?_, _, rfl⟩
      intro m hmem
      rcases Table.mem_replace.mp hmem with ⟨rfl, -⟩ | ⟨hmem, -⟩
      · exact hinv.messaged message (Table.find?_eq_some.mp hm).1
      · exact hinv.messaged m hmem
    · exact ⟨hinv, db.messages, rfl⟩
  · exact ⟨hinv, db.messages, rfl⟩

lemma receive_ok {e : InboundEnvelope} {g : Registered} {i : Nat} (hinv : TablesInv cfg db n) (hh : Holds cfg db e g)
    (h : receive cfg db e g n = .ok (i, db')) :
    TablesInv cfg db' (n + 3) ∧ Later db db' ∧ db'.events = db.events ∧ Has cfg db' e g i := by
  unfold receive at h
  obtain ⟨_, -, h⟩ := bind_eq_ok.mp h
  obtain ⟨_, -, h⟩ := bind_eq_ok.mp h
  obtain ⟨⟨i', created⟩, hc, h⟩ := bind_eq_ok.mp h
  obtain ⟨⟨who, known⟩, hs, h⟩ := bind_eq_ok.mp h
  obtain ⟨linked, hl, h⟩ := bind_eq_ok.mp h
  have hinv3 : TablesInv cfg db (n + 3) := hinv.mono (by omega)
  have hcreated := createConnection_ok hinv3 (by omega) hh hc
  obtain ⟨hknown, ⟨entities, sources, rfl⟩, source, hsource, hso, rfl⟩ :=
    participantSource_ok hcreated.inv (by omega) (by omega) hs
  obtain ⟨x, hx, row, rfl, hsub, ho⟩ := hcreated.interaction
  obtain ⟨hlinked, links, rfl⟩ := participantLink_ok hknown hx
    (ho.of_events (fun _ h => h)) hsource (hsub ▸ hso) (by rw [hsub]) hl
  obtain ⟨hdone, messages, hmessages⟩ := verifyAuthor_inv (i := x.interactionId) (g := g) hlinked
  cases h
  rw [hmessages] at hdone ⊢
  exact ⟨hdone, Later.of_eq hcreated.events hcreated.later.interactions, hcreated.events, x, hx, rfl, hsub, ho.key⟩

lemma rejectEvent_ok {e : InboundEnvelope} {g : Registered} {answer : Option InboundAccepted}
    (hinv : TablesInv cfg db n) (hh : Holds cfg db e g) (h : rejectEvent db g.eventId = (answer, db')) :
    TablesInv cfg db' n ∧ Later db db' ∧ ∀ a, answer = some a → Settled cfg db' e a := by
  unfold rejectEvent at h
  obtain ⟨row, hrow, hid, -, hof⟩ := hh
  have hfind : db.events.find? g.eventId = some row := Table.find?_eq_some.mpr ⟨hrow, hid⟩
  rw [hfind] at h
  simp only at h
  split at h
  · next hst =>
    have hnone : row.interactionId = none := by
      have := (hinv.settled row hrow).not.mp (by rw [hst]; exact fun h => by cases h)
      simpa using this
    have hsame : SameEvent row { row with status := .rejected } := by
      unfold SameEvent
      rw [hnone]
    cases h
    refine ⟨hinv.settle hrow hsame ?_ ?_, Later.settle hrow hsame (by rw [hst]; exact fun h => by cases h), ?_⟩
    · simp [hnone]
    · intro i hi
      rw [hnone] at hi
      cases hi
    · intro a ha
      cases ha
  · next i hst hi =>
    cases h
    refine ⟨hinv, Later.refl db, ?_⟩
    intro a ha
    cases ha
    exact ⟨row, hrow, hof, hid, hst, hi⟩
  · cases h
    refine ⟨hinv, Later.refl db, ?_⟩
    intro a ha
    cases ha

/-- An open event with its interaction. -/
lemma process_open {e : InboundEnvelope} {g : Registered} {i : Nat} {row : EventRow} (hinv : TablesInv cfg db n)
    (hrow : row ∈ db.events) (hsub : row.subjectId = g.subjectId) (hof : IsOf cfg row e) (hid : row.eventId = g.eventId)
    (hopen : row.status ≠ .processed) (hx : Has cfg db e g i) (duplicate : Bool) (priority : Nat) :
    let processed : EventRow := { row with status := .processed, interactionId := some i }
    TablesInv cfg { db with events := db.events.replace processed } n ∧
      Later db { db with events := db.events.replace processed } ∧
      Settled cfg { db with events := db.events.replace processed } e ⟨g.eventId, i, duplicate, priority⟩ := by
  intro processed
  have hsame : SameEvent row processed := rfl
  obtain ⟨x, hxmem, h1, h2, h3⟩ := hx
  refine ⟨hinv.settle hrow hsame (by simp [processed]) ?_, Later.settle hrow hsame hopen, ?_⟩
  · intro j hj
    cases hj
    exact ⟨x, hxmem, h1, h2.trans hsub.symm, h3.trans hof.key.symm⟩
  · exact ⟨processed, Table.mem_replace.mpr (.inl ⟨rfl, row, hrow, rfl⟩), hsame.isOf hof, hid, rfl, rfl⟩

lemma processEvent_ok {e : InboundEnvelope} {g : Registered} {i : Nat} {there : Bool} (hinv : TablesInv cfg db n)
    (hh : Holds cfg db e g) (hx : Has cfg db e g i) (h : processEvent db g.eventId i = .ok (there, db'))
    (duplicate : Bool) (priority : Nat) :
    TablesInv cfg db' n ∧ Later db db' ∧ Settled cfg db' e ⟨g.eventId, i, duplicate, priority⟩ := by
  obtain ⟨row, hrow, hid, hsub, hof⟩ := hh
  have hfind : db.events.find? g.eventId = some row := Table.find?_eq_some.mpr ⟨hrow, hid⟩
  unfold processEvent at h
  rw [hfind, orRaise_some, ok_bind] at h
  simp only at h
  split at h
  · next hst =>
    obtain ⟨_, -, h⟩ := bind_eq_ok.mp h
    cases h
    exact process_open hinv hrow hsub hof hid (by rw [hst]; exact fun h => by cases h) hx duplicate priority
  · split at h
    · next hst =>
      obtain ⟨_, -, h⟩ := bind_eq_ok.mp h
      cases h
      exact process_open hinv hrow hsub hof hid (by rw [hst.1]; exact fun h => by cases h) hx duplicate priority
    · obtain ⟨_, hst, h⟩ := bind_eq_ok.mp h
      cases h
      simp only [raiseIf_eq_ok, not_or, ne_eq, not_not] at hst
      exact ⟨hinv, Later.refl db, row, hrow, hof, hid, hst.1, hst.2⟩

/-! ### Every run -/

def Genuine (e : InboundEnvelope) : Prop := ∃ raw : InboundEnvelope, raw.accept = .ok e

/-- What a call may rely on between its transactions. -/
def PhaseOk (cfg : InboundConfig) (db : InboundTables) : Phase → Prop
  | .idle => True
  | .observing e => Genuine e
  | .registering e => Genuine e
  | .receiving e g => Genuine e ∧ Holds cfg db e g
  | .rejecting e g _ => Holds cfg db e g
  | .processing e g i => Holds cfg db e g ∧ Has cfg db e g i
  | .ended e (.accepted a) => Settled cfg db e a
  | .ended _ _ => True

lemma PhaseOk.later {p : Phase} (h : PhaseOk cfg db p) (hl : Later db db') : PhaseOk cfg db' p := by
  cases p with
  | receiving e g => exact ⟨h.1, h.2.later hl⟩
  | rejecting e g f => exact Holds.later h hl
  | processing e g i => exact ⟨h.1.later hl, h.2.later hl⟩
  | ended e answer =>
    cases answer with
    | accepted a => exact Settled.later h hl
    | identityObserved c d => trivial
    | raised f => trivial
  | _ => exact h

structure IngestInv (cfg : InboundConfig) (s : IngestState) : Prop where
  tables : TablesInv cfg s.db s.nextId
  phases : ∀ (i : Nat) (p : Phase), s.phases[i]? = some p → PhaseOk cfg s.db p

lemma phases_set {ps : List Phase} {i j : Nat} {p q : Phase} (h : (ps.set i p)[j]? = some q) :
    (j = i ∧ q = p) ∨ (j ≠ i ∧ ps[j]? = some q) := by
  rw [List.getElem?_set] at h
  split at h
  · next hij =>
    split at h
    · exact .inl ⟨hij.symm, (Option.some.inj h).symm⟩
    · cases h
  · next hij => exact .inr ⟨fun he => hij he.symm, h⟩

/-- A step keeps the invariant and what the calls rely on. -/
structure Kept (cfg : InboundConfig) (s s' : IngestState) : Prop where
  inv : IngestInv cfg s'
  later : Later s.db s'.db

/-- A step of one worker. -/
lemma IngestInv.set {i : Nat} {p : Phase} (h : IngestInv cfg s) (hphases : s'.phases = s.phases.set i p)
    (htables : TablesInv cfg s'.db s'.nextId) (hl : Later s.db s'.db) (hp : PhaseOk cfg s'.db p) : Kept cfg s s' := by
  refine ⟨⟨htables, ?_⟩, hl⟩
  intro j q hj
  rw [hphases] at hj
  rcases phases_set hj with ⟨-, rfl⟩ | ⟨-, hj⟩
  · exact hp
  · exact (h.phases j q hj).later hl

lemma IngestInv.goto {i : Nat} {p : Phase} (h : IngestInv cfg s) (hp : PhaseOk cfg s.db p) : Kept cfg s (s.goto i p) :=
  h.set rfl h.tables (Later.refl _) hp

/-- A step of an operator. -/
lemma IngestInv.operated (h : IngestInv cfg s) (hop : Operated s.db db') (hn : s.nextId ≤ n) :
    Kept cfg s { s with db := db', nextId := n } :=
  ⟨⟨(h.tables.operated hop).mono hn, fun j q hj => (h.phases j q hj).later hop.later⟩, hop.later⟩

lemma inv_observe {i : Nat} {e : InboundEnvelope} {now : Nat} (h : IngestInv cfg s)
    (hp : s.phases[i]? = some (.observing e)) : Kept cfg s (observe cfg s i e now) := by
  have he : Genuine e := h.phases i _ hp
  unfold observe
  split
  · next db hobs =>
    have hop := observeIdentity_operated hobs
    exact h.set rfl (h.tables.operated hop) hop.later he
  · next hobs =>
    have hop := observeIdentity_operated hobs
    exact h.set rfl (h.tables.operated hop) hop.later trivial
  · next hobs =>
    have hop := observeIdentity_operated hobs
    exact h.set rfl (h.tables.operated hop) hop.later trivial
  · exact h.goto trivial

lemma inv_register {i : Nat} {e : InboundEnvelope} (h : IngestInv cfg s)
    (hp : s.phases[i]? = some (.registering e)) : Kept cfg s (register cfg s i e) := by
  unfold register
  split
  · next g db hreg =>
    obtain ⟨htables, hl, hh⟩ := registerEvent_pending h.tables hreg
    exact h.set rfl htables hl ⟨h.phases i _ hp, hh⟩
  · next a db hreg =>
    obtain ⟨rfl, hset⟩ := registerEvent_answered hreg
    exact h.set rfl h.tables (Later.refl _) hset
  · exact h.goto trivial

lemma inv_receiveMessage {i : Nat} {e : InboundEnvelope} {g : Registered} (h : IngestInv cfg s)
    (hp : s.phases[i]? = some (.receiving e g)) : Kept cfg s (receiveMessage cfg s i e g) := by
  obtain ⟨-, hh⟩ := h.phases i _ hp
  unfold receiveMessage
  split
  · next j db hrec =>
    obtain ⟨htables, hl, -, hx⟩ := receive_ok h.tables hh hrec
    exact h.set rfl htables hl ⟨hh.later hl, hx⟩
  · exact h.goto hh

lemma inv_reject {i : Nat} {e : InboundEnvelope} {g : Registered} {f : Failure} (h : IngestInv cfg s)
    (hp : s.phases[i]? = some (.rejecting e g f)) : Kept cfg s (reject s i e g f) := by
  have he : Holds cfg s.db e g := h.phases i _ hp
  unfold reject
  split
  · next a db hrej =>
    obtain ⟨htables, hl, hset⟩ := rejectEvent_ok h.tables he hrej
    exact h.set rfl htables hl (hset a rfl)
  · next db hrej =>
    obtain ⟨htables, hl, -⟩ := rejectEvent_ok h.tables he hrej
    exact h.set rfl htables hl trivial

lemma inv_process {i j : Nat} {e : InboundEnvelope} {g : Registered} (h : IngestInv cfg s)
    (hp : s.phases[i]? = some (.processing e g j)) : Kept cfg s (process s i e g j) := by
  obtain ⟨hh, hx⟩ := h.phases i _ hp
  unfold process
  split
  · next there db hproc =>
    obtain ⟨htables, hl, hset⟩ := processEvent_ok h.tables hh hx hproc (g.duplicate || there) g.priority
    exact h.set rfl htables hl hset
  · exact h.goto trivial

lemma inv_advance {i now : Nat} (h : IngestInv cfg s) : Kept cfg s (advance cfg s i now) := by
  unfold advance
  split
  · next e hp => exact inv_observe h hp
  · next e hp => exact inv_register h hp
  · next e g hp => exact inv_receiveMessage h hp
  · next e g f hp => exact inv_reject h hp
  · next e g j hp => exact inv_process h hp
  · exact ⟨h, Later.refl _⟩

lemma inv_beginIngest {i : Nat} {raw : InboundEnvelope} (h : IngestInv cfg s) : Kept cfg s (beginIngest s i raw) := by
  unfold beginIngest
  split
  · next e _ hraw => exact h.goto ⟨raw, hraw⟩
  · next e _ hraw => exact h.goto ⟨raw, hraw⟩
  · exact ⟨h, Later.refl _⟩

/-- An action is a step of a worker, or it operates on the tables and leaves the calls alone. -/
lemma ingestStep_cases (cfg : InboundConfig) (s : IngestState) (a : IngestAction) :
    (∃ i raw, a = .ingest i raw) ∨ (∃ i now, a = .advance i now) ∨ (∃ i, a = .crash i) ∨
      ∃ db' n', Operated s.db db' ∧ s.nextId ≤ n' ∧ ingestStep cfg s a = { s with db := db', nextId := n' } := by
  cases a with
  | ingest i raw => exact .inl ⟨i, raw, rfl⟩
  | advance i now => exact .inr (.inl ⟨i, now, rfl⟩)
  | crash i => exact .inr (.inr (.inl ⟨i, rfl⟩))
  | configureTransport t sub ch =>
    exact .inr (.inr (.inr ⟨_, _, operated_configureTransport _, Nat.le_refl _, rfl⟩))
  | setTransportStatus t sub st =>
    exact .inr (.inr (.inr ⟨_, _, operated_setTransportStatus t sub st, Nat.le_refl _, rfl⟩))
  | bind sub t account sender role =>
    refine .inr (.inr (.inr ?_))
    unfold ingestStep
    simp only
    split
    · exact ⟨_, _, Operated.refl _, Nat.le_refl _, rfl⟩
    · exact ⟨_, _, operated_bindAccount _, Nat.le_succ _, rfl⟩
  | changeBinding b sub st => exact .inr (.inr (.inr ⟨_, _, operated_changeBinding b sub st, Nat.le_refl _, rfl⟩))
  | routePrivateChat sub b c =>
    exact .inr (.inr (.inr ⟨_, _, operated_routePrivateChat sub b c, Nat.le_refl _, rfl⟩))
  | unlinkPrivateChat sub b =>
    exact .inr (.inr (.inr ⟨_, _, operated_unlinkPrivateChat sub b, Nat.le_refl _, rfl⟩))
  | conversation row =>
    exact .inr (.inr (.inr ⟨{ s.db with conversations := s.db.conversations.upsert row }, _,
      Operated.of_frame rfl rfl rfl rfl rfl rfl rfl, Nat.le_refl _, rfl⟩))
  | setParticipant x st => exact .inr (.inr (.inr ⟨_, _, operated_setParticipant x st, Nat.le_refl _, rfl⟩))
  | challenges rows =>
    exact .inr (.inr (.inr ⟨{ s.db with challenges := rows }, _, Operated.of_frame rfl rfl rfl rfl rfl rfl rfl,
      Nat.le_refl _, rfl⟩))

lemma inv_ingestStep (h : IngestInv cfg s) (a : IngestAction) : Kept cfg s (ingestStep cfg s a) := by
  rcases ingestStep_cases cfg s a with ⟨i, raw, rfl⟩ | ⟨i, now, rfl⟩ | ⟨i, rfl⟩ | ⟨db', n', hop, hn, heq⟩
  · exact inv_beginIngest h
  · exact inv_advance h
  · exact h.goto trivial
  · rw [heq]
    exact h.operated hop hn

lemma inv_initial (h : s.Initial) : IngestInv cfg s := by
  obtain ⟨h1, h2, h3, h4, h5, h6, -, -, hp⟩ := h
  have hev : ∀ row, row ∉ s.db.events := by intro row hr; rw [Table.mem_def, h1] at hr; cases hr
  have hint : ∀ x, x ∉ s.db.interactions := by intro x hr; rw [Table.mem_def, h2] at hr; cases hr
  have hmsg : ∀ x, x ∉ s.db.messages := by intro x hr; rw [Table.mem_def, h3] at hr; cases hr
  have hent : ∀ x, x ∉ s.db.entities := by intro x hr; rw [Table.mem_def, h4] at hr; cases hr
  have hsrc : ∀ x, x ∉ s.db.sources := by intro x hr; rw [Table.mem_def, h5] at hr; cases hr
  have hlnk : ∀ x, x ∉ s.db.links := by intro x hr; rw [Table.mem_def, h6] at hr; cases hr
  constructor
  · constructor
    · exact fun x hx => absurd hx (hev x)
    · exact fun x hx => absurd hx (hint x)
    · exact fun x hx => absurd hx (hent x)
    · exact fun x hx => absurd hx (hsrc x)
    · exact fun x hx => absurd hx (hev x)
    · exact fun x hx => absurd hx (hev x)
    · exact fun x hx => absurd hx (hev x)
    · exact fun x hx => absurd hx (hint x)
    · exact fun x hx => absurd hx (hev x)
    · exact fun x hx => absurd hx (hint x)
    · exact fun x hx => absurd hx (hmsg x)
    · exact fun x hx => absurd hx (hsrc x)
    · exact fun x hx => absurd hx (hsrc x)
    · exact fun x hx => absurd hx (hlnk x)
  · intro i p hi
    rw [hp p (List.mem_of_getElem? hi)]
    trivial

lemma reachable_inv (h : (ingestion cfg).Reachable s) : IngestInv cfg s := by
  refine Machine.ReachableUnder.invariant ?_ ?_ h
  · exact fun _ h0 => inv_initial h0
  · exact fun _ a hs _ => (inv_ingestStep hs a).inv

end Noyra.Interaction.Proofs
