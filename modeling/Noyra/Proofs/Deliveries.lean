import Noyra.Proofs.Inbound

/-!
# Which deliveries are answered

A delivery is answered with its interaction as long as the steps of its call find what they need: an ordinary
message, an event delivered with the same fields before, a key and names within the limits of the interaction
store, a route that stands, and room for a new participant. Then a call fails only where its transport or
binding is not active or its participant is disabled.
-/

namespace Noyra.Interaction.Proofs
open Noyra.Lib

variable {cfg : InboundConfig} {db db' : InboundTables} {s s' : IngestState} {n n' : Nat}

/-! ### Deliveries that are answered -/

def participantDisabled (cfg : InboundConfig) (db : InboundTables) (subjectId : String) (e : InboundEnvelope) : Bool :=
  (db.sourceOf subjectId e.channel (sourceNamespace cfg e) e.externalSenderId).any (fun source =>
    (db.entities.find? source.entityId).any (fun entity => entity.status = .disabled))

/-- The transport and the binding of the envelope are active and its participant is not disabled. -/
def available (cfg : InboundConfig) (db : InboundTables) (e : InboundEnvelope) : Bool :=
  (db.activeTransport e.transportId e.channel).any (fun t =>
    (db.bindingOf t.subjectId e).any (fun b => b.status = .active) && !participantDisabled cfg db t.subjectId e)

/-- The envelope is an ordinary message and not an answer to an identity challenge. -/
def ordinary (cfg : InboundConfig) (db : InboundTables) (e : InboundEnvelope) : Bool :=
  e.channel ≠ .qq || (db.activeTransport e.transportId .qq).all (fun t =>
    (observedChallenge cfg db t.subjectId e).isNone &&
      (!codeShaped (e.code cfg) || (!knownCode cfg db t.subjectId e &&
        (e.replySelector ≠ some .qqUser || (openChallenge db t.subjectId e).isNone))))

/-- An event with the key of the envelope is the envelope's event, delivered before with the same fields. -/
def sameDelivery (cfg : InboundConfig) (db : InboundTables) (e : InboundEnvelope) : Bool :=
  (db.activeTransport e.transportId e.channel).all (fun t => db.events.rows.all (fun row =>
    row.subjectId ≠ t.subjectId || rowKey cfg row ≠ e.idempotencyKey cfg ||
      (row.transportId = e.transportId && row.externalAccountId = e.externalAccountId &&
        row.providerEventId = e.providerEventId && row.describes cfg e)))

/-- The route that the call has read is still in force, its conversation is open, and the message has not been
put in another one. -/
def routeStands (cfg : InboundConfig) (db : InboundTables) (e : InboundEnvelope) (g : Registered) : Bool :=
  g.route.all (fun conversationId =>
    routeInForce db g e.channel conversationId &&
      (db.conversations.find? conversationId).any (fun c => c.subjectId = g.subjectId && c.status = .active) &&
      (db.interactionOf g.subjectId (e.idempotencyKey cfg)).all (fun x =>
        (db.messages.find? x.interactionId).all (fun m => m.conversationId = conversationId)))

/-- What `receive` needs of the envelope and the tables: the key has at most 256 characters, the sender and the
other side are not blank, the content is the one received before, the route stands, and a new participant finds
room. -/
def receivable (cfg : InboundConfig) (db : InboundTables) (e : InboundEnvelope) (g : Registered) : Bool :=
  (e.idempotencyKey cfg).length ≤ 256 && e.counterparty ≠ "" && e.externalSenderId ≠ "" &&
    (db.interactionOf g.subjectId (e.idempotencyKey cfg)).all (fun x => x.content = e.content) &&
    routeStands cfg db e g &&
    ((db.sourceOf g.subjectId e.channel (sourceNamespace cfg e) e.externalSenderId).isSome ||
      (db.entities.rows.filter (fun entity => entity.subjectId = g.subjectId)).length < 10000)

/-- What the next transaction of a call needs. -/
def needsMet (cfg : InboundConfig) (db : InboundTables) : Phase → Bool
  | .observing e => ordinary cfg db e
  | .registering e => sameDelivery cfg db e
  | .receiving e g => receivable cfg db e g
  | _ => true

/-- The condition on a step. -/
def deliverable (cfg : InboundConfig) (s : IngestState) : IngestAction → Bool
  | .advance i _ => (s.phases[i]?).all (needsMet cfg s.db)
  | _ => true

def Deliverable (cfg : InboundConfig) (s : IngestState) (a : IngestAction) : Prop := deliverable cfg s a = true

instance (s : IngestState) (a : IngestAction) : Decidable (Deliverable cfg s a) :=
  inferInstanceAs (Decidable (_ = true))

lemma Genuine.content {e : InboundEnvelope} (h : Genuine e) : strip e.content ≠ "" ∧ e.content.length ≤ 100000 ∧
    e.externalSenderId.length ≤ 512 ∧ e.counterparty.length ≤ 512 ∧
      (e.counterparty ≠ "" → strip e.counterparty ≠ "") := by
  obtain ⟨raw, h⟩ := h
  unfold InboundEnvelope.accept at h
  obtain ⟨_, -, h⟩ := bind_eq_ok.mp h
  obtain ⟨_, -, h⟩ := bind_eq_ok.mp h
  obtain ⟨_, -, h⟩ := bind_eq_ok.mp h
  obtain ⟨_, hsender, h⟩ := bind_eq_ok.mp h
  obtain ⟨_, hconv, h⟩ := bind_eq_ok.mp h
  obtain ⟨_, hcontent, h⟩ := bind_eq_ok.mp h
  obtain ⟨_, -, h⟩ := bind_eq_ok.mp h
  obtain ⟨_, -, h⟩ := bind_eq_ok.mp h
  unfold InboundEnvelope.validateIdentity at h
  obtain ⟨_, hblank, h⟩ := bind_eq_ok.mp h
  obtain ⟨_, -, h⟩ := bind_eq_ok.mp h
  obtain ⟨_, -, h⟩ := bind_eq_ok.mp h
  obtain ⟨_, -, h⟩ := bind_eq_ok.mp h
  cases h
  simp only [checkLength, raiseIf_eq_ok, not_or, not_lt] at hsender hconv hcontent hblank
  have h1 := length_strip_le raw.content
  have h2 := length_strip_le raw.externalSenderId
  have h3 := length_strip_le raw.conversationId
  refine ⟨strip_strip_ne_empty hblank, ?_, ?_, ?_, ?_⟩
  · exact Nat.le_trans h1 hcontent.2
  · exact Nat.le_trans h2 hsender.2
  · unfold InboundEnvelope.counterparty
    split
    · exact Nat.le_trans h2 hsender.2
    · exact Nat.le_trans h3 hconv.2
  · unfold InboundEnvelope.counterparty
    split
    · exact strip_strip_ne_empty
    · exact strip_strip_ne_empty

lemma insertRow_ok {κ ρ : Type} {key : ρ → κ} [DecidableEq κ] {t : Table key} {row : ρ}
    (h : ∀ x ∈ t, key x ≠ key row) : ∃ t', insertRow t row = .ok t' := by
  unfold insertRow Table.insert?
  split
  · next hmem =>
    obtain ⟨x, hx, hk⟩ := List.mem_map.mp hmem
    exact absurd hk (h x hx)
  · exact ⟨_, rfl⟩

/-- A key is not blank. -/
lemma strip_key (e : InboundEnvelope) : strip (e.idempotencyKey cfg) ≠ "" := by
  have hkey : ∃ rest, e.idempotencyKey cfg = "inbound:" ++ rest := by
    refine ⟨e.transportId ++ ":" ++ String.ofList ((cfg.hashText e.externalAccountId).toList.take 32) ++ ":" ++
      e.providerEventId, ?_⟩
    unfold InboundEnvelope.idempotencyKey eventKey
    simp only [String.append_assoc]
  obtain ⟨rest, hrest⟩ := hkey
  have hlist : (e.idempotencyKey cfg).toList = 'i' :: ("nbound:".toList ++ rest.toList) := by
    rw [hrest, String.toList_append]
    rfl
  exact strip_ne_empty hlist (by decide)

lemma linkMessage_ok_of {subjectId : String} {i : Nat} {route : Option String}
    (h : ∀ conversationId, route = some conversationId →
      (db.conversations.find? conversationId).any (fun c => c.subjectId = subjectId && c.status = .active) = true ∧
        (db.messages.find? i).all (fun m => m.conversationId = conversationId) = true) :
    ∃ linked, linkMessage db subjectId i route = .ok linked := by
  cases route with
  | none => exact ⟨db, rfl⟩
  | some conversationId =>
    obtain ⟨hconv, hmsg⟩ := h conversationId rfl
    obtain ⟨c, hc, hcond⟩ := (Option.any_eq_true _ _).mp hconv
    rw [Bool.and_eq_true, decide_eq_true_eq, decide_eq_true_eq] at hcond
    unfold linkMessage
    simp only
    have hfilter : (db.conversations.find? conversationId).filter (fun c => c.subjectId = subjectId) = some c :=
      Option.filter_eq_some_iff.mpr ⟨hc, by simpa using hcond.1⟩
    rw [hfilter, orRaise_some, ok_bind, raiseIf_neg (by simp [hcond.2]), ok_bind]
    cases hm : db.messages.find? i with
    | some m =>
      rw [hm] at hmsg
      have hsame : m.conversationId = conversationId := by simpa using hmsg
      simp only
      rw [raiseIf_neg (by simp [hsame]), ok_bind]
      exact ⟨db, rfl⟩
    | none =>
      obtain ⟨messages, hins⟩ : ∃ t, insertRow db.messages ⟨i, conversationId, subjectId, false⟩ = .ok t :=
        insertRow_ok (Table.find?_eq_none.mp hm)
      simp only
      rw [hins, ok_bind]
      exact ⟨_, rfl⟩

/-- No two events have one key. -/
def KeysApart (cfg : InboundConfig) (db : InboundTables) : Prop :=
  ∀ a ∈ db.events, ∀ b ∈ db.events, a.subjectId = b.subjectId → rowKey cfg a = rowKey cfg b → a = b

lemma KeysApart.agree {e e' : InboundEnvelope} {x : InteractionRow} {row row' : EventRow} (h : KeysApart cfg db)
    (ho : Origin cfg db x row e) (ho' : Origin cfg db x row' e') : Agree e e' := by
  have hrow : row = row' := by
    apply h row ho.mem row' ho'.mem (ho.subject.trans ho'.subject.symm)
    rw [ho.isOf.key, ho'.isOf.key, ← ho.key, ho'.key]
  exact ho.isOf.agree (hrow ▸ ho'.isOf)

lemma createConnection_ok_of {e : InboundEnvelope} {g : Registered} (hinv : TablesInv cfg db n)
    (hapart : KeysApart cfg db) (hh : Holds cfg db e g) (hr : receivable cfg db e g = true) :
    ∃ i created, createConnection cfg db e g n = .ok (i, created) := by
  simp only [receivable, Bool.and_eq_true, decide_eq_true_eq] at hr
  obtain ⟨⟨⟨⟨⟨hkey, -⟩, -⟩, hcontent⟩, hroute⟩, -⟩ := hr
  have hvalid : ¬(strip (e.idempotencyKey cfg) = "" ∨ 256 < (e.idempotencyKey cfg).length) := by
    rintro (hblank | hlong)
    · exact strip_key e hblank
    · omega
  unfold createConnection
  simp only [raiseIf_neg hvalid, ok_bind]
  cases hx : db.interactionOf g.subjectId (e.idempotencyKey cfg) with
  | some x =>
    obtain ⟨hmem, hsub, hxkey⟩ := interactionOf_eq_some hx
    have hlink : ∃ linked, linkMessage db g.subjectId x.interactionId g.route = .ok linked := by
      apply linkMessage_ok_of
      intro conversationId hg
      simp only [routeStands, hg, Option.all_some, Bool.and_eq_true, hx] at hroute
      exact ⟨hroute.1.2, hroute.2⟩
    obtain ⟨linked, hlinked⟩ := hlink
    obtain ⟨row', e', ho'⟩ := hinv.origin x hmem
    obtain ⟨row, hrow, -, hrsub, hof⟩ := hh
    -- the recorded interaction comes from the same event, since no other event has its key
    have hrows : row = row' := by
      apply hapart row hrow row' ho'.mem
      · rw [hrsub, ho'.subject, hsub]
      · rw [hof.key, ho'.isOf.key, ← ho'.key, hxkey]
    have hagree : Agree e e' := hof.agree (hrows ▸ ho'.isOf)
    have hsame : ¬(x.channel ≠ e.channel ∨ x.counterparty ≠ e.counterparty ∨ x.content ≠ e.content) := by
      rw [hx, Option.all_some, decide_eq_true_eq] at hcontent
      simp [ho'.channel, hagree.channel, ho'.counterparty, hagree.counterparty, hcontent]
    simp only [hlinked, ok_bind, raiseIf_neg hsame]
    exact ⟨_, _, rfl⟩
  | none =>
    obtain ⟨interactions, hins⟩ : ∃ t, insertRow db.interactions
        ⟨n, g.subjectId, e.channel, e.counterparty, e.content, e.idempotencyKey cfg⟩ = .ok t := by
      apply insertRow_ok
      intro y hy
      exact Nat.ne_of_lt (hinv.interactionIds y hy)
    have hlink : ∃ linked, linkMessage { db with interactions := interactions } g.subjectId n g.route = .ok linked := by
      apply linkMessage_ok_of
      intro conversationId hg
      simp only [routeStands, hg, Option.all_some, Bool.and_eq_true] at hroute
      refine ⟨hroute.1.2, ?_⟩
      -- a fresh interaction is in no conversation yet
      have hfresh : db.messages.find? n = none := by
        rw [Table.find?_eq_none]
        intro m hm hid
        obtain ⟨y, hy, hym⟩ := hinv.messaged m hm
        have := hinv.interactionIds y hy
        omega
      rw [hfresh]
      rfl
    obtain ⟨linked, hlinked⟩ := hlink
    simp only [hins, hlinked, ok_bind]
    exact ⟨_, _, rfl⟩

lemma participantSource_ok_of {e : InboundEnvelope} {subjectId : String} (hinv : TablesInv cfg db n')
    (hentities : ∀ x ∈ db.entities, x.entityId < n) (hsources : ∀ x ∈ db.sources, x.sourceId < n)
    (hsender : e.externalSenderId ≠ "") (hlen : e.externalSenderId.length ≤ 512)
    (henabled : participantDisabled cfg db subjectId e = false)
    (hroom : (db.sourceOf subjectId e.channel (sourceNamespace cfg e) e.externalSenderId).isSome = true ∨
      (db.entities.rows.filter (fun entity => entity.subjectId = subjectId)).length < 10000) :
    ∃ who known, participantSource cfg db e subjectId (n + 1) (n + 2) = .ok (who, known) := by
  have hname : ¬((sourceNamespace cfg e).length = 0 ∨ 512 < (sourceNamespace cfg e).length ∨
      e.externalSenderId.length = 0 ∨ 512 < e.externalSenderId.length) := by
    have hspace : (sourceNamespace cfg e).length = 64 := cfg.hashList_length _
    have hnonempty : e.externalSenderId.length ≠ 0 := fun h0 => hsender (String.length_eq_zero_iff.mp h0)
    omega
  unfold participantSource
  simp only [raiseIf_neg hname, ok_bind]
  cases hs : db.sourceOf subjectId e.channel (sourceNamespace cfg e) e.externalSenderId with
  | some source =>
    obtain ⟨hmem, -⟩ := sourceOf_eq_some hs
    obtain ⟨entity, hentity, hid⟩ := hinv.entity source hmem
    have hfind : db.entities.find? source.entityId = some entity := Table.find?_eq_some.mpr ⟨hentity, hid⟩
    have hactive : ¬entity.status ≠ .active := by
      simp only [participantDisabled, hs, Option.any_some, hfind] at henabled
      intro hne
      cases hst : entity.status with
      | active => exact hne hst
      | disabled =>
        rw [hst] at henabled
        exact absurd henabled (by decide)
    simp only [hfind, orRaise_some, ok_bind, raiseIf_neg hactive]
    exact ⟨_, _, rfl⟩
  | none =>
    rw [hs] at hroom
    have hcount : ¬10000 ≤ (db.entities.rows.filter (fun entity => entity.subjectId = subjectId)).length := by
      rcases hroom with hroom | hroom
      · cases hroom
      · omega
    obtain ⟨entities, hent⟩ : ∃ t, insertRow db.entities ⟨n + 1, subjectId, String.ofList
        ((if strip e.senderLabel = "" then e.externalSenderId else strip e.senderLabel).toList.take 128), .active⟩ =
        .ok t := by
      apply insertRow_ok
      intro y hy hid
      have := hentities y hy
      change y.entityId = n + 1 at hid
      omega
    obtain ⟨sources, hsrc⟩ : ∃ t, insertRow db.sources
        ⟨n + 2, subjectId, n + 1, e.channel, sourceNamespace cfg e, e.externalSenderId⟩ = .ok t := by
      apply insertRow_ok
      intro y hy hid
      have := hsources y hy
      change y.sourceId = n + 2 at hid
      omega
    simp only [raiseIf_neg hcount, ok_bind, hent, hsrc]
    exact ⟨_, _, rfl⟩

lemma participantLink_ok_of {link : LinkRow} {x : InteractionRow} {row : EventRow} {e : InboundEnvelope}
    {source : SourceRow} (hinv : TablesInv cfg db n) (hapart : KeysApart cfg db) (hx : x ∈ db.interactions)
    (ho : Origin cfg db x row e) (hsource : source ∈ db.sources) (hso : SourceOf cfg source x.subjectId e)
    (heq : link = ⟨x.interactionId, x.subjectId, source.entityId, source.sourceId, participantConversation cfg e⟩) :
    ∃ linked, participantLink db link = .ok linked := by
  subst heq
  have hfx : db.interactions.find? x.interactionId = some x := Table.find?_key hx
  have hfs : db.sources.find? source.sourceId = some source := Table.find?_key hsource
  unfold participantLink
  simp only [hfx, hfs, Option.any_some, hso.subject, decide_true, Bool.and_self, raiseIf, or_self, if_false,
    ok_bind, Bool.true_eq_false]
  cases hl : db.links.find? x.interactionId with
  | some existing =>
    obtain ⟨hmem, hid⟩ := Table.find?_eq_some.mp hl
    obtain ⟨y, hy, row', e', source', hsource', ho', hso', heq'⟩ := hinv.attributed existing hmem
    have hyx : y = x := Table.eq_of_key hy hx (by rw [heq'] at hid; exact hid)
    subst hyx
    have hagree : Agree e e' := hapart.agree ho ho'
    have hss : source' = source := by
      apply hinv.oneSource source' hsource' source hsource
      · exact hso'.subject.trans hso.subject.symm
      · rw [hso'.channel, hso.channel, hagree.channel]
      · rw [hso'.space, hso.space, hagree.sourceNamespace]
      · rw [hso'.sender, hso.sender, hagree.sender]
    have hsame : existing = ⟨y.interactionId, y.subjectId, source.entityId, source.sourceId,
        participantConversation cfg e⟩ := by
      rw [heq', hss, hagree.participantConversation]
    simp only [hsame, ne_eq, not_true_eq_false, if_false, ok_bind]
    exact ⟨_, rfl⟩
  | none =>
    obtain ⟨links, hins⟩ : ∃ t, insertRow db.links
        ⟨x.interactionId, x.subjectId, source.entityId, source.sourceId, participantConversation cfg e⟩ = .ok t :=
      insertRow_ok (Table.find?_eq_none.mp hl)
    simp only [hins, ok_bind]
    exact ⟨_, rfl⟩

lemma validateMessage_ok {e : InboundEnvelope} (he : Genuine e) (hcp : e.counterparty ≠ "") :
    validateMessage e.counterparty e.content = .ok () := by
  obtain ⟨hcontent, hlen, -, hlen', hstrip⟩ := he.content
  unfold validateMessage
  rw [raiseIf_neg, ok_bind, raiseIf_neg]
  · omega
  · rintro (hblank | hblank)
    · exact hstrip hcp hblank
    · exact hcontent hblank

lemma verifyRoute_ok {e : InboundEnvelope} {g : Registered} (h : routeStands cfg db e g = true) :
    verifyRoute db g e.channel = .ok () := by
  unfold verifyRoute
  cases hg : g.route with
  | none => rfl
  | some conversationId =>
    simp only [routeStands, hg, Option.all_some, Bool.and_eq_true] at h
    apply raiseIf_neg
    rw [h.1.1]
    exact Bool.false_ne_true.symm

/-- A receivable message is received unless its participant is disabled. -/
lemma receive_ok_of {e : InboundEnvelope} {g : Registered} (hinv : TablesInv cfg db n) (hapart : KeysApart cfg db)
    (he : Genuine e) (hh : Holds cfg db e g) (hr : receivable cfg db e g = true)
    (henabled : participantDisabled cfg db g.subjectId e = false) : ∃ r, receive cfg db e g n = .ok r := by
  obtain ⟨i, created, hc⟩ := createConnection_ok_of hinv hapart hh hr
  simp only [receivable, Bool.and_eq_true, Bool.or_eq_true, decide_eq_true_eq] at hr
  obtain ⟨⟨⟨⟨⟨-, hcp⟩, hsender⟩, -⟩, hroute⟩, hroom⟩ := hr
  have hinv3 : TablesInv cfg db (n + 3) := hinv.mono (by omega)
  have hcreated := createConnection_ok hinv3 (by omega) hh hc
  have hsame : created.sourceOf = db.sourceOf := by
    unfold InboundTables.sourceOf
    rw [hcreated.sources]
  have henabled' : participantDisabled cfg created g.subjectId e = false := by
    rw [participantDisabled, hsame, hcreated.entities]
    exact henabled
  rw [← hsame, ← hcreated.entities] at hroom
  obtain ⟨who, known, hs⟩ := participantSource_ok_of hcreated.inv (by rw [hcreated.entities]; exact hinv.entityIds)
    (by rw [hcreated.sources]; exact hinv.sourceIds) hsender he.content.2.2.1 henabled' hroom
  obtain ⟨hknown, ⟨entities, sources, rfl⟩, source, hsource, hso, rfl⟩ :=
    participantSource_ok hcreated.inv (by omega) (by omega) hs
  obtain ⟨x, hx, row, rfl, hsub, ho⟩ := hcreated.interaction
  have hapart' : KeysApart cfg { created with entities := entities, sources := sources } := by
    unfold KeysApart
    rw [hcreated.events]
    exact hapart
  obtain ⟨linked, hl⟩ : ∃ linked, participantLink { created with entities := entities, sources := sources }
      ⟨x.interactionId, g.subjectId, source.entityId, source.sourceId, participantConversation cfg e⟩ = .ok linked :=
    participantLink_ok_of hknown hapart' hx (ho.of_events (fun _ h => h)) hsource (hsub ▸ hso) (by rw [hsub])
  refine ⟨(x.interactionId, verifyAuthor linked x.interactionId g), ?_⟩
  unfold receive
  simp only [validateMessage_ok he hcp, verifyRoute_ok hroute, hc, hs, hl, ok_bind]

/-! ### Guarded steps -/

lemma available_of_no_transport {e : InboundEnvelope} (h : db.activeTransport e.transportId e.channel = none) :
    available cfg db e = false := by
  unfold available
  rw [h]
  rfl

/-- An ordinary message passes the identity check, unless its transport is not active. -/
lemma observeIdentity_ordinary {e : InboundEnvelope} (h : ordinary cfg db e = true) (now : Nat) :
    observeIdentity cfg db e now = .ok (.message, db) ∨
      (available cfg db e = false ∧ ∃ error, observeIdentity cfg db e now = .error error) := by
  by_cases hqq : e.channel = .qq
  · unfold observeIdentity
    rw [if_neg (by simp [hqq])]
    cases ht : db.activeTransport e.transportId .qq with
    | none => exact .inr ⟨available_of_no_transport (hqq ▸ ht), _, rfl⟩
    | some t =>
      left
      simp only [ordinary, hqq, ne_eq, not_true_eq_false, decide_false, Bool.false_or, ht, Option.all_some,
        Bool.and_eq_true, Option.isNone_iff_eq_none] at h
      rw [orRaise_some, ok_bind, h.1]
      simp only
      cases hcode : codeShaped (e.code cfg) with
      | false => rw [if_pos rfl]
      | true =>
        simp only [hcode, Bool.not_true, Bool.false_or, Bool.and_eq_true, Bool.not_eq_true', Bool.or_eq_true,
          decide_eq_true_eq, Option.isNone_iff_eq_none] at h
        rw [if_neg (by simp)]
        split
        · rw [raiseIf_neg (by simp [h.2.1]), ok_bind]
        · next hsel =>
          have hopen : openChallenge db t.subjectId e = none := by
            rcases h.2.2 with hne | hopen
            · exact absurd hne hsel
            · exact hopen
          rw [hopen]
          simp only
          rw [raiseIf_neg (by simp [h.2.1]), ok_bind]
  · left
    unfold observeIdentity
    rw [if_pos hqq]

lemma sameDelivery_isOf {e : InboundEnvelope} {t : TransportRow} {row : EventRow} (h : sameDelivery cfg db e = true)
    (ht : db.activeTransport e.transportId e.channel = some t) (hrow : row ∈ db.events)
    (hsub : row.subjectId = t.subjectId) (hkey : rowKey cfg row = e.idempotencyKey cfg) : IsOf cfg row e := by
  simp only [sameDelivery, ht, Option.all_some, List.all_eq_true] at h
  have := h row hrow
  simp only [hsub, hkey, ne_eq, not_true_eq_false, decide_false, Bool.false_or, Bool.and_eq_true,
    decide_eq_true_eq] at this
  exact ⟨this.1.1.1, this.1.1.2, this.1.2, this.2⟩

lemma rowKey_eq {row : EventRow} {e : InboundEnvelope} (h1 : row.transportId = e.transportId)
    (h2 : row.externalAccountId = e.externalAccountId) (h3 : row.providerEventId = e.providerEventId) :
    rowKey cfg row = e.idempotencyKey cfg := by
  unfold rowKey InboundEnvelope.idempotencyKey
  rw [h1, h2, h3]

lemma retryEvent_ok {e : InboundEnvelope} {row : EventRow} {g : Registered} (hinv : TablesInv cfg db n)
    (hrow : row ∈ db.events) (hdesc : row.describes cfg e = true) : ∃ r, retryEvent cfg db e row g = .ok r := by
  unfold retryEvent
  rw [raiseIf_neg (by simp [hdesc]), ok_bind]
  have hsettled := hinv.settled row hrow
  cases hi : row.interactionId with
  | some i =>
    rw [hi] at hsettled
    have hst : row.status = .processed := hsettled.mpr rfl
    simp only
    rw [raiseIf_neg (by simp [hst]), ok_bind]
    exact ⟨_, rfl⟩
  | none =>
    rw [hi] at hsettled
    have hst : row.status ≠ .processed := fun h => by simpa using hsettled.mp h
    simp only
    rw [raiseIf_neg hst, ok_bind]
    exact ⟨_, rfl⟩

/-- Registering the delivery fails only for want of an active transport and binding. -/
lemma registerEvent_error {e : InboundEnvelope} {error : InboundError} (hinv : TablesInv cfg db n)
    (hsame : sameDelivery cfg db e = true) (h : registerEvent cfg db e n = .error error) :
    available cfg db e = false := by
  unfold registerEvent at h
  cases ht : db.activeTransport e.transportId e.channel with
  | none => exact available_of_no_transport ht
  | some t =>
    unfold available
    rw [ht, Option.any_some]
    rw [ht, orRaise_some, ok_bind] at h
    cases hb : db.bindingOf t.subjectId e with
    | none => rfl
    | some b =>
      rw [hb, orRaise_some, ok_bind] at h
      by_cases hst : b.status = .active
      · rw [raiseIf_neg (by simp [hst]), ok_bind] at h
        simp only at h
        split at h
        · next row hrow =>
          obtain ⟨hmem, hsub, h1, h2, h3⟩ := eventOf_eq_some hrow
          have hof := sameDelivery_isOf hsame ht hmem hsub (rowKey_eq h1 h2 h3)
          obtain ⟨r, hr⟩ := retryEvent_ok hinv hmem hof.2.2.2
          rw [hr] at h
          cases h
        · next hnew =>
          obtain ⟨events, hins⟩ : ∃ t', insertRow db.events
              (newEvent cfg e t.subjectId n (if b.role = .creator then 100 else 0)) = .ok t' := by
            apply insertRow_ok
            intro x hx
            exact Nat.ne_of_lt (hinv.eventIds x hx)
          rw [hins, ok_bind] at h
          cases h
      · simp [hst]

lemma KeysApart.settle {row row' : EventRow} (h : KeysApart cfg db) (hrow : row ∈ db.events)
    (hsame : SameEvent row row') : KeysApart cfg { db with events := db.events.replace row' } := by
  intro a ha b hb h1 h2
  obtain ⟨a', ha', haa, -⟩ := mem_settled hrow hsame ha
  obtain ⟨b', hb', hbb, -⟩ := mem_settled hrow hsame hb
  have hab : a' = b' := by
    apply h a' ha' b' hb'
    · rw [haa.subjectId, hbb.subjectId, h1]
    · rw [haa.key, hbb.key, h2]
  exact Table.eq_of_key ha hb (by rw [← haa.eventId, ← hbb.eventId, hab])

lemma KeysApart.of_events (h : KeysApart cfg db) (he : db'.events = db.events) : KeysApart cfg db' := by
  unfold KeysApart
  rw [he]
  exact h

/-- A new event has a key of its own. -/
lemma registerEvent_apart {e : InboundEnvelope} {g : Registered} (hapart : KeysApart cfg db)
    (hsame : sameDelivery cfg db e = true) (h : registerEvent cfg db e n = .ok (.pending g, db')) :
    KeysApart cfg db' := by
  unfold registerEvent at h
  obtain ⟨t, ht, h⟩ := bind_eq_ok.mp h
  obtain ⟨b, -, h⟩ := bind_eq_ok.mp h
  obtain ⟨_, -, h⟩ := bind_eq_ok.mp h
  have ht := orRaise_eq_ok.mp ht
  simp only at h
  split at h
  · next row hrow =>
    obtain ⟨hdesc, hnone, -, -, -, rfl⟩ := retryEvent_pending h
    obtain ⟨hmem, -⟩ := eventOf_eq_some hrow
    apply hapart.settle hmem
    unfold SameEvent
    rw [hnone]
  · next hnew =>
    obtain ⟨events, hins, h⟩ := bind_eq_ok.mp h
    cases h
    have hfresh : ∀ a ∈ db.events, a.subjectId = t.subjectId → rowKey cfg a ≠ e.idempotencyKey cfg := by
      intro a ha hsub hkey
      have hof := sameDelivery_isOf hsame ht ha hsub hkey
      exact eventOf_eq_none hnew a ha hsub hof.1 hof.2.1 hof.2.2.1
    intro x hx y hy h1 h2
    rcases (mem_insertRow hins).mp hx with hx | rfl
    · rcases (mem_insertRow hins).mp hy with hy | rfl
      · exact hapart x hx y hy h1 h2
      · exact absurd (h2.trans (newEvent_isOf.key)) (hfresh x hx h1)
    · rcases (mem_insertRow hins).mp hy with hy | rfl
      · exact absurd (h2.symm.trans (newEvent_isOf.key)) (hfresh y hy h1.symm)
      · rfl

lemma rejectEvent_apart {e : InboundEnvelope} {g : Registered} {answer : Option InboundAccepted}
    (hapart : KeysApart cfg db) (hh : Holds cfg db e g)
    (h : rejectEvent db g.eventId = (answer, db')) : KeysApart cfg db' := by
  unfold rejectEvent at h
  obtain ⟨row, hrow, hid, -, -⟩ := hh
  have hfind : db.events.find? g.eventId = some row := Table.find?_eq_some.mpr ⟨hrow, hid⟩
  rw [hfind] at h
  simp only at h
  split at h
  · cases h
    exact hapart.settle hrow rfl
  · cases h
    exact hapart
  · cases h
    exact hapart

/-- The interaction of an event is taken by no other event. -/
lemma not_interactionTaken {e : InboundEnvelope} {g : Registered} {i : Nat} {row : EventRow}
    (hinv : TablesInv cfg db n) (hapart : KeysApart cfg db) (hrow : row ∈ db.events)
    (hof : IsOf cfg row e) (hx : Has cfg db e g i) :
    interactionTaken db row i = false := by
  unfold interactionTaken
  rw [List.any_eq_false]
  intro other hother hcond
  simp only [ne_eq, Bool.and_eq_true, decide_eq_true_eq] at hcond
  obtain ⟨⟨hne, hosub⟩, hoi⟩ := hcond
  obtain ⟨x, hx, h1, h2, h3⟩ := hx
  obtain ⟨y, hy, k1, k2, k3⟩ := hinv.owned other hother i hoi
  have hyx : y = x := Table.eq_of_key hy hx (k1.trans h1.symm)
  apply hne
  have heq : other = row := by
    apply hapart other hother row hrow hosub
    rw [← k3, hyx, h3, hof.key]
  rw [heq]

/-- Processing never fails, and keeps the keys apart. -/
lemma processEvent_ok_of {e : InboundEnvelope} {g : Registered} {i : Nat} (hinv : TablesInv cfg db n)
    (hapart : KeysApart cfg db) (hh : Holds cfg db e g) (hx : Has cfg db e g i) :
    ∃ there db', processEvent db g.eventId i = .ok (there, db') ∧ KeysApart cfg db' := by
  obtain ⟨row, hrow, hid, hsub, hof⟩ := hh
  have hfind : db.events.find? g.eventId = some row := Table.find?_eq_some.mpr ⟨hrow, hid⟩
  have htaken := not_interactionTaken hinv hapart hrow hof hx
  unfold processEvent
  rw [hfind, orRaise_some, ok_bind]
  simp only
  split
  · rw [raiseIf_neg (by simp [htaken]), ok_bind]
    exact ⟨_, _, rfl, hapart.settle hrow rfl⟩
  · next hne =>
    split
    · rw [raiseIf_neg (by simp [htaken]), ok_bind]
      exact ⟨_, _, rfl, hapart.settle hrow rfl⟩
    · next hne' =>
      have hdone : row.status = .processed ∧ row.interactionId = some i := by
        have hsettled := hinv.settled row hrow
        cases hi : row.interactionId with
        | none =>
          rw [hi] at hsettled hne'
          cases hst : row.status with
          | received => exact absurd hst hne
          | rejected => exact absurd ⟨hst, rfl⟩ hne'
          | processed => simp [hst] at hsettled
        | some j =>
          obtain ⟨y, hy, k1, k2, k3⟩ := hinv.owned row hrow j hi
          obtain ⟨x, hx, h1, h2, h3⟩ := hx
          have hyx : y = x := by
            apply hinv.oneInteraction y hy x hx (k2.trans (hsub.trans h2.symm))
            rw [k3, h3, hof.key]
          refine ⟨hsettled.mpr (by rw [hi]; rfl), ?_⟩
          rw [← k1, hyx, h1]
      rw [raiseIf_neg (by simp [hdone.1, hdone.2]), ok_bind]
      exact ⟨_, _, rfl, hapart⟩

/-! ### Guarded runs -/

/-- A call that is failing or has failed was not available to the transaction that failed. -/
def Excused (cfg : InboundConfig) : Phase → Prop
  | .rejecting e _ f => available cfg f.seen e = false
  | .ended e (.raised f) => available cfg f.seen e = false
  | .ended _ (.identityObserved _ _) => False
  | _ => True

structure Guarded (cfg : InboundConfig) (s : IngestState) : Prop where
  inv : IngestInv cfg s
  apart : KeysApart cfg s.db
  excused : ∀ (i : Nat) (p : Phase), s.phases[i]? = some p → Excused cfg p

lemma Guarded.set {i : Nat} {p : Phase} (h : Guarded cfg s) (hinv : IngestInv cfg s')
    (hphases : s'.phases = s.phases.set i p) (hapart : KeysApart cfg s'.db) (hp : Excused cfg p) : Guarded cfg s' := by
  refine ⟨hinv, hapart, ?_⟩
  intro j q hj
  rw [hphases] at hj
  rcases phases_set hj with ⟨-, rfl⟩ | ⟨-, hj⟩
  · exact hp
  · exact h.excused j q hj

lemma guarded_observe {i now : Nat} {e : InboundEnvelope} (h : Guarded cfg s) (hp : s.phases[i]? = some (.observing e))
    (hord : ordinary cfg s.db e = true) : Guarded cfg (observe cfg s i e now) := by
  have hinv : IngestInv cfg (observe cfg s i e now) := (inv_observe h.inv hp).inv
  rcases observeIdentity_ordinary hord now with hobs | ⟨hun, error, hobs⟩
  · unfold observe at hinv ⊢
    rw [hobs] at hinv ⊢
    exact h.set hinv rfl h.apart trivial
  · unfold observe at hinv ⊢
    rw [hobs] at hinv ⊢
    exact h.set hinv rfl h.apart hun

lemma guarded_register {i : Nat} {e : InboundEnvelope} (h : Guarded cfg s) (hp : s.phases[i]? = some (.registering e))
    (hsame : sameDelivery cfg s.db e = true) : Guarded cfg (register cfg s i e) := by
  have hinv := (inv_register h.inv hp).inv
  unfold register at hinv ⊢
  split at hinv
  · next g db hreg => exact h.set hinv rfl (registerEvent_apart h.apart hsame hreg) trivial
  · next a db hreg =>
    obtain ⟨rfl, -⟩ := registerEvent_answered hreg
    exact h.set hinv rfl h.apart trivial
  · next error hreg => exact h.set hinv rfl h.apart (registerEvent_error h.inv.tables hsame hreg)

/-- The subject of a call is the subject of its transport. -/
lemma subject_of_transport {e : InboundEnvelope} {g : Registered} {t : TransportRow} (hinv : TablesInv cfg db n)
    (hh : Holds cfg db e g) (ht : db.activeTransport e.transportId e.channel = some t) : t.subjectId = g.subjectId := by
  obtain ⟨row, hrow, -, hsub, hof⟩ := hh
  obtain ⟨t', ht', h1, h2⟩ := hinv.placed row hrow
  obtain ⟨htmem, htid, -, -⟩ := activeTransport_eq_some ht
  have htt : t' = t := Table.eq_of_key ht' htmem (by rw [h1, hof.1, htid])
  rw [← htt, h2, hsub]

lemma guarded_receiveMessage {i : Nat} {e : InboundEnvelope} {g : Registered} (h : Guarded cfg s)
    (hp : s.phases[i]? = some (.receiving e g)) (hr : receivable cfg s.db e g = true) :
    Guarded cfg (receiveMessage cfg s i e g) := by
  have hinv := (inv_receiveMessage h.inv hp).inv
  obtain ⟨he, hh⟩ := h.inv.phases i _ hp
  unfold receiveMessage at hinv ⊢
  split at hinv
  · next j db hrec =>
    obtain ⟨-, -, hevents, -⟩ := receive_ok h.inv.tables hh hrec
    exact h.set hinv rfl (h.apart.of_events hevents) trivial
  · next error hrec =>
    refine h.set hinv rfl h.apart ?_
    change available cfg s.db e = false
    cases ht : s.db.activeTransport e.transportId e.channel with
    | none => exact available_of_no_transport ht
    | some t =>
      have hsub := subject_of_transport h.inv.tables hh ht
      have hdisabled : participantDisabled cfg s.db g.subjectId e = true := by
        by_contra hen
        rw [Bool.not_eq_true] at hen
        obtain ⟨r, hr'⟩ := receive_ok_of h.inv.tables h.apart he hh hr hen
        rw [hr'] at hrec
        cases hrec
      unfold available
      rw [ht, Option.any_some, hsub, hdisabled, Bool.not_true, Bool.and_false]

lemma guarded_reject {i : Nat} {e : InboundEnvelope} {g : Registered} {f : Failure} (h : Guarded cfg s)
    (hp : s.phases[i]? = some (.rejecting e g f)) : Guarded cfg (reject s i e g f) := by
  have hinv := (inv_reject h.inv hp).inv
  have hh : Holds cfg s.db e g := h.inv.phases i _ hp
  have hun : available cfg f.seen e = false := h.excused i _ hp
  unfold reject at hinv ⊢
  split at hinv
  · next a db hrej => exact h.set hinv rfl (rejectEvent_apart h.apart hh hrej) trivial
  · next db hrej => exact h.set hinv rfl (rejectEvent_apart h.apart hh hrej) hun

lemma guarded_process {i j : Nat} {e : InboundEnvelope} {g : Registered} (h : Guarded cfg s)
    (hp : s.phases[i]? = some (.processing e g j)) : Guarded cfg (process s i e g j) := by
  have hinv := (inv_process h.inv hp).inv
  obtain ⟨hh, hx⟩ := h.inv.phases i _ hp
  obtain ⟨there, db', hproc, hapart⟩ := processEvent_ok_of h.inv.tables h.apart hh hx
  unfold process at hinv ⊢
  rw [hproc] at hinv ⊢
  exact h.set hinv rfl hapart trivial

lemma guarded_advance {i now : Nat} (h : Guarded cfg s) (hg : Deliverable cfg s (.advance i now)) :
    Guarded cfg (advance cfg s i now) := by
  unfold advance
  split
  · next e hp =>
    simp only [Deliverable, deliverable, hp, Option.all_some] at hg
    exact guarded_observe h hp hg
  · next e hp =>
    simp only [Deliverable, deliverable, hp, Option.all_some] at hg
    exact guarded_register h hp hg
  · next e g hp =>
    simp only [Deliverable, deliverable, hp, Option.all_some] at hg
    exact guarded_receiveMessage h hp hg
  · next e g f hp => exact guarded_reject h hp
  · next e g j hp => exact guarded_process h hp
  · exact h

lemma guarded_beginIngest {i : Nat} {raw : InboundEnvelope} (h : Guarded cfg s) :
    Guarded cfg (beginIngest s i raw) := by
  have hinv : IngestInv cfg (beginIngest s i raw) := (inv_beginIngest h.inv).inv
  unfold beginIngest at hinv ⊢
  split at hinv
  · exact h.set hinv rfl h.apart trivial
  · exact h.set hinv rfl h.apart trivial
  · exact h

lemma guarded_step (h : Guarded cfg s) (a : IngestAction) (hg : Deliverable cfg s a) :
    Guarded cfg (ingestStep cfg s a) := by
  rcases ingestStep_cases cfg s a with ⟨i, raw, rfl⟩ | ⟨i, now, rfl⟩ | ⟨i, rfl⟩ | ⟨db', n', hop, hn, heq⟩
  · exact guarded_beginIngest h
  · exact guarded_advance h hg
  · exact h.set (inv_ingestStep h.inv (.crash i)).inv rfl h.apart trivial
  · have hinv := (inv_ingestStep h.inv a).inv
    rw [heq] at hinv ⊢
    exact ⟨hinv, h.apart.of_events hop.events, h.excused⟩

lemma guarded_initial (h : s.Initial) : Guarded cfg s := by
  refine ⟨inv_initial h, ?_, ?_⟩
  · intro a ha
    rw [Table.mem_def, h.1] at ha
    cases ha
  · intro i p hi
    rw [h.2.2.2.2.2.2.2.2 p (List.mem_of_getElem? hi)]
    trivial

lemma reachableUnder_guarded (h : (ingestion cfg).ReachableUnder (Deliverable cfg) s) : Guarded cfg s := by
  refine Machine.ReachableUnder.invariant ?_ ?_ h
  · exact fun _ h0 => guarded_initial h0
  · exact fun _ a hs hg => guarded_step hs a hg

/-- What holds of the tables whatever happens: a provider event has one row and at most one interaction, which
its row carries exactly when it is processed. -/
structure ExactlyOnce (cfg : InboundConfig) (db : InboundTables) : Prop where
  oneEvent : ∀ a ∈ db.events, ∀ b ∈ db.events, a.transportId = b.transportId →
    a.externalAccountId = b.externalAccountId → a.providerEventId = b.providerEventId → a = b
  produced : ∀ x ∈ db.interactions, ∃ row ∈ db.events,
    row.subjectId = x.subjectId ∧ rowKey cfg row = x.idempotencyKey
  oneInteraction : ∀ row ∈ db.events, ∀ x ∈ db.interactions, ∀ y ∈ db.interactions,
    x.subjectId = row.subjectId → x.idempotencyKey = rowKey cfg row →
    y.subjectId = row.subjectId → y.idempotencyKey = rowKey cfg row → x = y
  processed : ∀ row ∈ db.events, row.status = .processed ↔ row.interactionId.isSome
  linked : ∀ row ∈ db.events, ∀ i, row.interactionId = some i → ∃ x ∈ db.interactions,
    x.interactionId = i ∧ x.subjectId = row.subjectId ∧ x.idempotencyKey = rowKey cfg row

/-- What the answer of a call on `e` may be: the one interaction of its processed event, or an exception raised
where the transport or the binding was not active or the participant was disabled. -/
def AnswerOk (cfg : InboundConfig) (db : InboundTables) (e : InboundEnvelope) : Answer → Prop
  | .accepted a => ∃ row ∈ db.events, IsOf cfg row e ∧ row.eventId = a.eventId ∧ row.status = .processed ∧
      row.interactionId = some a.interactionId ∧ ∀ x ∈ db.interactions, x.subjectId = row.subjectId →
        x.idempotencyKey = e.idempotencyKey cfg → x.interactionId = a.interactionId
  | .identityObserved _ _ => False
  | .raised f => available cfg f.seen e = false

def Answered (cfg : InboundConfig) (s : IngestState) : Prop :=
  ∀ (i : Nat) (e : InboundEnvelope) (answer : Answer), s.phases[i]? = some (.ended e answer) →
    AnswerOk cfg s.db e answer

/-- The transactions that a call has still before it. -/
def remaining : Phase → Nat
  | .observing _ => 4
  | .registering _ => 3
  | .receiving _ _ => 2
  | .rejecting _ _ _ => 1
  | .processing _ _ _ => 1
  | _ => 0

def phaseEnvelope : Phase → Option InboundEnvelope
  | .idle => none
  | .observing e => some e
  | .registering e => some e
  | .receiving e _ => some e
  | .rejecting e _ _ => some e
  | .processing e _ _ => some e
  | .ended e _ => some e

lemma TablesInv.exactlyOnce (h : TablesInv cfg db n) : ExactlyOnce cfg db where
  oneEvent := by
    intro a ha b hb h1 h2 h3
    obtain ⟨t, ht, k1, k2⟩ := h.placed a ha
    obtain ⟨t', ht', k1', k2'⟩ := h.placed b hb
    have htt : t = t' := Table.eq_of_key ht ht' (by rw [k1, k1', h1])
    exact h.oneEvent a ha b hb (by rw [← k2, ← k2', htt]) h1 h2 h3
  produced := by
    intro x hx
    obtain ⟨row, e, ho⟩ := h.origin x hx
    exact ⟨row, ho.mem, ho.subject, ho.isOf.key.trans ho.key.symm⟩
  oneInteraction := by
    intro row _ x hx y hy h1 h2 h3 h4
    exact h.oneInteraction x hx y hy (h1.trans h3.symm) (h2.trans h4.symm)
  processed := h.settled
  linked := h.owned

lemma Guarded.answered (h : Guarded cfg s) : Answered cfg s := by
  intro i e answer hp
  cases answer with
  | accepted a =>
    obtain ⟨row, hrow, hof, hid, hst, hi⟩ : Settled cfg s.db e a := h.inv.phases i _ hp
    refine ⟨row, hrow, hof, hid, hst, hi, ?_⟩
    intro x hx hsub hkey
    obtain ⟨y, hy, h1, h2, h3⟩ := h.inv.tables.owned row hrow a.interactionId hi
    have hxy : x = y := by
      apply h.inv.tables.oneInteraction x hx y hy (hsub.trans h2.symm)
      rw [hkey, h3, hof.key]
    rw [hxy, h1]
  | identityObserved c d => exact h.excused i _ hp
  | raised f => exact h.excused i _ hp

/-- Each transaction brings its call nearer to the answer. -/
lemma advance_remaining {i now : Nat} {p : Phase} (hp : s.phases[i]? = some p) (hr : remaining p ≠ 0) :
    ∃ q, (advance cfg s i now).phases[i]? = some q ∧ phaseEnvelope q = phaseEnvelope p ∧
      remaining q < remaining p ∧ (remaining q = 0 → ∃ e answer, q = .ended e answer) := by
  have hset : ∀ q : Phase, (s.phases.set i q)[i]? = some q := by
    intro q
    rw [List.getElem?_set_self (List.getElem?_eq_some_iff.mp hp).1]
  unfold advance
  rw [hp]
  cases p with
  | idle => exact absurd rfl hr
  | ended e answer => exact absurd rfl hr
  | observing e =>
    simp only [observe]
    split
    · exact ⟨_, hset _, rfl, by simp [remaining], fun h => by cases h⟩
    · exact ⟨_, hset _, rfl, by simp [remaining], fun _ => ⟨_, _, rfl⟩⟩
    · exact ⟨_, hset _, rfl, by simp [remaining], fun _ => ⟨_, _, rfl⟩⟩
    · exact ⟨_, hset _, rfl, by simp [remaining], fun _ => ⟨_, _, rfl⟩⟩
  | registering e =>
    simp only [register]
    split
    · exact ⟨_, hset _, rfl, by simp [remaining], fun h => by cases h⟩
    · exact ⟨_, hset _, rfl, by simp [remaining], fun _ => ⟨_, _, rfl⟩⟩
    · exact ⟨_, hset _, rfl, by simp [remaining], fun _ => ⟨_, _, rfl⟩⟩
  | receiving e g =>
    simp only [receiveMessage]
    split
    · exact ⟨_, hset _, rfl, by simp [remaining], fun h => by cases h⟩
    · exact ⟨_, hset _, rfl, by simp [remaining], fun h => by cases h⟩
  | rejecting e g f =>
    simp only [reject]
    split
    · exact ⟨_, hset _, rfl, by simp [remaining], fun _ => ⟨_, _, rfl⟩⟩
    · exact ⟨_, hset _, rfl, by simp [remaining], fun _ => ⟨_, _, rfl⟩⟩
  | processing e g j =>
    simp only [process]
    split
    · exact ⟨_, hset _, rfl, by simp [remaining], fun _ => ⟨_, _, rfl⟩⟩
    · exact ⟨_, hset _, rfl, by simp [remaining], fun _ => ⟨_, _, rfl⟩⟩

/-- Processing exactly once. In every run the tables are right and a processed event is final. A call comes to
its end after at most four transactions. Where the steps of a run meet the condition, every call that has ended
was answered with the one interaction of its event, or was not available. -/
theorem ingest_answers_once (cfg : InboundConfig) :
    (∀ s, (ingestion cfg).Reachable s → ExactlyOnce cfg s.db ∧
      ∀ a, ∀ row ∈ s.db.events, row.status = .processed → row ∈ (ingestStep cfg s a).db.events) ∧
    (∀ s i now p, s.phases[i]? = some p → remaining p ≠ 0 →
      ∃ q, (ingestStep cfg s (.advance i now)).phases[i]? = some q ∧ phaseEnvelope q = phaseEnvelope p ∧
        remaining q < remaining p ∧ (remaining q = 0 → ∃ e answer, q = .ended e answer)) ∧
    ∀ s, (ingestion cfg).ReachableUnder (Deliverable cfg) s → Answered cfg s := by
  refine ⟨?_, ?_, ?_⟩
  · intro s hs
    have hinv := reachable_inv hs
    refine ⟨hinv.tables.exactlyOnce, ?_⟩
    intro a row hrow hst
    obtain ⟨row', hrow', -, hfinal⟩ := (inv_ingestStep hinv a).later.events row hrow
    rw [hfinal hst] at hrow'
    exact hrow'
  · intro s i now p hp hr
    exact advance_remaining hp hr
  · intro s hs
    exact (reachableUnder_guarded hs).answered

def sampleHash (text : String) : String := String.ofList ((text.toList ++ List.replicate 64 '0').take 64)

lemma length_sampleHash (text : String) : (sampleHash text).length = 64 := by
  rw [sampleHash, String.length_ofList, List.length_take, List.length_append, List.length_replicate]
  omega

def sampleConfig : InboundConfig where
  hashText := sampleHash
  hashList := fun texts => sampleHash (String.join (texts.map (fun text => text.getD "")))
  upper := fun text => String.ofList (text.toList.map Char.toUpper)
  hashText_length := length_sampleHash
  hashList_length := fun _ => length_sampleHash _

def oneWorker : IngestState :=
  ⟨⟨.empty, .empty, .empty, .empty, .empty, .empty, .empty, .empty, .empty, .empty, .empty⟩, [.idle], 0⟩

lemma oneWorker_initial : oneWorker.Initial := by
  refine ⟨rfl, rfl, rfl, rfl, rfl, rfl, rfl, rfl, ?_⟩
  intro p hp
  exact List.mem_singleton.mp hp

/-- A bound sender on a channel. -/
def bound (channel : InboundChannel) : List IngestAction :=
  [.configureTransport "transport_1" "subject_1" channel, .bind "subject_1" "transport_1" "bot" "ada" .creator]

def deliver (e : InboundEnvelope) : List IngestAction :=
  [.ingest 0 e, .advance 0 1, .advance 0 1, .advance 0 1, .advance 0 1]

def telegramMessage (providerEventId : String) : InboundEnvelope :=
  ⟨.telegram, "transport_1", providerEventId, "bot", "ada", "chat", "hello", "Ada", none, none⟩

def acceptedAs : Phase → Option InboundAccepted
  | .ended _ (.accepted a) => some a
  | _ => none

def failedOn : Phase → Option (InboundEnvelope × Failure)
  | .ended e (.raised f) => some (e, f)
  | _ => none

/-- A message and its redelivery. -/
def redelivered : List IngestAction :=
  bound .telegram ++ deliver (telegramMessage "42") ++ deliver (telegramMessage "42")

theorem ingest_answers_once_redelivered :
    ((redelivered.foldl (ingestStep sampleConfig) oneWorker).phases[0]?).bind acceptedAs = some ⟨1, 2, true, 100⟩ ∧
      ExactlyOnce sampleConfig (redelivered.foldl (ingestStep sampleConfig) oneWorker).db ∧
      Answered sampleConfig (redelivered.foldl (ingestStep sampleConfig) oneWorker) := by
  have hrun : (ingestion sampleConfig).ReachableUnder (Deliverable sampleConfig)
      (redelivered.foldl (ingestStep sampleConfig) oneWorker) :=
    Machine.reachableUnder_foldl oneWorker_initial redelivered (by decide)
  refine ⟨by decide, ?_, ?_⟩
  · exact ((ingest_answers_once sampleConfig).1 _ hrun.reachable).1
  · exact (ingest_answers_once sampleConfig).2.2 _ hrun

/-- An event identifier that the envelope accepts and the interaction store does not. -/
def longEventId : String := String.ofList (List.replicate 300 'x')

def overlong : List IngestAction := bound .telegram ++ deliver (telegramMessage longEventId)

def privateChat : InboundEnvelope :=
  ⟨.qq, "transport_1", "42", "bot", "ada", "chat", "hello", "Ada", none, some .qqUser⟩

def confirmedIdentity : Table ChallengeRow.challengeId :=
  ⟨[⟨0, "subject_1", "transport_1", "code", .confirmed, some "bot", some "ada", 0, 0, 0, none, some 0⟩], by decide⟩

/-- A crash after the interaction was made, a private chat routed elsewhere, and a redelivery. -/
def rerouted : List IngestAction :=
  bound .qq ++ [.challenges confirmedIdentity, .conversation ⟨"first", "subject_1", webPrincipal, .active⟩,
    .conversation ⟨"second", "subject_1", webPrincipal, .active⟩, .routePrivateChat "subject_1" 0 "first",
    .ingest 0 privateChat, .advance 0 1, .advance 0 1, .advance 0 1, .crash 0,
    .routePrivateChat "subject_1" 0 "second"] ++ deliver privateChat

/-- The last call of a run failed with this error although the delivery was available. -/
def refused (as : List IngestAction) (error : InboundError) : Bool :=
  (((as.foldl (ingestStep sampleConfig) oneWorker).phases[0]?).bind failedOn).any (fun x =>
    x.2.error = error && available sampleConfig x.2.seen x.1)

lemma not_answered_of_refused {as : List IngestAction} {error : InboundError} (h : refused as error = true) :
    ¬Answered sampleConfig (as.foldl (ingestStep sampleConfig) oneWorker) := by
  intro hans
  obtain ⟨⟨e, f⟩, hx, hcond⟩ := (Option.any_eq_true _ _).mp h
  obtain ⟨p, hp, hfail⟩ := Option.bind_eq_some_iff.mp hx
  have hended : p = .ended e (.raised f) := by
    unfold failedOn at hfail
    split at hfail
    · cases hfail
      rfl
    · cases hfail
  rw [Bool.and_eq_true] at hcond
  have hun : available sampleConfig f.seen e = false := hans 0 e (.raised f) (hended ▸ hp)
  rw [hun] at hcond
  exact absurd hcond.2 (by decide)

lemma createConnection_overlong {cfg : InboundConfig} {db : InboundTables} {e : InboundEnvelope} {g : Registered}
    {fresh : Nat} (h : 256 < (e.idempotencyKey cfg).length) :
    createConnection cfg db e g fresh = .error (.valueError "interaction idempotency key is invalid") := by
  have hraise : raiseIf (strip (e.idempotencyKey cfg) = "" ∨ 256 < (e.idempotencyKey cfg).length)
      (InboundError.valueError "interaction idempotency key is invalid") =
        .error (.valueError "interaction idempotency key is invalid") := if_pos (.inr h)
  unfold createConnection
  simp only [hraise]
  rfl

/-- A message whose event identifier is longer than the interaction store takes is refused. -/
lemma refused_of_overlong {id : String} (hlong : 256 ≤ id.length) (hlength : id.length ≤ 512) (hstrip : strip id = id) :
    refused (bound .telegram ++ deliver (telegramMessage id)) (.valueError "interaction idempotency key is invalid") =
      true := by
  have haccept : (telegramMessage id).accept = .ok (telegramMessage id) := by
    have hcheck : ∀ (field value : String) (least most : Nat), least ≤ value.length → value.length ≤ most →
        checkLength field value least most = .ok () := fun _ _ _ _ hl hm => raiseIf_neg (by omega)
    have hstripped : (telegramMessage id).stripText = telegramMessage id := by
      unfold InboundEnvelope.stripText telegramMessage
      simp only [hstrip]
      rfl
    unfold InboundEnvelope.accept
    rw [hstripped]
    change (checkLength "transport_id" "transport_1" 1 128 >>= fun _ => checkLength "provider_event_id" id 1 512 >>=
      fun _ =>
      checkLength "external_account_id" "bot" 1 512 >>= fun _ => checkLength "external_sender_id" "ada" 1 512 >>=
        fun _ =>
      checkLength "conversation_id" "chat" 1 512 >>= fun _ => checkLength "content" "hello" 1 100000 >>= fun _ =>
      checkLength "sender_label" "Ada" 0 512 >>= fun _ => checkLength "thread_id" "" 0 512 >>= fun _ =>
      (telegramMessage id).validateIdentity) = _
    rw [hcheck _ id 1 512 (by omega) hlength, hcheck _ "transport_1" 1 128 (by decide) (by decide),
      hcheck _ "bot" 1 512 (by decide) (by decide), hcheck _ "ada" 1 512 (by decide) (by decide),
      hcheck _ "chat" 1 512 (by decide) (by decide), hcheck _ "hello" 1 100000 (by decide) (by decide),
      hcheck _ "Ada" 0 512 (by decide) (by decide), hcheck _ "" 0 512 (by decide) (by decide)]
    simp only [ok_bind]
    unfold InboundEnvelope.validateIdentity
    simp [raiseIf, telegramMessage]
  have hkey : 256 < ((telegramMessage id).idempotencyKey sampleConfig).length := by
    simp only [InboundEnvelope.idempotencyKey, eventKey, String.length_append, telegramMessage]
    have : "inbound:".length = 8 := by decide
    omega
  generalize he : telegramMessage id = e at haccept hkey
  have hbegin : beginIngest ((bound .telegram).foldl (ingestStep sampleConfig) oneWorker) 0 e =
      ((bound .telegram).foldl (ingestStep sampleConfig) oneWorker).goto 0 (.observing e) := by
    unfold beginIngest
    rw [haccept]
    rfl
  obtain ⟨g, db, n, hstate, hroute, hreject, havailable⟩ : ∃ g db n,
      advance sampleConfig (advance sampleConfig (((bound .telegram).foldl (ingestStep sampleConfig) oneWorker).goto 0
        (.observing e)) 0 1) 0 1 = ⟨db, [.receiving e g], n⟩ ∧ verifyRoute db g e.channel = .ok () ∧
        (rejectEvent db g.eventId).1 = none ∧ available sampleConfig db e = true := by
    subst he
    exact ⟨_, _, _, rfl, rfl, rfl, rfl⟩
  have hreceive : receive sampleConfig db e g n = .error (.valueError "interaction idempotency key is invalid") := by
    have hmessage : validateMessage e.counterparty e.content = .ok () := by
      subst he
      exact (by decide : validateMessage "chat" "hello" = .ok ())
    unfold receive
    rw [hmessage, ok_bind, hroute, ok_bind, createConnection_overlong hkey]
    rfl
  unfold refused
  rw [List.foldl_append]
  change (((advance sampleConfig (advance sampleConfig (advance sampleConfig (advance sampleConfig
    (beginIngest _ 0 e) 0 1) 0 1) 0 1) 0 1).phases[0]?).bind failedOn).any _ = true
  rw [hbegin, hstate]
  have hrejecting : advance sampleConfig ⟨db, [.receiving e g], n⟩ 0 1 =
      ⟨db, [.rejecting e g ⟨.valueError "interaction idempotency key is invalid", db⟩], n⟩ := by
    change receiveMessage sampleConfig ⟨db, [.receiving e g], n⟩ 0 e g = _
    unfold receiveMessage
    simp only [hreceive]
    rfl
  rw [hrejecting]
  change (((reject ⟨db, [.rejecting e g ⟨.valueError "interaction idempotency key is invalid", db⟩], n⟩ 0 e g
    _).phases[0]?).bind
    failedOn).any _ = true
  unfold reject
  rcases hr : rejectEvent db g.eventId with ⟨a, db'⟩
  rw [hr] at hreject
  cases hreject
  simp [IngestState.goto, failedOn, havailable]

lemma length_longEventId : longEventId.length = 300 := by
  unfold longEventId
  exact String.length_ofList.trans List.length_replicate

/-- An accepted envelope is refused for its long key, and a redelivery over another route is refused while its
interaction stands behind the rejected event. -/
theorem available_delivery_refused :
    ¬(∀ s, (ingestion sampleConfig).Reachable s → Answered sampleConfig s) ∧
      refused overlong (.valueError "interaction idempotency key is invalid") = true ∧
      refused rerouted (.conversationConflict "message belongs to another conversation") = true ∧
      (rerouted.foldl (ingestStep sampleConfig) oneWorker).db.events.rows.map EventRow.status = [.rejected] ∧
      (rerouted.foldl (ingestStep sampleConfig) oneWorker).db.interactions.rows.length = 1 := by
  have hlong : refused overlong (.valueError "interaction idempotency key is invalid") = true := by
    refine refused_of_overlong ?_ ?_ (by decide +kernel)
    · rw [length_longEventId]
      omega
    · rw [length_longEventId]
      omega
  refine ⟨?_, hlong, by decide, by decide, by decide⟩
  intro hall
  exact not_answered_of_refused hlong (hall _ (Machine.reachable_foldl oneWorker_initial overlong))

end Noyra.Interaction.Proofs
