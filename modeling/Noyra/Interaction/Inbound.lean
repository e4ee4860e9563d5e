import Noyra.Lib.Outcome
import Noyra.Lib.Table
import Noyra.Lib.Text

/-!
# Inbound messages

The envelope of a provider event, the tables of the inbound path and its transactions: the identity
challenge, the event row, the interaction with its conversation and participant, and the two ways an event
is settled. A transaction that raises leaves the tables unchanged.
-/

namespace Noyra.Interaction
open Noyra.Lib

inductive InboundChannel
  | telegram | qq | feishu | wechat | email | webhook
  deriving DecidableEq

inductive InboundReplySelector
  | qqUser | qqGroup | qqChannel | qqDm | feishuChatId
  deriving DecidableEq

/-- The part of a selector before its colon. -/
def InboundReplySelector.channel : InboundReplySelector → InboundChannel
  | .feishuChatId => .feishu
  | _ => .qq

inductive InboundRole
  | creator | participant
  deriving DecidableEq

inductive InboundError
  | validationError (field : String)
  | permissionError (text : String)
  | valueError (text : String)
  | integrityError (text : String)
  | notFoundError (text : String)
  | conversationConflict (text : String)
  | interactionStateConflict (text : String)
  | sqliteIntegrityError
  deriving DecidableEq

/-- `InboundEnvelope`, without its time and role, which are not read here. -/
structure InboundEnvelope where
  channel : InboundChannel
  transportId : String
  providerEventId : String
  externalAccountId : String
  externalSenderId : String
  conversationId : String
  content : String
  senderLabel : String
  threadId : Option String
  replySelector : Option InboundReplySelector
  deriving DecidableEq

/-- `min_length` and `max_length` of a field. -/
def checkLength (field value : String) (least most : Nat) : Except InboundError Unit :=
  raiseIf (value.length < least ∨ most < value.length) (.validationError field)

/-- `strip_text`. -/
def InboundEnvelope.stripText (e : InboundEnvelope) : InboundEnvelope :=
  { e with
    transportId := strip e.transportId, providerEventId := strip e.providerEventId,
    externalAccountId := strip e.externalAccountId, externalSenderId := strip e.externalSenderId,
    conversationId := strip e.conversationId, content := strip e.content, senderLabel := strip e.senderLabel,
    threadId := e.threadId.map strip }

/-- `validate_identity`. -/
def InboundEnvelope.validateIdentity (e : InboundEnvelope) : Except InboundError InboundEnvelope := do
  raiseIf (e.content = "") (.valueError "inbound content cannot be blank")
  raiseIf (e.channel = .email ∧ e.conversationId = "") (.valueError "email conversation id is required")
  raiseIf ((e.channel = .qq ∨ e.channel = .feishu) ∧ e.replySelector = none)
    (.valueError "native inbound reply selector is required")
  raiseIf (e.replySelector.any (fun selector => selector.channel ≠ e.channel))
    (.valueError "inbound reply selector does not match channel")
  .ok e

/-- The envelope made from the given fields: lengths are checked before the texts are stripped. -/
def InboundEnvelope.accept (raw : InboundEnvelope) : Except InboundError InboundEnvelope := do
  checkLength "transport_id" raw.transportId 1 128
  checkLength "provider_event_id" raw.providerEventId 1 512
  checkLength "external_account_id" raw.externalAccountId 1 512
  checkLength "external_sender_id" raw.externalSenderId 1 512
  checkLength "conversation_id" raw.conversationId 1 512
  checkLength "content" raw.content 1 100000
  checkLength "sender_label" raw.senderLabel 0 512
  checkLength "thread_id" (raw.threadId.getD "") 0 512
  raw.stripText.validateIdentity

inductive ServiceStatus
  | active | disabled | revoked
  deriving DecidableEq

/-- `interaction_transports`. -/
structure TransportRow where
  transportId : String
  subjectId : String
  channel : InboundChannel
  status : ServiceStatus
  deriving DecidableEq

/-- `interaction_bindings`. -/
structure BindingRow where
  bindingId : Nat
  subjectId : String
  transportId : String
  channel : InboundChannel
  externalAccountId : String
  externalSenderId : String
  role : InboundRole
  status : ServiceStatus
  deriving DecidableEq

/-- `private_channel_routes`. -/
structure RouteRow where
  bindingId : Nat
  subjectId : String
  conversationId : String
  shareWebHistory : Bool
  deriving DecidableEq

inductive ConversationStatus
  | active | archived | deleting | deleted
  deriving DecidableEq

/-- `private_conversations`. -/
structure ConversationRow where
  conversationId : String
  subjectId : String
  principalId : String
  status : ConversationStatus
  deriving DecidableEq

inductive ChallengeStatus
  | pending | observed | confirmed | revoked | expired
  deriving DecidableEq

/-- `inbound_identity_challenges`. -/
structure ChallengeRow where
  challengeId : Nat
  subjectId : String
  transportId : String
  codeHash : String
  status : ChallengeStatus
  externalAccountId : Option String
  externalSenderId : Option String
  attempts : Nat
  expiresAt : Nat
  createdAt : Nat
  observedEventHash : Option String
  bindingId : Option Nat
  deriving DecidableEq

inductive EventStatus
  | received | processed | rejected
  deriving DecidableEq

/-- `interaction_inbound_events`. -/
structure EventRow where
  eventId : Nat
  subjectId : String
  transportId : String
  channel : InboundChannel
  providerEventId : String
  externalAccountId : String
  externalSenderId : String
  conversationId : String
  contentHash : String
  schedulingPriority : Nat
  status : EventStatus
  interactionId : Option Nat
  externalThreadId : Option String
  replySelector : Option InboundReplySelector
  replyContextVersion : Nat
  deriving DecidableEq

/-- `interactions`, as far as incoming messages of people use it. -/
structure InteractionRow where
  interactionId : Nat
  subjectId : String
  channel : InboundChannel
  counterparty : String
  content : String
  idempotencyKey : String
  deriving DecidableEq

/-- `private_conversation_messages`. -/
structure MessageRow where
  interactionId : Nat
  conversationId : String
  subjectId : String
  authorVerified : Bool
  deriving DecidableEq

inductive ParticipantStatus
  | active | disabled
  deriving DecidableEq

/-- `participant_entities`. -/
structure EntityRow where
  entityId : Nat
  subjectId : String
  displayName : String
  status : ParticipantStatus
  deriving DecidableEq

/-- `participant_sources`. -/
structure SourceRow where
  sourceId : Nat
  subjectId : String
  entityId : Nat
  channel : InboundChannel
  sourceNamespace : String
  senderId : String
  deriving DecidableEq

/-- `participant_message_links`. -/
structure LinkRow where
  interactionId : Nat
  subjectId : String
  entityId : Nat
  sourceId : Nat
  conversationKey : String
  deriving DecidableEq

structure InboundTables where
  transports : Table TransportRow.transportId
  bindings : Table BindingRow.bindingId
  routes : Table RouteRow.bindingId
  conversations : Table ConversationRow.conversationId
  challenges : Table ChallengeRow.challengeId
  events : Table EventRow.eventId
  interactions : Table InteractionRow.interactionId
  messages : Table MessageRow.interactionId
  entities : Table EntityRow.entityId
  sources : Table SourceRow.sourceId
  links : Table LinkRow.interactionId

/-- `content_hash` of a text and of a list of texts, and `str.upper`. A hash is a hexadecimal text of 64 digits. -/
structure InboundConfig where
  hashText : String → String
  hashList : List (Option String) → String
  upper : String → String
  hashText_length : ∀ text, (hashText text).length = 64
  hashList_length : ∀ texts, (hashList texts).length = 64

variable (cfg : InboundConfig)

/-- Add a row under a fresh primary key. -/
def insertRow {κ ρ : Type} {key : ρ → κ} [DecidableEq κ] (t : Table key) (row : ρ) : Except InboundError (Table key) :=
  orRaise (t.insert? row) .sqliteIntegrityError

namespace InboundTables

variable (db : InboundTables)

def activeTransport (transportId : String) (channel : InboundChannel) : Option TransportRow :=
  (db.transports.find? transportId).filter (fun t => t.channel = channel && t.status = .active)

def bindingOf (subjectId : String) (e : InboundEnvelope) : Option BindingRow :=
  db.bindings.rows.find? (fun b =>
    b.subjectId = subjectId && b.transportId = e.transportId && b.channel = e.channel &&
      b.externalAccountId = e.externalAccountId && b.externalSenderId = e.externalSenderId)

/-- The row of the unique index on subject, transport, account and provider event. -/
def eventOf (subjectId : String) (e : InboundEnvelope) : Option EventRow :=
  db.events.rows.find? (fun row =>
    row.subjectId = subjectId && row.transportId = e.transportId && row.externalAccountId = e.externalAccountId &&
      row.providerEventId = e.providerEventId)

def sourceOf (subjectId : String) (channel : InboundChannel) (sourceNamespace sender : String) : Option SourceRow :=
  db.sources.rows.find? (fun source =>
    source.subjectId = subjectId && source.channel = channel && source.sourceNamespace = sourceNamespace &&
      source.senderId = sender)

def interactionOf (subjectId key : String) : Option InteractionRow :=
  db.interactions.rows.find? (fun x => x.subjectId = subjectId && x.idempotencyKey = key)

end InboundTables

/-- What `_observe_identity` makes of an envelope. -/
inductive Observation
  | message
  | observed (challengeId : Nat) (duplicate : Bool)
  | denied

def InboundEnvelope.eventHash (e : InboundEnvelope) : String :=
  cfg.hashList [some e.transportId, some e.externalAccountId, some e.externalSenderId, some e.providerEventId]

/-- `[A-Z2-7]{10}`. -/
def codeShaped (code : String) : Bool :=
  code.length = 10 && code.toList.all (fun c => ('A' ≤ c && c ≤ 'Z') || ('2' ≤ c && c ≤ '7'))

def InboundEnvelope.code (e : InboundEnvelope) : String := cfg.upper (strip e.content)

/-- The challenge that was answered by this very event. -/
def observedChallenge (db : InboundTables) (subjectId : String) (e : InboundEnvelope) : Option ChallengeRow :=
  db.challenges.rows.find? (fun c =>
    c.subjectId = subjectId && c.transportId = e.transportId && c.observedEventHash = some (e.eventHash cfg))

/-- Whether the code belongs to any challenge of the transport. -/
def knownCode (db : InboundTables) (subjectId : String) (e : InboundEnvelope) : Bool :=
  db.challenges.rows.any (fun c =>
    c.subjectId = subjectId && c.transportId = e.transportId && c.codeHash = cfg.hashText (e.code cfg))

/-- The latest challenge that is still open. -/
def openChallenge (db : InboundTables) (subjectId : String) (e : InboundEnvelope) : Option ChallengeRow :=
  ((db.challenges.rows.filter (fun c =>
    c.subjectId = subjectId && c.transportId = e.transportId &&
      (c.status = .pending || c.status = .observed))).mergeSort
    (fun a b => b.createdAt ≤ a.createdAt)).head?

/-- One guess at an open challenge. -/
def guess (db : InboundTables) (c : ChallengeRow) (e : InboundEnvelope) (now : Nat) : Observation × InboundTables :=
  if c.expiresAt ≤ now then
    (.denied, { db with challenges := db.challenges.replace { c with status := .expired } })
  else if c.status ≠ .pending ∨ 5 ≤ c.attempts then (.denied, db)
  else if c.codeHash ≠ cfg.hashText (e.code cfg) then
    let status := if 4 ≤ c.attempts then .revoked else c.status
    (.denied, { db with challenges := db.challenges.replace { c with attempts := c.attempts + 1, status := status } })
  else
    let answered :=
      { c with
        status := .observed, externalAccountId := some e.externalAccountId,
        externalSenderId := some e.externalSenderId, observedEventHash := some (e.eventHash cfg) }
    (.observed c.challengeId false, { db with challenges := db.challenges.replace answered })

/-- `_observe_identity` up to its commit; a denied guess is committed and raised afterwards. -/
def observeIdentity (db : InboundTables) (e : InboundEnvelope) (now : Nat) :
    Except InboundError (Observation × InboundTables) :=
  if e.channel ≠ .qq then .ok (.message, db)
  else do
    let transport ← orRaise (db.activeTransport e.transportId .qq) (.permissionError "transport is unavailable")
    match observedChallenge cfg db transport.subjectId e with
    | some c => .ok (.observed c.challengeId true, db)
    | none =>
      if codeShaped (e.code cfg) = false then .ok (.message, db)
      else if e.replySelector ≠ some .qqUser then do
        raiseIf (knownCode cfg db transport.subjectId e)
          (.permissionError "identity verification requires private QQ chat")
        .ok (.message, db)
      else
        match openChallenge db transport.subjectId e with
        | none => do
          raiseIf (knownCode cfg db transport.subjectId e) (.permissionError "identity challenge already consumed")
          .ok (.message, db)
        | some c => .ok (guess cfg db c e now)

/-- `InboundAccepted`. -/
structure InboundAccepted where
  eventId : Nat
  interactionId : Nat
  duplicate : Bool
  schedulingPriority : Nat
  deriving DecidableEq

/-- What `ingest` keeps from its first transaction. -/
structure Registered where
  subjectId : String
  bindingId : Nat
  route : Option String
  eventId : Nat
  priority : Nat
  duplicate : Bool
  deriving DecidableEq

/-- The columns that are compared when an event is delivered again. -/
def EventRow.describes (row : EventRow) (e : InboundEnvelope) : Bool :=
  row.contentHash = cfg.hashText e.content && row.externalSenderId = e.externalSenderId &&
    row.externalAccountId = e.externalAccountId && row.conversationId = e.conversationId &&
    row.channel = e.channel && row.externalThreadId = e.threadId && row.replySelector = e.replySelector &&
    row.replyContextVersion = 1

def newEvent (e : InboundEnvelope) (subjectId : String) (eventId priority : Nat) : EventRow :=
  { eventId := eventId, subjectId := subjectId, transportId := e.transportId, channel := e.channel,
    providerEventId := e.providerEventId, externalAccountId := e.externalAccountId,
    externalSenderId := e.externalSenderId, conversationId := e.conversationId,
    contentHash := cfg.hashText e.content, schedulingPriority := priority, status := .received,
    interactionId := none, externalThreadId := e.threadId, replySelector := e.replySelector,
    replyContextVersion := 1 }

/-- The conversation that the private chat of a binding is routed to. -/
def privateRoute (db : InboundTables) (binding : BindingRow) (subjectId : String) (e : InboundEnvelope) :
    Option String :=
  if e.replySelector = some .qqUser then
    (db.routes.rows.find? (fun r =>
      r.bindingId = binding.bindingId && r.subjectId = subjectId && r.shareWebHistory)).map RouteRow.conversationId
  else none

inductive Registration
  | pending (g : Registered)
  | answered (a : InboundAccepted)

/-- An event that is already there: answered from its row, or taken up again. -/
def retryEvent (db : InboundTables) (e : InboundEnvelope) (row : EventRow) (g : Registered) :
    Except InboundError (Registration × InboundTables) := do
  raiseIf (row.describes cfg e = false) (.valueError "inbound event id identifies different content")
  match row.interactionId with
  | some interactionId => do
    raiseIf (row.status ≠ .processed) (.integrityError "inbound event linkage state is invalid")
    .ok (.answered ⟨row.eventId, interactionId, true, row.schedulingPriority⟩, db)
  | none => do
    raiseIf (row.status = .processed) (.integrityError "inbound event status is invalid")
    -- a rejected event is received again; a received one is rewritten as it is
    .ok (.pending { g with eventId := row.eventId, priority := row.schedulingPriority, duplicate := true },
      { db with events := db.events.replace { row with status := .received } })

/-- The first transaction of `ingest`. -/
def registerEvent (db : InboundTables) (e : InboundEnvelope) (eventId : Nat) :
    Except InboundError (Registration × InboundTables) := do
  let transport ← orRaise (db.activeTransport e.transportId e.channel) (.permissionError "transport is unavailable")
  let binding ← orRaise (db.bindingOf transport.subjectId e) (.permissionError "inbound account is not bound")
  raiseIf (binding.status ≠ .active) (.permissionError "inbound account is not bound")
  let priority := if binding.role = .creator then 100 else 0
  let route := privateRoute db binding transport.subjectId e
  let g : Registered := ⟨transport.subjectId, binding.bindingId, route, eventId, priority, false⟩
  match db.eventOf transport.subjectId e with
  | some row => retryEvent cfg db e row g
  | none => do
    let events ← insertRow db.events (newEvent cfg e transport.subjectId eventId priority)
    .ok (.pending g, { db with events := events })

/-- The other side of the message. -/
def InboundEnvelope.counterparty (e : InboundEnvelope) : String :=
  if e.channel = .email then e.externalSenderId else e.conversationId

/-- The key of an event's interaction, from the transport, a part of the account's hash and the event. -/
def eventKey (transportId externalAccountId providerEventId : String) : String :=
  "inbound:" ++ transportId ++ ":" ++ String.ofList ((cfg.hashText externalAccountId).toList.take 32) ++ ":" ++
    providerEventId

def InboundEnvelope.idempotencyKey (e : InboundEnvelope) : String :=
  eventKey cfg e.transportId e.externalAccountId e.providerEventId

/-- `_validate_message`; the name of a channel is short and not blank. -/
def validateMessage (counterparty content : String) : Except InboundError Unit := do
  raiseIf (strip counterparty = "" ∨ strip content = "")
    (.valueError "interaction channel, counterparty and content are required")
  raiseIf (512 < counterparty.length ∨ 100000 < content.length)
    (.valueError "interaction content exceeds its storage limit")

/-- The private identity association is still in force. -/
def routeInForce (db : InboundTables) (g : Registered) (channel : InboundChannel) (conversationId : String) : Bool :=
  (db.routes.find? g.bindingId).any (fun r =>
    r.subjectId = g.subjectId && r.conversationId = conversationId && r.shareWebHistory) &&
  (db.bindings.find? g.bindingId).any (fun b =>
    b.status = .active && b.channel = channel && (db.transports.find? b.transportId).any (fun t => t.status = .active))

def verifyRoute (db : InboundTables) (g : Registered) (channel : InboundChannel) : Except InboundError Unit :=
  match g.route with
  | none => .ok ()
  | some conversationId =>
    raiseIf (routeInForce db g channel conversationId = false)
      (.permissionError "private identity association is unavailable")

/-- `link_message` of an incoming message that is not from the web. -/
def linkMessage (db : InboundTables) (subjectId : String) (interactionId : Nat) :
    Option String → Except InboundError InboundTables
  | none => .ok db
  | some conversationId => do
    let conversation ← orRaise ((db.conversations.find? conversationId).filter (fun c => c.subjectId = subjectId))
      (.notFoundError "conversation not found")
    raiseIf (conversation.status ≠ .active) (.conversationConflict "conversation is unavailable")
    match db.messages.find? interactionId with
    | some message => do
      raiseIf (message.conversationId ≠ conversationId)
        (.conversationConflict "message belongs to another conversation")
      .ok db
    | none => do
      let messages ← insertRow db.messages ⟨interactionId, conversationId, subjectId, false⟩
      .ok { db with messages := messages }

/-- `_create_connection` of an incoming message. -/
def createConnection (db : InboundTables) (e : InboundEnvelope) (g : Registered) (interactionId : Nat) :
    Except InboundError (Nat × InboundTables) := do
  let key := e.idempotencyKey cfg
  raiseIf (strip key = "" ∨ 256 < key.length) (.valueError "interaction idempotency key is invalid")
  match db.interactionOf g.subjectId key with
  | some existing => do
    let linked ← linkMessage db g.subjectId existing.interactionId g.route
    raiseIf (existing.channel ≠ e.channel ∨ existing.counterparty ≠ e.counterparty ∨ existing.content ≠ e.content)
      (.interactionStateConflict "interaction key identifies different content")
    .ok (existing.interactionId, linked)
  | none => do
    let interactions ← insertRow db.interactions
      ⟨interactionId, g.subjectId, e.channel, e.counterparty, e.content, key⟩
    let linked ← linkMessage { db with interactions := interactions } g.subjectId interactionId g.route
    .ok (interactionId, linked)

/-- `source_namespace`. -/
def sourceNamespace (e : InboundEnvelope) : String :=
  cfg.hashList [some e.transportId, some (if e.channel = .telegram then "" else e.externalAccountId)]

def InboundChannel.text : InboundChannel → String
  | .telegram => "telegram"
  | .qq => "qq"
  | .feishu => "feishu"
  | .wechat => "wechat"
  | .email => "email"
  | .webhook => "webhook"

def participantConversation (e : InboundEnvelope) : String :=
  cfg.hashList [some e.channel.text, some e.transportId, some e.externalAccountId, some e.conversationId, e.threadId]

/-- `ParticipantStore.source` of a channel message; the entity, the source and the tables. -/
def participantSource (db : InboundTables) (e : InboundEnvelope) (subjectId : String) (entityId sourceId : Nat) :
    Except InboundError ((Nat × Nat) × InboundTables) := do
  raiseIf ((sourceNamespace cfg e).length = 0 ∨ 512 < (sourceNamespace cfg e).length ∨
    e.externalSenderId.length = 0 ∨ 512 < e.externalSenderId.length) (.valueError "invalid participant source")
  match db.sourceOf subjectId e.channel (sourceNamespace cfg e) e.externalSenderId with
  | some source => do
    let entity ← orRaise (db.entities.find? source.entityId) .sqliteIntegrityError
    raiseIf (entity.status ≠ .active) (.permissionError "participant disabled")
    .ok ((source.entityId, source.sourceId), db)
  | none => do
    raiseIf (10000 ≤ (db.entities.rows.filter (fun entity => entity.subjectId = subjectId)).length)
      (.valueError "participant capacity reached")
    let label := if strip e.senderLabel = "" then e.externalSenderId else strip e.senderLabel
    let entities ← insertRow db.entities ⟨entityId, subjectId, String.ofList (label.toList.take 128), .active⟩
    let sources ← insertRow db.sources
      ⟨sourceId, subjectId, entityId, e.channel, sourceNamespace cfg e, e.externalSenderId⟩
    .ok ((entityId, sourceId), { db with entities := entities, sources := sources })

/-- `ParticipantStore.link`. -/
def participantLink (db : InboundTables) (link : LinkRow) : Except InboundError InboundTables := do
  raiseIf ((db.interactions.find? link.interactionId).any (fun x => x.subjectId = link.subjectId) = false ∨
    (db.sources.find? link.sourceId).any
      (fun source => source.subjectId = link.subjectId && source.entityId = link.entityId) = false)
    (.integrityError "participant message ownership mismatch")
  match db.links.find? link.interactionId with
  | some existing => do
    raiseIf (existing ≠ link) (.integrityError "participant message attribution conflict")
    .ok db
  | none => do
    let links ← insertRow db.links link
    .ok { db with links := links }

/-- The author of a routed message is the verified person. -/
def verifyAuthor (db : InboundTables) (interactionId : Nat) (g : Registered) : InboundTables :=
  match g.route, db.messages.find? interactionId with
  | some conversationId, some message =>
    if message.conversationId = conversationId ∧ message.subjectId = g.subjectId then
      { db with messages := db.messages.replace { message with authorVerified := true } }
    else db
  | _, _ => db

/-- `InteractionStore.receive` as `ingest` calls it. The three fresh identifiers start at `fresh`. -/
def receive (db : InboundTables) (e : InboundEnvelope) (g : Registered) (fresh : Nat) :
    Except InboundError (Nat × InboundTables) := do
  validateMessage e.counterparty e.content
  verifyRoute db g e.channel
  let (interactionId, created) ← createConnection cfg db e g fresh
  let (who, known) ← participantSource cfg created e g.subjectId (fresh + 1) (fresh + 2)
  let linked ← participantLink known ⟨interactionId, g.subjectId, who.1, who.2, participantConversation cfg e⟩
  .ok (interactionId, verifyAuthor linked interactionId g)

/-- The transaction after a failed `receive`; the answer if another call has processed the event meanwhile. -/
def rejectEvent (db : InboundTables) (eventId : Nat) : Option InboundAccepted × InboundTables :=
  match db.events.find? eventId with
  | none => (none, db)
  | some row =>
    match row.status, row.interactionId with
    | .received, _ => (none, { db with events := db.events.replace { row with status := .rejected } })
    | .processed, some interactionId => (some ⟨eventId, interactionId, true, row.schedulingPriority⟩, db)
    | _, _ => (none, db)

/-- The unique index on the interaction of an event. -/
def interactionTaken (db : InboundTables) (row : EventRow) (interactionId : Nat) : Bool :=
  db.events.rows.any (fun other =>
    other.eventId ≠ row.eventId && other.subjectId = row.subjectId && other.interactionId = some interactionId)

/-- The transaction after a successful `receive`; whether another call was there first. -/
def processEvent (db : InboundTables) (eventId interactionId : Nat) : Except InboundError (Bool × InboundTables) := do
  let row ← orRaise (db.events.find? eventId) (.integrityError "inbound event processing state changed")
  let processed := { row with status := .processed, interactionId := some interactionId }
  if row.status = .received then do
    raiseIf (interactionTaken db row interactionId) .sqliteIntegrityError
    .ok (false, { db with events := db.events.replace processed })
  else if row.status = .rejected ∧ row.interactionId = none then do
    -- another call failed meanwhile: the event is received again and processed in this transaction
    raiseIf (interactionTaken db row interactionId) .sqliteIntegrityError
    .ok (true, { db with events := db.events.replace processed })
  else do
    raiseIf (row.status ≠ .processed ∨ row.interactionId ≠ some interactionId)
      (.integrityError "inbound event processing state changed")
    .ok (true, db)

end Noyra.Interaction
