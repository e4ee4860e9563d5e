import Noyra.Interaction.Inbound
import Noyra.Lib.Machine

/-!
# Workers of the inbound path

A worker runs one call of `ingest` at a time. The calls interleave at their transactions, a worker may crash
between any two of them, and operators change transports, bindings, routes, conversations and participants
meanwhile.
-/

namespace Noyra.Interaction
open Noyra.Lib

/-- An exception, with the tables that the raising transaction saw. -/
structure Failure where
  error : InboundError
  seen : InboundTables

/-- How a call ended. -/
inductive Answer
  | accepted (a : InboundAccepted)
  | identityObserved (challengeId : Nat) (duplicate : Bool)
  | raised (f : Failure)

/-- Where a worker is in its call: the transaction that comes next. -/
inductive Phase
  | idle
  | observing (e : InboundEnvelope)
  | registering (e : InboundEnvelope)
  | receiving (e : InboundEnvelope) (g : Registered)
  | rejecting (e : InboundEnvelope) (g : Registered) (f : Failure)
  | processing (e : InboundEnvelope) (g : Registered) (interactionId : Nat)
  | ended (e : InboundEnvelope) (answer : Answer)

structure IngestState where
  db : InboundTables
  phases : List Phase
  nextId : Nat

/-- `challenges` stands for the operations on identity challenges, which may leave any rows behind. -/
inductive IngestAction
  | ingest (i : Nat) (raw : InboundEnvelope)
  | advance (i : Nat) (now : Nat)
  | crash (i : Nat)
  | configureTransport (transportId subjectId : String) (channel : InboundChannel)
  | setTransportStatus (transportId subjectId : String) (status : ServiceStatus)
  | bind (subjectId transportId externalAccountId externalSenderId : String) (role : InboundRole)
  | changeBinding (bindingId : Nat) (subjectId : String) (status : ServiceStatus)
  | routePrivateChat (subjectId : String) (bindingId : Nat) (conversationId : String)
  | unlinkPrivateChat (subjectId : String) (bindingId : Nat)
  | conversation (row : ConversationRow)
  | setParticipant (entityId : Nat) (status : ParticipantStatus)
  | challenges (rows : Table ChallengeRow.challengeId)

variable (cfg : InboundConfig)

/-- The principal of the web client. -/
def webPrincipal : String := "operator:web-user"

/-- Withdraw the sharing of history from some routes. -/
def unshare (routes : Table RouteRow.bindingId) (affected : RouteRow → Bool) : Table RouteRow.bindingId :=
  routes.mapRows (fun r => if affected r then { r with shareWebHistory := false } else r)
    (by intro r; split <;> rfl)

/-- A new transport has an identifier of its own. -/
def configureTransport (db : InboundTables) (row : TransportRow) : InboundTables :=
  match db.transports.insert? row with
  | some transports => { db with transports := transports }
  | none => db

def setTransportStatus (db : InboundTables) (transportId subjectId : String) (status : ServiceStatus) : InboundTables :=
  match db.transports.find? transportId with
  | none => db
  | some row =>
    if row.subjectId ≠ subjectId ∨ (row.status = .revoked ∧ status ≠ .revoked) then db
    else
      { db with
        transports := db.transports.replace { row with status := status }
        routes := if status = .active then db.routes
          else unshare db.routes (fun r =>
            r.subjectId = subjectId && (db.bindings.find? r.bindingId).any (fun b => b.transportId = transportId)) }

/-- `_bind_connection`. -/
def bindAccount (db : InboundTables) (row : BindingRow) : InboundTables :=
  if (db.activeTransport row.transportId row.channel).any (fun t => t.subjectId = row.subjectId) = false ∨
      db.bindings.rows.any (fun b => b.subjectId = row.subjectId && b.transportId = row.transportId &&
        b.externalAccountId = row.externalAccountId && b.externalSenderId = row.externalSenderId) = true then db
  else
    match db.bindings.insert? row with
    | some bindings => { db with bindings := bindings }
    | none => db

def changeBinding (db : InboundTables) (bindingId : Nat) (subjectId : String) (status : ServiceStatus) :
    InboundTables :=
  match db.bindings.find? bindingId with
  | none => db
  | some row =>
    if row.subjectId ≠ subjectId ∨ (row.status = .revoked ∧ status ≠ .revoked) then db
    else
      { db with
        bindings := db.bindings.replace { row with status := status }
        routes := if status = .active then db.routes
          else unshare db.routes (fun r => r.bindingId = bindingId && r.subjectId = subjectId) }

/-- `route_private_chat` with the consent to share the history. -/
def routePrivateChat (db : InboundTables) (subjectId : String) (bindingId : Nat) (conversationId : String) :
    InboundTables :=
  let verified := (db.bindings.find? bindingId).any (fun b =>
    b.subjectId = subjectId && b.status = .active && b.channel = .qq &&
      (db.transports.find? b.transportId).any (fun t => t.status = .active) &&
      db.challenges.rows.any (fun c => c.bindingId = some bindingId && c.status = .confirmed))
  let window := (db.conversations.find? conversationId).any (fun c =>
    c.subjectId = subjectId && c.status = .active && c.principalId = webPrincipal)
  if verified && window then { db with routes := db.routes.upsert ⟨bindingId, subjectId, conversationId, true⟩ }
  else db

def unlinkPrivateChat (db : InboundTables) (subjectId : String) (bindingId : Nat) : InboundTables :=
  match db.routes.find? bindingId with
  | none => db
  | some r =>
    if r.subjectId = subjectId then { db with routes := db.routes.replace { r with shareWebHistory := false } } else db

def setParticipant (db : InboundTables) (entityId : Nat) (status : ParticipantStatus) : InboundTables :=
  match db.entities.find? entityId with
  | none => db
  | some entity => { db with entities := db.entities.replace { entity with status := status } }

namespace IngestState

variable (s : IngestState)

def goto (i : Nat) (p : Phase) : IngestState := { s with phases := s.phases.set i p }

/-- An exception that ends the call. -/
def raise (i : Nat) (e : InboundEnvelope) (error : InboundError) : IngestState :=
  s.goto i (.ended e (.raised ⟨error, s.db⟩))

end IngestState

def observe (s : IngestState) (i : Nat) (e : InboundEnvelope) (now : Nat) : IngestState :=
  match observeIdentity cfg s.db e now with
  | .ok (.message, db) => { s.goto i (.registering e) with db := db }
  | .ok (.observed challengeId duplicate, db) =>
    { s.goto i (.ended e (.identityObserved challengeId duplicate)) with db := db }
  | .ok (.denied, db) => { s.raise i e (.permissionError "identity challenge unavailable") with db := db }
  | .error error => s.raise i e error

def register (s : IngestState) (i : Nat) (e : InboundEnvelope) : IngestState :=
  match registerEvent cfg s.db e s.nextId with
  | .ok (.pending g, db) => { s.goto i (.receiving e g) with db := db, nextId := s.nextId + 1 }
  | .ok (.answered a, db) => { s.goto i (.ended e (.accepted a)) with db := db }
  | .error error => s.raise i e error

def receiveMessage (s : IngestState) (i : Nat) (e : InboundEnvelope) (g : Registered) : IngestState :=
  match receive cfg s.db e g s.nextId with
  | .ok (interactionId, db) => { s.goto i (.processing e g interactionId) with db := db, nextId := s.nextId + 3 }
  | .error error => s.goto i (.rejecting e g ⟨error, s.db⟩)

def reject (s : IngestState) (i : Nat) (e : InboundEnvelope) (g : Registered) (f : Failure) : IngestState :=
  match rejectEvent s.db g.eventId with
  | (some a, db) => { s.goto i (.ended e (.accepted a)) with db := db }
  | (none, db) => { s.goto i (.ended e (.raised f)) with db := db }

def process (s : IngestState) (i : Nat) (e : InboundEnvelope) (g : Registered) (interactionId : Nat) : IngestState :=
  match processEvent s.db g.eventId interactionId with
  | .ok (there, db) =>
    { s.goto i (.ended e (.accepted ⟨g.eventId, interactionId, g.duplicate || there, g.priority⟩)) with db := db }
  | .error error => s.raise i e error

/-- The next transaction of a worker. -/
def advance (s : IngestState) (i : Nat) (now : Nat) : IngestState :=
  match s.phases[i]? with
  | some (.observing e) => observe cfg s i e now
  | some (.registering e) => register cfg s i e
  | some (.receiving e g) => receiveMessage cfg s i e g
  | some (.rejecting e g f) => reject s i e g f
  | some (.processing e g interactionId) => process s i e g interactionId
  | _ => s

/-- A worker without a call takes an envelope. -/
def beginIngest (s : IngestState) (i : Nat) (raw : InboundEnvelope) : IngestState :=
  match s.phases[i]?, raw.accept with
  | some .idle, .ok e => s.goto i (.observing e)
  | some (.ended _ _), .ok e => s.goto i (.observing e)
  | _, _ => s

def ingestStep (s : IngestState) : IngestAction → IngestState
  | .ingest i raw => beginIngest s i raw
  | .advance i now => advance cfg s i now
  | .crash i => s.goto i .idle
  | .configureTransport transportId subjectId channel =>
    { s with db := configureTransport s.db ⟨transportId, subjectId, channel, .active⟩ }
  | .setTransportStatus transportId subjectId status =>
    { s with db := setTransportStatus s.db transportId subjectId status }
  | .bind subjectId transportId account sender role =>
    match s.db.transports.find? transportId with
    | none => s
    | some t =>
      { s with
        db := bindAccount s.db ⟨s.nextId, subjectId, transportId, t.channel, account, sender, role, .active⟩
        nextId := s.nextId + 1 }
  | .changeBinding bindingId subjectId status => { s with db := changeBinding s.db bindingId subjectId status }
  | .routePrivateChat subjectId bindingId conversationId =>
    { s with db := routePrivateChat s.db subjectId bindingId conversationId }
  | .unlinkPrivateChat subjectId bindingId => { s with db := unlinkPrivateChat s.db subjectId bindingId }
  | .conversation row => { s with db := { s.db with conversations := s.db.conversations.upsert row } }
  | .setParticipant entityId status => { s with db := setParticipant s.db entityId status }
  | .challenges rows => { s with db := { s.db with challenges := rows } }

/-- Any number of workers, before the first message. -/
def IngestState.Initial (s : IngestState) : Prop :=
  s.db.events.rows = [] ∧ s.db.interactions.rows = [] ∧ s.db.messages.rows = [] ∧ s.db.entities.rows = [] ∧
    s.db.sources.rows = [] ∧ s.db.links.rows = [] ∧ s.db.bindings.rows = [] ∧ s.db.routes.rows = [] ∧
    ∀ p ∈ s.phases, p = .idle

def ingestion : Machine IngestState IngestAction := ⟨IngestState.Initial, ingestStep cfg⟩

end Noyra.Interaction
