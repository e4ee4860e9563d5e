import Noyra.Signer.System

/-!
# The signer service broadcasts a request at most once

The pending row of a request is durable before its transaction is handed to the chain, and rows are
never unbound. The invariant of the world holds after every command of a call, hence at every crash;
the answer of a call is judged at its end.
-/

namespace Noyra.Signer.Proofs
open Noyra.Lib Noyra.Wallet Noyra.Signer

/-- What every later state of a row has in common with it. -/
structure Kept (row row' : RequestRow) : Prop where
  requestId : row'.requestId = row.requestId
  transferHash : row'.transferHash = row.transferHash
  transferJson : row'.transferJson = row.transferJson
  txHash : row'.txHash = row.txHash
  chainId : row'.chainId = row.chainId
  nonce : row'.nonce = row.nonce
  result : row.status = .broadcast → row'.status = .broadcast ∧ row'.acceptedAt = row.acceptedAt

theorem Kept.refl (row : RequestRow) : Kept row row := ⟨rfl, rfl, rfl, rfl, rfl, rfl, fun h => ⟨h, rfl⟩⟩

theorem Kept.trans {a b c : RequestRow} (h : Kept a b) (h' : Kept b c) : Kept a c where
  requestId := h'.requestId.trans h.requestId
  transferHash := h'.transferHash.trans h.transferHash
  transferJson := h'.transferJson.trans h.transferJson
  txHash := h'.txHash.trans h.txHash
  chainId := h'.chainId.trans h.chainId
  nonce := h'.nonce.trans h.nonce
  result := fun hb => ⟨(h'.result (h.result hb).1).1, (h'.result (h.result hb).1).2.trans (h.result hb).2⟩

/-- Every request of the first table is still there in the second. -/
def Grows (t t' : Requests) : Prop := ∀ row ∈ t, ∃ row' ∈ t', Kept row row'

theorem Grows.refl (t : Requests) : Grows t t := fun row h => ⟨row, h, .refl row⟩

theorem Grows.trans {a b c : Requests} (h : Grows a b) (h' : Grows b c) : Grows a c := by
  intro row hrow
  obtain ⟨row', hrow', hk⟩ := h row hrow
  obtain ⟨row'', hrow'', hk'⟩ := h' row' hrow'
  exact ⟨row'', hrow'', hk.trans hk'⟩

theorem grows_insert {t t' : Requests} {row : RequestRow} (h : t.insert? row = some t') : Grows t t' := by
  obtain ⟨-, hrows⟩ := Table.insert?_eq_some.mp h
  intro r hr
  refine ⟨r, ?_, .refl r⟩
  rw [Table.mem_def, hrows]
  exact List.mem_append_left _ hr

theorem apply_requestId (change : RequestUpdate) (row : RequestRow) :
    (change.apply row).requestId = row.requestId := by
  cases change <;> rfl

/-- An update changes the one row it names. -/
theorem grows_update {t : Requests} {requestId : String} {change : RequestUpdate}
    (h : ∀ row, t.find? requestId = some row → Kept row (change.apply row)) :
    Grows t (Requests.update t requestId change) := by
  unfold Requests.update
  cases hf : t.find? requestId with
  | none => exact .refl t
  | some row =>
    obtain ⟨hm, hid⟩ := Table.find?_eq_some.mp hf
    intro r hr
    by_cases hk : r.requestId = row.requestId
    · have hrr : r = row := Table.eq_of_key hr hm hk
      subst hrr
      exact ⟨change.apply r, Table.mem_replace.mpr (.inl ⟨rfl, r, hm, (apply_requestId change r).symm⟩), h r hf⟩
    · refine ⟨r, Table.mem_replace.mpr (.inr ⟨hr, ?_⟩), .refl r⟩
      rwa [apply_requestId]

theorem mem_update {t : Requests} {requestId : String} {change : RequestUpdate} {row : RequestRow}
    (h : t.find? requestId = some row) : change.apply row ∈ Requests.update t requestId change := by
  obtain ⟨hm, -⟩ := Table.find?_eq_some.mp h
  unfold Requests.update
  rw [h]
  exact Table.mem_replace.mpr (.inl ⟨rfl, row, hm, (apply_requestId change row).symm⟩)

/-- Transaction hashes are stored in lower case. -/
def Canonical (t : Requests) : Prop := ∀ row ∈ t, ∀ tx, row.txHash = some tx → lower tx = tx

theorem canonical_update {t : Requests} {requestId : String} {change : RequestUpdate}
    (hk : ∀ row, t.find? requestId = some row → Kept row (change.apply row)) (h : Canonical t) :
    Canonical (Requests.update t requestId change) := by
  intro row hrow tx htx
  unfold Requests.update at hrow
  cases hf : t.find? requestId with
  | none =>
    rw [hf] at hrow
    exact h row hrow tx htx
  | some old =>
    rw [hf] at hrow
    rcases Table.mem_replace.mp hrow with ⟨rfl, -⟩ | ⟨hrow, -⟩
    · exact h old (Table.find?_eq_some.mp hf).1 tx ((hk old hf).txHash.symm.trans htx)
    · exact h row hrow tx htx

theorem canonical_insert {t t' : Requests} {row : RequestRow} (hi : t.insert? row = some t')
    (hc : ∀ tx, row.txHash = some tx → lower tx = tx) (h : Canonical t) : Canonical t' := by
  obtain ⟨-, hrows⟩ := Table.insert?_eq_some.mp hi
  intro r hr
  rw [Table.mem_def, hrows, List.mem_append] at hr
  rcases hr with hr | hr
  · exact h r hr
  · rw [List.mem_singleton.mp hr]
    exact hc

theorem kept_unknown {row : RequestRow} (h : row.status ≠ .broadcast) :
    Kept row (RequestUpdate.markUnknown.apply row) :=
  ⟨rfl, rfl, rfl, rfl, rfl, rfl, fun hb => absurd hb h⟩

theorem kept_broadcast {row : RequestRow} (h : row.status ≠ .broadcast) (acceptedAt : String) :
    Kept row ((RequestUpdate.markBroadcast acceptedAt).apply row) :=
  ⟨rfl, rfl, rfl, rfl, rfl, rfl, fun hb => absurd hb h⟩

theorem kept_bound (row : RequestRow) : Kept row (RequestUpdate.bindEnvelope.apply row) :=
  ⟨rfl, rfl, rfl, rfl, rfl, rfl, fun hb => ⟨hb, rfl⟩⟩

theorem kept_opened (engine : SignerEngine) (row : RequestRow) : Kept row (openedRow engine row) := by
  unfold openedRow
  split
  · exact .refl row
  · exact ⟨rfl, rfl, rfl, rfl, rfl, rfl, fun hb => ⟨hb, rfl⟩⟩

theorem grows_open (engine : SignerEngine) (t : Requests) : Grows t (openState engine t) :=
  fun row h => ⟨openedRow engine row, Table.mem_mapRows.mpr ⟨row, h, rfl⟩, kept_opened engine row⟩

/-- The result recorded for a request. -/
def recorded (row : RequestRow) : Option WalletBroadcastResult :=
  match row.txHash, row.acceptedAt with
  | some tx, some acceptedAt => some ⟨tx, row.chainId, row.nonce, acceptedAt⟩
  | _, _ => none

/-- The client learns nothing from the answer, or the result recorded for the request. -/
def Honest (requests : Requests) (requestId : String) (answer : SignerAnswer) : Prop :=
  answer = .broadcastUnknown none ∨
    ∃ row ∈ requests, row.requestId = requestId ∧ row.status = .broadcast ∧
      ∃ result, recorded row = some result ∧ answer = .returned (some result)

theorem Honest.grows {t t' : Requests} {requestId : String} {answer : SignerAnswer}
    (h : Honest t requestId answer) (hg : Grows t t') : Honest t' requestId answer := by
  rcases h with h | ⟨row, hrow, hid, hst, result, hres, h⟩
  · exact .inl h
  · obtain ⟨row', hrow', hk⟩ := hg row hrow
    obtain ⟨hst', hat⟩ := hk.result hst
    refine .inr ⟨row', hrow', hk.requestId.trans hid, hst', result, ?_, h⟩
    rw [recorded, hk.txHash, hk.chainId, hk.nonce, hat]
    exact hres

/-- Neither a statement nor the clock raises anything else. -/
def Fatal : Raised → Prop
  | .signerError _ => False
  | _ => True

theorem readResponse_fatal {e : Raised} (h : Fatal e) (token : String) :
    readResponse (respond token (.error e)) = .broadcastUnknown none := by
  cases e with
  | signerError e => exact absurd h id
  | exception => rfl
  | baseException => rfl

theorem readResponse_broadcastUnknown (token : String) :
    readResponse (respond token (.error (.signerError broadcastUnknown))) = .broadcastUnknown none := by
  rfl

section
variable (engine : SignerEngine)

/-- The request ids for which a transaction was handed to the chain, once for each time. -/
def sentIds (events : List Event) : List String :=
  events.filterMap (fun
    | .sent requestId _ => some requestId
    | .answered _ _ _ => none)

/-- The transfer a call is about, once it has passed every check before the lock. -/
def callTransfer (requestId : String) (t : WalletUnsignedTransfer) : Except SignerError WalletUnsignedTransfer := do
  let parsed ← parseTransfer t
  checkedTransfer engine requestId parsed

theorem callTransfer_congr {t t' : WalletUnsignedTransfer} (h : parseTransfer t = parseTransfer t')
    (requestId : String) : callTransfer engine requestId t = callTransfer engine requestId t' := by
  rw [callTransfer, h, callTransfer]

/-- The row is bound to the transfer. -/
structure BoundTo (checked : WalletUnsignedTransfer) (row : RequestRow) : Prop where
  transferHash : row.transferHash = transferHash engine checked
  transferJson : row.transferJson = some checked

/-- What holds after every command. -/
structure Recorded (w : World) : Prop where
  grows : Grows w.durable w.working
  canonical : Canonical w.working
  once : (sentIds w.events).Nodup
  bound : ∀ requestId t, .sent requestId t ∈ w.events → ∃ row ∈ w.durable, row.requestId = requestId ∧
    ∃ checked, callTransfer engine requestId t = .ok checked ∧ BoundTo engine checked row
  honest : ∀ before after requestId t response, w.events = before ++ .answered requestId t response :: after →
    ∀ t', .sent requestId t' ∈ before → parseTransfer t = parseTransfer t' →
      Honest w.durable requestId (readResponse response)

variable {engine}

theorem mem_sentIds {events : List Event} {requestId : String} :
    requestId ∈ sentIds events ↔ ∃ t, .sent requestId t ∈ events := by
  constructor
  · intro h
    obtain ⟨e, he, hid⟩ := List.mem_filterMap.mp h
    cases e with
    | sent id t =>
      cases hid
      exact ⟨t, he⟩
    | answered id t response => cases hid
  · rintro ⟨t, h⟩
    exact List.mem_filterMap.mpr ⟨_, h, rfl⟩

theorem BoundTo.kept {checked : WalletUnsignedTransfer} {row row' : RequestRow} (h : BoundTo engine checked row)
    (hk : Kept row row') : BoundTo engine checked row' :=
  ⟨hk.transferHash.trans h.transferHash, hk.transferJson.trans h.transferJson⟩

/-- An event of a longer log is its last one or one of the shorter log. -/
theorem split_log {events before after : List Event} {e x : Event} (h : events ++ [e] = before ++ x :: after) :
    (before = events ∧ x = e) ∨ ∃ rest, events = before ++ x :: rest := by
  rcases List.eq_nil_or_concat' after with rfl | ⟨rest, last, rfl⟩
  · obtain ⟨hl, hlast⟩ := List.append_inj' h rfl
    exact .inl ⟨hl.symm, (List.singleton_inj.mp hlast).symm⟩
  · rw [← List.cons_append, ← List.append_assoc] at h
    exact .inr ⟨rest, (List.append_inj' h rfl).1⟩

/-- A table that grows keeps the record, whoever writes it. -/
theorem Recorded.reopen {w : World} (h : Recorded engine w) {durable working : Requests}
    (hd : Grows w.durable durable) (hw : Grows durable working) (hc : Canonical working) :
    Recorded engine ⟨durable, working, w.events⟩ where
  grows := hw
  canonical := hc
  once := h.once
  bound := by
    intro requestId t ht
    obtain ⟨row, hrow, hid, checked, hchecked, hb⟩ := h.bound requestId t ht
    obtain ⟨row', hrow', hk⟩ := hd row hrow
    exact ⟨row', hrow', hk.requestId.trans hid, checked, hchecked, hb.kept hk⟩
  honest := by
    intro before after requestId t response he t' ht' hp
    exact (h.honest before after requestId t response he t' ht' hp).grows hd

theorem Recorded.commit {w : World} (h : Recorded engine w) : Recorded engine { w with durable := w.working } :=
  h.reopen h.grows (.refl _) h.canonical

theorem Recorded.write {w : World} (h : Recorded engine w) {working : Requests} (hg : Grows w.working working)
    (hc : Canonical working) : Recorded engine { w with working } :=
  h.reopen (.refl _) (h.grows.trans hg) hc

theorem Recorded.canonical_durable {w : World} (h : Recorded engine w) : Canonical w.durable := by
  intro row hrow tx htx
  obtain ⟨row', hrow', hk⟩ := h.grows row hrow
  exact h.canonical row' hrow' tx (hk.txHash.trans htx)

theorem Recorded.rollback {w : World} (h : Recorded engine w) : Recorded engine { w with working := w.durable } :=
  h.reopen (.refl _) (.refl _) h.canonical_durable

theorem Recorded.restart {w : World} (h : Recorded engine w) :
    Recorded engine ⟨openState engine w.durable, openState engine w.durable, w.events⟩ := by
  refine h.reopen (grows_open engine _) (.refl _) ?_
  intro row hrow tx htx
  obtain ⟨old, hold, rfl⟩ := Table.mem_mapRows.mp hrow
  exact h.canonical_durable old hold tx ((kept_opened engine old).txHash.symm.trans htx)

/-- The one moment at which a transaction is handed over: its row is already in the file. -/
theorem Recorded.sent {w : World} (h : Recorded engine w) {requestId : String} {t checked : WalletUnsignedTransfer}
    {row : RequestRow} (hnew : ∀ t', .sent requestId t' ∉ w.events) (hrow : row ∈ w.durable)
    (hid : row.requestId = requestId) (hchecked : callTransfer engine requestId t = .ok checked)
    (hb : BoundTo engine checked row) : Recorded engine (w.log (.sent requestId t)) where
  grows := h.grows
  canonical := h.canonical
  once := by
    have hids : sentIds (w.log (.sent requestId t)).events = sentIds w.events ++ [requestId] :=
      List.filterMap_append
    rw [hids, List.nodup_append]
    refine ⟨h.once, List.nodup_singleton _, ?_⟩
    rintro a ha b hb' rfl
    obtain ⟨t', ht'⟩ := mem_sentIds.mp ha
    rw [List.mem_singleton.mp hb'] at ht'
    exact hnew t' ht'
  bound := by
    intro id t' ht'
    rcases List.mem_append.mp ht' with ht' | ht'
    · exact h.bound id t' ht'
    · cases List.mem_singleton.mp ht'
      exact ⟨row, hrow, hid, checked, hchecked, hb⟩
  honest := by
    intro before after id t' response he
    rcases split_log he with ⟨-, hx⟩ | ⟨rest, he⟩
    · cases hx
    · exact h.honest before rest id t' response he

theorem Recorded.answered {w : World} (h : Recorded engine w) {requestId : String} {t : WalletUnsignedTransfer}
    {response : Option HttpResponse}
    (hr : ∀ t', .sent requestId t' ∈ w.events → parseTransfer t = parseTransfer t' →
      Honest w.durable requestId (readResponse response)) :
    Recorded engine (w.log (.answered requestId t response)) where
  grows := h.grows
  canonical := h.canonical
  once := by
    have hids : sentIds (w.log (.answered requestId t response)).events = sentIds w.events := by
      simp [World.log, sentIds]
    rw [hids]
    exact h.once
  bound := by
    intro id t' ht'
    rcases List.mem_append.mp ht' with ht' | ht'
    · exact h.bound id t' ht'
    · cases List.mem_singleton.mp ht'
  honest := by
    intro before after id t' response' he
    rcases split_log he with ⟨rfl, hx⟩ | ⟨rest, he⟩
    · cases hx
      exact hr
    · exact h.honest before rest id t' response' he

variable {α β : Type} {c : Call} {w : World}

/-- A statement that succeeds does what it says; one that raises does nothing. -/
theorem safe_commit {post : Except Raised Unit → World → Prop} (h : Recorded engine w)
    (hok : post (.ok ()) { w with durable := w.working }) (herr : ∀ e, Fatal e → post (.error e) w) :
    (execute .commit).Safe (perform c) (Recorded engine) post w := by
  intro x
  cases x with
  | exception => exact ⟨h, herr _ trivial⟩
  | baseException => exact ⟨h, herr _ trivial⟩
  | _ => exact ⟨h.commit, hok⟩

theorem safe_rollback {post : Except Raised Unit → World → Prop} (h : Recorded engine w)
    (hok : post (.ok ()) { w with working := w.durable }) :
    (execute .rollback).Safe (perform c) (Recorded engine) post w := by
  intro x
  exact ⟨h.rollback, hok⟩

theorem safe_update {post : Except Raised Unit → World → Prop} {requestId : String} {change : RequestUpdate}
    (h : Recorded engine w) (hk : ∀ row, w.working.find? requestId = some row → Kept row (change.apply row))
    (hok : Recorded engine { w with working := Requests.update w.working requestId change } →
      post (.ok ()) { w with working := Requests.update w.working requestId change })
    (herr : ∀ e, Fatal e → post (.error e) w) :
    (execute (.update requestId change)).Safe (perform c) (Recorded engine) post w := by
  have hw : Recorded engine { w with working := Requests.update w.working requestId change } :=
    h.write (grows_update hk) (canonical_update hk h.canonical)
  intro x
  cases x with
  | exception => exact ⟨h, herr _ trivial⟩
  | baseException => exact ⟨h, herr _ trivial⟩
  | _ => exact ⟨hw, hok hw⟩

theorem safe_insert {post : Except Raised Unit → World → Prop} {row : RequestRow} (h : Recorded engine w)
    (hc : ∀ tx, row.txHash = some tx → lower tx = tx)
    (hok : ∀ working, w.working.insert? row = some working → Recorded engine { w with working } →
      post (.ok ()) { w with working })
    (herr : ∀ e, Fatal e → post (.error e) w) :
    (execute (.insert row)).Safe (perform c) (Recorded engine) post w := by
  intro x
  have hp : (∃ e, Fatal e ∧ perform c (.insert row) x w = (w, .raised e)) ∨
      perform c (.insert row) x w = performStatement (.insert row) w := by
    cases x with
    | exception => exact .inl ⟨.exception, trivial, rfl⟩
    | baseException => exact .inl ⟨.baseException, trivial, rfl⟩
    | _ => exact .inr rfl
  rcases hp with ⟨e, he, hp⟩ | hp
  · rw [hp]
    exact ⟨h, herr e he⟩
  · rw [hp]
    cases hi : w.working.insert? row with
    | none =>
      simp only [performStatement, hi]
      exact ⟨h, herr _ trivial⟩
    | some working =>
      have hw : Recorded engine { w with working } := h.write (grows_insert hi) (canonical_insert hi hc h.canonical)
      simp only [performStatement, hi]
      exact ⟨hw, hok working hi hw⟩

/-- The program leaves the world as it is. -/
abbrev Reads (engine : SignerEngine) (c : Call) (p : Script α) (w : World) : Prop :=
  p.Safe (perform c) (Recorded engine) (fun _ w' => w' = w) w

theorem Reads.bind {p : Script α} {f : α → Script β} (hp : Reads engine c p w) (hf : ∀ a, Reads engine c (f a) w) :
    Reads engine c (p >>= f) w := by
  refine Program.Safe.bind hp ?_ ?_
  · rintro a w' rfl
    exact hf a
  · intro e w' h
    exact h

theorem check_ok_bind (a : α) (f : α → Script β) : (check (.ok a) >>= f) = f a := rfl

theorem reads_check (x : Except SignerError α) : Reads engine c (check x) w := by
  cases x <;> rfl

theorem reads_rpc (h : Recorded engine w) {request : RpcRequest} (hr : ∀ raw, request ≠ .sendRawTransaction raw) :
    Reads engine c (rpc request) w := by
  intro x
  have hp : (perform c (.rpc request) x w).1 = w := by
    cases request with
    | sendRawTransaction raw => exact absurd rfl (hr raw)
    | _ => cases x <;> rfl
  rw [hp]
  refine ⟨h, ?_⟩
  cases (perform c (.rpc request) x w).2 <;> rfl

theorem reads_admission (h : Recorded engine w) (t : WalletUnsignedTransfer) :
    Reads engine c (admission engine t) w := by
  unfold admission checkChain
  refine Reads.bind (Reads.bind (reads_rpc h (by simp)) fun _ => ?_) fun _ => ?_
  · exact Reads.bind (reads_check _) fun _ => reads_check _
  refine Reads.bind (reads_rpc h (by simp)) fun _ => Reads.bind (reads_check _) fun _ => ?_
  refine Reads.bind (reads_check _) fun _ => Reads.bind (reads_rpc h (by simp [rpcTransfer])) fun _ => ?_
  refine Reads.bind (reads_check _) fun _ => Reads.bind (reads_rpc h (by simp)) fun _ => ?_
  refine Reads.bind (reads_check _) fun _ => Reads.bind (reads_check _) fun _ => ?_
  refine Reads.bind (reads_rpc h (by simp)) fun _ => Reads.bind (reads_check _) fun _ => ?_
  exact reads_check _

/-- However the node answers, the transaction may be on its way. -/
theorem safe_sendRaw (h : Recorded engine (w.log (.sent c.requestId c.transfer))) (raw tx : String) :
    (sendRaw raw tx).Safe (perform c) (Recorded engine) (fun _ w' => w' = w.log (.sent c.requestId c.transfer)) w := by
  have hsend : (rpc (.sendRawTransaction raw)).Safe (perform c) (Recorded engine)
      (fun _ w' => w' = w.log (.sent c.requestId c.transfer)) w := by
    intro x
    cases x <;> exact ⟨h, rfl⟩
  refine Program.Safe.bind hsend ?_ ?_
  · rintro v w' rfl
    cases v with
    | text s => exact reads_check _
    | other => rfl
  · intro e w' h
    exact h

/-! ### The call -/

/-- The call may end by raising `e`: if its transfer was ever handed over, the client learns nothing. -/
structure Failing (engine : SignerEngine) (c : Call) (e : Raised) (w : World) : Prop where
  recorded : Recorded engine w
  honest : ∀ t', .sent c.requestId t' ∈ w.events → parseTransfer c.transfer = parseTransfer t' →
    Honest w.durable c.requestId (readResponse (respond c.token (.error e)))

/-- The call may return `result` once its transaction is committed. -/
structure Returning (engine : SignerEngine) (c : Call) (result : TransferResult) (w : World) : Prop where
  recorded : Recorded engine w
  honest : Honest w.working c.requestId (readResponse (respond c.token (.ok result)))

/-- However the program ends, it returns as `good` says or may raise. -/
def Ends (engine : SignerEngine) (c : Call) (good : α → World → Prop) : Except Raised α → World → Prop
  | .ok a, w => good a w
  | .error e, w => Failing engine c e w

theorem Failing.fatal {e : Raised} (h : Recorded engine w) (he : Fatal e) : Failing engine c e w :=
  ⟨h, fun _ _ _ => .inl (readResponse_fatal he c.token)⟩

theorem Failing.unknown (h : Recorded engine w) : Failing engine c (.signerError broadcastUnknown) w :=
  ⟨h, fun _ _ _ => .inl (readResponse_broadcastUnknown c.token)⟩

theorem Failing.unsent (h : Recorded engine w) (hn : ∀ t', .sent c.requestId t' ∉ w.events) (e : Raised) :
    Failing engine c e w :=
  ⟨h, fun t' ht' _ => absurd ht' (hn t')⟩

theorem ends_bind {p : Script α} {f : α → Script β} (good : α → World → Prop) {good' : β → World → Prop}
    (hp : p.Safe (perform c) (Recorded engine) (Ends engine c good) w)
    (hf : ∀ a w, good a w → (f a).Safe (perform c) (Recorded engine) (Ends engine c good') w) :
    (p >>= f).Safe (perform c) (Recorded engine) (Ends engine c good') w :=
  Program.Safe.bind hp hf (fun _ _ h => h)

/-- Reading before anything was handed over. -/
theorem ends_reads {p : Script α} (h : Recorded engine w) (hn : ∀ t', .sent c.requestId t' ∉ w.events)
    (hp : Reads engine c p w) :
    p.Safe (perform c) (Recorded engine) (Ends engine c (fun _ w' => w' = w)) w := by
  refine hp.mono ?_
  rintro (e | a) w' rfl
  · exact .unsent h hn e
  · rfl

/-- Mark the request unknown, commit, and say so. -/
theorem safe_giveUp {good : α → World → Prop} (h : Recorded engine w)
    (hp : ∀ row, w.working.find? c.requestId = some row → row.status ≠ .broadcast) :
    (do execute (.update c.requestId .markUnknown); execute .commit; fail broadcastUnknown : Script α).Safe (perform c)
      (Recorded engine) (Ends engine c good) w := by
  refine ends_bind (fun _ => Recorded engine) (safe_update h (fun row hrow => kept_unknown (hp row hrow))
    (fun hw => hw) (fun e he => .fatal h he)) ?_
  intro _ w hw
  refine ends_bind (fun _ => Recorded engine) (safe_commit hw hw.commit (fun e he => .fatal hw he)) ?_
  intro _ w hw
  exact Failing.unknown hw

/-- A recorded result is what the client gets, unless it cannot read it. -/
theorem honest_result {t : Requests} {row : RequestRow} (hrow : row ∈ t) (hst : row.status = .broadcast)
    (hc : Canonical t) (token : String) :
    Honest t row.requestId
      (readResponse (respond token (.ok ⟨row.txHash, row.chainId, row.nonce, row.acceptedAt⟩))) := by
  cases hr : readResult (TransferResult.body ⟨row.txHash, row.chainId, row.nonce, row.acceptedAt⟩) with
  | none =>
    left
    simp [respond, readResponse, hr]
  | some result =>
    refine .inr ⟨row, hrow, rfl, hst, result, ?_, by simp [respond, readResponse, hr]⟩
    have htx : ∀ tx, row.txHash = some tx → lower tx = tx := hc row hrow
    revert hr htx
    rw [recorded]
    cases row.txHash with
    | none => simp [readResult, TransferResult.body, textOrNull, Body.get]
    | some tx =>
      cases row.acceptedAt with
      | none => simp [readResult, TransferResult.body, textOrNull, Body.get]
      | some acceptedAt =>
        intro hr htx
        have hb : readResult (TransferResult.body ⟨some tx, row.chainId, row.nonce, some acceptedAt⟩) =
            if (row.chainId : Int) < 1 ∨ sqliteInt64Max < (row.chainId : Int) ∨ (row.nonce : Int) < 0 ∨
                sqliteInt64Max < (row.nonce : Int) ∨ strip acceptedAt = "" ∨ longerThan 128 (strip acceptedAt) then none
            else (txHash tx).map (fun tx => ⟨tx, row.chainId, row.nonce, acceptedAt⟩) := rfl
        rw [hb] at hr
        split at hr
        · cases hr
        · unfold txHash at hr
          split at hr
          · rw [Option.map_some, htx tx rfl] at hr
            exact hr
          · cases hr

/-- The call of a request that is already recorded. -/
theorem safe_replay {checked : WalletUnsignedTransfer} {row : RequestRow} (h : Recorded engine w)
    (hc : callTransfer engine c.requestId c.transfer = .ok checked) (hidle : w.working = w.durable)
    (hrow : w.working.find? c.requestId = some row) :
    (replay c.requestId (transferHash engine checked) row).Safe (perform c) (Recorded engine)
      (Ends engine c (Returning engine c)) w := by
  obtain ⟨hm, hid⟩ := Table.find?_eq_some.mp hrow
  by_cases hhash : row.transferHash = transferHash engine checked
  · have hcheck : check (raiseIf (row.transferHash ≠ transferHash engine checked)
        (⟨"request identity is already bound", "request_conflict"⟩ : SignerError)) = pure () := by
      rw [raiseIf_neg (not_not.mpr hhash)]
      rfl
    have hbranch : ∀ k : Unit → Script TransferResult, ((pure () : Script Unit) >>= k) = k () := fun k => rfl
    rw [replay, hcheck, hbranch]
    cases hst : row.status with
    | unknown => exact Failing.unknown h
    | pending =>
      refine safe_giveUp h ?_
      intro row' hrow'
      rw [hrow] at hrow'
      cases hrow'
      simp [hst]
    | broadcast => exact ⟨h, hid ▸ honest_result hm hst h.canonical c.token⟩
  · -- Had the same transfer been handed over, this very row would be bound to it.
    have hcheck : check (raiseIf (row.transferHash ≠ transferHash engine checked)
        (⟨"request identity is already bound", "request_conflict"⟩ : SignerError)) =
          fail ⟨"request identity is already bound", "request_conflict"⟩ := by
      rw [raiseIf, if_pos hhash]
      rfl
    rw [replay, hcheck]
    refine Failing.mk h ?_
    intro t' ht' hp
    obtain ⟨row', hrow', hid', checked', hchecked', hb⟩ := h.bound c.requestId t' ht'
    rw [← callTransfer_congr engine hp, hc] at hchecked'
    cases hchecked'
    have : row = row' := Table.eq_of_key hm (hidle ▸ hrow') (hid.trans hid'.symm)
    exact absurd (this ▸ hb.transferHash) hhash

/-- The pending row of the call is in the file, and nothing else is open. -/
structure Marked (engine : SignerEngine) (c : Call) (checked : WalletUnsignedTransfer) (tx : String) (w : World) :
    Prop where
  recorded : Recorded engine w
  idle : w.working = w.durable
  row : ∃ row, w.working.find? c.requestId = some row ∧ row.status = .pending ∧ row.txHash = some tx ∧
    row.chainId = checked.chainId ∧ row.nonce = checked.nonce ∧ BoundTo engine checked row

/-- The marker of the call is made durable before anything else is done. -/
theorem safe_mark {checked : WalletUnsignedTransfer} {tx : String} (h : Recorded engine w) (htx : lower tx = tx)
    {rest : Script α} {good : α → World → Prop}
    (hrest : ∀ w', Marked engine c checked tx w' → w'.events = w.events →
      rest.Safe (perform c) (Recorded engine) (Ends engine c good) w') :
    (do execute (.insert (pendingRow c.requestId (transferHash engine checked) tx checked))
        execute (.update c.requestId .bindEnvelope)
        execute .commit
        rest : Script α).Safe (perform c) (Recorded engine) (Ends engine c good) w := by
  let row := pendingRow c.requestId (transferHash engine checked) tx checked
  let bound := RequestUpdate.bindEnvelope.apply row
  refine ends_bind (fun _ w' => Recorded engine w' ∧ w'.events = w.events ∧ w'.working.find? c.requestId = some row)
    (safe_insert h ?_ ?_ (fun e he => .fatal h he)) ?_
  · rintro tx' htx'
    cases htx'
    exact htx
  · intro working hi hw
    refine ⟨hw, rfl, ?_⟩
    rw [Table.find?_insert hi]
    exact if_pos rfl
  rintro _ w1 ⟨h1, he1, hrow1⟩
  refine ends_bind (fun _ w' => Recorded engine w' ∧ w'.events = w.events ∧ w'.working.find? c.requestId = some bound)
    (safe_update h1 (fun r _ => kept_bound r) ?_ (fun e he => .fatal h1 he)) ?_
  · intro hw
    refine ⟨hw, he1, ?_⟩
    exact Table.find?_eq_some.mpr ⟨mem_update hrow1, rfl⟩
  rintro _ w2 ⟨h2, he2, hrow2⟩
  refine ends_bind (fun _ w' => Marked engine c checked tx w' ∧ w'.events = w.events)
    (safe_commit h2 ⟨⟨h2.commit, rfl, bound, hrow2, rfl, rfl, rfl, rfl, ⟨rfl, rfl⟩⟩, he2⟩ (fun e he => .fatal h2 he)) ?_
  rintro _ w3 ⟨h3, he3⟩
  exact hrest w3 h3 he3

/-- Handing the transaction over, with the clause that catches what the node raises. -/
theorem safe_handOver {checked : WalletUnsignedTransfer} {raw tx : String} (h : Marked engine c checked tx w)
    (hc : callTransfer engine c.requestId c.transfer = .ok checked) (hn : ∀ t', .sent c.requestId t' ∉ w.events) :
    ((sendRaw raw tx).tryExcept (sendFailed c.requestId)).Safe (perform c) (Recorded engine)
      (Ends engine c (fun _ w' => Marked engine c checked tx w')) w := by
  obtain ⟨row, hrow, hst, htx, hcid, hnonce, hb⟩ := h.row
  obtain ⟨hm, hid⟩ := Table.find?_eq_some.mp hrow
  have hsent : Recorded engine (w.log (.sent c.requestId c.transfer)) :=
    h.recorded.sent hn (h.idle ▸ hm) hid hc hb
  refine Program.Safe.tryExcept (safe_sendRaw hsent raw tx) ?_ ?_
  · rintro _ w' rfl
    exact ⟨hsent, h.idle, row, hrow, hst, htx, hcid, hnonce, hb⟩
  · rintro e w' rfl
    have hpending : ∀ row', (w.log (.sent c.requestId c.transfer)).working.find? c.requestId = some row' →
        row'.status ≠ .broadcast := by
      intro row' hrow'
      cases hrow.symm.trans hrow'
      simp [hst]
    cases e with
    | signerError e => exact safe_giveUp hsent hpending
    | exception => exact safe_giveUp hsent hpending
    | baseException => exact Failing.fatal hsent trivial

/-- The node accepted: the result is recorded and returned. -/
theorem safe_accept {checked : WalletUnsignedTransfer} {tx : String} (h : Marked engine c checked tx w) :
    (do let acceptedAt ← utcNow
        execute (.update c.requestId (.markBroadcast acceptedAt))
        pure ⟨some tx, checked.chainId, checked.nonce, some acceptedAt⟩ : Script TransferResult).Safe (perform c)
      (Recorded engine) (Ends engine c (Returning engine c)) w := by
  obtain ⟨row, hrow, hst, htx, hcid, hnonce, -⟩ := h.row
  have hnow : utcNow.Safe (perform c) (Recorded engine) (Ends engine c (fun _ w' => w' = w)) w := by
    intro x
    cases x with
    | time now => exact ⟨h.recorded, rfl⟩
    | baseException => exact ⟨h.recorded, .fatal h.recorded trivial⟩
    | _ => exact ⟨h.recorded, .fatal h.recorded trivial⟩
  refine ends_bind _ hnow ?_
  rintro acceptedAt w' rfl
  let accepted := (RequestUpdate.markBroadcast acceptedAt).apply row
  refine ends_bind (fun _ w'' => Recorded engine w'' ∧ accepted ∈ w''.working)
    (safe_update h.recorded ?_ (fun hw => ⟨hw, mem_update hrow⟩) (fun e he => .fatal h.recorded he)) ?_
  · intro row' hrow'
    cases hrow.symm.trans hrow'
    exact kept_broadcast (by simp [hst]) acceptedAt
  rintro _ w'' ⟨h2, hm⟩
  have hhonest := honest_result hm rfl h2.canonical c.token
  have hres : (⟨accepted.txHash, accepted.chainId, accepted.nonce, accepted.acceptedAt⟩ : TransferResult) =
      ⟨some tx, checked.chainId, checked.nonce, some acceptedAt⟩ := by
    rw [← htx, ← hcid, ← hnonce]
    rfl
  have hid : accepted.requestId = c.requestId := (Table.find?_eq_some.mp hrow).2
  rw [hres, hid] at hhonest
  exact ⟨h2, hhonest⟩

theorem sign_lower {engine : SignerEngine} {t : WalletUnsignedTransfer} {raw tx : String}
    (h : sign engine t = .ok (raw, tx)) : lower tx = tx := by
  obtain ⟨target, -, h⟩ := bind_eq_ok.mp h
  obtain ⟨signed, -, h⟩ := bind_eq_ok.mp h
  cases h
  exact lower_hexText signed.hash

/-- The call of a new request. -/
theorem safe_broadcast {checked : WalletUnsignedTransfer} (h : Recorded engine w)
    (hc : callTransfer engine c.requestId c.transfer = .ok checked) (hidle : w.working = w.durable)
    (hnew : w.working.find? c.requestId = none) :
    (broadcast engine c.requestId (transferHash engine checked) checked).Safe (perform c) (Recorded engine)
      (Ends engine c (Returning engine c)) w := by
  have hn : ∀ t', .sent c.requestId t' ∉ w.events := by
    intro t' ht'
    obtain ⟨row, hrow, hid, -⟩ := h.bound c.requestId t' ht'
    exact Table.find?_eq_none.mp hnew row (hidle ▸ hrow) hid
  unfold broadcast
  cases hs : sign engine checked with
  | error e => exact Failing.unsent h hn _
  | ok signed =>
    obtain ⟨raw, tx⟩ := signed
    rw [check_ok_bind]
    refine ends_bind _ (ends_reads h hn (reads_admission h checked)) ?_
    rintro _ w' rfl
    refine safe_mark h (sign_lower hs) ?_
    intro w1 h1 he
    refine ends_bind _ (safe_handOver h1 hc (he ▸ hn)) ?_
    intro _ w2 h2
    exact safe_accept h2

/-! ### The handler -/

/-- The call is over: its answer can be logged and the lock is free. -/
structure Answered (engine : SignerEngine) (c : Call) (r : Except Raised TransferResult) (w : World) : Prop where
  idle : w.working = w.durable
  recorded : Recorded engine (w.log (.answered c.requestId c.transfer (respond c.token r)))

/-- `with connection:` leaves no transaction open, and a call that raises has committed what it says. -/
theorem safe_withConnection {body : Script TransferResult}
    (hb : body.Safe (perform c) (Recorded engine) (Ends engine c (Returning engine c)) w) :
    (withConnection body).Safe (perform c) (Recorded engine) (Answered engine c) w := by
  have hraise : ∀ e w', Failing engine c e w' →
      ((execute .rollback).andThen (fun _ => .raise e) : Script TransferResult).Safe (perform c) (Recorded engine)
        (Answered engine c) w' := by
    intro e w' he
    refine Program.safe_andThen.mpr (safe_rollback he.recorded ?_)
    exact ⟨rfl, he.recorded.rollback.answered he.honest⟩
  refine Program.safe_andThen.mpr (hb.mono ?_)
  rintro (e | result) w' hr
  · exact hraise e w' hr
  · refine Program.safe_andThen.mpr (safe_commit hr.recorded ?_ ?_)
    · exact ⟨rfl, hr.recorded.commit.answered (fun _ _ _ => hr.honest)⟩
    · intro e he
      exact hraise e w' (.fatal hr.recorded he)

theorem safe_transferLocked {checked : WalletUnsignedTransfer} (h : Recorded engine w)
    (hc : callTransfer engine c.requestId c.transfer = .ok checked) (hidle : w.working = w.durable) :
    (transferLocked engine c.requestId checked).Safe (perform c) (Recorded engine) (Answered engine c) w := by
  refine safe_withConnection ?_
  have hselect : (select c.requestId).Safe (perform c) (Recorded engine)
      (Ends engine c (fun row w' => w' = w ∧ row = w.working.find? c.requestId)) w := by
    intro x
    cases x with
    | exception => exact ⟨h, .fatal h trivial⟩
    | baseException => exact ⟨h, .fatal h trivial⟩
    | _ => exact ⟨h, rfl, rfl⟩
  refine ends_bind _ hselect ?_
  rintro row w' ⟨rfl, hrow⟩
  cases row with
  | some row => exact safe_replay h hc hidle hrow.symm
  | none => exact safe_broadcast h hc hidle hrow.symm

/-- A call is refused before the lock, or runs under it. -/
theorem dispatch_eq (c : Call) : dispatch engine c =
    match callTransfer engine c.requestId c.transfer with
    | .ok checked => transferLocked engine c.requestId checked
    | .error e => .done (.error (.signerError e)) := by
  unfold dispatch callTransfer
  cases hp : parseTransfer c.transfer with
  | error e => rfl
  | ok parsed =>
    rw [check_ok_bind, ok_bind, transfer]
    cases hq : checkedTransfer engine c.requestId parsed with
    | error e => rfl
    | ok checked => rfl

theorem safe_dispatch (h : Recorded engine w) (hidle : w.working = w.durable) :
    (dispatch engine c).Safe (perform c) (Recorded engine) (Answered engine c) w := by
  rw [dispatch_eq]
  cases hc : callTransfer engine c.requestId c.transfer with
  | ok checked => exact safe_transferLocked h hc hidle
  | error e =>
    -- What was handed over had passed the checks that this call fails.
    refine ⟨hidle, h.answered ?_⟩
    intro t' ht' hp
    obtain ⟨-, -, -, checked, hchecked, -⟩ := h.bound c.requestId t' ht'
    rw [← callTransfer_congr engine hp, hc] at hchecked
    cases hchecked

/-- The invariant of the service. -/
structure Serving (engine : SignerEngine) (s : Service) : Prop where
  recorded : Recorded engine s.world
  idle : s.active = none → s.world.working = s.world.durable
  running : ∀ c rest, s.active = some (c, rest) →
    rest.Safe (perform c) (Recorded engine) (Answered engine c) s.world

theorem serving_settle {rest : Script TransferResult} (h : Recorded engine w)
    (hs : rest.Safe (perform c) (Recorded engine) (Answered engine c) w) : Serving engine (settle c rest w) := by
  cases rest with
  | done result =>
    refine ⟨hs.recorded, fun _ => hs.idle, ?_⟩
    intro c' rest' he
    cases he
  | perform command next =>
    refine ⟨h, ?_, ?_⟩
    · intro he
      cases he
    · rintro c' rest' ⟨⟩
      exact hs

theorem serving_initial : Serving engine .initial where
  recorded := by
    refine ⟨.refl _, ?_, List.nodup_nil, ?_, ?_⟩
    · intro row hrow
      cases hrow
    · intro id t ht
      cases ht
    · intro before after id t response he
      simp [Service.initial] at he
  idle := fun _ => rfl
  running := by
    intro c rest he
    cases he

theorem serving_step {s : Service} (h : Serving engine s) (a : Action) : Serving engine (step engine s a) := by
  cases a with
  | call c =>
    unfold step
    cases hact : s.active with
    | none => exact serving_settle h.recorded (safe_dispatch h.recorded (h.idle hact))
    | some running => exact h
  | advance x =>
    unfold step
    rcases hact : s.active with _ | ⟨c, _ | ⟨command, next⟩⟩
    · exact h
    · exact h
    · obtain ⟨hr, hs⟩ := h.running c _ hact x
      exact serving_settle hr hs
  | crash =>
    have hr := h.recorded.restart
    refine ⟨?_, fun _ => rfl, ?_⟩
    · unfold step
      rcases hact : s.active with _ | ⟨c, rest⟩
      · exact hr
      · exact hr.answered (fun _ _ _ => .inl rfl)
    · intro c rest he
      cases he

theorem reachable_serving {s : Service} (h : (signerMachine engine).Reachable s) : Serving engine s := by
  refine h.invariant ?_ ?_
  · rintro s rfl
    exact serving_initial
  · intro s a hs _
    exact serving_step hs a

theorem perform_grows (h : Recorded engine w) (command : Command) (x : Reaction) :
    Grows w.durable (perform c command x w).1.durable := by
  have hsame : Grows w.durable w.durable := .refl _
  cases command with
  | commit => cases x <;> first | exact hsame | exact h.grows
  | insert row =>
    cases hi : w.working.insert? row <;> cases x <;> simp only [perform, performStatement, hi] <;> exact hsame
  | rpc request => cases request <;> cases x <;> exact hsame
  | _ => cases x <;> exact hsame

theorem settle_durable (c : Call) (rest : Script TransferResult) (w : World) :
    (settle c rest w).world.durable = w.durable := by
  cases rest <;> rfl

theorem step_grows {s : Service} (h : Serving engine s) (a : Action) :
    Grows s.world.durable (step engine s a).world.durable := by
  cases a with
  | call c =>
    unfold step
    cases hact : s.active with
    | none =>
      simp only [settle_durable]
      exact .refl _
    | some running => exact .refl _
  | advance x =>
    unfold step
    rcases hact : s.active with _ | ⟨c, _ | ⟨command, next⟩⟩
    · exact .refl _
    · exact .refl _
    · simp only [settle_durable]
      exact perform_grows h.recorded command x
  | crash => exact grows_open engine _

/-- Whatever happens next, a recorded request stays. -/
theorem run_grows {s : Service} (h : Serving engine s) (as : List Action) :
    Grows s.world.durable (as.foldl (step engine) s).world.durable := by
  induction as generalizing s with
  | nil => exact .refl _
  | cons a as ih => exact (step_grows h a).trans (ih (serving_step h a))

theorem callTransfer_requestId {requestId : String} {t checked : WalletUnsignedTransfer}
    (h : callTransfer engine requestId t = .ok checked) : ¬(requestId = "" ∨ longerThan 256 requestId = true) := by
  obtain ⟨parsed, -, h⟩ := bind_eq_ok.mp h
  obtain ⟨_, hid, -⟩ := bind_eq_ok.mp h
  exact raiseIf_eq_ok.mp hid

end

/-- In every run of calls and crashes a request id is handed to the chain at most once, its row stays bound to
the transfer that was handed over, and whoever asks again about that transfer gets the recorded result or an
unknown outcome. -/
theorem request_broadcast_at_most_once (engine : SignerEngine) (s : Service)
    (h : (signerMachine engine).Reachable s) :
    (sentIds s.world.events).Nodup ∧
    (∀ as : List Action, ∀ row ∈ s.world.durable, ∃ row' ∈ (as.foldl (step engine) s).world.durable,
      row'.requestId = row.requestId ∧ row'.transferHash = row.transferHash ∧
        row'.transferJson = row.transferJson) ∧
    (∀ requestId t, .sent requestId t ∈ s.world.events → ∃ row ∈ s.world.durable, row.requestId = requestId ∧
      ∃ checked, callTransfer engine requestId t = .ok checked ∧ BoundTo engine checked row) ∧
    (∀ before after requestId t response,
      s.world.events = before ++ .answered requestId t response :: after →
      ∀ t', .sent requestId t' ∈ before → parseTransfer t = parseTransfer t' →
      ∀ address : Option String, (∀ a ∈ address, a = t.sourceAddress) →
        Honest s.world.durable requestId (signAndBroadcast address t requestId response)) := by
  have hs := reachable_serving h
  refine ⟨hs.recorded.once, ?_, hs.recorded.bound, ?_⟩
  · intro as row hrow
    obtain ⟨row', hrow', hk⟩ := run_grows hs as row hrow
    exact ⟨row', hrow', hk.requestId, hk.transferHash, hk.transferJson⟩
  · intro before after requestId t response he t' ht' hp address ha
    have hevent : .sent requestId t' ∈ s.world.events := by
      rw [he]
      exact List.mem_append_left _ ht'
    obtain ⟨-, -, -, checked, hchecked, -⟩ := hs.recorded.bound requestId t' hevent
    have haddress : address.any (fun a => a ≠ t.sourceAddress) = false := by
      cases address with
      | none => rfl
      | some a => simp [ha a rfl]
    rw [signAndBroadcast, haddress, if_neg (by simp), if_neg (callTransfer_requestId hchecked)]
    exact hs.recorded.honest before after requestId t response he t' ht' hp

def sampleAccount : String := "0x1111111111111111111111111111111111111111"

def sampleEngine : SignerEngine where
  address := sampleAccount
  contentHash := Config.sample.contentHash
  toChecksumAddress address := some address
  signTransaction _ := some ⟨[1, 2, 3], List.replicate 32 7⟩

def sampleCall : Call where
  requestId := "payorder_1:attempt:1"
  transfer := ⟨chainId, 0, 21000, 1, sampleAccount, "0x2222222222222222222222222222222222222222", 5, "0x", .native,
    none⟩
  token := "00"

/-- The call is admitted and handed over; the process dies before the node answers and is asked again. -/
def sampleRetry : List Action :=
  [.call sampleCall, .advance .success, .advance (.value (.text "0xaa36a7")), .advance (.value (.text "0x0")),
    .advance (.value (.text "0x5208")), .advance (.value (.text "0x1")), .advance (.value (.text "0xffffff")),
    .advance .success, .advance .success, .advance .success, .advance .exception, .crash, .call sampleCall,
    .advance .success, .advance .success, .advance .success, .advance .success]

def sampleService : Service := sampleRetry.foldl (step sampleEngine) .initial

theorem request_broadcast_once_across_crash :
    sampleService.world.events = [.sent sampleCall.requestId sampleCall.transfer,
      .answered sampleCall.requestId sampleCall.transfer none,
      .answered sampleCall.requestId sampleCall.transfer
        (respond "00" (.error (.signerError broadcastUnknown)))] ∧
    (sentIds sampleService.world.events).Nodup :=
  ⟨by decide +kernel,
    (request_broadcast_at_most_once sampleEngine sampleService
      (Machine.reachable_foldl (M := signerMachine sampleEngine)
      rfl sampleRetry)).1⟩

end Noyra.Signer.Proofs
