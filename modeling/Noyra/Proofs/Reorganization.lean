import Noyra.Proofs.Funds

/-!
# After a reorganization

`mark_reconcile_required` reopens a confirmed order and records an event. The settlement journal of the
first confirmation stays, and `_mark_confirmed` posts another one without looking for it, so a receipt
cannot confirm the order again.
-/

namespace Noyra.Wallet.Proofs
open Noyra.Lib

variable {cfg : Config} {db db' : DB}

/-- Every reopened order has been settled. -/
def ReopenedSettled (db : DB) : Prop :=
  ∀ event ∈ db.events, HasJournal db event.orderId .settlement ∧
    ∃ e ∈ db.executions, e.executionId = event.executionId ∧ e.orderId = event.orderId

theorem LedgerStep.keeps {o : OrderRow} {posting : Option JournalType} (h : LedgerStep cfg db db' o posting)
    {orderId : Id} {t : JournalType} (hh : HasJournal db orderId t) : HasJournal db' orderId t :=
  (h.hasJournal orderId t).mpr (.inl hh)

/-- Journals are kept. -/
theorem Effect.keeps_journal {permit : Permit} {r : Readings} (h : Effect cfg permit r db db') {orderId : Id}
    {t : JournalType} (hh : HasJournal db orderId t) : HasJournal db' orderId t := by
  have hsame : SameLedger db db' → HasJournal db' orderId t := fun hl => by rwa [hasJournal_congr hl.journals]
  cases h with
  | desk h => exact hsame h.aside.ledger
  | policy h => exact hsame h.aside.ledger
  | opened h => exact hsame h.rest.ledger
  | decided h => exact h.moved.ledger.keeps hh
  | started h => exact h.moved.ledger.keeps hh
  | restarted h => exact h.moved.ledger.keeps hh
  | finished h => exact h.moved.ledger.keeps hh

/-- An event is as old as the database, or the finish of a confirmed execution has just added it. -/
theorem Effect.event_cases {permit : Permit} {r : Readings} (h : Effect cfg permit r db db')
    {event : ReconciliationEvent} (hev : event ∈ db'.events) :
    event ∈ db.events ∨ ∃ o e a f now settled, Finished cfg db db' o e a f now settled ∧ e.status = .confirmed ∧
      event.orderId = e.orderId ∧ event.executionId = e.executionId := by
  cases h with
  | desk h => exact .inl (h.aside.events ▸ hev)
  | policy h => exact .inl (h.aside.events ▸ hev)
  | opened h => exact .inl (h.rest.events ▸ hev)
  | decided h => exact .inl (h.events ▸ hev)
  | started h => exact .inl (h.events ▸ hev)
  | restarted h => exact .inl (h.events ▸ hev)
  | finished h _ hstep =>
    rcases hstep with heq | ⟨hconf, new, horder, hid, hins⟩
    · exact .inl (heq ▸ hev)
    · rcases (mem_inserted hins).mp hev with hev | rfl
      · exact .inl hev
      · exact .inr ⟨_, _, _, _, _, _, h, hconf, horder, hid⟩

theorem ReopenedSettled.effect {permit : Permit} {r : Readings} (hs : Sound cfg db) (hb : Booked cfg db)
    (hr : ReopenedSettled db) (h : Effect cfg permit r db db') : ReopenedSettled db' := by
  intro event hev
  rcases h.event_cases hev with hev | ⟨o, e, a, f, now, settled, hf, hconf, horder, hid⟩
  · obtain ⟨hh, e, he, hid, horder⟩ := hr event hev
    obtain ⟨e', he', hcont⟩ := h.continues he
    exact ⟨h.keeps_journal hh, e', he', hcont.executionId.trans hid, hcont.order.trans horder⟩
  · -- the order was confirmed, hence settled
    have ho : o.status = .confirmed := (hs.paired.status_iff .confirmed hf.moved.mem hf.mem hf.owns nofun).mpr hconf
    have hfit := hb.fits o hf.moved.mem
    rw [ho] at hfit
    refine ⟨?_, finishedRow cfg e f now, hf.mem_executions.mpr (.inl rfl), hid.symm, horder.symm⟩
    rw [horder, ← hf.owns]
    exact h.keeps_journal hfit.2.2.2

theorem reachable_reopened {s : Sys} (h : (machine cfg).Reachable s) : ReopenedSettled s.db :=
  (reachable_invariant (I := fun db => Booked cfg db ∧ ReopenedSettled db) ⟨.empty, fun _ hev => (by cases hev)⟩
    (fun _ _ _ hs hi heff => ⟨hi.1.effect hs.desk heff, hi.2.effect hs hi.1 heff⟩) h).2.2

/-- No transaction confirms an execution whose order is settled already. -/
theorem markConfirmed_refused {r : Readings} {e : ExecutionRow} {executionId subjectId : Id} {actor : String}
    {receipt : WalletReceipt} (hp : Paired cfg db) (he : e ∈ db.executions) (hid : e.executionId = executionId)
    (hst : e.status ∈ [ExecutionStatus.broadcast, .unknown]) (hset : HasJournal db e.orderId .settlement)
    (row : ExecutionRow) (db' : DB) :
    (Mark.confirmed receipt).apply cfg db r executionId subjectId actor ≠ .ok (row, db') := by
  intro h
  obtain ⟨x, hx, hxid, -, now, settled, ⟨hnot, -⟩ | ⟨-, -, o, a, f, hw, hf⟩⟩ := Mark.apply_ok hp h
  · have hxe : x = e := Table.eq_of_key hx he (hxid.trans hid.symm)
    subst hxe
    exact hnot hst
  · have hxe : x = e := Table.eq_of_key hx he (hxid.trans hid.symm)
    subst hxe
    cases hw with
    | confirmed htx =>
      obtain ⟨journalId, posted, debitId, creditId, hpost⟩ := hf.moved.ledger
      obtain ⟨j, hj, hjo, hjt⟩ := hset
      exact hpost.absent j hj (hjo.trans hf.owns.symm) hjt

/-- The order is confirmed with its execution and its latest attempt, and settled once. -/
def Reconfirmed (db : DB) (e : ExecutionRow) : Prop :=
  (∀ o ∈ db.orders, o.orderId = e.orderId → o.status = .confirmed) ∧
    (∀ x ∈ db.executions, x.executionId = e.executionId → x.status = .confirmed) ∧
    (∀ a ∈ db.attempts, a.executionId = e.executionId → a.attemptNumber = e.attemptCount → a.status = .confirmed) ∧
    (db.journals.rows.filter (fun j => j.orderId = e.orderId ∧ j.journalType = .settlement)).length = 1

/-- A receipt of a reopened order confirms it again, through `poll_receipt` and through `retry_unknown`. -/
def Recovers (cfg : Config) (db : DB) (e : ExecutionRow) (r : Readings) (actor reason : String)
    (reply : String → ReceiptReply) (answer : SignerAnswer) : Prop :=
  (∃ row db', pollReceipt cfg db r e.executionId e.subjectId actor reply = .ok (row, db') ∧ Reconfirmed db' e) ∧
    (∃ row db', retryUnknown cfg db r e.orderId e.subjectId actor reason reply answer = (.ok row, db') ∧
      Reconfirmed db' e)

theorem Paired.orderExecution_eq (hp : Paired cfg db) {e : ExecutionRow} (he : e ∈ db.executions) :
    db.orderExecution e.orderId e.subjectId = some e := by
  cases hf : db.orderExecution e.orderId e.subjectId with
  | none => simpa using List.find?_eq_none.mp hf e he
  | some x =>
    have hx := List.find?_some hf
    simp only [decide_eq_true_eq] at hx
    rw [hp.one_execution e he x (List.mem_of_find?_eq_some hf) hx.1]

theorem executionRow_of_mem {e : ExecutionRow} (he : e ∈ db.executions) :
    db.executionRow e.executionId e.subjectId = .ok e :=
  executionRow_eq_ok.mpr ⟨Table.find?_key he, rfl⟩

section
variable {s : Sys} {event : ReconciliationEvent} {e : ExecutionRow} {reply : String → ReceiptReply}
  {receipt : WalletReceipt} {error : Option String}

theorem reopened_settled (h : (machine cfg).Reachable s) (hev : event ∈ s.db.events) (he : e ∈ s.db.executions)
    (hid : e.executionId = event.executionId) : HasJournal s.db e.orderId .settlement := by
  obtain ⟨hset, x, hx, hxid, hxorder⟩ := reachable_reopened h event hev
  have hxe : x = e := Table.eq_of_key hx he (hxid.trans hid.symm)
  rwa [← hxe, hxorder]

theorem pollReceipt_refused (hp : Paired cfg db) (he : e ∈ db.executions)
    (hst : e.status ∈ [ExecutionStatus.broadcast, .unknown]) (hset : HasJournal db e.orderId .settlement)
    (hlook : lookupReceipt cfg db e reply = .ok (some receipt, error)) (hok : receipt.status = 1)
    (r : Readings) (actor : String) (row : ExecutionRow) (db' : DB) :
    pollReceipt cfg db r e.executionId e.subjectId actor reply ≠ .ok (row, db') := by
  intro hrun
  simp only [pollReceipt, pollTerms, bind_eq_ok, Except.ok.injEq] at hrun
  obtain ⟨-, ⟨actor, -, -, -, y, hy, rfl⟩, hrun⟩ := hrun
  rw [executionRow_of_mem he, Except.ok.injEq] at hy
  subst hy
  have hmark : receiptMark receipt = .confirmed receipt := if_pos hok
  simp only [hst, not_true, if_false, hlook, pollMark, hmark, ok_bind] at hrun
  exact markConfirmed_refused hp he rfl hst hset _ _ hrun

theorem retryUnknown_refused (hp : Paired cfg db) (he : e ∈ db.executions)
    (hst : e.status ∈ [ExecutionStatus.broadcast, .unknown]) (hset : HasJournal db e.orderId .settlement)
    (hlook : lookupReceipt cfg db e reply = .ok (some receipt, error)) (hok : receipt.status = 1)
    (r : Readings) (actor reason : String) (answer : SignerAnswer) (row : ExecutionRow) (db' : DB) :
    retryUnknown cfg db r e.orderId e.subjectId actor reason reply answer ≠ (.ok row, db') := by
  intro hrun
  have hmark : receiptMark receipt = .confirmed receipt := if_pos hok
  have hfound : retryLookup cfg db e.orderId e.subjectId reply = .ok (some (e, receipt)) := by
    simp [retryLookup, hp.orderExecution_eq he, hlook]
  unfold retryUnknown at hrun
  split at hrun
  · simp at hrun
  · simp only [hfound, hmark] at hrun
    split at hrun
    · next happly => exact markConfirmed_refused hp he rfl hst hset _ _ happly
    · simp at hrun

/-- In every state that a run reaches, neither `poll_receipt` nor the receipt branch of `retry_unknown` brings a
reopened order back: both fail, whatever the receipt. -/
theorem reopened_order_not_reconfirmed (h : (machine cfg).Reachable s) (hev : event ∈ s.db.events)
    (he : e ∈ s.db.executions) (hid : e.executionId = event.executionId)
    (hst : e.status ∈ [ExecutionStatus.broadcast, .unknown])
    (hlook : lookupReceipt cfg s.db e reply = .ok (some receipt, error)) (hok : receipt.status = 1)
    (r : Readings) (actor reason : String) (answer : SignerAnswer) :
    (∀ row db', pollReceipt cfg s.db r e.executionId e.subjectId actor reply ≠ .ok (row, db')) ∧
      (∀ row db', retryUnknown cfg s.db r e.orderId e.subjectId actor reason reply answer ≠ (.ok row, db')) ∧
      ¬Recovers cfg s.db e r actor reason reply answer := by
  have hp := (reachable_sound h).paired
  have hset := reopened_settled h hev he hid
  have hpoll := pollReceipt_refused hp he hst hset hlook hok r actor
  refine ⟨hpoll, retryUnknown_refused hp he hst hset hlook hok r actor reason answer, ?_⟩
  rintro ⟨⟨row, db', hrun, -⟩, -⟩
  exact hpoll row db' hrun

end

/-- The confirmed order is reopened. -/
def sampleReopened : List Action := sampleSettled ++
  [.store (readingsAt 2400 "m") (.markReconcileRequired "wallet_exec_j2" "subject-1" "operator" "reorganized")]

def sampleReply (tx : String) : ReceiptReply := .receipt (sampleReceipt tx 1)

theorem sampleReopened_found :
    ∃ event ∈ (sampleState sampleReopened).db.events.rows, ∃ e ∈ (sampleState sampleReopened).db.executions.rows,
      e.executionId = event.executionId ∧ e.status = .unknown ∧
        lookupReceipt .sample (sampleState sampleReopened).db e sampleReply =
          .ok (some (sampleReceipt (sampleHash 7) 1), none) := by
  decide +kernel

theorem sampleReopened_not_reconfirmed :
    ∃ e ∈ (sampleState sampleReopened).db.executions,
      ¬Recovers .sample (sampleState sampleReopened).db e (readingsAt 2500 "n") "operator" "again" sampleReply
        .exception := by
  obtain ⟨event, hev, e, he, hid, hst, hlook⟩ := sampleReopened_found
  exact ⟨e, he, (reopened_order_not_reconfirmed (sampleState_reachable sampleReopened) hev he hid
    (by simp [hst]) hlook rfl _ _ _ _).2.2⟩

/-- The receipt of the reopened order comes back, and the order does not. -/
theorem reopened_order_stays_unknown :
    ¬∀ (cfg : Config) (s : Sys), (machine cfg).Reachable s → ∀ event ∈ s.db.events, ∀ e ∈ s.db.executions,
      e.executionId = event.executionId → e.status = .unknown → ∀ reply receipt error,
        lookupReceipt cfg s.db e reply = .ok (some receipt, error) → receipt.status = 1 →
          ∀ r actor reason answer, operator actor = .ok actor →
            Recovers cfg s.db e r actor reason reply answer := by
  intro h
  obtain ⟨event, hev, e, he, hid, hst, hlook⟩ := sampleReopened_found
  have hreach := sampleState_reachable sampleReopened
  obtain ⟨⟨row, db', hrun, -⟩, -⟩ := h .sample _ hreach event hev e he hid hst sampleReply _ _ hlook rfl
    (readingsAt 2500 "n") "operator" "again" .exception (by decide)
  exact pollReceipt_refused (reachable_sound hreach).paired he (by simp [hst]) (reopened_settled hreach hev he hid)
    hlook rfl _ _ row db' hrun

end Noyra.Wallet.Proofs
