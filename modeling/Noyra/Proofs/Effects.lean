import Noyra.Wallet.Calls
import Noyra.Proofs.Writes

/-!
# What a transaction can do to a payment

Orders, executions and attempts change together. The invariant `Paired` ties an execution to its order;
under it every marking transaction has one normal form, and every transaction of the wallet is one of a
few effects. Later invariants are checked against the effects only.
-/

namespace Noyra.Wallet.Proofs
open Noyra.Lib

variable {cfg : Config} {db db' : DB}

/-- Statuses of an order and of its execution that go together. -/
def Agrees (s : OrderStatus) (x : ExecutionStatus) : Prop := s = x.order ∨ (s = .refunded ∧ x = .failed)

structure Matches (o : OrderRow) (e : ExecutionRow) : Prop where
  order : o.orderId = e.orderId
  subject : o.subjectId = e.subjectId
  network : o.networkId = e.networkId
  asset : o.assetId = e.assetId
  recipient : o.recipientAddress = e.recipientAddress
  amount : o.amount = e.amount
  status : Agrees o.status e.status

/-- Statuses that only an order with an execution has. -/
def executedStatus : List OrderStatus := [.signing, .broadcast, .unknown, .confirmed, .failed, .refunded]

/-- While an attempt is open, the row carries no error and no receipt. -/
def Quiet (e : ExecutionRow) : Prop :=
  e.status = .signing ∨ e.status = .broadcast → e.errorCode = none ∧ e.receipt = .null

/-- The stored request hash is that of the envelope rebuilt from the row. -/
def Rebuilds (cfg : Config) (e : ExecutionRow) : Prop :=
  ∃ t, buildTransfer e.intent = .ok t ∧ e.requestHash = cfg.contentHash t.dump

structure Paired (cfg : Config) (db : DB) : Prop where
  order_sealed : ∀ o ∈ db.orders, o.Sealed cfg
  execution_sealed : ∀ e ∈ db.executions, e.Sealed cfg
  quiet : ∀ e ∈ db.executions, Quiet e
  rebuilds : ∀ e ∈ db.executions, Rebuilds cfg e
  order_of : ∀ e ∈ db.executions, ∃ o ∈ db.orders, Matches o e
  execution_of : ∀ o ∈ db.orders, o.status ∈ executedStatus → ∃ e ∈ db.executions, e.orderId = o.orderId
  one_execution : ∀ e ∈ db.executions, ∀ x ∈ db.executions, x.orderId = e.orderId → x = e
  separate : ∀ e ∈ db.executions, Clear db e

theorem Paired.matches (hp : Paired cfg db) {o : OrderRow} {e : ExecutionRow} (ho : o ∈ db.orders)
    (he : e ∈ db.executions) (h : o.orderId = e.orderId) : Matches o e := by
  obtain ⟨o', ho', hm⟩ := hp.order_of e he
  rwa [Table.eq_of_key ho ho' (h.trans hm.order.symm)]

theorem indexConflict_comm (x e : ExecutionRow) : DB.indexConflict x e = DB.indexConflict e x := by
  rw [Bool.eq_iff_iff]
  simp only [DB.indexConflict, Bool.and_eq_true, Bool.or_eq_true, beq_iff_eq]
  constructor <;> rintro ⟨⟨h₁, h₂⟩, h | h⟩ <;> refine ⟨⟨h₁.symm, h₂.symm⟩, ?_⟩
  · exact .inl ⟨⟨⟨h.1.1.1.symm, h.1.1.2.symm⟩, h.2⟩, h.1.2⟩
  · exact .inr ⟨h.2 ▸ h.1, h.2.symm⟩
  · exact .inl ⟨⟨⟨h.1.1.1.symm, h.1.1.2.symm⟩, h.2⟩, h.1.2⟩
  · exact .inr ⟨h.2 ▸ h.1, h.2.symm⟩

/-- The journal that a transition of an order posts. -/
def postingOf (source : OrderStatus) : OrderStatus → Option JournalType
  | .reserved => some .reservation
  | .cancelled => if source = .reserved then some .release else none
  | .confirmed => some .settlement
  | .refunded => some .refund
  | _ => none

def LedgerStep (cfg : Config) (db db' : DB) (o : OrderRow) : Option JournalType → Prop
  | none => SameLedger db db'
  | some t => ∃ journalId now debitId creditId, Posted cfg db db' o t journalId now debitId creditId

/-- The order `o` moves to `target`, with the journal the move posts. -/
structure Moved (cfg : Config) (db db' : DB) (o : OrderRow) (target : OrderStatus) (now : Time) : Prop where
  found : db.orders.find? o.orderId = some o
  allowed : target ∈ orderTransitions o.status
  orders : db'.orders = db.orders.replace (movedOrder cfg o target now)
  ledger : LedgerStep cfg db db' o (postingOf o.status target)

theorem Moved.mem {o : OrderRow} {target : OrderStatus} {now : Time} (h : Moved cfg db db' o target now) :
    o ∈ db.orders :=
  (Table.find?_eq_some.mp h.found).1

/-- What a marking transaction writes on the execution and its latest attempt. -/
structure Finish where
  status : ExecutionStatus
  txHash : Option String
  errorCode : Option String
  receipt : ReceiptColumns

def finishedRow (cfg : Config) (e : ExecutionRow) (f : Finish) (now : Time) : ExecutionRow :=
  { e with
    status := f.status, txHash := f.txHash, errorCode := f.errorCode, receipt := f.receipt, updatedAt := now,
    stateHash := executionHashValuesFromRow cfg e f.status f.txHash f.errorCode f.receipt e.attemptCount now }

/-- The normal form of the marking transactions. -/
structure Finished (cfg : Config) (db db' : DB) (o : OrderRow) (e : ExecutionRow) (a : AttemptRow) (f : Finish)
    (now settled : Time) : Prop where
  moved : Moved cfg db db' o f.status.order settled
  owns : o.orderId = e.orderId
  found : db.executions.find? e.executionId = some e
  allowed : f.status ∈ executionTransitions e.status
  clear : Clear db (finishedRow cfg e f now)
  executions : db'.executions = db.executions.replace (finishedRow cfg e f now)
  latest : Latest db e a
  attempts : db'.attempts = db.attempts.replace (finishedAttempt cfg a f.status f.txHash f.errorCode now)
  desk : SameDesk db db'

theorem Finished.mem {o : OrderRow} {e : ExecutionRow} {a : AttemptRow} {f : Finish} {now settled : Time}
    (h : Finished cfg db db' o e a f now settled) : e ∈ db.executions :=
  (Table.find?_eq_some.mp h.found).1

/-- A ledger step whose journal is posted after a change of other tables. -/
theorem LedgerStep.congr {db₁ db₂ db₃ db₄ : DB} {o : OrderRow} {t : Option JournalType}
    (h : LedgerStep cfg db₂ db₃ o t) (h₁ : SameLedger db₁ db₂) (h₂ : SameLedger db₃ db₄) :
    LedgerStep cfg db₁ db₄ o t := by
  cases t with
  | none => exact (h₁.trans h).trans h₂
  | some t =>
    obtain ⟨j, n, d, c, hp⟩ := h
    refine ⟨j, n, d, c, ?_, ?_, ?_, ?_⟩
    · simpa [h₁.journals] using hp.absent
    · simpa [h₁.journals] using hp.fresh
    · simpa [h₁.journals, h₂.journals] using hp.journals
    · simpa [h₁.entries, h₂.entries] using hp.entries

/-- The ledger step of a move that posts nothing. -/
theorem quiet_ledger {o : OrderRow} {t : Option JournalType} (ht : t = none) :
    LedgerOnly db db ∧ LedgerStep cfg db db o t := by
  subst ht
  exact ⟨⟨rfl, ⟨rfl, rfl⟩, rfl, .refl db⟩, SameLedger.refl db⟩

/-- Transition, journal, update and attempt, in the order in which a marking transaction makes them. -/
theorem finished_of {r : Readings} {o : OrderRow} {e marked : ExecutionRow} {f : Finish} {now : Time}
    {actor reason : String} {db₀ db₁ db₂ db₃ db₄ : DB} (h₀ : LogOnly db db₀)
    (ho : db.orders.find? o.orderId = some o) (howns : o.orderId = e.orderId)
    (he : db.executions.find? e.executionId = some e)
    (h₁ : transitionOrder cfg db₀ r o f.status.order actor reason = .ok db₁)
    (h₂ : LedgerOnly db₁ db₂ ∧ LedgerStep cfg db₁ db₂ o (postingOf o.status f.status.order))
    (hmarked : marked = finishedRow cfg e f now)
    (h₃ : db₂.updateExecution marked = .ok db₃)
    (h₄ : finishAttempt cfg db₃ e f.status f.txHash f.errorCode now = .ok db₄) :
    ∃ a, Finished cfg db db₄ o e a f now (r 0).clock ∧ db₄.events = db.events := by
  obtain ⟨hallowed, horders, hf₁⟩ := transitionOrder_ok h₁
  obtain ⟨hf₂, hledger⟩ := h₂
  obtain ⟨hx₂, ha₂⟩ : SameExecutions db db₂ := (h₀.executions.trans hf₁.executions).trans hf₂.executions
  subst hmarked
  have he₂ : db₂.executions.find? (finishedRow cfg e f now).executionId = some e := by rw [hx₂]; exact he
  obtain ⟨hx, hclear, hexec, hf₃⟩ := updateExecution_ok he₂ h₃
  obtain ⟨a, hlatest, -, hatt, hf₄⟩ := finishAttempt_ok h₄
  refine ⟨a, ⟨⟨ho, hallowed, ?_, ?_⟩, howns, he, hx, ?_, ?_, ?_, ?_, ?_⟩, ?_⟩
  · rw [hf₄.orders, hf₃.orders, hf₂.orders, horders, h₀.orders]
  · exact hledger.congr (h₀.ledger.trans hf₁.ledger) (hf₃.ledger.trans hf₄.ledger)
  · simpa [Clear, hx₂] using hclear
  · rw [hf₄.executions, hexec, hx₂]
  · simpa [Latest, hf₃.attempts, ha₂] using hlatest
  · rw [hatt, hf₃.attempts, ha₂]
  · exact (((h₀.desk.trans hf₁.desk).trans hf₂.desk).trans hf₃.desk).trans hf₄.desk
  · rw [hf₄.events, hf₃.events, hf₂.events, hf₁.events, h₀.events]

theorem quietRow_eq {e : ExecutionRow} (hq : Quiet e) (hs : e.status = .signing ∨ e.status = .broadcast) :
    { e with errorCode := none, receipt := .null } = e := by
  obtain ⟨he, hr⟩ := hq hs
  cases e
  simp_all

theorem Agrees.eq_order {s : OrderStatus} {x : ExecutionStatus} (h : Agrees s x) (hs : s ≠ .refunded) :
    s = x.order :=
  h.resolve_right (fun hr => hs hr.1)

theorem order_injective {x y : ExecutionStatus} (h : x.order = y.order) : x = y := by
  cases x <;> cases y <;> simp_all [ExecutionStatus.order]

theorem order_ne (x : ExecutionStatus) : x.order ≠ .expired ∧ x.order ≠ .refunded := by
  cases x <;> simp [ExecutionStatus.order]

/-- The status of an execution whose order is not refunded. -/
theorem Paired.status_eq (hp : Paired cfg db) {o : OrderRow} {e : ExecutionRow} {x : ExecutionStatus}
    (ho : o ∈ db.orders) (he : e ∈ db.executions) (h : o.orderId = e.orderId) (hs : o.status = x.order) :
    e.status = x := by
  have hne : o.status ≠ .refunded := by
    rw [hs]
    cases x <;> simp [ExecutionStatus.order]
  exact order_injective (((hp.matches ho he h).status.eq_order hne).symm.trans hs)

/-- The status of an order that is being executed is that of its execution. -/
theorem Paired.status_iff (hp : Paired cfg db) {o : OrderRow} {e : ExecutionRow} (x : ExecutionStatus)
    (ho : o ∈ db.orders) (he : e ∈ db.executions) (h : o.orderId = e.orderId) (hx : x ≠ .failed) :
    o.status = x.order ↔ e.status = x := by
  refine ⟨hp.status_eq ho he h, ?_⟩
  rintro rfl
  exact (hp.matches ho he h).status.resolve_right (fun hr => hx hr.2)

/-! ### Marks -/

/-- What `_mark_broadcast` writes. -/
def broadcastFinish (tx : String) : Finish := ⟨.broadcast, some tx, none, .null⟩

/-- What `_mark_unknown` writes. -/
def unknownFinish (e : ExecutionRow) (tx : Option String) (code : String) : Finish :=
  ⟨.unknown, (unknownHash e tx code).1, some (unknownHash e tx code).2, .null⟩

/-- What `_mark_failed` writes. -/
def failedFinish (tx : Option String) (code : String) (receipt : Option WalletReceipt) : Finish :=
  ⟨.failed, tx, some code, failureReceipt receipt⟩

/-- What `_mark_confirmed` writes. -/
def confirmedFinish (tx : String) (receipt : WalletReceipt) : Finish :=
  ⟨.confirmed, some tx, none, confirmedReceipt receipt⟩

/-- What a mark writes on an execution. -/
inductive Writes (e : ExecutionRow) : Mark → Finish → Prop
  | broadcast {result : WalletBroadcastResult} {tx : String} : txHash result.txHash = some tx →
      Writes e (.broadcast result) (broadcastFinish tx)
  | unknown {tx : Option String} {code : String} : Writes e (.unknown tx code) (unknownFinish e tx code)
  | failed {tx : Option String} {code : String} {receipt : Option WalletReceipt} : failureHash e receipt = .ok tx →
      Writes e (.failed code receipt) (failedFinish tx code receipt)
  | confirmed {tx : String} {receipt : WalletReceipt} : txHash receipt.txHash = some tx →
      Writes e (.confirmed receipt) (confirmedFinish tx receipt)

/-- The statuses in which a mark acts; in the others it leaves the database alone. -/
def actsOn : Mark → List ExecutionStatus
  | .broadcast _ => [.signing]
  | .unknown .. => [.signing, .broadcast]
  | .failed .. => [.signing, .broadcast, .unknown]
  | .confirmed _ => [.broadcast, .unknown]

/-- A mark that has committed: it found the execution in another status, or it wrote its finish. -/
def Marked (cfg : Config) (db db' : DB) (e : ExecutionRow) (mark : Mark) (now settled : Time) : Prop :=
  (e.status ∉ actsOn mark ∧ db' = db) ∨
    (e.status ∈ actsOn mark ∧ db'.events = db.events ∧
      ∃ o a f, Writes e mark f ∧ Finished cfg db db' o e a f now settled)

theorem markBroadcast_ok {r : Readings} {executionId subjectId : Id} {actor : String}
    {result : WalletBroadcastResult} {row : ExecutionRow} (hp : Paired cfg db)
    (h : markBroadcast cfg db r executionId subjectId actor result = .ok (row, db')) :
    ∃ e ∈ db.executions, e.executionId = executionId ∧ e.subjectId = subjectId ∧
      Marked cfg db db' e (.broadcast result) (r 3).utc (r 1).clock := by
  simp only [markBroadcast, bind_eq_ok, executionRow_eq_ok, orderRow_eq_ok] at h
  obtain ⟨e, ⟨he, hes⟩, o, ⟨ho, -⟩, h⟩ := h
  obtain ⟨hem, rfl⟩ := Table.find?_eq_some.mp he
  obtain ⟨hom, hok⟩ := Table.find?_eq_some.mp ho
  have hst := hp.status_iff .signing hom hem hok (by decide)
  refine ⟨e, hem, rfl, hes, ?_⟩
  by_cases hs : o.status = .signing
  · right
    simp only [hs, ne_eq, not_true, if_false, bind_eq_ok, orRaise_eq_ok, raiseIf_eq_ok, Except.ok.injEq,
      Prod.mk.injEq] at h
    obtain ⟨tx, htx, -, -, -, -, db₁, h₁, db₂, h₂, db₃, h₃, -, rfl⟩ := h
    have hq := quietRow_eq (hp.quiet e hem) (.inl (hst.mp hs))
    obtain ⟨a, hf, hev⟩ := finished_of (f := broadcastFinish tx) (audit_logOnly ..) (hok ▸ ho) hok he h₁
      (quiet_ledger rfl) (by rw [finishedRow]; simp only [broadcastFinish]; rw [← hq]) h₂ h₃
    exact ⟨by simp [actsOn, hst.mp hs], hev, o, a, _, .broadcast htx, hf⟩
  · left
    simp only [hs, ne_eq, not_false_iff, if_true, Except.ok.injEq, Prod.mk.injEq] at h
    exact ⟨by simpa [actsOn] using fun hk => hs (hst.mpr hk), h.2.symm⟩

theorem markUnknown_ok {r : Readings} {executionId subjectId : Id} {actor code : String} {tx : Option String}
    {row : ExecutionRow} (hp : Paired cfg db)
    (h : markUnknown cfg db r executionId subjectId actor tx code = .ok (row, db')) :
    ∃ e ∈ db.executions, e.executionId = executionId ∧ e.subjectId = subjectId ∧
      Marked cfg db db' e (.unknown tx code) (r 3).utc (r 1).clock := by
  simp only [markUnknown, bind_eq_ok, executionRow_eq_ok, orderRow_eq_ok] at h
  obtain ⟨e, ⟨he, hes⟩, o, ⟨ho, -⟩, h⟩ := h
  obtain ⟨hem, rfl⟩ := Table.find?_eq_some.mp he
  obtain ⟨hom, hok⟩ := Table.find?_eq_some.mp ho
  have hst : o.status ∈ [OrderStatus.signing, .broadcast] ↔ e.status ∈ actsOn (.unknown tx code) := by
    simp only [actsOn, List.mem_cons, List.not_mem_nil, or_false]
    exact or_congr (hp.status_iff .signing hom hem hok (by decide)) (hp.status_iff .broadcast hom hem hok (by decide))
  refine ⟨e, hem, rfl, hes, ?_⟩
  by_cases hs : o.status ∈ [OrderStatus.signing, .broadcast]
  · right
    simp only [hs, not_true, if_false, bind_eq_ok, Except.ok.injEq, Prod.mk.injEq] at h
    obtain ⟨db₁, h₁, db₂, h₂, db₃, h₃, -, rfl⟩ := h
    have hq := quietRow_eq (hp.quiet e hem) (by simpa [actsOn] using hst.mp hs)
    obtain ⟨a, hf, hev⟩ := finished_of (f := unknownFinish e tx code) (audit_logOnly ..) (hok ▸ ho) hok he h₁
      (quiet_ledger rfl) (by rw [finishedRow]; simp only [unknownFinish]; rw [← hq]) h₂ h₃
    exact ⟨hst.mp hs, hev, o, a, _, .unknown, hf⟩
  · left
    simp only [hs, not_false_iff, if_true, Except.ok.injEq, Prod.mk.injEq] at h
    exact ⟨fun hk => hs (hst.mpr hk), h.2.symm⟩

theorem markFailed_ok {r : Readings} {executionId subjectId : Id} {actor code : String}
    {receipt : Option WalletReceipt} {row : ExecutionRow} (hp : Paired cfg db)
    (h : markFailed cfg db r executionId subjectId actor code receipt = .ok (row, db')) :
    ∃ e ∈ db.executions, e.executionId = executionId ∧ e.subjectId = subjectId ∧
      Marked cfg db db' e (.failed code receipt) (r 3).utc (r 1).clock := by
  simp only [markFailed, bind_eq_ok, executionRow_eq_ok, orderRow_eq_ok] at h
  obtain ⟨e, ⟨he, hes⟩, o, ⟨ho, -⟩, h⟩ := h
  obtain ⟨hem, rfl⟩ := Table.find?_eq_some.mp he
  obtain ⟨hom, hok⟩ := Table.find?_eq_some.mp ho
  have hst : o.status ∈ [OrderStatus.signing, .broadcast, .unknown] ↔ e.status ∈ actsOn (.failed code receipt) := by
    simp only [actsOn, List.mem_cons, List.not_mem_nil, or_false]
    exact or_congr (hp.status_iff .signing hom hem hok (by decide)) (or_congr
      (hp.status_iff .broadcast hom hem hok (by decide)) (hp.status_iff .unknown hom hem hok (by decide)))
  refine ⟨e, hem, rfl, hes, ?_⟩
  by_cases hs : o.status ∈ [OrderStatus.signing, .broadcast, .unknown]
  · right
    simp only [hs, not_true, if_false, bind_eq_ok, Except.ok.injEq, Prod.mk.injEq] at h
    obtain ⟨tx, htx, db₁, h₁, db₂, h₂, db₃, h₃, -, rfl⟩ := h
    obtain ⟨a, hf, hev⟩ := finished_of (f := failedFinish tx code receipt) (audit_logOnly ..) (hok ▸ ho) hok he h₁
      (quiet_ledger rfl) rfl h₂ h₃
    exact ⟨hst.mp hs, hev, o, a, _, .failed htx, hf⟩
  · left
    simp only [hs, not_false_iff, if_true, Except.ok.injEq, Prod.mk.injEq] at h
    exact ⟨fun hk => hs (hst.mpr hk), h.2.symm⟩

theorem markConfirmed_ok {r : Readings} {executionId subjectId : Id} {actor : String} {receipt : WalletReceipt}
    {row : ExecutionRow} (hp : Paired cfg db)
    (h : markConfirmed cfg db r executionId subjectId actor receipt = .ok (row, db')) :
    ∃ e ∈ db.executions, e.executionId = executionId ∧ e.subjectId = subjectId ∧
      Marked cfg db db' e (.confirmed receipt) (r 7).utc (r 1).clock := by
  simp only [markConfirmed, bind_eq_ok, executionRow_eq_ok, orderRow_eq_ok] at h
  obtain ⟨e, ⟨he, hes⟩, o, ⟨ho, -⟩, h⟩ := h
  obtain ⟨hem, rfl⟩ := Table.find?_eq_some.mp he
  obtain ⟨hom, hok⟩ := Table.find?_eq_some.mp ho
  refine ⟨e, hem, rfl, hes, ?_⟩
  by_cases hs : o.status = .confirmed
  · left
    have hst := (hp.status_iff .confirmed hom hem hok (by decide)).mp hs
    simp only [hs, if_true, Except.ok.injEq, Prod.mk.injEq] at h
    exact ⟨by simp [actsOn, hst], h.2.symm⟩
  · right
    simp only [hs, if_false, bind_eq_ok, raiseIf_eq_ok, orRaise_eq_ok, Except.ok.injEq, Prod.mk.injEq] at h
    obtain ⟨-, hwait, tx, htx, db₁, h₁, db₂, h₂, db₃, h₃, db₄, h₄, -, rfl⟩ := h
    obtain ⟨a, hf, hev⟩ := finished_of (f := confirmedFinish tx receipt) (audit_logOnly ..) (hok ▸ ho) hok he h₁
      (postOrderJournal_ok h₂) rfl h₃ h₄
    refine ⟨?_, hev, o, a, _, .confirmed htx, hf⟩
    simp only [not_not, List.mem_cons, List.not_mem_nil, or_false] at hwait
    simp only [actsOn, List.mem_cons, List.not_mem_nil, or_false]
    exact hwait.imp (hp.status_eq (x := .broadcast) hom hem hok) (hp.status_eq (x := .unknown) hom hem hok)

theorem Mark.apply_ok {r : Readings} {executionId subjectId : Id} {actor : String} {mark : Mark}
    {row : ExecutionRow} (hp : Paired cfg db) (h : mark.apply cfg db r executionId subjectId actor = .ok (row, db')) :
    ∃ e ∈ db.executions, e.executionId = executionId ∧ e.subjectId = subjectId ∧
      ∃ now settled, Marked cfg db db' e mark now settled := by
  cases mark with
  | broadcast result =>
    obtain ⟨e, he, hid, hsub, hm⟩ := markBroadcast_ok hp h
    exact ⟨e, he, hid, hsub, _, _, hm⟩
  | unknown tx code =>
    obtain ⟨e, he, hid, hsub, hm⟩ := markUnknown_ok hp h
    exact ⟨e, he, hid, hsub, _, _, hm⟩
  | failed code receipt =>
    obtain ⟨e, he, hid, hsub, hm⟩ := markFailed_ok hp h
    exact ⟨e, he, hid, hsub, _, _, hm⟩
  | confirmed receipt =>
    obtain ⟨e, he, hid, hsub, hm⟩ := markConfirmed_ok hp h
    exact ⟨e, he, hid, hsub, _, _, hm⟩

/-- What `mark_reconcile_required` writes. -/
def reconcileFinish (e : ExecutionRow) : Finish :=
  ⟨.unknown, e.txHash, some "reconcile_required", e.receipt⟩

theorem markReconcileRequired_ok {r : Readings} {executionId subjectId : Id} {actor reason : String}
    {row : ExecutionRow} (h : markReconcileRequired cfg db r executionId subjectId actor reason = .ok (row, db')) :
    db' = db ∨ ∃ o e a event, e.executionId = executionId ∧ e.subjectId = subjectId ∧ e.status = .confirmed ∧
      event.orderId = e.orderId ∧ event.executionId = e.executionId ∧
      db.events.insert? event = some db'.events ∧
      Finished cfg db db' o e a (reconcileFinish e) (r 0).utc (r 2).clock := by
  simp only [markReconcileRequired, bind_eq_ok, executionRow_eq_ok] at h
  obtain ⟨actor, -, reason, -, e, ⟨he, hes⟩, h⟩ := h
  obtain ⟨hem, rfl⟩ := Table.find?_eq_some.mp he
  by_cases hs : e.status = .confirmed
  · right
    simp only [hs, ne_eq, not_true, if_false, bind_eq_ok, orderRow_eq_ok, raiseIf_eq_ok, Except.ok.injEq,
      Prod.mk.injEq] at h
    obtain ⟨o, ⟨ho, -⟩, -, -, db₁, h₁, db₂, h₂, db₃, h₃, db₄, h₄, -, rfl⟩ := h
    obtain ⟨hom, hok⟩ := Table.find?_eq_some.mp ho
    obtain ⟨a, hf, hev⟩ := finished_of (f := reconcileFinish e) (audit_logOnly ..) (hok ▸ ho) hok he h₁
      (quiet_ledger rfl) rfl h₂ h₃
    simp only [DB.insertEvent, bind_eq_ok, orRaise_eq_ok, Except.ok.injEq] at h₄
    obtain ⟨events, hins, rfl⟩ := h₄
    rw [hev] at hins
    have hdesk : SameDesk db { db₃ with events } := hf.desk.trans ⟨rfl, rfl, rfl, rfl, rfl, rfl, rfl⟩
    refine ⟨o, e, a, _, rfl, hes, hs, ?_, ?_, hins, ⟨hf.moved.found, hf.moved.allowed, hf.moved.orders,
      hf.moved.ledger.congr (.refl db) ⟨rfl, rfl⟩⟩, hf.owns, hf.found, hf.allowed, hf.clear, hf.executions,
      hf.latest, hf.attempts, hdesk⟩ <;> rfl
  · left
    simp only [hs, ne_eq, not_false_iff, if_true, Except.ok.injEq, Prod.mk.injEq] at h
    exact h.2.symm

/-- What a restart writes on an open attempt. -/
def recoveredFinish (e : ExecutionRow) : Finish := ⟨.unknown, e.txHash, some "process_restarted", .null⟩

theorem recoverExecution_ok {r : Readings} {executionId subjectId : Id} {actor : String}
    (h : recoverExecution cfg db r executionId subjectId actor = .ok db') :
    db' = db ∨ ∃ o e a, e.executionId = executionId ∧ e.subjectId = subjectId ∧ e.status = .signing ∧
      db'.events = db.events ∧
      Finished cfg db db' o e a (recoveredFinish e) (r 3).utc (r 1).clock := by
  unfold recoverExecution at h
  split at h
  · left
    exact (Except.ok.inj h).symm
  · next e hf =>
    right
    simp only [Option.filter_eq_some_iff, decide_eq_true_eq] at hf
    obtain ⟨he, hes, hst⟩ := hf
    obtain ⟨hem, rfl⟩ := Table.find?_eq_some.mp he
    simp only [bind_eq_ok, orderRow_eq_ok, raiseIf_eq_ok] at h
    obtain ⟨o, ⟨ho, -⟩, -, -, db₁, h₁, db₂, h₂, h₃⟩ := h
    obtain ⟨hom, hok⟩ := Table.find?_eq_some.mp ho
    obtain ⟨a, hf, hev⟩ := finished_of (f := recoveredFinish e) (audit_logOnly ..) (hok ▸ ho) hok he h₁
      (quiet_ledger rfl) rfl h₂ h₃
    exact ⟨o, e, a, rfl, hes, hst, hev, hf⟩

/-- The finishes that the transactions write on an execution. -/
inductive Finish.Of (e : ExecutionRow) : Finish → Prop
  | mark {mark : Mark} {f : Finish} : e.status ∈ actsOn mark → Writes e mark f → Of e f
  | reconcile : e.status = .confirmed → Of e (reconcileFinish e)
  | recovered : e.status = .signing → Of e (recoveredFinish e)

/-- Open attempts carry no error and no receipt after a finish, and no finish opens an attempt. -/
theorem Finish.Of.quiet {e : ExecutionRow} {f : Finish} (h : f.Of e) :
    f.status ≠ .signing ∧ (f.status = .broadcast → f.errorCode = none ∧ f.receipt = .null) := by
  cases h with
  | mark _ hw => cases hw <;> simp [broadcastFinish, unknownFinish, failedFinish, confirmedFinish]
  | reconcile _ => simp [reconcileFinish]
  | recovered _ => simp [recoveredFinish]

/-! ### New attempts -/

/-- The first attempt of a reserved order. -/
structure Started (cfg : Config) (db db' : DB) (o : OrderRow) (p : Prepared) (attemptId : Id)
    (now settled : Time) : Prop where
  moved : Moved cfg db db' o .signing settled
  reserved : o.status = .reserved
  pair : Matches { o with status := .signing } p.execution
  row_sealed : p.execution.Sealed cfg
  opening : p.execution.status = .signing ∧ p.execution.txHash = none ∧ p.execution.errorCode = none ∧
    p.execution.receipt = .null ∧ p.execution.attemptCount = 1
  envelope : buildTransfer p.execution.intent = .ok p.transfer
  requestHash : p.execution.requestHash = cfg.contentHash p.transfer.dump
  requestId : p.requestId = requestIdOf o.orderId 1
  absent : ∀ x ∈ db.executions, x.orderId ≠ p.execution.orderId
  clear : Clear db p.execution
  executions : db.executions.insert? p.execution = some db'.executions
  fresh : ∀ x ∈ db.attempts, x.executionId = p.execution.executionId → x.attemptNumber ≠ 1
  attempts : db.attempts.insert? (newAttempt cfg p.execution attemptId now) = some db'.attempts
  events : db'.events = db.events
  desk : SameDesk db db'

/-- What `_prepare` has checked for a first attempt. -/
structure FirstChecks (cfg : Config) (db : DB) (r : Readings) (o : OrderRow) (p : Prepared) (policy : PolicyRow)
    (asset : AssetRow) (source : AddressRow) : Prop where
  policy_row : db.policyRow o.subjectId = some policy
  allows : policyAllows db (r 0) o (some policy) (some o.orderId) = true
  asset_row : db.assets.find? o.assetId = some asset ∧ asset.subjectId = o.subjectId ∧ asset.status = .active ∧
    asset.networkId = o.networkId
  source_row : spendingAddress db o.subjectId o.networkId = some source
  asset_type : p.execution.assetType = asset.assetType
  source_address : p.execution.sourceAddress = source.address
  budget : checkObservedFeeBudget db (r 1).clock o.subjectId o.networkId asset.assetType source.addressId
    (minBalanceFor o policy) p.execution.gasLimit p.execution.maxFeePerGas
    policy.terms.maxObservationAgeSeconds none = .ok ()

theorem requirePolicy_ok {r : Reading} {o : OrderRow} {message : String} {policy : PolicyRow}
    (h : requirePolicy db r o message = .ok policy) :
    db.policyRow o.subjectId = some policy ∧ policyAllows db r o (some policy) (some o.orderId) = true := by
  simp only [requirePolicy, bind_eq_ok, orRaise_eq_ok, raiseIf_eq_ok, Option.filter_eq_some_iff,
    Except.ok.injEq] at h
  obtain ⟨p, ⟨hp, -⟩, -, ha, rfl⟩ := h
  exact ⟨hp, by simpa using ha⟩

theorem prepareFirst_ok {r : Readings} {orderId subjectId : Id} {actor : String} {q : FirstAttempt}
    {p : Prepared} (h : prepareFirst cfg db r orderId subjectId actor q = .ok (p, db')) :
    ∃ o policy asset source, o.orderId = orderId ∧ o.subjectId = subjectId ∧
      FirstChecks cfg db r o p policy asset source ∧
      Started cfg db db' o p (newId "wallet_attempt" (r 6)) (r 2).utc (r 4).clock := by
  simp only [prepareFirst, bind_eq_ok, raiseIf_eq_ok, orRaise_eq_ok, orderRow_eq_ok, Except.ok.injEq,
    Prod.mk.injEq] at h
  obtain ⟨-, -, -, -, -, -, -, -, o, ⟨ho, hos⟩, -, hres, policy, hpol, asset, hasset, network, hnet, -, hact,
    source, hsrc, -, -, nonce, -, -, -, ⟨gas, fee⟩, -, h⟩ := h
  obtain ⟨transfer, htransfer, ⟨⟩, hbudget, db₁, h₁, db₂, h₂, db₃, h₃, rfl, rfl⟩ := h
  obtain ⟨hom, rfl⟩ := Table.find?_eq_some.mp ho
  obtain ⟨hallowed, horders, hf₁⟩ := transitionOrder_ok h₁
  obtain ⟨habsent, hclear, hins, hf₂⟩ := insertExecution_ok h₂
  obtain ⟨hfresh, hatt, hf₃⟩ := insertAttempt_ok h₃
  obtain ⟨hpr, hallows⟩ := requirePolicy_ok hpol
  obtain ⟨hafind, hasub⟩ := assetRow_ok hasset
  obtain ⟨hnfind, hnsub⟩ := networkRow_ok hnet
  have hnk := (Table.find?_eq_some.mp hnfind).2
  simp only [not_or, not_not] at hact
  subst hos
  refine ⟨o, policy, asset, source, rfl, rfl, ⟨hpr, hallows, ⟨hafind, hasub, hact.1, ?_⟩, hsrc, rfl, rfl, hbudget⟩,
    ⟨ho, hallowed, ?_, ?_⟩, not_not.mp hres, ⟨rfl, rfl, rfl, rfl, rfl, rfl, .inl rfl⟩, rfl,
    ⟨rfl, rfl, rfl, rfl, rfl⟩, htransfer, rfl, rfl, ?_, ?_, ?_, ?_, ?_, ?_, ?_⟩
  · rw [hact.2.2, hnk]
  · rw [hf₃.orders, hf₂.orders, horders]
    rfl
  · have hl : SameLedger db db₃ := (((audit_logOnly ..).ledger.trans hf₁.ledger).trans hf₂.ledger).trans hf₃.ledger
    simpa [postingOf, LedgerStep] using hl
  · rw [hf₁.executions.executions] at habsent
    exact habsent
  · rw [Clear, hf₁.executions.executions] at hclear
    exact hclear
  · rw [hf₃.executions, ← hins, hf₁.executions.executions]
    rfl
  · rw [hf₂.attempts, hf₁.executions.attempts] at hfresh
    exact hfresh
  · rw [← hatt, hf₂.attempts, hf₁.executions.attempts]
    rfl
  · rw [hf₃.events, hf₂.events, hf₁.events]
    rfl
  · exact (((audit_logOnly ..).desk.trans hf₁.desk).trans hf₂.desk).trans hf₃.desk

/-- A further attempt of an order whose outcome is unknown. -/
structure Restarted (cfg : Config) (db db' : DB) (o : OrderRow) (e : ExecutionRow) (p : Prepared)
    (attemptId : Id) (now settled : Time) : Prop where
  moved : Moved cfg db db' o .signing settled
  unknown : o.status = .unknown
  owns : o.orderId = e.orderId
  found : db.executions.find? e.executionId = some e
  allowed : ExecutionStatus.signing ∈ executionTransitions e.status
  prepared : p.execution = restartedExecution cfg e now
  envelope : buildTransfer e.intent = .ok p.transfer
  requestId : p.requestId = requestIdOf o.orderId (e.attemptCount + 1)
  bound : e.attemptCount + 1 ≤ 32
  clear : Clear db p.execution
  executions : db'.executions = db.executions.replace p.execution
  fresh : ∀ x ∈ db.attempts, x.executionId = e.executionId → x.attemptNumber ≠ e.attemptCount + 1
  attempts : db.attempts.insert? (newAttempt cfg p.execution attemptId now) = some db'.attempts
  events : db'.events = db.events
  desk : SameDesk db db'

/-- What `_prepare` has checked for a further attempt. -/
structure RetryChecks (db : DB) (r : Readings) (o : OrderRow) (e : ExecutionRow) (policy : PolicyRow)
    (source : AddressRow) : Prop where
  policy_row : db.policyRow o.subjectId = some policy
  allows : policyAllows db (r 0) o (some policy) (some o.orderId) = true
  source_row : spendingAddress db o.subjectId e.networkId = some source
  source_address : source.address = e.sourceAddress
  budget : checkObservedFeeBudget db (r 1).clock o.subjectId e.networkId e.assetType source.addressId
    (minBalanceFor o policy) e.gasLimit e.maxFeePerGas policy.terms.maxObservationAgeSeconds
    (some e.executionId) = .ok ()

theorem prepareRetry_ok {r : Readings} {orderId subjectId : Id} {actor reason : String} {p : Prepared}
    (h : prepareRetry cfg db r orderId subjectId actor reason = .ok (p, db')) :
    ∃ o e policy source, o.orderId = orderId ∧ o.subjectId = subjectId ∧ RetryChecks db r o e policy source ∧
      Restarted cfg db db' o e p (newId "wallet_attempt" (r 6)) (r 5).utc (r 3).clock := by
  simp only [prepareRetry, bind_eq_ok, raiseIf_eq_ok, orRaise_eq_ok, orderRow_eq_ok, Except.ok.injEq,
    Prod.mk.injEq, Option.filter_eq_some_iff, decide_eq_true_eq] at h
  obtain ⟨-, -, o, ⟨ho, hos⟩, -, hunk, policy, hpol, e, he, -, -, -, hbound, transfer, htransfer, source,
    ⟨hsrc, haddr⟩, ⟨⟩, hbudget, db₁, h₁, db₂, h₂, db₃, h₃, rfl, rfl⟩ := h
  obtain ⟨hom, rfl⟩ := Table.find?_eq_some.mp ho
  have hem : e ∈ db.executions := List.mem_of_find?_eq_some he
  have heo := List.find?_some he
  simp only [decide_eq_true_eq] at heo
  have hfe : db.executions.find? e.executionId = some e := Table.find?_key hem
  obtain ⟨hallowed, horders, hf₁⟩ := transitionOrder_ok h₁
  have hfe₁ : db₁.executions.find? (restartedExecution cfg e (r 5).utc).executionId = some e := by
    rw [hf₁.executions.executions]
    exact hfe
  obtain ⟨hx, hclear, hexec, hf₂⟩ := updateExecution_ok hfe₁ h₂
  obtain ⟨hfresh, hatt, hf₃⟩ := insertAttempt_ok h₃
  obtain ⟨hpr, hallows⟩ := requirePolicy_ok hpol
  subst hos
  refine ⟨o, e, policy, source, rfl, rfl, ⟨hpr, hallows, hsrc, haddr, hbudget⟩, ⟨ho, hallowed, ?_, ?_⟩,
    not_not.mp hunk, heo.1.symm, hfe, hx, rfl, htransfer, rfl, by omega, ?_, ?_, ?_, ?_, ?_, ?_⟩
  · rw [hf₃.orders, hf₂.orders, horders]
    rfl
  · have hl : SameLedger db db₃ := (((audit_logOnly ..).ledger.trans hf₁.ledger).trans hf₂.ledger).trans hf₃.ledger
    simpa [postingOf, LedgerStep] using hl
  · rw [Clear, hf₁.executions.executions] at hclear
    exact hclear
  · rw [hf₃.executions, hexec, hf₁.executions.executions]
    rfl
  · rw [hf₂.attempts, hf₁.executions.attempts] at hfresh
    exact hfresh
  · rw [← hatt, hf₂.attempts, hf₁.executions.attempts]
    rfl
  · rw [hf₃.events, hf₂.events, hf₁.events]
    rfl
  · exact (((audit_logOnly ..).desk.trans hf₁.desk).trans hf₂.desk).trans hf₃.desk

end Noyra.Wallet.Proofs
