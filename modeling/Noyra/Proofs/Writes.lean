import Noyra.Wallet.System

/-!
# What a write does

Specifications of the constrained writes and of the building blocks of a transaction. The audit log is
the one table no later result reads, so every statement leaves it open.
-/

namespace Noyra.Wallet.Proofs
open Noyra.Lib

variable {cfg : Config} {db db' : DB}

/-- The tables that payments read but do not write. -/
structure SameDesk (db db' : DB) : Prop where
  networks : db'.networks = db.networks
  assets : db'.assets = db.assets
  addresses : db'.addresses = db.addresses
  snapshots : db'.snapshots = db.snapshots
  policies : db'.policies = db.policies
  bounties : db'.bounties = db.bounties
  submissions : db'.submissions = db.submissions

structure SameLedger (db db' : DB) : Prop where
  journals : db'.journals = db.journals
  entries : db'.entries = db.entries

structure SameExecutions (db db' : DB) : Prop where
  executions : db'.executions = db.executions
  attempts : db'.attempts = db.attempts

theorem SameDesk.refl (db : DB) : SameDesk db db := ⟨rfl, rfl, rfl, rfl, rfl, rfl, rfl⟩

theorem SameDesk.trans {db₁ db₂ db₃ : DB} (h : SameDesk db₁ db₂) (h' : SameDesk db₂ db₃) : SameDesk db₁ db₃ :=
  ⟨h'.1.trans h.1, h'.2.trans h.2, h'.3.trans h.3, h'.4.trans h.4, h'.5.trans h.5, h'.6.trans h.6, h'.7.trans h.7⟩

theorem SameLedger.refl (db : DB) : SameLedger db db := ⟨rfl, rfl⟩

theorem SameLedger.trans {db₁ db₂ db₃ : DB} (h : SameLedger db₁ db₂) (h' : SameLedger db₂ db₃) :
    SameLedger db₁ db₃ :=
  ⟨h'.1.trans h.1, h'.2.trans h.2⟩

theorem SameExecutions.trans {db₁ db₂ db₃ : DB} (h : SameExecutions db₁ db₂) (h' : SameExecutions db₂ db₃) :
    SameExecutions db₁ db₃ :=
  ⟨h'.1.trans h.1, h'.2.trans h.2⟩

/-- Only the audit log differs. -/
structure LogOnly (db db' : DB) : Prop where
  orders : db'.orders = db.orders
  ledger : SameLedger db db'
  executions : SameExecutions db db'
  events : db'.events = db.events
  desk : SameDesk db db'

theorem audit_logOnly (db : DB) (r : Reading) (subjectId : Id) (action actor : String) (payload : Json) :
    LogOnly db (audit db r subjectId action actor payload) :=
  ⟨rfl, ⟨rfl, rfl⟩, ⟨rfl, rfl⟩, rfl, ⟨rfl, rfl, rfl, rfl, rfl, rfl, rfl⟩⟩

theorem orderRow_eq_ok {orderId subjectId : Id} {o : OrderRow} :
    db.orderRow orderId subjectId = .ok o ↔ db.orders.find? orderId = some o ∧ o.subjectId = subjectId := by
  simp [DB.orderRow, Option.filter_eq_some_iff]

theorem executionRow_eq_ok {executionId subjectId : Id} {e : ExecutionRow} :
    db.executionRow executionId subjectId = .ok e ↔
      db.executions.find? executionId = some e ∧ e.subjectId = subjectId := by
  simp [DB.executionRow, Option.filter_eq_some_iff]

theorem networkRow_ok {networkId subjectId : Id} {n : NetworkRow}
    (h : db.networkRow networkId subjectId = .ok n) :
    db.networks.find? networkId = some n ∧ n.subjectId = subjectId := by
  obtain ⟨-, -, h⟩ := bind_eq_ok.mp h
  simpa [Option.filter_eq_some_iff] using h

theorem assetRow_ok {assetId subjectId : Id} {a : AssetRow} (h : db.assetRow assetId subjectId = .ok a) :
    db.assets.find? assetId = some a ∧ a.subjectId = subjectId := by
  obtain ⟨-, -, h⟩ := bind_eq_ok.mp h
  simpa [Option.filter_eq_some_iff] using h

/-- Only the orders (and the audit log) differ. -/
structure OrdersOnly (db db' : DB) : Prop where
  ledger : SameLedger db db'
  executions : SameExecutions db db'
  events : db'.events = db.events
  desk : SameDesk db db'

theorem insertOrder_ok {o : OrderRow} (h : db.insertOrder o = .ok db') :
    db.orders.insert? o = some db'.orders ∧ OrdersOnly db db' := by
  simp only [DB.insertOrder, bind_eq_ok, raiseIf_eq_ok, orRaise_eq_ok, Except.ok.injEq] at h
  obtain ⟨-, -, orders, hins, rfl⟩ := h
  exact ⟨hins, ⟨rfl, rfl⟩, ⟨rfl, rfl⟩, rfl, ⟨rfl, rfl, rfl, rfl, rfl, rfl, rfl⟩⟩

@[simp] theorem movedOrder_orderId (o : OrderRow) (t : OrderStatus) (now : Time) :
    (movedOrder cfg o t now).orderId = o.orderId := rfl

@[simp] theorem movedOrder_status (o : OrderRow) (t : OrderStatus) (now : Time) :
    (movedOrder cfg o t now).status = t := rfl

theorem movedOrder_sealed (o : OrderRow) (t : OrderStatus) (now : Time) :
    (movedOrder cfg o t now).Sealed cfg := by
  by_cases h : t = .reserved
  · subst h
    simp only [OrderRow.Sealed, movedOrder, orderStateHashRow, orderTemporalHash, if_true,
      Option.some_or, Option.none_or, Option.getD_some, Option.getD_none]
  · simp only [OrderRow.Sealed, movedOrder, orderStateHashRow, orderTemporalHash, h, if_false,
      Option.or_self, Option.none_or, Option.getD_some, Option.getD_none]

/-- A transition succeeds exactly when the table of transitions allows it. -/
theorem transitionOrder_eq_ok {r : Readings} {o : OrderRow} {target : OrderStatus} {actor reason : String}
    (hfind : db.orders.find? o.orderId = some o) :
    (∃ db', transitionOrder cfg db r o target actor reason = .ok db') ↔ target ∈ orderTransitions o.status := by
  simp only [transitionOrder, DB.updateOrder, bind_eq_ok, raiseIf_eq_ok, Except.ok.injEq]
  constructor
  · rintro ⟨-, -, hallowed, -⟩
    exact not_not.mp hallowed
  · intro hallowed
    refine ⟨_, (), not_not.mpr hallowed, (), ?_, rfl⟩
    simpa [audit, hfind] using hallowed

theorem transitionOrder_ok {r : Readings} {o : OrderRow} {target : OrderStatus} {actor reason : String}
    (h : transitionOrder cfg db r o target actor reason = .ok db') :
    target ∈ orderTransitions o.status ∧
      db'.orders = db.orders.replace (movedOrder cfg o target (r 0).clock) ∧ OrdersOnly db db' := by
  simp only [transitionOrder, DB.updateOrder, bind_eq_ok, raiseIf_eq_ok, Except.ok.injEq] at h
  obtain ⟨-, hallowed, -, -, rfl⟩ := h
  exact ⟨not_not.mp hallowed, rfl, ⟨rfl, rfl⟩, ⟨rfl, rfl⟩, rfl, ⟨rfl, rfl, rfl, rfl, rfl, rfl, rfl⟩⟩

/-- A balanced journal for the order has been appended. -/
structure Posted (cfg : Config) (db db' : DB) (o : OrderRow) (t : JournalType) (journalId : Id) (now : Time)
    (debitId creditId : Id) : Prop where
  absent : ∀ j ∈ db.journals, j.orderId = o.orderId → j.journalType ≠ t
  fresh : ∀ j ∈ db.journals, j.journalId ≠ journalId
  journals : db'.journals.rows = db.journals.rows ++ [journalOf cfg o t journalId now]
  entries : db'.entries.rows = db.entries.rows ++
    [entryOf cfg (journalOf cfg o t journalId now) debitId (journalLegs t).1,
      entryOf cfg (journalOf cfg o t journalId now) creditId (journalLegs t).2]

/-- Only the ledger differs. -/
structure LedgerOnly (db db' : DB) : Prop where
  orders : db'.orders = db.orders
  executions : SameExecutions db db'
  events : db'.events = db.events
  desk : SameDesk db db'

theorem LedgerOnly.trans {db₁ db₂ db₃ : DB} (h : LedgerOnly db₁ db₂) (h' : LedgerOnly db₂ db₃) :
    LedgerOnly db₁ db₃ :=
  ⟨h'.1.trans h.1, h.2.trans h'.2, h'.3.trans h.3, h.4.trans h'.4⟩

theorem insertJournal_ok {row : JournalRow} (h : db.insertJournal row = .ok db') :
    (∀ j ∈ db.journals, j.journalId ≠ row.journalId) ∧ db'.journals.rows = db.journals.rows ++ [row] ∧
      db'.entries = db.entries ∧ LedgerOnly db db' := by
  simp only [DB.insertJournal, bind_eq_ok, raiseIf_eq_ok, orRaise_eq_ok, Except.ok.injEq] at h
  obtain ⟨-, -, journals, hins, rfl⟩ := h
  obtain ⟨hfresh, hrows⟩ := Table.insert?_eq_some.mp hins
  exact ⟨hfresh, hrows, rfl, rfl, ⟨rfl, rfl⟩, rfl, ⟨rfl, rfl, rfl, rfl, rfl, rfl, rfl⟩⟩

theorem insertEntry_ok {row : EntryRow} (h : db.insertEntry row = .ok db') :
    db'.journals = db.journals ∧ db'.entries.rows = db.entries.rows ++ [row] ∧ LedgerOnly db db' := by
  simp only [DB.insertEntry, bind_eq_ok, raiseIf_eq_ok, orRaise_eq_ok, Except.ok.injEq] at h
  obtain ⟨-, -, entries, hins, rfl⟩ := h
  exact ⟨rfl, (Table.insert?_eq_some.mp hins).2, rfl, ⟨rfl, rfl⟩, rfl, ⟨rfl, rfl, rfl, rfl, rfl, rfl, rfl⟩⟩

theorem postOrderJournal_ok {r : Readings} {o : OrderRow} {t : JournalType}
    (h : postOrderJournal cfg db r o t = .ok db') :
    LedgerOnly db db' ∧ ∃ journalId now debitId creditId, Posted cfg db db' o t journalId now debitId creditId := by
  simp only [postOrderJournal, bind_eq_ok, raiseIf_eq_ok] at h
  obtain ⟨-, habsent, db₁, h₁, db₂, h₂, h₃⟩ := h
  obtain ⟨hfresh, hj₁, he₁, hf₁⟩ := insertJournal_ok h₁
  obtain ⟨hj₂, he₂, hf₂⟩ := insertEntry_ok h₂
  obtain ⟨hj₃, he₃, hf₃⟩ := insertEntry_ok h₃
  refine ⟨(hf₁.trans hf₂).trans hf₃, newId "journal" (r 1), (r 0).clock, newId "entry" (r 2),
    newId "entry" (r 3), ?_, hfresh, ?_, ?_⟩
  · intro j hj ho ht
    exact habsent ⟨j, hj, ho, ht⟩
  · rw [hj₃, hj₂, hj₁]
  · rw [he₃, he₂, he₁, List.append_assoc]
    rfl

/-- Only the executions differ. -/
structure ExecutionsOnly (db db' : DB) : Prop where
  orders : db'.orders = db.orders
  ledger : SameLedger db db'
  attempts : db'.attempts = db.attempts
  events : db'.events = db.events
  desk : SameDesk db db'

/-- Only the attempts differ. -/
structure AttemptsOnly (db db' : DB) : Prop where
  orders : db'.orders = db.orders
  ledger : SameLedger db db'
  executions : db'.executions = db.executions
  events : db'.events = db.events
  desk : SameDesk db db'

/-- No other row of the table collides with `e` on an index. -/
def Clear (db : DB) (e : ExecutionRow) : Prop :=
  ∀ x ∈ db.executions, x.executionId ≠ e.executionId → DB.indexConflict x e = false

theorem insertExecution_ok {e : ExecutionRow} (h : db.insertExecution e = .ok db') :
    (∀ x ∈ db.executions, x.orderId ≠ e.orderId) ∧ Clear db e ∧
      db.executions.insert? e = some db'.executions ∧ ExecutionsOnly db db' := by
  simp only [DB.insertExecution, bind_eq_ok, raiseIf_eq_ok, orRaise_eq_ok, Except.ok.injEq] at h
  obtain ⟨-, -, -, hclear, executions, hins, rfl⟩ := h
  refine ⟨fun x hx ho => hclear ⟨x, hx, .inl ho⟩, ?_, hins, rfl, ⟨rfl, rfl⟩, rfl, rfl,
    ⟨rfl, rfl, rfl, rfl, rfl, rfl, rfl⟩⟩
  intro x hx _
  cases hc : DB.indexConflict x e with
  | false => rfl
  | true => exact absurd ⟨x, hx, .inr (.inr hc)⟩ hclear

theorem updateExecution_ok {e old : ExecutionRow} (hfind : db.executions.find? e.executionId = some old)
    (h : db.updateExecution e = .ok db') :
    e.status ∈ executionTransitions old.status ∧ Clear db e ∧
      db'.executions = db.executions.replace e ∧ ExecutionsOnly db db' := by
  simp only [DB.updateExecution, bind_eq_ok, raiseIf_eq_ok, Except.ok.injEq] at h
  obtain ⟨-, hallowed, -, hclear, rfl⟩ := h
  refine ⟨by simpa [hfind] using hallowed, ?_, rfl, rfl, ⟨rfl, rfl⟩, rfl, rfl, ⟨rfl, rfl, rfl, rfl, rfl, rfl, rfl⟩⟩
  intro x hx hne
  cases hc : DB.indexConflict x e with
  | false => rfl
  | true => exact absurd ⟨x, hx, hne, hc⟩ hclear

theorem updateExecution_success {e old : ExecutionRow} (hfind : db.executions.find? e.executionId = some old)
    (hallowed : e.status ∈ executionTransitions old.status) (hclear : Clear db e) :
    ∃ db', db.updateExecution e = .ok db' := by
  have h₁ : ¬∃ o ∈ db.executions.find? e.executionId, e.status ∉ executionTransitions o.status := by
    simpa [hfind] using hallowed
  have h₂ : ¬∃ x ∈ db.executions.rows, x.executionId ≠ e.executionId ∧ DB.indexConflict x e = true := by
    rintro ⟨x, hx, hne, hc⟩
    simp [hclear x hx hne] at hc
  simp only [DB.updateExecution, raiseIf_neg h₁, raiseIf_neg h₂, ok_bind, Except.ok.injEq, exists_eq']

theorem insertAttempt_ok {a : AttemptRow} (h : db.insertAttempt a = .ok db') :
    (∀ x ∈ db.attempts, x.executionId = a.executionId → x.attemptNumber ≠ a.attemptNumber) ∧
      db.attempts.insert? a = some db'.attempts ∧ AttemptsOnly db db' := by
  simp only [DB.insertAttempt, bind_eq_ok, raiseIf_eq_ok, orRaise_eq_ok, Except.ok.injEq] at h
  obtain ⟨-, -, -, hclear, attempts, hins, rfl⟩ := h
  exact ⟨fun x hx he hn => hclear ⟨x, hx, .inl ⟨he, hn⟩⟩, hins, rfl, ⟨rfl, rfl⟩, rfl, rfl,
    ⟨rfl, rfl, rfl, rfl, rfl, rfl, rfl⟩⟩

/-- `a` is the latest attempt of `e`. -/
def Latest (db : DB) (e : ExecutionRow) (a : AttemptRow) : Prop :=
  a ∈ db.attempts ∧ a.executionId = e.executionId ∧ a.attemptNumber = e.attemptCount

theorem finishAttempt_ok {e : ExecutionRow} {status : ExecutionStatus} {tx code : Option String} {now : Time}
    (h : finishAttempt cfg db e status tx code now = .ok db') :
    ∃ a, Latest db e a ∧ status ∈ attemptTransitions a.status ∧
      db'.attempts = db.attempts.replace (finishedAttempt cfg a status tx code now) ∧ AttemptsOnly db db' := by
  simp only [finishAttempt, DB.updateAttempt, bind_eq_ok, orRaise_eq_ok, raiseIf_eq_ok, Except.ok.injEq] at h
  obtain ⟨a, hfind, -, hallowed, rfl⟩ := h
  have hmem : a ∈ db.attempts := List.mem_of_find?_eq_some hfind
  have hp := List.find?_some hfind
  simp only [decide_eq_true_eq] at hp
  refine ⟨a, ⟨hmem, hp.1, hp.2⟩, ?_, rfl, rfl, ⟨rfl, rfl⟩, rfl, rfl, ⟨rfl, rfl, rfl, rfl, rfl, rfl, rfl⟩⟩
  have hf : db.attempts.find? a.attemptId = some a := Table.find?_key hmem
  simpa [hf, finishedAttempt] using hallowed

theorem finishAttempt_success {e : ExecutionRow} {a : AttemptRow} {status : ExecutionStatus}
    {tx code : Option String} {now : Time} (hlatest : Latest db e a)
    (hunique : ∀ x ∈ db.attempts, x.executionId = e.executionId → x.attemptNumber = e.attemptCount → x = a)
    (hallowed : status ∈ attemptTransitions a.status) :
    ∃ db', finishAttempt cfg db e status tx code now = .ok db' := by
  have hfind : db.attempts.rows.find? (fun x => x.executionId = e.executionId ∧
      x.attemptNumber = e.attemptCount) = some a := by
    cases hf : db.attempts.rows.find? (fun x => x.executionId = e.executionId ∧
        x.attemptNumber = e.attemptCount) with
    | none => simpa [hlatest.2.1, hlatest.2.2] using List.find?_eq_none.mp hf a hlatest.1
    | some x =>
      have hp := List.find?_some hf
      simp only [decide_eq_true_eq] at hp
      rw [hunique x (List.mem_of_find?_eq_some hf) hp.1 hp.2]
  have hf : db.attempts.find? a.attemptId = some a := Table.find?_key hlatest.1
  have hno : ¬∃ old ∈ db.attempts.find? (finishedAttempt cfg a status tx code now).attemptId,
      (finishedAttempt cfg a status tx code now).status ∉ attemptTransitions old.status := by
    simpa [hf, finishedAttempt] using hallowed
  simp only [finishAttempt, hfind, orRaise_some, ok_bind, DB.updateAttempt, raiseIf_neg hno, Except.ok.injEq,
    exists_eq']

end Noyra.Wallet.Proofs
