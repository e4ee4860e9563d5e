import Mathlib.Logic.Relation
import Noyra.Proofs.Effects

/-!
# The effects of the store's transactions

Every transaction of the economy store and of the registry either leaves payments alone, or opens an
order, or moves one order that is not being executed.
-/

namespace Noyra.Wallet.Proofs
open Noyra.Lib

variable {cfg : Config} {db db' : DB}

/-- Orders, ledger, executions and events are left alone. -/
structure Aside (db db' : DB) : Prop where
  orders : db'.orders = db.orders
  ledger : SameLedger db db'
  executions : SameExecutions db db'
  events : db'.events = db.events

theorem Aside.refl (db : DB) : Aside db db := ⟨rfl, ⟨rfl, rfl⟩, ⟨rfl, rfl⟩, rfl⟩

theorem Aside.trans {db₁ db₂ db₃ : DB} (h : Aside db₁ db₂) (h' : Aside db₂ db₃) : Aside db₁ db₃ :=
  ⟨h'.1.trans h.1, h.2.trans h'.2, h.3.trans h'.3, h'.4.trans h.4⟩

/-- A new order, before the policy has decided on it. -/
structure Opened (cfg : Config) (db db' : DB) (o : OrderRow) : Prop where
  inserted : db.orders.insert? o = some db'.orders
  pending : o.status = .pendingPolicy
  unauthorized : o.authorizedAt = none
  row_sealed : o.Sealed cfg
  amount : ∃ b ∈ db.bounties, o.amount = b.rewardAmount
  rest : OrdersOnly db db'

/-- Statuses the economy store moves orders to. -/
def decidedStatus : List OrderStatus := [.awaitingConfirmation, .reserved, .rejected, .cancelled, .refunded]

/-- A decision of the policy or of an operator. A reservation has passed the policy at an earlier
reading of the clock than the one it records. -/
structure Decided (cfg : Config) (r : Readings) (db db' : DB) (o : OrderRow) (target : OrderStatus)
    (now : Time) : Prop where
  moved : Moved cfg db db' o target now
  kind : target ∈ decidedStatus
  failed : target = .refunded → o.status = .failed
  authorized : target = .reserved → ∃ i j, i ≤ j ∧ now = (r j).clock ∧
    policyAllows db (r i) o (db.policyRow o.subjectId) none = true
  executions : SameExecutions db db'
  events : db'.events = db.events
  desk : SameDesk db db'

theorem Decided.drop {r : Readings} {n : Nat} {o : OrderRow} {target : OrderStatus} {now : Time}
    (h : Decided cfg (r.drop n) db db' o target now) : Decided cfg r db db' o target now :=
  { h with
    authorized := fun ht => by
      obtain ⟨i, j, hij, hnow, ha⟩ := h.authorized ht
      exact ⟨i + n, j + n, by omega, hnow, ha⟩ }

/-- A move without a journal. -/
theorem decided_quiet {r : Readings} {o : OrderRow} {target : OrderStatus} {actor reason : String}
    (ho : db.orders.find? o.orderId = some o) (hk : target ∈ [OrderStatus.awaitingConfirmation, .rejected, .cancelled])
    (hpost : postingOf o.status target = none)
    (h : transitionOrder cfg db r o target actor reason = .ok db') :
    Decided cfg r db db' o target (r 0).clock := by
  obtain ⟨hallowed, horders, hf⟩ := transitionOrder_ok h
  refine ⟨⟨ho, hallowed, horders, ?_⟩, ?_, ?_, ?_, hf.executions, hf.events, hf.desk⟩
  · rw [hpost]
    exact hf.ledger
  · revert hk
    cases target <;> simp [decidedStatus]
  · rintro rfl
    simp at hk
  · rintro rfl
    simp at hk

/-- A move with the journal it posts. -/
theorem decided_posting {r : Readings} {o : OrderRow} {target : OrderStatus} {t : JournalType}
    {actor reason : String} {db₁ : DB} {n : Nat} (ho : db.orders.find? o.orderId = some o)
    (hk : target ∈ decidedStatus) (hpost : postingOf o.status target = some t)
    (hfailed : target = .refunded → o.status = .failed)
    (hauth : target = .reserved → ∃ i j, i ≤ j ∧ (r n).clock = (r j).clock ∧
      policyAllows db (r i) o (db.policyRow o.subjectId) none = true)
    (h₁ : transitionOrder cfg db (r.drop n) o target actor reason = .ok db₁)
    {r' : Readings} (h₂ : postOrderJournal cfg db₁ r' o t = .ok db') :
    Decided cfg r db db' o target (r n).clock := by
  obtain ⟨hallowed, horders, hf₁⟩ := transitionOrder_ok h₁
  obtain ⟨hf₂, hposted⟩ := postOrderJournal_ok h₂
  have hstep : LedgerStep cfg db₁ db' o (some t) := hposted
  refine ⟨⟨ho, hallowed, ?_, ?_⟩, hk, hfailed, hauth, hf₁.executions.trans hf₂.executions, ?_,
    hf₁.desk.trans hf₂.desk⟩
  · rw [hf₂.orders, horders]
    simp [Readings.drop]
  · rw [hpost]
    exact hstep.congr hf₁.ledger (.refl db')
  · rw [hf₂.events, hf₁.events]

theorem reserveOrder_ok {r : Readings} {o : OrderRow} {actor : String} (ho : db.orders.find? o.orderId = some o)
    (h : reserveOrder cfg db r o actor = .ok db') : Decided cfg r db db' o .reserved (r 1).clock := by
  simp only [reserveOrder, bind_eq_ok, raiseIf_eq_ok, Bool.not_eq_false] at h
  obtain ⟨-, hallows, db₁, h₁, h₂⟩ := h
  exact decided_posting ho (by simp [decidedStatus]) rfl (by simp)
    (fun _ => ⟨0, 1, by omega, rfl, hallows⟩) h₁ h₂

/-- The order row a transaction reads is the one in the table. -/
theorem find?_of_orderRow {orderId subjectId : Id} {o : OrderRow} (h : db.orderRow orderId subjectId = .ok o) :
    db.orders.find? o.orderId = some o := by
  obtain ⟨ho, -⟩ := orderRow_eq_ok.mp h
  obtain ⟨hom, rfl⟩ := Table.find?_eq_some.mp ho
  exact ho

theorem confirmOrder_ok {r : Readings} {orderId subjectId : Id} {actor : String}
    (h : confirmOrder cfg db r orderId subjectId actor = .ok db') :
    ∃ o now, Decided cfg r db db' o .reserved now := by
  simp only [confirmOrder, bind_eq_ok, raiseIf_eq_ok] at h
  obtain ⟨actor, -, o, ho, -, -, h⟩ := h
  exact ⟨o, _, reserveOrder_ok (find?_of_orderRow ho) h⟩

theorem rejectOrder_ok {r : Readings} {orderId subjectId : Id} {actor reason : String}
    (h : rejectOrder cfg db r orderId subjectId actor reason = .ok db') :
    ∃ o now, Decided cfg r db db' o .rejected now := by
  simp only [rejectOrder, bind_eq_ok, raiseIf_eq_ok] at h
  obtain ⟨actor, -, o, ho, -, -, h⟩ := h
  exact ⟨o, _, decided_quiet (find?_of_orderRow ho) (by simp) rfl h⟩

theorem cancelOrder_ok {r : Readings} {orderId subjectId : Id} {actor reason : String}
    (h : cancelOrder cfg db r orderId subjectId actor reason = .ok db') :
    ∃ o now, Decided cfg r db db' o .cancelled now := by
  simp only [cancelOrder, bind_eq_ok] at h
  obtain ⟨actor, -, o, ho, h⟩ := h
  by_cases hs : o.status = .reserved
  · simp only [hs, if_true, releaseOrder, bind_eq_ok] at h
    obtain ⟨db₁, h₁, h₂⟩ := h
    exact ⟨o, _, decided_posting (n := 0) (find?_of_orderRow ho) (by simp [decidedStatus]) (by simp [postingOf, hs])
      (by simp) (by simp) h₁ h₂⟩
  · simp only [hs, if_false, bind_eq_ok, raiseIf_eq_ok] at h
    obtain ⟨-, -, h⟩ := h
    exact ⟨o, _, decided_quiet (find?_of_orderRow ho) (by simp) (by simp [postingOf, hs]) h⟩

theorem refundOrder_ok {r : Readings} {orderId subjectId : Id} {actor reason : String}
    (h : refundOrder cfg db r orderId subjectId actor reason = .ok db') :
    ∃ o now, o.orderId = orderId ∧ Decided cfg r db db' o .refunded now := by
  simp only [refundOrder, bind_eq_ok, raiseIf_eq_ok] at h
  obtain ⟨actor, -, reason, -, o, ho, -, -, -, hs, db₁, h₁, h₂⟩ := h
  have hok := (Table.find?_eq_some.mp (orderRow_eq_ok.mp ho).1).2
  exact ⟨o, _, hok, decided_posting (n := 0) (find?_of_orderRow ho) (by simp [decidedStatus]) rfl
    (fun _ => not_not.mp hs) (by simp) h₁ h₂⟩

theorem pendingOrder_sealed (r : Readings) (s : SubmissionRow) (b : BountyRow) (policy : Option PolicyRow) :
    (pendingOrder cfg r s b policy).Sealed cfg := rfl

theorem decideOrder_ok {r : Readings} {o : OrderRow} {policy : Option PolicyRow}
    (ho : db.orders.find? o.orderId = some o) (h : decideOrder cfg db r o policy = .ok db') :
    ∃ target now, Decided cfg r db db' o target now := by
  unfold decideOrder at h
  split at h
  · exact ⟨_, _, decided_quiet ho (by simp) rfl h⟩
  · exact ⟨_, _, decided_quiet ho (by simp) rfl h⟩
  · split at h
    · exact ⟨_, _, (decided_quiet ho (by simp) rfl h).drop⟩
    · exact ⟨_, _, (reserveOrder_ok ho h).drop⟩

theorem ensureOrder_ok {r : Readings} {s : SubmissionRow} (h : ensureOrder cfg db r s = .ok db') :
    db' = db ∨ ∃ db₁ o target now, Opened cfg db db₁ o ∧ Decided cfg r db₁ db' o target now := by
  unfold ensureOrder at h
  split at h
  · left
    exact (Except.ok.inj h).symm
  · right
    simp only [bind_eq_ok, orRaise_eq_ok] at h
    obtain ⟨b, hb, db₁, h₁, h₂⟩ := h
    obtain ⟨hins, hf⟩ := insertOrder_ok h₁
    have hfind : db₁.orders.find? (pendingOrder cfg r s b (db.policyRow s.subjectId)).orderId =
        some (pendingOrder cfg r s b (db.policyRow s.subjectId)) := by
      rw [Table.find?_insert hins, if_pos rfl]
    obtain ⟨target, now, hd⟩ := decideOrder_ok hfind h₂
    have hlog := audit_logOnly db (r 2) s.subjectId "wallet_payment_order_created" "system"
      (.obj [("submission_id", .str s.submissionId), ("amount", .amount b.rewardAmount)])
    refine ⟨db₁, _, target, now, ⟨?_, rfl, rfl, pendingOrder_sealed .., ⟨b, (Table.find?_eq_some.mp hb).1, rfl⟩, ?_⟩,
      hd.drop⟩
    · rw [← hins]
      rfl
    · exact ⟨hlog.ledger.trans hf.ledger, hlog.executions.trans hf.executions,
        hf.events.trans hlog.events, hlog.desk.trans hf.desk⟩

/-- What holds of policies, bounties, submissions and registrations. -/
structure DeskSound (cfg : Config) (db : DB) : Prop where
  policies : ∀ p ∈ db.policies, p.Sealed cfg ∧ p.terms.isValid = true ∧ 1 ≤ p.policyVersion
  bounties : ∀ b ∈ db.bounties, b.Sealed cfg ∧ 0 < b.rewardAmount ∧ b.rewardAmount ≤ sqliteInt64Max
  submissions : ∀ s ∈ db.submissions, s.Sealed cfg
  native : ∀ a ∈ db.assets, ∀ b ∈ db.assets, a.assetType = .native → b.assetType = .native →
    a.subjectId = b.subjectId → a.networkId = b.networkId → a = b
  contract : ∀ a ∈ db.assets, a.assetType = .native ↔ a.contractAddress = none

theorem DeskSound.congr (h : DeskSound cfg db) (hs : SameDesk db db') : DeskSound cfg db' := by
  constructor
  · rw [hs.policies]; exact h.policies
  · rw [hs.bounties]; exact h.bounties
  · rw [hs.submissions]; exact h.submissions
  · rw [hs.assets]; exact h.native
  · rw [hs.assets]; exact h.contract

/-- A transaction that leaves payments and policies alone and keeps the desk sound. -/
structure DeskStep (cfg : Config) (db db' : DB) : Prop where
  aside : Aside db db'
  policies : db'.policies = db.policies
  sound : DeskSound cfg db'

theorem DeskStep.refl (h : DeskSound cfg db) : DeskStep cfg db db := ⟨.refl db, rfl, h⟩

theorem DeskStep.trans {db₁ db₂ db₃ : DB} (h : DeskStep cfg db₁ db₂) (h' : DeskStep cfg db₂ db₃) :
    DeskStep cfg db₁ db₃ :=
  ⟨h.aside.trans h'.aside, h'.policies.trans h.policies, h'.sound⟩

theorem audit_deskStep (h : DeskSound cfg db) (r : Reading) (subjectId : Id) (action actor : String)
    (payload : Json) : DeskStep cfg db (audit db r subjectId action actor payload) :=
  ⟨⟨rfl, ⟨rfl, rfl⟩, ⟨rfl, rfl⟩, rfl⟩, rfl, h.congr (audit_logOnly ..).desk⟩

theorem setBountyStatus_ok {r : Readings} {row : BountyRow} {target : BountyStatus} {reason actor : String}
    (hd : DeskSound cfg db) (hrow : 0 < row.rewardAmount ∧ row.rewardAmount ≤ sqliteInt64Max)
    (h : setBountyStatus cfg db r row target reason actor = .ok db') : DeskStep cfg db db' := by
  simp only [setBountyStatus, DB.updateBounty, bind_eq_ok, raiseIf_eq_ok, Except.ok.injEq] at h
  obtain ⟨-, -, rfl⟩ := h
  refine ⟨⟨rfl, ⟨rfl, rfl⟩, ⟨rfl, rfl⟩, rfl⟩, rfl, hd.policies, ?_, hd.submissions, hd.native, hd.contract⟩
  intro b hb
  rcases Table.mem_replace.mp hb with ⟨rfl, -⟩ | ⟨hb, -⟩
  · exact ⟨rfl, hrow⟩
  · exact hd.bounties b hb

theorem expireIfDue_ok {r : Readings} {row : BountyRow} {status : BountyStatus} {reason actor : String}
    (hd : DeskSound cfg db) (hrow : row ∈ db.bounties)
    (h : expireIfDue cfg db r row status reason actor = .ok db') : DeskStep cfg db db' := by
  unfold expireIfDue at h
  split at h
  · exact setBountyStatus_ok hd (hd.bounties row hrow).2 h
  · cases h
    exact .refl hd

theorem createBounty_ok {r : Readings} {subjectId : Id} {proposal : BountyInput} {actor : String}
    {projectOwner goalOwner : Option Id} {row : BountyRow} (hd : DeskSound cfg db)
    (h : createBounty cfg db r subjectId proposal actor projectOwner goalOwner = .ok (row, db')) :
    DeskStep cfg db db' := by
  simp only [createBounty, bind_eq_ok, raiseIf_eq_ok] at h
  obtain ⟨actor, -, -, -, network, -, asset, -, -, -, -, -, -, -, h⟩ := h
  split at h
  · simp only [bind_eq_ok, raiseIf_eq_ok, Except.ok.injEq, Prod.mk.injEq] at h
    obtain ⟨-, -, -, rfl⟩ := h
    exact .refl hd
  · simp only [DB.insertBounty, bind_eq_ok, raiseIf_eq_ok, orRaise_eq_ok, Except.ok.injEq, Prod.mk.injEq] at h
    obtain ⟨-, ⟨-, -, bounties, hins, rfl⟩, -, rfl⟩ := h
    refine ⟨⟨rfl, ⟨rfl, rfl⟩, ⟨rfl, rfl⟩, rfl⟩, rfl, hd.policies, ?_, hd.submissions, hd.native, hd.contract⟩
    intro b hb
    change b ∈ bounties.rows at hb
    rw [(Table.insert?_eq_some.mp hins).2, List.mem_append, List.mem_singleton] at hb
    rcases hb with hb | rfl
    · exact hd.bounties b hb
    · exact ⟨rfl, proposal.amount⟩

theorem transitionBounty_ok {r : Readings} {bountyId subjectId : Id} {target : BountyStatus} {actor : String}
    (hd : DeskSound cfg db) (h : transitionBounty cfg db r bountyId subjectId target actor = .ok db') :
    DeskStep cfg db db' := by
  simp only [transitionBounty, bind_eq_ok, raiseIf_eq_ok, orRaise_eq_ok, Option.filter_eq_some_iff] at h
  obtain ⟨actor, -, -, -, row, ⟨hrow, -⟩, db₁, h₁, row₁, hrow₁, -, -, h₂⟩ := h
  have hstep := expireIfDue_ok hd (Table.find?_eq_some.mp hrow).1 h₁
  have hm₁ := (Table.find?_eq_some.mp hrow₁).1
  exact hstep.trans (setBountyStatus_ok hstep.sound (hstep.sound.bounties row₁ hm₁).2 h₂)

/-- The expiry loop: every row it touches has a lawful amount. -/
theorem expireBounties_ok {now : Time} {rows : List BountyRow} :
    ∀ {db : DB} {r : Readings}, DeskSound cfg db →
      (∀ b ∈ rows, 0 < b.rewardAmount ∧ b.rewardAmount ≤ sqliteInt64Max) →
      expireBounties cfg now db r rows = .ok db' → DeskStep cfg db db' := by
  induction rows with
  | nil =>
    intro db r hd _ h
    cases h
    exact .refl hd
  | cons row rows ih =>
    intro db r hd hrows h
    have htail : ∀ b ∈ rows, 0 < b.rewardAmount ∧ b.rewardAmount ≤ sqliteInt64Max :=
      fun b hb => hrows b (List.mem_cons_of_mem _ hb)
    unfold expireBounties at h
    split at h
    · obtain ⟨db₁, h₁, h₂⟩ := bind_eq_ok.mp h
      have hstep := setBountyStatus_ok hd (hrows row List.mem_cons_self) h₁
      exact hstep.trans (ih hstep.sound htail h₂)
    · exact ih hd htail h

theorem maintainExpiredBounties_ok {r : Readings} {subjectId : Id} {limit : Nat} (hd : DeskSound cfg db)
    (h : maintainExpiredBounties cfg db r subjectId limit = .ok db') : DeskStep cfg db db' := by
  simp only [maintainExpiredBounties, bind_eq_ok, raiseIf_eq_ok] at h
  obtain ⟨-, -, h⟩ := h
  refine expireBounties_ok hd ?_ h
  intro b hb
  have hb' := List.mem_of_mem_take hb
  rw [List.mem_insertionSort, List.mem_filter] at hb'
  exact (hd.bounties b hb'.1).2

theorem submitToBounty_ok {r : Readings} {bountyId subjectId : Id} {proposal : SubmissionInput}
    {row : SubmissionRow} (hd : DeskSound cfg db)
    (h : submitToBounty cfg db r bountyId subjectId proposal = .ok (row, db')) : DeskStep cfg db db' := by
  simp only [submitToBounty, bind_eq_ok, orRaise_eq_ok, Option.filter_eq_some_iff] at h
  obtain ⟨-, -, bounty, ⟨hb, -⟩, h⟩ := h
  split at h
  · simp only [bind_eq_ok, raiseIf_eq_ok, Except.ok.injEq, Prod.mk.injEq] at h
    obtain ⟨-, -, -, rfl⟩ := h
    exact .refl hd
  · simp only [DB.insertSubmission, bind_eq_ok, raiseIf_eq_ok, orRaise_eq_ok, Except.ok.injEq, Prod.mk.injEq] at h
    obtain ⟨db₁, h₁, -, -, -, -, -, ⟨-, -, submissions, hins, rfl⟩, -, rfl⟩ := h
    have hstep := expireIfDue_ok hd (Table.find?_eq_some.mp hb).1 h₁
    refine hstep.trans ⟨⟨rfl, ⟨rfl, rfl⟩, ⟨rfl, rfl⟩, rfl⟩, rfl, hstep.sound.policies, hstep.sound.bounties, ?_,
      hstep.sound.native, hstep.sound.contract⟩
    intro s hs
    change s ∈ submissions.rows at hs
    rw [(Table.insert?_eq_some.mp hins).2, List.mem_append, List.mem_singleton] at hs
    rcases hs with hs | rfl
    · exact hstep.sound.submissions s hs
    · rfl

theorem updateSubmission_ok {row : SubmissionRow} (hd : DeskSound cfg db)
    (h : db.updateSubmission row = .ok db') (hrow : row.Sealed cfg) : DeskStep cfg db db' := by
  simp only [DB.updateSubmission, bind_eq_ok, raiseIf_eq_ok, Except.ok.injEq] at h
  obtain ⟨-, -, rfl⟩ := h
  refine ⟨⟨rfl, ⟨rfl, rfl⟩, ⟨rfl, rfl⟩, rfl⟩, rfl, hd.policies, hd.bounties, ?_, hd.native, hd.contract⟩
  intro s hs
  rcases Table.mem_replace.mp hs with ⟨rfl, -⟩ | ⟨hs, -⟩
  · exact hrow
  · exact hd.submissions s hs

theorem withdrawSubmission_ok {r : Readings} {submissionId subjectId : Id} {actor : String} {row : SubmissionRow}
    (hd : DeskSound cfg db) (h : withdrawSubmission cfg db r submissionId subjectId actor = .ok (row, db')) :
    DeskStep cfg db db' := by
  simp only [withdrawSubmission, bind_eq_ok, raiseIf_eq_ok, orRaise_eq_ok, Except.ok.injEq, Prod.mk.injEq] at h
  obtain ⟨-, -, s, -, -, -, db₁, h₁, -, rfl⟩ := h
  have hlog := audit_deskStep hd (r 1) subjectId "wallet_submission_withdrawn" actor
    (.obj [("submission_id", .str submissionId), ("from", .str "submitted"), ("to", .str "withdrawn")])
  exact hlog.trans (updateSubmission_ok hlog.sound h₁ rfl)

/-- The decision on a submission: the desk first, then at most one new order. -/
theorem decideSubmissionConnection_ok {r : Readings} {submissionId subjectId : Id} {accepted : Bool}
    {reason actor : String} {row : SubmissionRow} (hd : DeskSound cfg db)
    (h : decideSubmissionConnection cfg db r submissionId subjectId accepted reason actor = .ok (row, db')) :
    ∃ db₁, DeskStep cfg db db₁ ∧
      (db' = db₁ ∨ ∃ db₂ o target now, Opened cfg db₁ db₂ o ∧ Decided cfg r db₂ db' o target now) := by
  simp only [decideSubmissionConnection, bind_eq_ok, raiseIf_eq_ok, orRaise_eq_ok] at h
  obtain ⟨s, -, -, -, bounty, -, -, -, db₁, h₁, h₂⟩ := h
  have hlog := audit_deskStep hd (r 1) subjectId
    ("wallet_submission_" ++ (if accepted then SubmissionStatus.accepted else .rejected).text) actor
    (.obj [("submission_id", .str submissionId), ("from", .str "submitted"),
      ("to", .str (if accepted then SubmissionStatus.accepted else .rejected).text), ("reason", .str reason)])
  have hstep := hlog.trans (updateSubmission_ok hlog.sound h₁ rfl)
  refine ⟨db₁, hstep, ?_⟩
  split at h₂
  · simp only [bind_eq_ok, Except.ok.injEq, Prod.mk.injEq] at h₂
    obtain ⟨db₂, h₂, -, rfl⟩ := h₂
    rcases ensureOrder_ok h₂ with rfl | ⟨db₃, o, target, now, hopen, hdec⟩
    · exact .inl rfl
    · exact .inr ⟨db₃, o, target, now, hopen, hdec.drop⟩
  · simp only [Except.ok.injEq, Prod.mk.injEq] at h₂
    exact .inl h₂.2.symm

theorem decideSubmission_eq_ok {r : Readings} {submissionId subjectId : Id} {accepted : Bool} {reason actor : String}
    {row : SubmissionRow} (h : decideSubmission cfg db r submissionId subjectId accepted reason actor =
      .ok (row, db')) :
    ∃ reason' actor', decideSubmissionConnection cfg db r submissionId subjectId accepted reason' actor' = .ok
      (row, db') := by
  simp only [decideSubmission, bind_eq_ok] at h
  obtain ⟨actor', -, -, -, reason', -, h⟩ := h
  exact ⟨reason', actor', h⟩

/-- A transaction that changes at most the policy of one subject. -/
structure PolicyStep (cfg : Config) (db db' : DB) (subjectId : Id) : Prop where
  aside : Aside db db'
  others : ∀ x, x ≠ subjectId → db'.policyRow x = db.policyRow x
  sound : DeskSound cfg db'

theorem PolicyStep.refl (h : DeskSound cfg db) (subjectId : Id) : PolicyStep cfg db db subjectId :=
  ⟨.refl db, fun _ _ => rfl, h⟩

theorem PolicyStep.log {subjectId : Id} (h : PolicyStep cfg db db' subjectId) (r : Reading) (x : Id)
    (action actor : String) (payload : Json) : PolicyStep cfg db (audit db' r x action actor payload) subjectId :=
  have hlog := audit_deskStep h.sound r x action actor payload
  ⟨h.aside.trans hlog.aside, h.others, hlog.sound⟩

theorem upsertPolicy_ok {row : PolicyRow} (hd : DeskSound cfg db) (hrow : row.Sealed cfg)
    (hvalid : row.terms.isValid = true) (hversion : 1 ≤ row.policyVersion) :
    PolicyStep cfg db (db.upsertPolicy row) row.subjectId := by
  unfold DB.upsertPolicy
  split
  · next policies hins =>
    refine ⟨⟨rfl, ⟨rfl, rfl⟩, ⟨rfl, rfl⟩, rfl⟩, ?_, ?_, hd.bounties, hd.submissions, hd.native, hd.contract⟩
    · intro x hx
      simp [DB.policyRow, Table.find?_insert hins, hx]
    intro p hp
    change p ∈ policies.rows at hp
    rw [(Table.insert?_eq_some.mp hins).2, List.mem_append, List.mem_singleton] at hp
    rcases hp with hp | rfl
    · exact hd.policies p hp
    · exact ⟨hrow, hvalid, hversion⟩
  · refine ⟨⟨rfl, ⟨rfl, rfl⟩, ⟨rfl, rfl⟩, rfl⟩, ?_, ?_, hd.bounties, hd.submissions, hd.native, hd.contract⟩
    · intro x hx
      exact Table.find?_replace_ne hx
    intro p hp
    rcases Table.mem_replace.mp hp with ⟨rfl, -⟩ | ⟨hp, -⟩
    · exact ⟨hrow, hvalid, hversion⟩
    · exact hd.policies p hp

theorem applyPolicy_ok {r : Readings} {subjectId : Id} {proposal : PaymentPolicyInput} {current : Nat}
    {actor : String} {request : Option AutomationRequest} {row : PolicyRow} (hd : DeskSound cfg db)
    (h : applyPolicy cfg db r subjectId proposal current actor request = .ok (row, db')) :
    PolicyStep cfg db db' subjectId := by
  simp only [applyPolicy, bind_eq_ok, raiseIf_eq_ok] at h
  obtain ⟨-, -, h⟩ := h
  have hstep := upsertPolicy_ok hd (show (policyOf cfg subjectId proposal (current + 1) (r 1).clock).Sealed cfg
      from rfl)
    proposal.valid (by simp [policyOf])
  split at h
  · simp only [Except.ok.injEq, Prod.mk.injEq] at h
    obtain ⟨-, rfl⟩ := h
    exact hstep.log ..
  · simp only [Except.ok.injEq, Prod.mk.injEq] at h
    obtain ⟨-, rfl⟩ := h
    exact (hstep.log ..).log ..

theorem updatePolicy_ok {r : Readings} {subjectId : Id} {proposal : PaymentPolicyInput} {expectedVersion : Nat}
    {actor : String} {request : Option AutomationRequest} {row : PolicyRow} (hd : DeskSound cfg db)
    (h : updatePolicy cfg db r subjectId proposal expectedVersion actor request = .ok (row, db')) :
    PolicyStep cfg db db' subjectId := by
  simp only [updatePolicy, bind_eq_ok, raiseIf_eq_ok] at h
  obtain ⟨actor, -, -, -, -, -, -, -, h⟩ := h
  split at h
  · simp only [bind_eq_ok, raiseIf_eq_ok, orRaise_eq_ok, Except.ok.injEq, Prod.mk.injEq] at h
    obtain ⟨-, -, -, -, -, rfl⟩ := h
    exact .refl hd subjectId
  · simp only [bind_eq_ok, raiseIf_eq_ok] at h
    obtain ⟨-, -, h⟩ := h
    exact applyPolicy_ok hd h

theorem defaultTerms_isValid : defaultTerms.isValid = true := by decide

theorem createIdentity_ok {r : Readings} {subjectId : Id} (hd : DeskSound cfg db)
    (h : createIdentity cfg db r subjectId = .ok db') :
    db' = db ∨ (db.policyRow subjectId = none ∧ PolicyStep cfg db db' subjectId) := by
  simp only [createIdentity, bind_eq_ok] at h
  obtain ⟨-, -, h⟩ := h
  split at h
  · next policies hins =>
    cases h
    right
    refine ⟨Table.find?_eq_none.mpr (Table.insert?_eq_some.mp hins).1, ?_⟩
    have hup := upsertPolicy_ok hd (show (defaultPolicy cfg subjectId (r 0).utc).Sealed cfg from rfl)
        defaultTerms_isValid le_rfl
    simp only [DB.upsertPolicy, hins] at hup
    exact hup
  · left
    exact (Except.ok.inj h).symm

theorem registerNetwork_ok {r : Readings} {subjectId : Id} {chainId : Nat} {actor : String}
    (hd : DeskSound cfg db) (h : registerNetwork db r subjectId chainId actor = .ok db') : DeskStep cfg db db' := by
  simp only [registerNetwork, bind_eq_ok, raiseIf_eq_ok, orRaise_eq_ok, Except.ok.injEq] at h
  obtain ⟨actor, -, -, -, -, -, -, -, networks, -, rfl⟩ := h
  exact ⟨⟨rfl, ⟨rfl, rfl⟩, ⟨rfl, rfl⟩, rfl⟩, rfl, hd.policies, hd.bounties, hd.submissions, hd.native, hd.contract⟩

theorem registerAsset_ok {r : Readings} {subjectId networkId : Id} {contract : Option String} {actor : String}
    (hd : DeskSound cfg db) (h : registerAsset db r subjectId networkId contract actor = .ok db') :
    DeskStep cfg db db' := by
  simp only [registerAsset, bind_eq_ok, raiseIf_eq_ok, orRaise_eq_ok, Except.ok.injEq] at h
  obtain ⟨actor, -, -, -, -, -, network, -, -, -, -, hnew, assets, hins, rfl⟩ := h
  have hrows := (Table.insert?_eq_some.mp hins).2
  refine ⟨⟨rfl, ⟨rfl, rfl⟩, ⟨rfl, rfl⟩, rfl⟩, rfl, hd.policies, hd.bounties, hd.submissions, ?_, ?_⟩
  · -- a second native asset would share the absent contract of the first
    have hclash : ∀ a ∈ db.assets, a.assetType = .native → contract = none → a.subjectId = subjectId →
        a.networkId ≠ networkId := by
      intro a ha hn hc hs hnet
      exact hnew ⟨a, ha, hs, hnet, ((hd.contract a ha).mp hn).trans hc.symm⟩
    intro a ha b hb hna hnb hs hnet
    change a ∈ assets.rows at ha
    change b ∈ assets.rows at hb
    rw [hrows, List.mem_append, List.mem_singleton] at ha hb
    rcases ha with ha | rfl <;> rcases hb with hb | rfl
    · exact hd.native a ha b hb hna hnb hs hnet
    · exact absurd hnet (hclash a ha hna (by simpa using hnb) hs)
    · exact absurd hnet.symm (hclash b hb hnb (by simpa using hna) hs.symm)
    · rfl
  · intro a ha
    change a ∈ assets.rows at ha
    rw [hrows, List.mem_append, List.mem_singleton] at ha
    rcases ha with ha | rfl
    · exact hd.contract a ha
    · cases contract <;> simp

theorem registerAddress_ok {r : Readings} {subjectId networkId : Id} {address : String} {purpose : AddressPurpose}
    {actor : String} (hd : DeskSound cfg db)
    (h : registerAddress db r subjectId networkId address purpose actor = .ok db') : DeskStep cfg db db' := by
  simp only [registerAddress, bind_eq_ok, raiseIf_eq_ok, orRaise_eq_ok, Except.ok.injEq] at h
  obtain ⟨actor, -, -, -, -, -, network, -, -, -, -, -, addresses, -, rfl⟩ := h
  exact ⟨⟨rfl, ⟨rfl, rfl⟩, ⟨rfl, rfl⟩, rfl⟩, rfl, hd.policies, hd.bounties, hd.submissions, hd.native, hd.contract⟩

theorem revoke_ok {r : Readings} {subjectId : Id} {actor : String} {what : Registration} (hd : DeskSound cfg db)
    (h : revoke db r subjectId actor what = .ok db') : DeskStep cfg db db' := by
  cases what with
  | network networkId =>
    simp only [revoke, bind_eq_ok] at h
    obtain ⟨actor, -, row, -, h⟩ := h
    split at h
    · cases h
      exact .refl hd
    · simp only [bind_eq_ok, raiseIf_eq_ok, Except.ok.injEq] at h
      obtain ⟨-, -, rfl⟩ := h
      exact ⟨⟨rfl, ⟨rfl, rfl⟩, ⟨rfl, rfl⟩, rfl⟩, rfl, hd.policies, hd.bounties, hd.submissions, hd.native, hd.contract⟩
  | asset assetId =>
    simp only [revoke, bind_eq_ok] at h
    obtain ⟨actor, -, row, hrow, h⟩ := h
    split at h
    · cases h
      exact .refl hd
    · cases h
      have hm := (Table.find?_eq_some.mp (assetRow_ok hrow).1).1
      refine ⟨⟨rfl, ⟨rfl, rfl⟩, ⟨rfl, rfl⟩, rfl⟩, rfl, hd.policies, hd.bounties, hd.submissions, ?_, ?_⟩
      · intro a ha b hb hna hnb hs hnet
        rcases Table.mem_replace.mp ha with ⟨rfl, -⟩ | ⟨ha, hka⟩ <;>
          rcases Table.mem_replace.mp hb with ⟨rfl, -⟩ | ⟨hb, hkb⟩
        · rfl
        · exact absurd (congrArg AssetRow.assetId (hd.native row hm b hb hna hnb hs hnet)).symm hkb
        · exact absurd (congrArg AssetRow.assetId (hd.native a ha row hm hna hnb hs hnet)) hka
        · exact hd.native a ha b hb hna hnb hs hnet
      · intro a ha
        rcases Table.mem_replace.mp ha with ⟨rfl, -⟩ | ⟨ha, -⟩
        · exact hd.contract row hm
        · exact hd.contract a ha
  | address addressId =>
    simp only [revoke, bind_eq_ok] at h
    obtain ⟨actor, -, row, -, h⟩ := h
    split at h
    · cases h
      exact .refl hd
    · cases h
      exact ⟨⟨rfl, ⟨rfl, rfl⟩, ⟨rfl, rfl⟩, rfl⟩, rfl, hd.policies, hd.bounties, hd.submissions, hd.native, hd.contract⟩

theorem recordBalanceSnapshot_ok {r : Readings} {subjectId assetId addressId : Id} {balance : Nat}
    {observedAt : Option Time} {actor : String} (hd : DeskSound cfg db)
    (h : recordBalanceSnapshot db r subjectId assetId addressId balance observedAt actor = .ok db') :
    DeskStep cfg db db' := by
  simp only [recordBalanceSnapshot, DB.insertSnapshot, bind_eq_ok, raiseIf_eq_ok, orRaise_eq_ok,
    Except.ok.injEq] at h
  obtain ⟨-, -, -, -, asset, -, address, -, -, -, network, -, -, -, snapshots, -, rfl⟩ := h
  exact ⟨⟨rfl, ⟨rfl, rfl⟩, ⟨rfl, rfl⟩, rfl⟩, rfl, hd.policies, hd.bounties, hd.submissions, hd.native, hd.contract⟩

/-- Quarantine events are only added, and only for a confirmed execution. -/
def EventStep (db db' : DB) (e : ExecutionRow) : Prop :=
  db'.events = db.events ∨ (e.status = .confirmed ∧ ∃ event, event.orderId = e.orderId ∧
    event.executionId = e.executionId ∧ db.events.insert? event = some db'.events)

/-- What the guard of a run lets through: refunds of an order, changes of a policy, finishes of an execution.
The finishes that the store makes on its own are always let through. -/
structure Permit where
  refund : DB → OrderRow → Prop
  policy : DB → Id → Prop
  finish : DB → ExecutionRow → Finish → Prop
  reconcile : ∀ db e, e.status = .confirmed → finish db e (reconcileFinish e)
  recovered : ∀ db e, e.status = .signing → finish db e (recoveredFinish e)

/-- Anything goes. -/
def Permit.all : Permit :=
  ⟨fun _ _ => True, fun _ _ => True, fun _ _ _ => True, fun _ _ _ => trivial, fun _ _ _ => trivial⟩

/-- Everything a transaction of the wallet can do to the database. -/
inductive Effect (cfg : Config) (permit : Permit) (r : Readings) : DB → DB → Prop
  | desk {db db' : DB} : DeskStep cfg db db' → Effect cfg permit r db db'
  | policy {db db' : DB} {subjectId : Id} :
      PolicyStep cfg db db' subjectId → permit.policy db subjectId → Effect cfg permit r db db'
  | opened {db db' : DB} {o : OrderRow} : Opened cfg db db' o → Effect cfg permit r db db'
  | decided {db db' : DB} {o : OrderRow} {target : OrderStatus} {now : Time} :
      Decided cfg r db db' o target now → (target = .refunded → permit.refund db o) → Effect cfg permit r db db'
  | started {db db' : DB} {o : OrderRow} {p : Prepared} {attemptId : Id} {now settled : Time} :
      Started cfg db db' o p attemptId now settled → Effect cfg permit r db db'
  | restarted {db db' : DB} {o : OrderRow} {e : ExecutionRow} {p : Prepared} {attemptId : Id} {now settled : Time} :
      Restarted cfg db db' o e p attemptId now settled → Effect cfg permit r db db'
  | finished {db db' : DB} {o : OrderRow} {e : ExecutionRow} {a : AttemptRow} {f : Finish} {now settled : Time} :
      Finished cfg db db' o e a f now settled → f.Of e → EventStep db db' e → permit.finish db e f →
      Effect cfg permit r db db'

/-- Some effects in a row. -/
def Effects (cfg : Config) (permit : Permit) (r : Readings) : DB → DB → Prop :=
  Relation.ReflTransGen (Effect cfg permit r)

theorem Effects.one {permit : Permit} {r : Readings} (h : Effect cfg permit r db db') :
    Effects cfg permit r db db' :=
  .single h

theorem map_snd_eq_ok {α : Type} {x : Except PyError (α × DB)} (h : x.map Prod.snd = .ok db') :
    ∃ a, x = .ok (a, db') := by
  cases x with
  | error e => simp [Except.map] at h
  | ok p =>
    obtain ⟨a, d⟩ := p
    simp only [Except.map, Except.ok.injEq] at h
    exact ⟨a, by rw [h]⟩

/-- The transactions a permit lets through. -/
def Permit.Admits (permit : Permit) (db : DB) : StoreOp → Prop
  | .createIdentity subjectId => db.policyRow subjectId = none → permit.policy db subjectId
  | .updatePolicy subjectId .. => permit.policy db subjectId
  | .refundOrder orderId .. => ∀ o ∈ db.orders, o.orderId = orderId → permit.refund db o
  | _ => True

theorem Permit.all_admits (op : StoreOp) : Permit.all.Admits db op := by
  cases op <;> simp [Permit.Admits, Permit.all]

theorem Decided.effect {permit : Permit} {r : Readings} {o : OrderRow} {target : OrderStatus} {now : Time}
    (h : Decided cfg r db db' o target now) (ht : target ≠ .refunded) : Effect cfg permit r db db' :=
  .decided h (fun h' => absurd h' ht)

theorem decideSubmissionConnection_effects {permit : Permit} {r : Readings} {submissionId subjectId : Id}
    {accepted : Bool} {reason actor : String} {row : SubmissionRow} (hd : DeskSound cfg db)
    (h : decideSubmissionConnection cfg db r submissionId subjectId accepted reason actor = .ok (row, db')) :
    Effects cfg permit r db db' := by
  obtain ⟨db₁, hstep, rfl | ⟨db₂, o, target, now, hopen, hdec⟩⟩ := decideSubmissionConnection_ok hd h
  · exact .one (.desk hstep)
  · have ht : target ≠ .refunded := by
      rintro rfl
      have hfail := hdec.failed rfl
      rw [hopen.pending] at hfail
      cases hfail
    exact ((Effects.one (.desk hstep)).tail (.opened hopen)).tail (hdec.effect ht)

theorem StoreOp.run_effects {permit : Permit} {r : Readings} {op : StoreOp} (hd : DeskSound cfg db)
    (hpermitted : permit.Admits db op) (h : op.run cfg db r = .ok db') : Effects cfg permit r db db' := by
  cases op with
  | createIdentity =>
    rcases createIdentity_ok hd h with rfl | ⟨hnone, hstep⟩
    · exact .refl
    · exact .one (.policy hstep (hpermitted hnone))
  | registerNetwork => exact .one (.desk (registerNetwork_ok hd h))
  | registerAsset => exact .one (.desk (registerAsset_ok hd h))
  | registerAddress => exact .one (.desk (registerAddress_ok hd h))
  | revoke => exact .one (.desk (revoke_ok hd h))
  | recordBalanceSnapshot => exact .one (.desk (recordBalanceSnapshot_ok hd h))
  | createBounty =>
    obtain ⟨row, h⟩ := map_snd_eq_ok h
    exact .one (.desk (createBounty_ok hd h))
  | transitionBounty => exact .one (.desk (transitionBounty_ok hd h))
  | maintainExpiredBounties => exact .one (.desk (maintainExpiredBounties_ok hd h))
  | submitToBounty =>
    obtain ⟨row, h⟩ := map_snd_eq_ok h
    exact .one (.desk (submitToBounty_ok hd h))
  | decideSubmission =>
    obtain ⟨row, h⟩ := map_snd_eq_ok h
    obtain ⟨reason, actor, h⟩ := decideSubmission_eq_ok h
    exact decideSubmissionConnection_effects hd h
  | withdrawSubmission =>
    obtain ⟨row, h⟩ := map_snd_eq_ok h
    exact .one (.desk (withdrawSubmission_ok hd h))
  | updatePolicy =>
    obtain ⟨row, h⟩ := map_snd_eq_ok h
    exact .one (.policy (updatePolicy_ok hd h) hpermitted)
  | confirmOrder =>
    obtain ⟨o, now, hdec⟩ := confirmOrder_ok h
    exact .one (hdec.effect nofun)
  | rejectOrder =>
    obtain ⟨o, now, hdec⟩ := rejectOrder_ok h
    exact .one (hdec.effect nofun)
  | cancelOrder =>
    obtain ⟨o, now, hdec⟩ := cancelOrder_ok h
    exact .one (hdec.effect nofun)
  | refundOrder =>
    obtain ⟨o, now, hk, hdec⟩ := refundOrder_ok h
    exact .one (.decided hdec (fun _ => hpermitted o hdec.moved.mem hk))
  | markReconcileRequired =>
    obtain ⟨row, h⟩ := map_snd_eq_ok h
    rcases markReconcileRequired_ok h with rfl | ⟨o, e, a, event, -, -, hs, ho, he, hins, hf⟩
    · exact .refl
    · exact .one (.finished hf (.reconcile hs) (.inr ⟨hs, event, ho, he, hins⟩) (permit.reconcile db e hs))
  | recoverExecution =>
    rcases recoverExecution_ok h with rfl | ⟨o, e, a, -, -, hs, hev, hf⟩
    · exact .refl
    · exact .one (.finished hf (.recovered hs) (.inl hev) (permit.recovered db e hs))

theorem Mark.apply_effects {permit : Permit} {r : Readings} {executionId subjectId : Id} {actor : String}
    {mark : Mark} {row : ExecutionRow} (hp : Paired cfg db)
    (hfinish : ∀ e ∈ db.executions, e.executionId = executionId → e.status ∈ actsOn mark →
      ∀ f, Writes e mark f → permit.finish db e f)
    (h : mark.apply cfg db r executionId subjectId actor = .ok (row, db')) : Effects cfg permit r db db' := by
  obtain ⟨e, he, hid, -, now, settled, ⟨-, rfl⟩ | ⟨hs, hev, o, a, f, hw, hf⟩⟩ := Mark.apply_ok hp h
  · exact .refl
  · exact .one (.finished hf (.mark hs hw) (.inl hev) (hfinish e he hid hs f hw))

end Noyra.Wallet.Proofs
