import Noyra.Proofs.RewardLinks
import Noyra.Wallet.RewardExecution

/-!
# Executing the order of one row

Whatever the signer and the chain answer, executing an order leaves every other order with its execution, and every
bounty, as they were.
-/

namespace Noyra.Wallet.Proofs
open Noyra.Lib Noyra.Wallet.Payouts

variable {cfg : Config} {db db' : DB}

/-- What the execution of an order leaves alone. -/
structure OnlyOrder (orderId : Id) (db db' : DB) : Prop where
  bounties : db'.bounties = db.bounties
  orders : db'.orders.rows.filter (fun o => decide (o.orderId ≠ orderId)) =
    db.orders.rows.filter (fun o => decide (o.orderId ≠ orderId))
  executions : db'.executions.rows.filter (fun e => decide (e.orderId ≠ orderId)) =
    db.executions.rows.filter (fun e => decide (e.orderId ≠ orderId))
  own : ∀ o ∈ db'.orders, o.orderId = orderId → ∃ o₀ ∈ db.orders, o₀.orderId = orderId ∧
    o₀.submissionId = o.submissionId

lemma OnlyOrder.refl (orderId : Id) (db : DB) : OnlyOrder orderId db db :=
  ⟨rfl, rfl, rfl, fun o ho hid => ⟨o, ho, hid, rfl⟩⟩

lemma OnlyOrder.trans {orderId : Id} {db₁ db₂ db₃ : DB} (h : OnlyOrder orderId db₁ db₂)
    (h' : OnlyOrder orderId db₂ db₃) :
    OnlyOrder orderId db₁ db₃ := by
  refine ⟨h'.bounties.trans h.bounties, h'.orders.trans h.orders, h'.executions.trans h.executions, fun o ho hid => ?_⟩
  obtain ⟨o₂, ho₂, hid₂, hsub₂⟩ := h'.own o ho hid
  obtain ⟨o₁, ho₁, hid₁, hsub₁⟩ := h.own o₂ ho₂ hid₂
  exact ⟨o₁, ho₁, hid₁, hsub₁.trans hsub₂⟩

/-- A replaced row that a selection does not see, before or after, does not change the selection. -/
lemma filter_replace_of_unseen {κ ρ : Type} [DecidableEq κ] {key : ρ → κ} (t : Table key) (r : ρ) {p : ρ → Bool}
    (hnew : p r = false) (hold : ∀ x ∈ t, key x = key r → p x = false) :
    (t.replace r).rows.filter p = t.rows.filter p := by
  have hall : ∀ l : List ρ, (∀ x ∈ l, key x = key r → p x = false) →
      (l.map (fun x => if key x = key r then r else x)).filter p = l.filter p := by
    intro l hl
    induction l with
    | nil => rfl
    | cons x l ih =>
      have hrest := ih (fun y hy => hl y (List.mem_cons_of_mem x hy))
      rw [List.map_cons, List.filter_cons, List.filter_cons, hrest]
      by_cases hk : key x = key r
      · rw [if_pos hk, hnew, hl x List.mem_cons_self hk, if_neg Bool.false_ne_true, if_neg Bool.false_ne_true]
      · rw [if_neg hk]
  exact hall t.rows hold

lemma Moved.onlyOrder {o : OrderRow} {target : OrderStatus} {now : Time} (h : Moved cfg db db' o target now) :
    db'.orders.rows.filter (fun x => decide (x.orderId ≠ o.orderId)) = db.orders.rows.filter
      (fun x => decide (x.orderId ≠ o.orderId)) ∧
      ∀ x ∈ db'.orders, x.orderId = o.orderId → ∃ y ∈ db.orders, y.orderId = o.orderId ∧
      y.submissionId = x.submissionId := by
  rw [h.orders]
  refine ⟨filter_replace_of_unseen _ _ (by simp [movedOrder]) (fun x _ hk => by simpa [movedOrder] using hk), ?_⟩
  intro x hx hid
  rcases Table.mem_replace.mp hx with ⟨rfl, -⟩ | ⟨hx, hne⟩
  · exact ⟨o, h.mem, rfl, rfl⟩
  · exact absurd hid hne

lemma Started.onlyOrder {o : OrderRow} {p : Prepared} {attemptId : Id} {now settled : Time}
    (h : Started cfg db db' o p attemptId now settled) : OnlyOrder o.orderId db db' := by
  obtain ⟨horders, hown⟩ := h.moved.onlyOrder
  refine ⟨h.desk.bounties, horders, ?_, hown⟩
  obtain ⟨-, hrows⟩ := Table.insert?_eq_some.mp h.executions
  have hid : p.execution.orderId = o.orderId := h.pair.order.symm
  rw [hrows, List.filter_append, List.filter_singleton, hid]
  simp

lemma Restarted.onlyOrder {o : OrderRow} {e : ExecutionRow} {p : Prepared} {attemptId : Id} {now settled : Time}
    (h : Restarted cfg db db' o e p attemptId now settled) : OnlyOrder o.orderId db db' := by
  obtain ⟨horders, hown⟩ := h.moved.onlyOrder
  refine ⟨h.desk.bounties, horders, ?_, hown⟩
  have hid : p.execution.orderId = o.orderId := by
    rw [h.prepared, h.owns]
    rfl
  have hkey : p.execution.executionId = e.executionId := by
    rw [h.prepared]
    rfl
  have hmem := (Table.find?_eq_some.mp h.found).1
  rw [h.executions]
  refine filter_replace_of_unseen _ _ (by simp [hid]) (fun x hx hk => ?_)
  have hxe : x = e := Table.eq_of_key hx hmem (hk.trans hkey)
  simp [hxe, h.owns]

lemma Finished.onlyOrder {o : OrderRow} {e : ExecutionRow} {a : AttemptRow} {f : Finish} {now settled : Time}
    (h : Finished cfg db db' o e a f now settled) : OnlyOrder o.orderId db db' := by
  obtain ⟨horders, hown⟩ := h.moved.onlyOrder
  refine ⟨h.desk.bounties, horders, ?_, hown⟩
  rw [h.executions]
  refine filter_replace_of_unseen _ _ (by simp [finishedRow, h.owns]) (fun x hx hk => ?_)
  have hxe : x = e := Table.eq_of_key hx h.mem hk
  simp [hxe, h.owns]

/-- The wallet stays sound and everything but the order is left alone. -/
def Handled (cfg : Config) (orderId : Id) (db db' : DB) : Prop := Payable cfg db' ∧ OnlyOrder orderId db db'

lemma Handled.trans {orderId : Id} {db₁ db₂ db₃ : DB} (h : Handled cfg orderId db₁ db₂)
    (h' : Handled cfg orderId db₂ db₃) :
    Handled cfg orderId db₁ db₃ := ⟨h'.1, h.2.trans h'.2⟩

lemma prepareFirst_handled {r : Readings} {orderId subjectId : Id} {actor : String} {q : FirstAttempt} {p : Prepared}
    (hp : Payable cfg db) (h : prepare cfg db r orderId subjectId actor (.first q) = .ok (p, db')) :
    Handled cfg orderId db db' ∧ p.execution ∈ db'.executions ∧ p.execution.orderId = orderId := by
  obtain ⟨o, _, _, _, rfl, -, -, hstart⟩ := prepareFirst_ok h
  obtain ⟨-, hrows⟩ := Table.insert?_eq_some.mp hstart.executions
  refine ⟨⟨hp.turn ⟨⟨r, .one (prepare_effects h)⟩, .inl (prepare_payouts h)⟩, hstart.onlyOrder⟩, ?_,
    hstart.pair.order.symm⟩
  rw [Table.mem_def, hrows]
  exact List.mem_append_right _ (List.mem_singleton_self _)

lemma Mark.apply_handled {r : Readings} {e : ExecutionRow} {executionId subjectId : Id} {actor : String} {mark : Mark}
    {row : ExecutionRow} (hp : Payable cfg db) (he : e ∈ db.executions) (hid : e.executionId = executionId)
    (h : mark.apply cfg db r executionId subjectId actor = .ok (row, db')) : Handled cfg e.orderId db db' := by
  have hpays : payouts db' = payouts db := Mark.apply_payouts hp.sound.paired h
  refine ⟨hp.turn ⟨⟨r, Mark.apply_effects hp.sound.paired (fun _ _ _ _ _ _ => trivial) h⟩, .inl hpays⟩, ?_⟩
  obtain ⟨x, hx, hxid, -, _, _, ⟨-, rfl⟩ | ⟨-, -, o, a, f, -, hf⟩⟩ := Mark.apply_ok hp.sound.paired h
  · exact .refl _ _
  · have hxe : x = e := Table.eq_of_key hx he (hxid.trans hid.symm)
    rw [← hxe, ← hf.owns]
    exact hf.onlyOrder

lemma markUnknown_handled {r : Readings} {e row : ExecutionRow} {subjectId : Id} {actor code : String}
    {tx : Option String} (hp : Payable cfg db) (he : e ∈ db.executions)
    (h : markUnknown cfg db r e.executionId subjectId actor tx code = .ok (row, db')) :
    Handled cfg e.orderId db db' := by
  have happly : (Mark.unknown tx code).apply cfg db r e.executionId subjectId actor = .ok (row, db') := h
  exact Mark.apply_handled hp he rfl happly

lemma recordAnswer_handled {r : Readings} {d : Dispatch} {answer : SignerAnswer} (hp : Payable cfg db)
    (he : d.prepared.execution ∈ db.executions) :
    Handled cfg d.prepared.execution.orderId db (recordAnswer cfg db r d answer).2 := by
  have hsame : Handled cfg d.prepared.execution.orderId db db := ⟨hp, .refl _ _⟩
  unfold recordAnswer
  dsimp only
  cases hmark : markFor d answer with
  | none => exact hsame
  | some mark =>
    dsimp only
    cases happly : mark.apply cfg db r d.prepared.execution.executionId d.prepared.execution.subjectId d.actor with
    | ok p =>
      obtain ⟨row, db'⟩ := p
      exact Mark.apply_handled hp he rfl happly
    | error err =>
      cases err with
      | walletExecutionError message =>
        cases mark with
        | broadcast result =>
          dsimp only
          cases hunknown : markUnknown cfg db (r.drop 4) d.prepared.execution.executionId
            d.prepared.execution.subjectId d.actor
              (some result.txHash) "signer_response_invalid" with
          | ok p =>
            obtain ⟨row, db'⟩ := p
            exact markUnknown_handled hp he hunknown
          | error err => exact hsame
        | _ => exact hsame
      | _ => exact hsame

lemma executeOrder_handled (r : Readings) (orderId subjectId : Id) (actor : String) (q : FirstAttempt)
    (answer : SignerAnswer)
    (hp : Payable cfg db) : Handled cfg orderId db (executeOrder cfg db r orderId subjectId actor q answer).2 := by
  have hsame : Handled cfg orderId db db := ⟨hp, .refl _ _⟩
  unfold executeOrder
  cases callTerms db subjectId actor with
  | error err => exact hsame
  | ok terms =>
    obtain ⟨actor, policyVersion⟩ := terms
    dsimp only
    unfold attemptOrder
    cases hprepare : prepare cfg db r orderId subjectId actor (.first q) with
    | error err => exact hsame
    | ok prepared =>
      obtain ⟨p, db₁⟩ := prepared
      obtain ⟨hhandled, hmem, hid⟩ := prepareFirst_handled hp hprepare
      have hrecord : ∀ ends, Handled cfg p.execution.orderId db₁
          (recordAnswer cfg db₁ (r.drop 8) ⟨(Attempt.first q).retry, p, policyVersion, actor⟩ ends).2 :=
        fun ends => recordAnswer_handled hhandled.1 hmem
      rw [hid] at hrecord
      exact hhandled.trans (hrecord _)

lemma orderExecution_spec {orderId subjectId : Id} {e : ExecutionRow}
    (h : db.orderExecution orderId subjectId = some e) :
    e ∈ db.executions ∧ e.orderId = orderId ∧ e.subjectId = subjectId := by
  have hsome := List.find?_some h
  rw [decide_eq_true_eq] at hsome
  exact ⟨List.mem_of_find?_eq_some h, hsome⟩

lemma pollReceipt_handled {r : Readings} {e row : ExecutionRow} {subjectId : Id} {actor : String}
    {reply : String → ReceiptReply} (hp : Payable cfg db) (he : e ∈ db.executions)
    (h : pollReceipt cfg db r e.executionId subjectId actor reply = .ok (row, db')) : Handled cfg e.orderId db db' := by
  obtain ⟨⟨_, execution⟩, -, h⟩ := bind_eq_ok.mp h
  dsimp only at h
  split at h
  · cases h
    exact ⟨hp, .refl _ _⟩
  · obtain ⟨found, -, h⟩ := bind_eq_ok.mp h
    split at h
    · cases h
      exact ⟨hp, .refl _ _⟩
    · exact Mark.apply_handled hp he rfl h

lemma markReconcileRequired_handled {r : Readings} {e row : ExecutionRow} {subjectId : Id} {actor reason : String}
    (hp : Payable cfg db) (he : e ∈ db.executions)
    (h : markReconcileRequired cfg db r e.executionId subjectId actor reason = .ok (row, db')) :
    Handled cfg e.orderId db db' := by
  rcases markReconcileRequired_ok h with rfl | ⟨o, x, a, event, hid, -, hstatus, hevent, hexecution, hinsert, hf⟩
  · exact ⟨hp, .refl _ _⟩
  · have hxe : x = e := Table.eq_of_key hf.mem he hid
    subst hxe
    refine ⟨hp.turn ⟨⟨r, .one (.finished hf (.reconcile hstatus) (.inr ⟨hstatus, event, hevent, hexecution, hinsert⟩)
      trivial)⟩, .inl hf.payouts⟩, ?_⟩
    rw [← hf.owns]
    exact hf.onlyOrder

lemma executeTarget_handled {x : RowReadings} {target : OrderRow} {subjectId : Id} {actor : String}
    (hp : Payable cfg db) :
    Handled cfg target.orderId db (executeTarget cfg db x target subjectId actor).2 := by
  have hsame : Handled cfg target.orderId db db := ⟨hp, .refl _ _⟩
  unfold executeTarget
  split
  · have hexecute := executeOrder_handled x.execution target.orderId subjectId actor x.first x.answer hp
    cases hrun : executeOrder cfg db x.execution target.orderId subjectId actor x.first x.answer with
    | mk outcome db' =>
      rw [hrun] at hexecute
      cases outcome <;> exact hexecute
  · split
    · exact hsame
    · next current hcurrent =>
      obtain ⟨hmem, hid, -⟩ := orderExecution_spec hcurrent
      split
      · exact hsame
      · split
        · next hpoll =>
          rw [← hid]
          exact pollReceipt_handled hp hmem hpoll
        · exact hsame

end Noyra.Wallet.Proofs
