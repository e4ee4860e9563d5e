import Mathlib.Algebra.Order.BigOperators.Group.List
import Noyra.Proofs.Ledger
import Noyra.Wallet.Payouts
import Noyra.Wallet.Workflow

/-!
# The wallet pays what its bounties allow

Every transaction of the economy store and of the reward workflows is at most one step of the abstract
payouts; everything else leaves the terms of bounties, submissions and orders alone.
-/

namespace Noyra.Wallet.Proofs
open Noyra.Lib Noyra.Wallet.Payouts

variable {cfg : Config} {db db' : DB}

def bountyTerms (b : BountyRow) : Bounty Id :=
  ⟨b.bountyId, b.networkId, b.assetId, b.rewardAmount, b.rewardSlots, b.maxSubmissions⟩

def standingOf : SubmissionStatus → Standing
  | .submitted => .submitted
  | .accepted => .accepted
  | _ => .dropped

def submissionTerms (s : SubmissionRow) : Submission Id :=
  ⟨s.submissionId, s.bountyId, s.recipientAddress, standingOf s.status⟩

def orderTerms (o : OrderRow) : Payment Id :=
  ⟨o.bountyId, o.submissionId, o.networkId, o.assetId, o.recipientAddress, o.amount⟩

def payouts (db : DB) : State Id :=
  ⟨db.bounties.rows.map bountyTerms, db.submissions.rows.map submissionTerms, db.orders.rows.map orderTerms⟩

/-- The transaction is at most one abstract step. -/
def Pays (db db' : DB) : Prop := payouts db' = payouts db ∨ Step (payouts db) (payouts db')

lemma Pays.valid (h : Pays db db') (hv : Valid (payouts db)) : Valid (payouts db') := by
  rcases h with h | h
  · rw [h]
    exact hv
  · exact hv.step h

lemma standingOf_eq_submitted {s : SubmissionStatus} : standingOf s = .submitted ↔ s = .submitted := by
  cases s <;> simp [standingOf]

lemma standingOf_eq_accepted {s : SubmissionStatus} : standingOf s = .accepted ↔ s = .accepted := by
  cases s <;> simp [standingOf]

lemma accepted_payouts (db : DB) (bountyId : Id) : (payouts db).accepted bountyId =
    (db.submissions.rows.filter (fun s => s.bountyId = bountyId ∧ s.status = .accepted)).length := by
  simp only [State.accepted, payouts]
  rw [List.countP_map, List.countP_eq_length_filter]
  congr 1
  apply List.filter_congr
  intro s _
  rw [Bool.eq_iff_iff]
  simp only [submissionTerms, Function.comp, decide_eq_true_eq, standingOf_eq_accepted]

lemma considered_payouts (db : DB) (bountyId : Id) : (payouts db).considered bountyId =
    (db.submissions.rows.filter (fun s => s.bountyId = bountyId ∧
      s.status ∈ [SubmissionStatus.submitted, .accepted])).length := by
  simp only [State.considered, payouts]
  rw [List.countP_map, List.countP_eq_length_filter]
  congr 1
  apply List.filter_congr
  intro s _
  rw [Bool.eq_iff_iff]
  simp only [submissionTerms, Function.comp, decide_eq_true_eq, standingOf_eq_accepted, standingOf_eq_submitted,
    List.mem_cons, List.not_mem_nil, or_false]

lemma payouts_of_desk (hs : SameDesk db db') (ho : db'.orders.rows.map orderTerms = db.orders.rows.map orderTerms) :
    payouts db' = payouts db := by
  simp [payouts, hs.bounties, hs.submissions, ho]

lemma Moved.orderTerms {o : OrderRow} {target : OrderStatus} {now : Time} (h : Moved cfg db db' o target now) :
    db'.orders.rows.map Proofs.orderTerms = db.orders.rows.map Proofs.orderTerms := by
  rw [h.orders]
  have hfind : db.orders.find? (movedOrder cfg o target now).orderId = some o := h.found
  exact Table.replace_rows_of_find? hfind rfl

lemma Decided.payouts {r : Readings} {o : OrderRow} {target : OrderStatus} {now : Time}
    (h : Decided cfg r db db' o target now) : payouts db' = payouts db :=
  payouts_of_desk h.desk h.moved.orderTerms

lemma Finished.payouts {o : OrderRow} {e : ExecutionRow} {a : AttemptRow} {f : Finish} {now settled : Time}
    (h : Finished cfg db db' o e a f now settled) : payouts db' = payouts db :=
  payouts_of_desk h.desk h.moved.orderTerms

lemma prepare_payouts {r : Readings} {orderId subjectId : Id} {actor : String} {attempt : Attempt} {p : Prepared}
    (h : prepare cfg db r orderId subjectId actor attempt = .ok (p, db')) : payouts db' = payouts db := by
  cases attempt with
  | first q =>
    obtain ⟨o, policy, asset, source, -, -, -, hstart⟩ := prepareFirst_ok h
    exact payouts_of_desk hstart.desk hstart.moved.orderTerms
  | further reason =>
    obtain ⟨o, e, policy, source, -, -, -, hstart⟩ := prepareRetry_ok h
    exact payouts_of_desk hstart.desk hstart.moved.orderTerms

lemma Mark.apply_payouts {r : Readings} {executionId subjectId : Id} {actor : String} {mark : Mark}
    {row : ExecutionRow} (hp : Paired cfg db) (h : mark.apply cfg db r executionId subjectId actor = .ok (row, db')) :
    payouts db' = payouts db := by
  obtain ⟨e, -, -, -, now, settled, ⟨-, rfl⟩ | ⟨-, -, o, a, f, -, hf⟩⟩ := Mark.apply_ok hp h
  · rfl
  · exact hf.payouts

lemma setBountyStatus_payouts {r : Readings} {row : BountyRow} {target : BountyStatus} {reason actor : String}
    (hrow : bountyTerms row ∈ (payouts db).bounties)
    (h : setBountyStatus cfg db r row target reason actor = .ok db') : payouts db' = payouts db := by
  simp only [setBountyStatus, DB.updateBounty, bind_eq_ok, raiseIf_eq_ok, Except.ok.injEq] at h
  obtain ⟨-, -, rfl⟩ := h
  obtain ⟨old, hold, hterms⟩ := List.mem_map.mp hrow
  have hid : old.bountyId = row.bountyId := congrArg Bounty.id hterms
  have hfind : db.bounties.find? row.bountyId = some old := hid ▸ Table.find?_key hold
  have hsame : ∀ new : BountyRow, bountyTerms new = bountyTerms row →
      (db.bounties.replace new).rows.map bountyTerms = db.bounties.rows.map bountyTerms := by
    intro new hnew
    have hkey : new.bountyId = row.bountyId := congrArg Bounty.id hnew
    exact Table.replace_rows_of_find? (hkey ▸ hfind) (hnew.trans hterms.symm)
  simp only [payouts, audit]
  congr 1
  apply hsame
  rfl

lemma expireIfDue_payouts {r : Readings} {row : BountyRow} {status : BountyStatus} {reason actor : String}
    (hrow : bountyTerms row ∈ (payouts db).bounties)
    (h : expireIfDue cfg db r row status reason actor = .ok db') : payouts db' = payouts db := by
  unfold expireIfDue at h
  split at h
  · exact setBountyStatus_payouts hrow h
  · cases h
    rfl

lemma mem_payouts_bounties {id : Id} {row : BountyRow} (h : db.bounties.find? id = some row) :
    bountyTerms row ∈ (payouts db).bounties :=
  List.mem_map_of_mem (Table.find?_eq_some.mp h).1

lemma transitionBounty_payouts {r : Readings} {bountyId subjectId : Id} {target : BountyStatus} {actor : String}
    (h : transitionBounty cfg db r bountyId subjectId target actor = .ok db') : payouts db' = payouts db := by
  simp only [transitionBounty, bind_eq_ok, raiseIf_eq_ok, orRaise_eq_ok, Option.filter_eq_some_iff] at h
  obtain ⟨actor, -, -, -, row, ⟨hrow, -⟩, db₁, h₁, row₁, hrow₁, -, -, h₂⟩ := h
  have h₁' := expireIfDue_payouts (mem_payouts_bounties hrow) h₁
  rw [setBountyStatus_payouts (mem_payouts_bounties hrow₁) h₂, h₁']

lemma expireBounties_payouts {now : Time} {rows : List BountyRow} :
    ∀ {db : DB} {r : Readings}, (∀ b ∈ rows, bountyTerms b ∈ (payouts db).bounties) →
      expireBounties cfg now db r rows = .ok db' → payouts db' = payouts db := by
  induction rows with
  | nil =>
    intro db r _ h
    cases h
    rfl
  | cons row rows ih =>
    intro db r hrows h
    have htail : ∀ b ∈ rows, bountyTerms b ∈ (payouts db).bounties := fun b hb => hrows b (List.mem_cons_of_mem _ hb)
    unfold expireBounties at h
    split at h
    · obtain ⟨db₁, h₁, h₂⟩ := bind_eq_ok.mp h
      have hsame := setBountyStatus_payouts (hrows row List.mem_cons_self) h₁
      rw [ih (by rwa [hsame]) h₂, hsame]
    · exact ih htail h

lemma maintainExpiredBounties_payouts {r : Readings} {subjectId : Id} {limit : Nat}
    (h : maintainExpiredBounties cfg db r subjectId limit = .ok db') : payouts db' = payouts db := by
  simp only [maintainExpiredBounties, bind_eq_ok, raiseIf_eq_ok] at h
  obtain ⟨-, -, h⟩ := h
  apply expireBounties_payouts _ h
  intro b hb
  have hb' := List.mem_of_mem_take hb
  rw [List.mem_insertionSort, List.mem_filter] at hb'
  exact List.mem_map_of_mem hb'.1

lemma createBounty_pays {r : Readings} {subjectId : Id} {proposal : BountyInput} {actor : String}
    {projectOwner goalOwner : Option Id} {row : BountyRow}
    (h : createBounty cfg db r subjectId proposal actor projectOwner goalOwner = .ok (row, db')) : Pays db db' := by
  simp only [createBounty, bind_eq_ok, raiseIf_eq_ok] at h
  obtain ⟨actor, -, -, -, network, -, asset, -, -, -, -, -, -, -, h⟩ := h
  split at h
  · simp only [bind_eq_ok, raiseIf_eq_ok, Except.ok.injEq, Prod.mk.injEq] at h
    obtain ⟨-, -, -, rfl⟩ := h
    exact .inl rfl
  · simp only [DB.insertBounty, bind_eq_ok, raiseIf_eq_ok, orRaise_eq_ok, Except.ok.injEq, Prod.mk.injEq] at h
    obtain ⟨db₁, ⟨-, -, bounties, hins, hdb₁⟩, hrow, rfl⟩ := h
    obtain ⟨hfresh, hrows⟩ := Table.insert?_eq_some.mp hins
    subst hdb₁
    right
    have hb : ∀ x ∈ (payouts db).bounties, x.id ≠ (bountyTerms row).id := by
      intro x hx
      obtain ⟨b, hb, rfl⟩ := List.mem_map.mp hx
      rw [← hrow]
      exact hfresh b hb
    have hstep := Step.offer (payouts db) (bountyTerms row) hb
    simpa [payouts, hrows, hrow, audit] using hstep

lemma submitToBounty_pays {r : Readings} {bountyId subjectId : Id} {proposal : SubmissionInput} {row : SubmissionRow}
    (h : submitToBounty cfg db r bountyId subjectId proposal = .ok (row, db')) : Pays db db' := by
  simp only [submitToBounty, bind_eq_ok, orRaise_eq_ok, Option.filter_eq_some_iff] at h
  obtain ⟨-, -, bounty, ⟨hb, -⟩, h⟩ := h
  split at h
  · simp only [bind_eq_ok, raiseIf_eq_ok, Except.ok.injEq, Prod.mk.injEq] at h
    obtain ⟨-, -, -, rfl⟩ := h
    exact .inl rfl
  · simp only [DB.insertSubmission, bind_eq_ok, raiseIf_eq_ok, orRaise_eq_ok, Except.ok.injEq, Prod.mk.injEq] at h
    obtain ⟨db₁, h₁, -, -, -, hroom, db₂, ⟨-, -, submissions, hins, hdb₂⟩, hrow, rfl⟩ := h
    have hsame := expireIfDue_payouts (mem_payouts_bounties hb) h₁
    obtain ⟨hfresh, hrows⟩ := Table.insert?_eq_some.mp hins
    have hid : bounty.bountyId = bountyId := (Table.find?_eq_some.mp hb).2
    have hbounty := mem_payouts_bounties hb
    right
    rw [← hsame] at hbounty ⊢
    have hnew : ∀ y ∈ (payouts db₁).submissions, y.id ≠ (submissionTerms row).id := by
      intro y hy
      obtain ⟨s, hs, rfl⟩ := List.mem_map.mp hy
      rw [← hrow]
      exact hfresh s hs
    have hless : (payouts db₁).considered (bountyTerms bounty).id < (bountyTerms bounty).limit := by
      rw [considered_payouts]
      simp only [bountyTerms, hid]
      omega
    have hstep := Step.submit (payouts db₁) (bountyTerms bounty) (submissionTerms row) hbounty
      (by rw [← hrow]; exact hid.symm) (by rw [← hrow]; rfl) hnew hless
    subst hdb₂
    simpa [payouts, hrows, hrow, audit] using hstep

/-- Writing back a submission with another status moves it. -/
lemma payouts_replace_submission (row : SubmissionRow) {old : SubmissionRow}
    (hfind : db.submissions.find? row.submissionId = some old)
    (hbounty : row.bountyId = old.bountyId) (hrecipient : row.recipientAddress = old.recipientAddress) :
    (db.submissions.replace row).rows.map submissionTerms =
      decideIn (payouts db).submissions row.submissionId (standingOf row.status) := by
  simp only [Table.replace, payouts, decideIn, List.map_map]
  apply List.map_congr_left
  intro x hx
  by_cases hk : x.submissionId = row.submissionId
  · have hxo : x = old := Option.some.inj ((Table.find?_eq_some.mpr ⟨hx, hk⟩).symm.trans hfind)
    subst hxo
    simp [submissionTerms, hk, hbounty, hrecipient]
  · simp [submissionTerms, hk]

lemma withdrawSubmission_pays {r : Readings} {submissionId subjectId : Id} {actor : String} {row : SubmissionRow}
    (h : withdrawSubmission cfg db r submissionId subjectId actor = .ok (row, db')) : Pays db db' := by
  simp only [withdrawSubmission, bind_eq_ok, raiseIf_eq_ok, orRaise_eq_ok, Except.ok.injEq, Prod.mk.injEq,
    DB.updateSubmission, Option.filter_eq_some_iff] at h
  obtain ⟨-, -, s, ⟨hs, -⟩, -, hsub, db₁, ⟨-, -, hdb₁⟩, -, rfl⟩ := h
  obtain ⟨hmem, rfl⟩ := Table.find?_eq_some.mp hs
  right
  have hx : submissionTerms s ∈ (payouts db).submissions := List.mem_map_of_mem hmem
  have hstep := Step.drop (payouts db) (submissionTerms s) hx (standingOf_eq_submitted.mpr (not_not.mp hsub))
  have hterms := payouts_replace_submission { s with
    status := .withdrawn, decisionReason := some "withdrawn", decidedAt := some (r 0).clock,
    stateHash := submissionStateHashRow cfg s .withdrawn (some "withdrawn") } hs rfl rfl
  subst hdb₁
  simp only [payouts, audit] at hterms hstep ⊢
  rw [hterms]
  exact hstep

lemma ensureOrder_cases {r : Readings} {s : SubmissionRow} (h : ensureOrder cfg db r s = .ok db') :
    (∃ o ∈ db.orders, o.submissionId = s.submissionId) ∨
      ∃ b, db.bounties.find? s.bountyId = some b ∧ SameDesk db db' ∧
        db'.orders.rows.map orderTerms =
          db.orders.rows.map orderTerms ++ [paymentFor (bountyTerms b) (submissionTerms s)] := by
  unfold ensureOrder at h
  split at h
  · next hex => exact .inl hex
  · right
    simp only [bind_eq_ok, orRaise_eq_ok] at h
    obtain ⟨b, hb, db₁, h₁, h₂⟩ := h
    obtain ⟨hins, hf⟩ := insertOrder_ok h₁
    have hfind : db₁.orders.find? (pendingOrder cfg r s b (db.policyRow s.subjectId)).orderId =
        some (pendingOrder cfg r s b (db.policyRow s.subjectId)) := by
      rw [Table.find?_insert hins, if_pos rfl]
    obtain ⟨target, now, hd⟩ := decideOrder_ok hfind h₂
    have hid : b.bountyId = s.bountyId := (Table.find?_eq_some.mp hb).2
    refine ⟨b, hb, ((audit_logOnly ..).desk.trans hf.desk).trans hd.desk, ?_⟩
    rw [hd.moved.orderTerms, (Table.insert?_eq_some.mp hins).2, List.map_append]
    simp [orderTerms, pendingOrder, paymentFor, bountyTerms, submissionTerms, hid, audit]

/-- The decision: one submission dropped, or accepted with its order. -/
lemma decideSubmissionConnection_pays {r : Readings} {submissionId subjectId : Id} {accepted : Bool}
    {reason actor : String} {row : SubmissionRow} (hv : Valid (payouts db))
    (h : decideSubmissionConnection cfg db r submissionId subjectId accepted reason actor = .ok (row, db')) :
    Pays db db' := by
  simp only [decideSubmissionConnection, bind_eq_ok, raiseIf_eq_ok, orRaise_eq_ok, DB.updateSubmission,
    Option.filter_eq_some_iff, Except.ok.injEq] at h
  obtain ⟨s, ⟨hs, -⟩, -, hsub, b, ⟨hb, -⟩, -, hslots, db₁, ⟨-, -, hdb₁⟩, h⟩ := h
  obtain ⟨hmem, rfl⟩ := Table.find?_eq_some.mp hs
  have hx : submissionTerms s ∈ (payouts db).submissions := List.mem_map_of_mem hmem
  have hopen : (submissionTerms s).standing = .submitted := standingOf_eq_submitted.mpr (not_not.mp hsub)
  have hid : b.bountyId = s.bountyId := (Table.find?_eq_some.mp hb).2
  right
  cases accepted with
  | false =>
    simp only [Bool.false_eq_true, if_false, Except.ok.injEq, Prod.mk.injEq] at h hdb₁
    obtain ⟨-, rfl⟩ := h
    have hterms := payouts_replace_submission { s with
      status := .rejected, decisionReason := some reason, decidedAt := some (r 0).clock,
      stateHash := submissionStateHashRow cfg s .rejected (some reason) } hs rfl rfl
    have hstep := Step.drop (payouts db) (submissionTerms s) hx hopen
    subst hdb₁
    simp only [payouts, audit] at hterms hstep ⊢
    rw [hterms]
    exact hstep
  | true =>
    simp only [if_true, bind_eq_ok, Except.ok.injEq, Prod.mk.injEq] at h hdb₁
    obtain ⟨db₂, h₂, -, rfl⟩ := h
    have hterms := payouts_replace_submission { s with
      status := .accepted, decisionReason := some reason, decidedAt := some (r 0).clock,
      stateHash := submissionStateHashRow cfg s .accepted (some reason) } hs rfl rfl
    subst hdb₁
    rcases ensureOrder_cases h₂ with ⟨o, ho, hos⟩ | ⟨b', hb', hdesk, horders⟩
    · -- an open submission has no order yet
      exfalso
      obtain ⟨y, hy, hyid, hacc⟩ := hv.earned (orderTerms o) (List.mem_map_of_mem ho)
      have hys := List.inj_on_of_nodup_map hv.submission_ids hy hx (hyid.trans hos)
      rw [hys, hopen] at hacc
      cases hacc
    · have hbb : b' = b := Option.some.inj (hb'.symm.trans hb)
      subst hbb
      have hroom : (payouts db).accepted (bountyTerms b').id < (bountyTerms b').slots := by
        rw [accepted_payouts]
        simp only [true_and, ge_iff_le, not_le] at hslots
        simpa [bountyTerms, hid] using hslots
      have hstep := Step.accept (payouts db) (bountyTerms b') (submissionTerms s) (mem_payouts_bounties hb) hx hid.symm
        hopen hroom
      have hsubs := hdesk.submissions
      have hbounties := hdesk.bounties
      simp only [payouts, audit, hsubs, hbounties, horders] at hterms hstep ⊢
      rw [hterms]
      exact hstep

lemma upsertPolicy_payouts (row : PolicyRow) : payouts (db.upsertPolicy row) = payouts db := by
  unfold DB.upsertPolicy
  split <;> rfl

lemma updatePolicy_payouts {r : Readings} {subjectId : Id} {proposal : PaymentPolicyInput} {expectedVersion : Nat}
    {actor : String} {request : Option AutomationRequest} {row : PolicyRow}
    (h : updatePolicy cfg db r subjectId proposal expectedVersion actor request = .ok (row, db')) :
    payouts db' = payouts db := by
  simp only [updatePolicy, bind_eq_ok, raiseIf_eq_ok] at h
  obtain ⟨actor, -, -, -, -, -, -, -, h⟩ := h
  split at h
  · simp only [bind_eq_ok, raiseIf_eq_ok, orRaise_eq_ok, Except.ok.injEq, Prod.mk.injEq] at h
    obtain ⟨-, -, -, -, -, rfl⟩ := h
    rfl
  · simp only [applyPolicy, bind_eq_ok, raiseIf_eq_ok] at h
    obtain ⟨-, -, -, -, h⟩ := h
    split at h
    · cases h
      exact upsertPolicy_payouts _
    · cases h
      exact upsertPolicy_payouts _

lemma createIdentity_payouts {r : Readings} {subjectId : Id} (h : createIdentity cfg db r subjectId = .ok db') :
    payouts db' = payouts db := by
  simp only [createIdentity, bind_eq_ok] at h
  obtain ⟨-, -, h⟩ := h
  split at h
  · cases h
    rfl
  · cases h
    rfl

/-- Registrations write tables of their own. -/
lemma registry_payouts {r : Readings} {op : StoreOp} (h : op.run cfg db r = .ok db')
    (hop : (∃ a b c, op = .registerNetwork a b c) ∨ (∃ a b c d, op = .registerAsset a b c d) ∨
      (∃ a b c d e, op = .registerAddress a b c d e) ∨ (∃ a b c, op = .revoke a b c) ∨
      ∃ a b c d e f, op = .recordBalanceSnapshot a b c d e f) : payouts db' = payouts db := by
  rcases hop with ⟨_, _, _, rfl⟩ | ⟨_, _, _, _, rfl⟩ | ⟨_, _, _, _, _, rfl⟩ | ⟨_, _, what, rfl⟩ |
    ⟨_, _, _, _, _, _, rfl⟩
  · simp only [StoreOp.run, registerNetwork, bind_eq_ok, raiseIf_eq_ok, orRaise_eq_ok, Except.ok.injEq] at h
    obtain ⟨_, -, -, -, -, -, -, -, networks, -, rfl⟩ := h
    rfl
  · simp only [StoreOp.run, registerAsset, bind_eq_ok, raiseIf_eq_ok, orRaise_eq_ok, Except.ok.injEq] at h
    obtain ⟨_, -, -, -, -, -, network, -, -, -, -, -, assets, -, rfl⟩ := h
    rfl
  · simp only [StoreOp.run, registerAddress, bind_eq_ok, raiseIf_eq_ok, orRaise_eq_ok, Except.ok.injEq] at h
    obtain ⟨_, -, -, -, -, -, network, -, -, -, -, -, addresses, -, rfl⟩ := h
    rfl
  · cases what with
    | network networkId =>
      simp only [StoreOp.run, revoke, bind_eq_ok] at h
      obtain ⟨actor, -, row, -, h⟩ := h
      split at h
      · cases h
        rfl
      · simp only [bind_eq_ok, raiseIf_eq_ok, Except.ok.injEq] at h
        obtain ⟨-, -, rfl⟩ := h
        rfl
    | asset assetId =>
      simp only [StoreOp.run, revoke, bind_eq_ok] at h
      obtain ⟨actor, -, row, -, h⟩ := h
      split at h <;> cases h <;> rfl
    | address addressId =>
      simp only [StoreOp.run, revoke, bind_eq_ok] at h
      obtain ⟨actor, -, row, -, h⟩ := h
      split at h <;> cases h <;> rfl
  · simp only [StoreOp.run, recordBalanceSnapshot, DB.insertSnapshot, bind_eq_ok, raiseIf_eq_ok, orRaise_eq_ok,
      Except.ok.injEq] at h
    obtain ⟨-, -, -, -, asset, -, address, -, -, -, network, -, -, -, snapshots, -, rfl⟩ := h
    rfl

theorem StoreOp.run_pays {r : Readings} {op : StoreOp} (hv : Valid (payouts db)) (h : op.run cfg db r = .ok db') :
    Pays db db' := by
  cases op with
  | createIdentity => exact .inl (createIdentity_payouts h)
  | registerNetwork => exact .inl (registry_payouts h (.inl ⟨_, _, _, rfl⟩))
  | registerAsset => exact .inl (registry_payouts h (.inr (.inl ⟨_, _, _, _, rfl⟩)))
  | registerAddress => exact .inl (registry_payouts h (.inr (.inr (.inl ⟨_, _, _, _, _, rfl⟩))))
  | revoke => exact .inl (registry_payouts h (.inr (.inr (.inr (.inl ⟨_, _, _, rfl⟩)))))
  | recordBalanceSnapshot => exact .inl (registry_payouts h (.inr (.inr (.inr (.inr ⟨_, _, _, _, _, _, rfl⟩)))))
  | createBounty =>
    obtain ⟨row, h⟩ := map_snd_eq_ok h
    exact createBounty_pays h
  | transitionBounty => exact .inl (transitionBounty_payouts h)
  | maintainExpiredBounties => exact .inl (maintainExpiredBounties_payouts h)
  | submitToBounty =>
    obtain ⟨row, h⟩ := map_snd_eq_ok h
    exact submitToBounty_pays h
  | decideSubmission =>
    obtain ⟨row, h⟩ := map_snd_eq_ok h
    obtain ⟨reason, actor, h⟩ := decideSubmission_eq_ok h
    exact decideSubmissionConnection_pays hv h
  | withdrawSubmission =>
    obtain ⟨row, h⟩ := map_snd_eq_ok h
    exact withdrawSubmission_pays h
  | updatePolicy =>
    obtain ⟨row, h⟩ := map_snd_eq_ok h
    exact .inl (updatePolicy_payouts h)
  | confirmOrder =>
    obtain ⟨o, now, hdec⟩ := confirmOrder_ok h
    exact .inl hdec.payouts
  | rejectOrder =>
    obtain ⟨o, now, hdec⟩ := rejectOrder_ok h
    exact .inl hdec.payouts
  | cancelOrder =>
    obtain ⟨o, now, hdec⟩ := cancelOrder_ok h
    exact .inl hdec.payouts
  | refundOrder =>
    obtain ⟨o, now, hk, hdec⟩ := refundOrder_ok h
    exact .inl hdec.payouts
  | markReconcileRequired =>
    obtain ⟨row, h⟩ := map_snd_eq_ok h
    rcases markReconcileRequired_ok h with rfl | ⟨o, e, a, event, -, -, -, -, -, -, hf⟩
    · exact .inl rfl
    · exact .inl hf.payouts
  | recoverExecution =>
    rcases recoverExecution_ok h with rfl | ⟨o, e, a, -, -, -, -, hf⟩
    · exact .inl rfl
    · exact .inl hf.payouts

theorem step_pays {s : Sys} {a : Action} (hs : Sound cfg s.db) (hv : Valid (payouts s.db)) :
    Pays s.db (step cfg s a).db := by
  have h : Event cfg s a (step cfg s a) := step_event s a
  generalize step cfg s a = s' at h
  cases h with
  | store hrun => exact StoreOp.run_pays hv hrun
  | prepared _ hprep => exact .inl (prepare_payouts hprep)
  | answered _ _ hmark => exact .inl (Mark.apply_payouts hs.paired hmark)
  | marked _ hmark => exact .inl (Mark.apply_payouts hs.paired hmark)
  | _ => exact .inl rfl

/-! ### Transactions of the workflows -/

/-- What the workflows do to the wallet tables: effects of the store, at most one abstract step. -/
structure Turn (cfg : Config) (db db' : DB) : Prop where
  effects : ∃ r, Effects cfg Permit.all r db db'
  pays : Pays db db'

/-- Only the audit log differs. -/
def OnlyAudits (db db' : DB) : Prop := ∃ audits, db' = { db with audits }

lemma OnlyAudits.refl (db : DB) : OnlyAudits db db := ⟨db.audits, rfl⟩

lemma OnlyAudits.trans {db₁ db₂ db₃ : DB} (h : OnlyAudits db₁ db₂) (h' : OnlyAudits db₂ db₃) : OnlyAudits db₁ db₃ := by
  obtain ⟨a, rfl⟩ := h
  obtain ⟨b, rfl⟩ := h'
  exact ⟨b, rfl⟩

lemma onlyAudits_audit (db : DB) (r : Reading) (subjectId : Id) (action actor : String) (payload : Json) :
    OnlyAudits db (audit db r subjectId action actor payload) :=
  ⟨_, rfl⟩

lemma OnlyAudits.payouts (h : OnlyAudits db db') : payouts db' = payouts db := by
  obtain ⟨a, rfl⟩ := h
  rfl

lemma OnlyAudits.desk (h : OnlyAudits db db') (hd : DeskSound cfg db) : DeskStep cfg db db' := by
  obtain ⟨a, rfl⟩ := h
  exact ⟨⟨rfl, ⟨rfl, rfl⟩, ⟨rfl, rfl⟩, rfl⟩, rfl, hd.policies, hd.bounties, hd.submissions, hd.native, hd.contract⟩

lemma Turn.desk {db₁ db₂ : DB} (h : DeskStep cfg db db₁) (hp : Pays db db₁) (h' : OnlyAudits db₁ db₂) :
    Turn cfg db db₂ := by
  refine ⟨⟨fun _ => ⟨0, 0, "", false⟩, .one (.desk (h.trans (h'.desk h.sound)))⟩, ?_⟩
  unfold Pays at *
  rwa [h'.payouts]

lemma Turn.log (h : OnlyAudits db db') (hd : DeskSound cfg db) : Turn cfg db db' :=
  .desk (.refl hd) (.inl rfl) h

lemma updateWorkflow_db {d d' : RewardDb} {row : WorkflowRow} (h : d.updateWorkflow row = .ok d') : d'.db = d.db := by
  simp only [RewardDb.updateWorkflow, bind_eq_ok, Except.ok.injEq] at h
  obtain ⟨-, -, rfl⟩ := h
  rfl

lemma transitionWorkflow_audits {d d' : RewardDb} {r : Readings} {row : WorkflowRow} {target : WorkflowStatus}
    {actor reason : String} (h : transitionWorkflow cfg d r row target actor reason = .ok d') :
    OnlyAudits d.db d'.db := by
  unfold transitionWorkflow at h
  split at h
  · cases h
    exact .refl _
  · obtain ⟨_, -, h⟩ := bind_eq_ok.mp h
    rw [updateWorkflow_db h]
    exact onlyAudits_audit ..

lemma openIncident_audits {d d' : RewardDb} {r : Readings} {workflow : WorkflowRow}
    {submissionId executionId : Option Id} {kind : IncidentKind} {reason cause : String}
    (h : openIncident cfg d r workflow submissionId executionId kind reason cause = .ok d') :
    OnlyAudits d.db d'.db := by
  unfold openIncident at h
  simp only at h
  split at h
  · obtain ⟨_, -, h⟩ := bind_eq_ok.mp h
    cases h
    exact .refl _
  · simp only [RewardDb.insertIncident, bind_eq_ok, raiseIf_eq_ok, orRaise_eq_ok, Except.ok.injEq] at h
    obtain ⟨d₁, ⟨-, -, -, -, incidents, -, rfl⟩, h⟩ := h
    refine OnlyAudits.trans ?_ (transitionWorkflow_audits h)
    exact ⟨_, rfl⟩

lemma linkSubmission_audits {d d' : RewardDb} {r : Readings} {workflow : WorkflowRow} {submissionId : Id}
    {source : SourceType} {event interaction : Option Id} {hash : String} {networkId : Id} {actor : String}
    (h : linkSubmission cfg d r workflow submissionId source event interaction hash networkId actor = .ok d') :
    OnlyAudits d.db d'.db := by
  unfold linkSubmission at h
  split at h
  · obtain ⟨_, -, h⟩ := bind_eq_ok.mp h
    cases h
    exact .refl _
  · simp only [RewardDb.insertLink, bind_eq_ok, raiseIf_eq_ok, orRaise_eq_ok, Except.ok.injEq] at h
    obtain ⟨-, -, -, -, links, -, rfl⟩ := h
    exact onlyAudits_audit ..

lemma createWorkflow_turn {d d' : RewardDb} {r : Readings} {subjectId : Id} {p : RewardWorkflowInput} {actor : String}
    {c : RewardContext} (hd : DeskSound cfg d.db) (h : createWorkflow cfg d r subjectId p actor c = .ok d') :
    Turn cfg d.db d'.db := by
  simp only [createWorkflow, bind_eq_ok] at h
  obtain ⟨-, -, actor, -, h⟩ := h
  split at h
  · obtain ⟨_, -, h⟩ := bind_eq_ok.mp h
    cases h
    exact .log (.refl _) hd
  · simp only [createWorkflowConnection, RewardDb.insertWorkflow, bind_eq_ok, raiseIf_eq_ok, orRaise_eq_ok,
      Except.ok.injEq, Prod.exists] at h
    obtain ⟨request, -, goalId, -, input, -, bounty, db₁, hb, postId, -, -, -, workflows, -, rfl⟩ := h
    exact .desk (createBounty_ok hd hb) (createBounty_pays hb) ⟨_, rfl⟩

lemma moveBounty_turn {r : Readings} {bounty : BountyRow} {id : Id} {source target : BountyStatus}
    {reason actor : String} {error : PyError} (hd : DeskSound cfg db) (hb : db.bounties.find? id = some bounty)
    (h : moveBounty cfg db r bounty source target reason actor error = .ok db') :
    DeskStep cfg db db' ∧ Pays db db' := by
  unfold moveBounty at h
  split at h
  · have hmem := (Table.find?_eq_some.mp hb).1
    exact ⟨setBountyStatus_ok hd (hd.bounties bounty hmem).2 h,
      .inl (setBountyStatus_payouts (mem_payouts_bounties hb) h)⟩
  · obtain ⟨_, -, h⟩ := bind_eq_ok.mp h
    cases h
    exact ⟨.refl hd, .inl rfl⟩

lemma publishWorkflow_turn {d d' : RewardDb} {r : Readings} {workflowId subjectId : Id} {actor : String}
    {post : Option PostStatus} (hd : DeskSound cfg d.db)
    (h : publishWorkflow cfg d r workflowId subjectId actor post = .ok d') : Turn cfg d.db d'.db := by
  simp only [publishWorkflow, bind_eq_ok, raiseIf_eq_ok, orRaise_eq_ok, Option.filter_eq_some_iff] at h
  obtain ⟨actor, -, row, -, -, -, post, -, -, -, -, -, bounty, ⟨hb, -⟩, db₁, hpub, h⟩ := h
  obtain ⟨hstep, hpays⟩ := moveBounty_turn hd hb hpub
  exact .desk hstep hpays (transitionWorkflow_audits h)

lemma submitTo_turn {d d' : RewardDb} {r : Readings} {workflow : WorkflowRow} {subjectId : Id}
    {submission : SubmissionInput} {networkId : Id} {source : SourceType} {event interaction : Option Id}
    {hash mismatch cause actor : String} (hd : DeskSound cfg d.db)
    (h : submitTo cfg d r workflow subjectId submission networkId source event interaction hash mismatch cause actor =
      .ok d') : Turn cfg d.db d'.db := by
  simp only [submitTo, bind_eq_ok, raiseIf_eq_ok] at h
  obtain ⟨-, -, h⟩ := h
  split at h
  · exact .log (openIncident_audits h) hd
  · obtain ⟨⟨row, db₁⟩, hsub, h⟩ := bind_eq_ok.mp h
    exact .desk (submitToBounty_ok hd hsub) (submitToBounty_pays hsub) (linkSubmission_audits h)

lemma decideEvidence_turn {d d' : RewardDb} {r : Readings} {submissionId subjectId : Id}
    {p : RewardEvidenceDecisionInput} {actor : String} (hd : DeskSound cfg d.db) (hv : Valid (payouts d.db))
    (h : decideEvidence cfg d r submissionId subjectId p actor = .ok d') : Turn cfg d.db d'.db := by
  simp only [decideEvidence, bind_eq_ok, orRaise_eq_ok] at h
  obtain ⟨actor, -, link, -, workflow, -, bounty, -, h⟩ := h
  split at h
  · exact .log (openIncident_audits h) hd
  · split at h
    · simp only [bind_eq_ok, Except.ok.injEq] at h
      obtain ⟨-, -, -, -, rfl⟩ := h
      exact .log (.refl _) hd
    · simp only [RewardDb.updateLink, bind_eq_ok, raiseIf_eq_ok, Except.ok.injEq, Prod.exists] at h
      obtain ⟨row, db₁, hdec, -, -, -, -, rfl⟩ := h
      have hlog := (onlyAudits_audit d.db (r 1) subjectId ("wallet_reward_submission_" ++
          (if (p.accepted && p.criteriaResults.all id) = true then VerificationStatus.accepted else .rejected).text)
        actor (.obj [("submission_id", .str submissionId), ("reason", .str p.reason),
          ("idempotency_key", .str p.idempotencyKey)]))
      have hsame := hlog.payouts
      have hstep := hlog.desk hd
      have hpays := decideSubmissionConnection_pays (hsame ▸ hv) hdec
      refine ⟨⟨r.drop 2, .head (.desk hstep) (decideSubmissionConnection_effects hstep.sound hdec)⟩, ?_⟩
      unfold Pays at hpays ⊢
      rwa [RewardDb.audit, hsame] at hpays

lemma completeIfSettled_turn {d d' : RewardDb} {r : Readings} {w : WorkflowRow} {actor : String}
    (hd : DeskSound cfg d.db) (h : completeIfSettled cfg d r w actor = .ok d') : Turn cfg d.db d'.db := by
  simp only [completeIfSettled, bind_eq_ok, orRaise_eq_ok, Option.filter_eq_some_iff] at h
  obtain ⟨bounty, ⟨hb, -⟩, h⟩ := h
  split at h
  · cases h
    exact .log (.refl _) hd
  · simp only [resolveRequest, bind_eq_ok, orRaise_eq_ok] at h
    obtain ⟨-, -, d₁, h₁, db₂, h₂, request, -, h₃⟩ := h
    have hlog := transitionWorkflow_audits h₁
    have hstep := hlog.desk hd
    have hb₁ : d₁.db.bounties.find? w.bountyId = some bounty := by
      obtain ⟨audits, heq⟩ := hlog
      rw [heq]
      exact hb
    obtain ⟨hclose, hpays⟩ := moveBounty_turn hstep.sound hb₁ h₂
    have hdb : d'.db = db₂ := by
      split at h₃
      · cases h₃
        rfl
      · obtain ⟨_, -, h₃⟩ := bind_eq_ok.mp h₃
        cases h₃
        rfl
    have hpays' : Pays d.db db₂ := by
      unfold Pays at hpays ⊢
      rwa [hlog.payouts] at hpays
    rw [hdb]
    exact .desk (hstep.trans hclose) hpays' (.refl _)

theorem WorkflowOp.run_turn {d d' : RewardDb} {r : Readings} {op : WorkflowOp} (hd : DeskSound cfg d.db)
    (hv : Valid (payouts d.db)) (h : op.run cfg d r = .ok d') : Turn cfg d.db d'.db := by
  cases op with
  | openRequest request =>
    simp only [WorkflowOp.run, bind_eq_ok, Except.ok.injEq] at h
    obtain ⟨requests, -, rfl⟩ := h
    exact .log (.refl _) hd
  | create => exact createWorkflow_turn hd h
  | publish => exact publishWorkflow_turn hd h
  | submitPublic =>
    simp only [WorkflowOp.run, submitPublic, bind_eq_ok] at h
    obtain ⟨-, -, workflow, -, h⟩ := h
    exact submitTo_turn hd h
  | submitInbound =>
    simp only [WorkflowOp.run, submitInbound, bind_eq_ok] at h
    obtain ⟨workflow, -, h⟩ := h
    exact submitTo_turn hd h
  | decide => exact decideEvidence_turn hd hv h
  | resolveIncident =>
    simp only [WorkflowOp.run, resolveIncident, bind_eq_ok] at h
    obtain ⟨actor, -, row, -, h⟩ := h
    split at h
    · obtain ⟨_, -, h⟩ := bind_eq_ok.mp h
      cases h
      exact .log (.refl _) hd
    · simp only [RewardDb.updateIncident, bind_eq_ok, Except.ok.injEq] at h
      obtain ⟨-, -, rfl⟩ := h
      exact .log ⟨_, rfl⟩ hd
  | resume =>
    simp only [WorkflowOp.run, resumeWorkflow, bind_eq_ok] at h
    obtain ⟨actor, -, reason, -, row, -, -, -, -, -, h⟩ := h
    exact .log (transitionWorkflow_audits h) hd
  | result =>
    simp only [WorkflowOp.run, resultForSubmission, bind_eq_ok] at h
    obtain ⟨w, -, h⟩ := h
    exact completeIfSettled_turn hd h
  | incident =>
    simp only [WorkflowOp.run, executionIncident, bind_eq_ok] at h
    obtain ⟨w, -, h⟩ := h
    exact .log (openIncident_audits h) hd

/-! ### Every run -/

/-- What holds of the wallet tables between two transactions. -/
structure Payable (cfg : Config) (db : DB) : Prop where
  sound : Sound cfg db
  booked : Booked cfg db
  valid : Valid (payouts db)

lemma Payable.turn (h : Payable cfg db) (ht : Turn cfg db db') : Payable cfg db' := by
  obtain ⟨r, heff⟩ := ht.effects
  have hall := Effects.invariant (fun _ _ hs hb he => hb.effect hs.desk he) h.sound h.booked heff
  exact ⟨hall.1, hall.2, ht.pays.valid h.valid⟩

lemma Payable.step {s : RewardSys} {a : RewardAction} (h : Payable cfg s.sys.db) :
    Payable cfg (rewardStep cfg s a).sys.db := by
  cases a with
  | wallet a =>
    have heff := step_effects (a := a) h.sound (Permit.all_admitsAction s.sys.db a) (fun _ _ _ => trivial)
    exact h.turn ⟨⟨_, heff⟩, step_pays h.sound h.valid⟩
  | workflow r op =>
    simp only [rewardStep]
    split
    · next d hrun => exact h.turn (WorkflowOp.run_turn h.sound.desk h.valid hrun)
    · exact h

lemma Payable.reachable {s : RewardSys} (h : (rewardMachine cfg).Reachable s) : Payable cfg s.sys.db := by
  refine Machine.ReachableUnder.invariant (I := fun s => Payable cfg s.sys.db) ?_ ?_ h
  · rintro s rfl
    exact ⟨.empty, .empty, .initial⟩
  · intro s a hi _
    exact hi.step

/-- Everything that was ever reserved for a bounty: its reservation journals, which are never removed. -/
def reservedEver (db : DB) (bountyId : Id) : ℕ :=
  ((db.journals.rows.filter (fun j => j.journalType = .reservation ∧
    ∃ o ∈ db.orders.rows, o.orderId = j.orderId ∧ o.bountyId = bountyId)).map JournalRow.amount).sum

lemma mem_bounties_terms {b : BountyRow} (hb : b ∈ db.bounties) : bountyTerms b ∈ (payouts db).bounties :=
  List.mem_map_of_mem hb

/-- An order carries the terms of its bounty and the recipient of its submission. -/
lemma Payable.order_terms (h : Payable cfg db) {o : OrderRow} (ho : o ∈ db.orders) {b : BountyRow}
    (hb : b ∈ db.bounties) (hob : o.bountyId = b.bountyId) :
    o.networkId = b.networkId ∧ o.assetId = b.assetId ∧ o.amount = b.rewardAmount := by
  obtain ⟨x, -, -, c, hc, -, heq⟩ := h.valid.payment_eq (p := orderTerms o) (List.mem_map_of_mem ho)
  have hid : o.bountyId = c.id := congrArg Payment.bounty heq
  have hcb : c = bountyTerms b :=
    List.inj_on_of_nodup_map h.valid.bounty_ids hc (mem_bounties_terms hb) (hid.symm.trans hob)
  subst hcb
  exact ⟨congrArg Payment.network heq, congrArg Payment.asset heq, congrArg Payment.amount heq⟩

/-- The reservations of a bounty are at most one for each of its orders, of its reward each. -/
lemma Payable.reservedEver_le (h : Payable cfg db) {b : BountyRow} (hb : b ∈ db.bounties) :
    reservedEver db b.bountyId ≤ b.rewardSlots * b.rewardAmount := by
  unfold reservedEver
  set posted := db.journals.rows.filter (fun j => j.journalType = .reservation ∧
    ∃ o ∈ db.orders.rows, o.orderId = j.orderId ∧ o.bountyId = b.bountyId) with hposted
  have hmem : ∀ j ∈ posted, j ∈ db.journals ∧ j.journalType = .reservation ∧
      ∃ o ∈ db.orders, o.orderId = j.orderId ∧ o.bountyId = b.bountyId := by
    intro j hj
    rw [hposted, List.mem_filter, decide_eq_true_eq] at hj
    exact hj
  have hamount : ∀ n ∈ posted.map JournalRow.amount, n ≤ b.rewardAmount := by
    intro n hn
    obtain ⟨j, hj, rfl⟩ := List.mem_map.mp hn
    obtain ⟨hjm, -, o, ho, hoj, hob⟩ := hmem j hj
    obtain ⟨o', ho', hoj', -, -, -, ham⟩ := h.booked.order_of j hjm
    have heq : o = o' := Table.eq_of_key ho ho' (hoj.trans hoj'.symm)
    subst heq
    rw [← ham, (h.order_terms ho hb hob).2.2]
  have hnodup : (posted.map JournalRow.orderId).Nodup := by
    apply List.Nodup.map_on
    · intro j hj k hk he
      exact h.booked.unique k (hmem k hk).1 j (hmem j hj).1 he ((hmem j hj).2.1.trans (hmem k hk).2.1.symm)
    · exact (List.Nodup.of_map _ db.journals.nodup).sublist List.filter_sublist
  have hsub : posted.map JournalRow.orderId ⊆
      (db.orders.rows.filter (fun o => o.bountyId = b.bountyId)).map OrderRow.orderId := by
    intro id hid
    obtain ⟨j, hj, rfl⟩ := List.mem_map.mp hid
    obtain ⟨-, -, o, ho, hoj, hob⟩ := hmem j hj
    exact List.mem_map.mpr ⟨o, List.mem_filter.mpr ⟨ho, by simpa using hob⟩, hoj⟩
  have hlen := (List.subperm_of_subset hnodup hsub).length_le
  have hslots := h.valid.payments_le (mem_bounties_terms hb)
  have horders : ((payouts db).payments.filter (fun p => p.bounty = (bountyTerms b).id)).length =
      (db.orders.rows.filter (fun o => o.bountyId = b.bountyId)).length := by
    simp only [payouts, List.filter_map, List.length_map]
    rfl
  rw [horders] at hslots
  simp only [List.length_map] at hlen
  calc (posted.map JournalRow.amount).sum
      ≤ (posted.map JournalRow.amount).length * b.rewardAmount := by
        simpa using List.sum_le_card_nsmul _ _ hamount
    _ ≤ b.rewardSlots * b.rewardAmount := by
        apply Nat.mul_le_mul_right
        rw [List.length_map]
        exact le_trans hlen hslots

/-- In every run of the wallet and the reward workflows: a bounty never has more accepted submissions than slots
nor more submissions under consideration than its limit; a submission has an order exactly when it is accepted,
one, with the terms of the bounty and its own recipient; and what was ever reserved for the bounty is at most
its slots times its reward. -/
theorem bounty_payouts_bounded {s : RewardSys} (h : (rewardMachine cfg).Reachable s) {b : BountyRow}
    (hb : b ∈ s.sys.db.bounties) :
    (s.sys.db.submissions.rows.filter (fun x => x.bountyId = b.bountyId ∧ x.status = .accepted)).length ≤
        b.rewardSlots ∧
      (s.sys.db.submissions.rows.filter (fun x => x.bountyId = b.bountyId ∧
        x.status ∈ [SubmissionStatus.submitted, .accepted])).length ≤ b.maxSubmissions ∧
      (∀ x ∈ s.sys.db.submissions, x.bountyId = b.bountyId →
        ((∃ o ∈ s.sys.db.orders, o.submissionId = x.submissionId) ↔ x.status = .accepted) ∧
        ∀ o ∈ s.sys.db.orders, o.submissionId = x.submissionId →
          o.networkId = b.networkId ∧ o.assetId = b.assetId ∧ o.amount = b.rewardAmount ∧
          o.recipientAddress = x.recipientAddress ∧
          ∀ o' ∈ s.sys.db.orders, o'.submissionId = x.submissionId → o' = o) ∧
      reservedEver s.sys.db b.bountyId ≤ b.rewardSlots * b.rewardAmount := by
  have hp := Payable.reachable h
  have hv := hp.valid
  have hslots := hv.slots _ (mem_bounties_terms hb)
  have hlimit := hv.limits _ (mem_bounties_terms hb)
  rw [accepted_payouts] at hslots
  rw [considered_payouts] at hlimit
  refine ⟨hslots, hlimit, ?_, hp.reservedEver_le hb⟩
  intro x hx hxb
  have hterms : submissionTerms x ∈ (payouts s.sys.db).submissions := List.mem_map_of_mem hx
  -- the submission that earned an order of `x` is `x` itself
  have hearned : ∀ o ∈ s.sys.db.orders, o.submissionId = x.submissionId →
      x.status = .accepted ∧ ∃ c ∈ (payouts s.sys.db).bounties, c.id = x.bountyId ∧
        orderTerms o = paymentFor c (submissionTerms x) := by
    intro o ho hox
    obtain ⟨y, hy, hacc, c, hc, hcy, heq⟩ := hv.payment_eq (p := orderTerms o) (List.mem_map_of_mem ho)
    have hid : o.submissionId = y.id := congrArg Payment.submission heq
    have hyx := List.inj_on_of_nodup_map hv.submission_ids hy hterms (hid.symm.trans hox)
    subst hyx
    exact ⟨standingOf_eq_accepted.mp hacc, c, hc, hcy, heq⟩
  constructor
  · constructor
    · rintro ⟨o, ho, hox⟩
      exact (hearned o ho hox).1
    · intro hacc
      obtain ⟨c, hc, hcx, hpay⟩ := hv.paid _ hterms (standingOf_eq_accepted.mpr hacc)
      obtain ⟨o, ho, heq⟩ := List.mem_map.mp hpay
      exact ⟨o, ho, congrArg Payment.submission heq⟩
  · intro o ho hox
    obtain ⟨hacc, c, hc, hcx, heq⟩ := hearned o ho hox
    have hob : o.bountyId = b.bountyId := (congrArg Payment.bounty heq).trans (hcx.trans hxb)
    obtain ⟨hnet, hasset, hamount⟩ := hp.order_terms ho hb hob
    refine ⟨hnet, hasset, hamount, congrArg Payment.recipient heq, ?_⟩
    intro o' ho' hox'
    have hids := hv.payment_ids
    simp only [payouts, List.map_map] at hids
    exact List.inj_on_of_nodup_map hids ho' ho (hox'.trans hox.symm)

def sampleRequest : RequestRow :=
  ⟨"request-1", "subject-1", "project-1", "phase-1", "Translate", "A translation of the handbook.", .opened⟩

def sampleWorkflow : RewardWorkflowInput :=
  ⟨"request-1", ["complete"], "walletnet_b0", "walletasset_c0", 100, 0, 1000000, 10, 2, "workflow-1"⟩

def sampleEvidence : RewardEvidenceDecisionInput where
  accepted := true
  criteriaResults := [true]
  reason := "good"
  idempotencyKey := "decision-1"
  criteria := by decide
  text := by decide
  key := by decide

def samplePublicSubmission : RewardPublicSubmissionInput := ⟨sampleSubmission, "walletnet_b0", by decide⟩

/-- A workflow is created and published, and its first submission accepted twice over. -/
def sampleReward : List RewardAction := sampleDesk.map .wallet ++
  [.workflow (readingsAt 1500 "f") (.openRequest sampleRequest),
    .workflow (readingsAt 1600 "g") (.create "subject-1" sampleWorkflow "operator"
      ⟨some "goal-1", some "subject-1", .ok "post-1"⟩),
    .workflow (readingsAt 1700 "h") (.publish "reward_g4" "subject-1" "operator" (some .published)),
    .workflow (readingsAt 1800 "i") (.submitPublic "reward_g4" "subject-1" samplePublicSubmission),
    .workflow (readingsAt 1900 "j") (.decide "submission_i4" "subject-1" sampleEvidence "operator"),
    .workflow (readingsAt 2000 "k") (.decide "submission_i4" "subject-1" sampleEvidence "operator")]

def sampleRewardState : RewardSys :=
  sampleReward.foldl (rewardMachine .sample).step ⟨.start, .empty, .empty, .empty, .empty⟩

theorem sampleReward_bounded : ∃ b ∈ sampleRewardState.sys.db.bounties,
    reservedEver sampleRewardState.sys.db b.bountyId = 100 ∧
      reservedEver sampleRewardState.sys.db b.bountyId ≤ b.rewardSlots * b.rewardAmount := by
  have hreach : (rewardMachine .sample).Reachable sampleRewardState := Machine.reachable_foldl rfl sampleReward
  have hone : ∃ b ∈ sampleRewardState.sys.db.bounties.rows, reservedEver sampleRewardState.sys.db b.bountyId = 100 := by
    decide
  obtain ⟨b, hb, hreserved⟩ := hone
  exact ⟨b, hb, hreserved, (bounty_payouts_bounded hreach hb).2.2.2⟩

end Noyra.Wallet.Proofs
