import Noyra.Proofs.RewardExecution

/-!
# Settled workflows close

What a batch does to one workflow leaves every other workflow alone. So whether a settled workflow closes is decided
by the first of its rows that the batch reaches, and there by the stored statuses of its bounty and of its request.
-/

namespace Noyra.Wallet.Proofs
open Noyra.Lib Noyra.Wallet.Payouts

variable {cfg : Config} {d d' : RewardDb} {w : WorkflowRow}

/-- The submission of the order is linked to the workflow. -/
def LinkedTo (links : Table LinkRow.submissionId) (w : WorkflowRow) (o : OrderRow) : Prop :=
  ∃ l ∈ links.rows, l.submissionId = o.submissionId ∧ l.workflowId = w.workflowId

instance (links : Table LinkRow.submissionId) (w : WorkflowRow) (o : OrderRow) : Decidable (LinkedTo links w o) :=
  inferInstanceAs (Decidable (∃ l ∈ links.rows, _))

/-- Everything the completion of the workflow reads. -/
structure Undisturbed (w : WorkflowRow) (d d' : RewardDb) : Prop where
  links : d'.links = d.links
  workflow : d'.workflows.find? w.workflowId = d.workflows.find? w.workflowId
  bounty : d'.db.bounties.find? w.bountyId = d.db.bounties.find? w.bountyId
  request : d'.requests.find? w.assistanceRequestId = d.requests.find? w.assistanceRequestId
  incidents : d'.incidents.rows.filter (fun i => decide (i.workflowId = w.workflowId)) =
    d.incidents.rows.filter (fun i => decide (i.workflowId = w.workflowId))
  orders : d'.db.orders.rows.filter (fun o => decide (LinkedTo d.links w o)) =
    d.db.orders.rows.filter (fun o => decide (LinkedTo d.links w o))
  executions : ∀ o ∈ d.db.orders, LinkedTo d.links w o →
    d'.db.executions.rows.filter (fun e => decide (e.orderId = o.orderId)) =
      d.db.executions.rows.filter (fun e => decide (e.orderId = o.orderId))

lemma Undisturbed.refl (w : WorkflowRow) (d : RewardDb) : Undisturbed w d d :=
  ⟨rfl, rfl, rfl, rfl, rfl, rfl, fun _ _ _ => rfl⟩

/-- A linked order is in both tables or in neither. -/
lemma Undisturbed.mem_orders (h : Undisturbed w d d') {o : OrderRow} (hl : LinkedTo d.links w o) :
    o ∈ d'.db.orders ↔ o ∈ d.db.orders := by
  have hmem : o ∈ d'.db.orders.rows.filter (fun o => decide (LinkedTo d.links w o)) ↔
      o ∈ d.db.orders.rows.filter (fun o => decide (LinkedTo d.links w o)) := by rw [h.orders]
  simpa only [List.mem_filter, decide_eq_true hl, and_true, ← Table.mem_def] using hmem

lemma Undisturbed.trans {d₁ d₂ d₃ : RewardDb} (h : Undisturbed w d₁ d₂) (h' : Undisturbed w d₂ d₃) :
    Undisturbed w d₁ d₃ := by
  have horders := h'.orders
  rw [h.links] at horders
  refine ⟨h'.links.trans h.links, h'.workflow.trans h.workflow, h'.bounty.trans h.bounty, h'.request.trans h.request,
    h'.incidents.trans h.incidents, horders.trans h.orders, fun o ho hl => ?_⟩
  have hlater := h'.executions o ((h.mem_orders hl).mpr ho) (by rwa [h.links])
  exact hlater.trans (h.executions o ho hl)

/-- Two filters of which one selects within the other. -/
lemma filter_of_filter {α : Type} {p q : α → Bool} {l l' : List α} (h : l'.filter q = l.filter q)
    (hl : ∀ x ∈ l, p x = true → q x = true) (hl' : ∀ x ∈ l', p x = true → q x = true) : l'.filter p = l.filter p := by
  have hwithin : ∀ k : List α, (∀ x ∈ k, p x = true → q x = true) → k.filter p = (k.filter q).filter p := by
    intro k hk
    rw [List.filter_filter]
    apply List.filter_congr
    intro x hx
    cases hp : p x with
    | false => simp
    | true => simp [hk x hx hp]
  rw [hwithin l hl, hwithin l' hl', h]

lemma OnlyOrder.undisturbed {db' : DB} {target : OrderRow} {link : LinkRow} (hmem : target ∈ d.db.orders)
    (hlink : link ∈ d.links)
    (hsub : target.submissionId = link.submissionId) (hother : link.workflowId ≠ w.workflowId)
    (h : OnlyOrder target.orderId d.db db') : Undisturbed w d { d with db := db' } := by
  -- the order of another workflow's link is linked to no other workflow
  have hfar : ∀ o : OrderRow, o.submissionId = target.submissionId → ¬LinkedTo d.links w o := by
    rintro o ho ⟨l, hl, hlo, hlw⟩
    have hkey : l = link := Table.eq_of_key hl hlink (hlo.trans (ho.trans hsub))
    exact hother (hkey ▸ hlw)
  have hold : ∀ o ∈ d.db.orders, LinkedTo d.links w o → o.orderId ≠ target.orderId := by
    intro o ho hl hid
    have hkey : o = target := Table.eq_of_key ho hmem hid
    exact hfar o (by rw [hkey]) hl
  refine ⟨rfl, rfl, by rw [h.bounties], rfl, rfl, ?_, fun o ho hl => ?_⟩
  · refine filter_of_filter h.orders (fun o ho hl => ?_) (fun o ho hl => ?_)
    · exact decide_eq_true (hold o ho (of_decide_eq_true hl))
    · refine decide_eq_true (fun hid => ?_)
      obtain ⟨o₀, ho₀, hid₀, hsub₀⟩ := h.own o ho hid
      have hkey : o₀ = target := Table.eq_of_key ho₀ hmem hid₀
      exact hfar o (hsub₀.symm.trans (by rw [hkey])) (of_decide_eq_true hl)
  · have hne := hold o ho hl
    refine filter_of_filter h.executions (fun e _ he => ?_) (fun e _ he => ?_)
    · rw [decide_eq_true_eq] at he ⊢
      rwa [he]
    · rw [decide_eq_true_eq] at he ⊢
      rwa [he]

lemma OnlyAudits.orders (h : OnlyAudits d.db d'.db) : d'.db.orders = d.db.orders ∧ d'.db.executions = d.db.executions ∧
    d'.db.bounties = d.db.bounties := by
  obtain ⟨audits, haudits⟩ := h
  rw [haudits]
  exact ⟨rfl, rfl, rfl⟩

lemma Stopped.undisturbed {v : WorkflowRow} (h : Stopped d d' v) (hother : v.workflowId ≠ w.workflowId) :
    Undisturbed w d d' := by
  obtain ⟨horders, hexecutions, hbounties⟩ := OnlyAudits.orders h.audits
  refine ⟨h.links, ?_, by rw [hbounties], by rw [h.requests], ?_, by rw [horders], fun o _ _ => by rw [hexecutions]⟩
  · rcases h.workflows with rfl | ⟨-, hsame⟩ | ⟨v', hv', -, hreplace⟩
    · rfl
    · rw [hsame]
    · rw [hreplace]
      exact Table.find?_replace_ne (fun hid => hother (hv'.1.symm.trans hid.symm))
  · rcases h.incidents with hsame | ⟨i, hi, happend⟩
    · rw [hsame]
    · rw [happend, List.filter_append, List.filter_singleton, hi, decide_eq_false hother]
      simp

lemma Completed.undisturbed {v : WorkflowRow} {b : BountyRow} {q : RequestRow} (h : Completed cfg d d' v b q)
    (hb : bountyOf d v = some b) (hq : requestOf d v = some q) (hother : v.workflowId ≠ w.workflowId)
    (hapart : v.bountyId ≠ w.bountyId ∧ v.assistanceRequestId ≠ w.assistanceRequestId) : Undisturbed w d d' := by
  refine ⟨h.links, ?_, ?_, ?_, by rw [h.incidents], by rw [h.orders], fun o _ _ => by rw [h.executions]⟩
  · rcases h.workflows with ⟨-, hsame⟩ | ⟨v', hv', -, hreplace⟩
    · rw [hsame]
    · rw [hreplace]
      exact Table.find?_replace_ne (fun hid => hother (hv'.1.symm.trans hid.symm))
  · rcases h.bounties with ⟨-, hsame⟩ | ⟨-, b', hb', -, hreplace⟩
    · rw [hsame]
    · rw [hreplace]
      have hid := (Table.find?_eq_some.mp (Option.filter_eq_some_iff.mp hb).1).2
      exact Table.find?_replace_ne (fun heq => hapart.1 (hid.symm.trans (hb'.symm.trans heq.symm)))
  · rcases h.requests with ⟨-, hsame⟩ | ⟨-, q', hq', -, hreplace⟩
    · rw [hsame]
    · rw [hreplace]
      have hid := (Table.find?_eq_some.mp (Option.filter_eq_some_iff.mp hq).1).2
      exact Table.find?_replace_ne (fun heq => hapart.2 (hid.symm.trans (hq'.symm.trans heq.symm)))

/-- No other workflow has the bounty or the request of the workflow. -/
def Apart (w : WorkflowRow) (d : RewardDb) : Prop :=
  ∀ v ∈ d.workflows, v.workflowId ≠ w.workflowId → v.bountyId ≠ w.bountyId ∧
    v.assistanceRequestId ≠ w.assistanceRequestId

lemma Apart.replace {v v' : WorkflowRow} (h : Apart w d) (hv : v ∈ d.workflows) (hsame : SameWorkflow v v')
    (hreplace : d'.workflows = d.workflows.replace v') : Apart w d' := by
  intro u hu hne
  rw [hreplace] at hu
  rcases Table.mem_replace.mp hu with ⟨rfl, -⟩ | ⟨hu, -⟩
  · obtain ⟨hid, -, hbounty, hrequest⟩ := hsame
    rw [hbounty, hrequest]
    exact h v hv (fun heq => hne (hid.trans heq))
  · exact h u hu hne

lemma Stopped.apart {v : WorkflowRow} (h : Stopped d d' v) (hv : v ∈ d.workflows) (ha : Apart w d) : Apart w d' := by
  rcases h.workflows with rfl | ⟨-, hsame⟩ | ⟨v', hv', -, hreplace⟩
  · exact ha
  · intro u hu
    rw [hsame] at hu
    exact ha u hu
  · exact ha.replace hv hv' hreplace

lemma Completed.apart {v : WorkflowRow} {b : BountyRow} {q : RequestRow} (h : Completed cfg d d' v b q)
    (hv : v ∈ d.workflows) (ha : Apart w d) : Apart w d' := by
  rcases h.workflows with ⟨-, hsame⟩ | ⟨v', hv', -, hreplace⟩
  · intro u hu
    rw [hsame] at hu
    exact ha u hu
  · exact ha.replace hv hv' hreplace

/-- The tables stay in order and the workflow is left alone. -/
structure Spared (cfg : Config) (w : WorkflowRow) (d d' : RewardDb) : Prop where
  payable : Payable cfg d'.db
  apart : Apart w d'
  undisturbed : Undisturbed w d d'

lemma Spared.trans {d₁ d₂ d₃ : RewardDb} (h : Spared cfg w d₁ d₂) (h' : Spared cfg w d₂ d₃) : Spared cfg w d₁ d₃ :=
  ⟨h'.payable, h'.apart, h.undisturbed.trans h'.undisturbed⟩

section
variable {x : RowReadings} {subjectId : Id} {actor : String} {link : LinkRow} {target : OrderRow}

lemma executionIncident_payable {r : Readings} {workflowId submissionId : Id} {executionId : Option Id}
    {kind : IncidentKind} {reason cause : String} (hp : Payable cfg d.db)
    (h : executionIncident cfg d r workflowId subjectId submissionId executionId kind reason cause = .ok d') :
    Payable cfg d'.db := by
  obtain ⟨v, -, -, hstopped⟩ := executionIncident_stopped h
  exact hp.turn (.log hstopped.audits hp.sound.desk)

lemma executionIncident_spared {r : Readings} {submissionId : Id} {executionId : Option Id} {kind : IncidentKind}
    {reason cause : String} (hp : Payable cfg d.db) (ha : Apart w d) (hother : link.workflowId ≠ w.workflowId)
    (h : executionIncident cfg d r link.workflowId subjectId submissionId executionId kind reason cause = .ok d') :
    Spared cfg w d d' := by
  obtain ⟨v, hfind, -, hstopped⟩ := executionIncident_stopped h
  obtain ⟨hv, hid⟩ := Table.find?_eq_some.mp hfind
  exact ⟨executionIncident_payable hp h, hstopped.apart hv ha, hstopped.undisturbed (by rwa [hid])⟩

lemma stopRow_spared {opened : Except PyError RewardDb} (hp : Payable cfg d.db) (ha : Apart w d)
    (h : ∀ d', opened = .ok d' → Spared cfg w d d') : Spared cfg w d (stopRow d opened).2 := by
  cases opened with
  | ok d' => exact h d' rfl
  | error err => exact ⟨hp, ha, .refl w d⟩

lemma recoverRow_spared {err : PyError} (hp : Payable cfg d.db) (ha : Apart w d)
    (hother : link.workflowId ≠ w.workflowId) :
    Spared cfg w d (recoverRow cfg d x link subjectId err).2 := by
  unfold recoverRow
  split
  · exact ⟨hp, ha, .refl w d⟩
  · exact stopRow_spared hp ha (fun d' h => executionIncident_spared hp ha hother h)

lemma recordExecution_spared {e : ExecutionRow} {complete : Bool} (hp : Payable cfg d.db) (ha : Apart w d)
    (hother : link.workflowId ≠ w.workflowId) (h : recordExecution cfg d x link subjectId e complete = .ok d') :
    Spared cfg w d d' := by
  have hsame : Spared cfg w d d := ⟨hp, ha, .refl w d⟩
  unfold recordExecution at h
  split at h
  · have hrun : (WorkflowOp.result link.workflowId subjectId).run cfg d x.result = .ok d' := h
    have hpayable := hp.turn (WorkflowOp.run_turn hp.sound.desk hp.valid hrun)
    obtain ⟨v, hfind, -, b, hb, ⟨-, rfl⟩ | ⟨-, -, q, hq, hdone⟩⟩ := resultForSubmission_spec h
    · exact hsame
    · obtain ⟨hv, hid⟩ := Table.find?_eq_some.mp hfind
      have hne : v.workflowId ≠ w.workflowId := by rwa [hid]
      exact ⟨hpayable, hdone.apart hv ha, hdone.undisturbed hb hq hne (ha v hv hne)⟩
  · obtain ⟨_, -, h⟩ := bind_eq_ok.mp h
    split at h
    · exact executionIncident_spared hp ha hother h
    · cases h
      exact hsame

lemma reorganizeRow_spared {message : String} (hp : Payable cfg d.db) (ha : Apart w d) (hlink : link ∈ d.links)
    (hmem : target ∈ d.db.orders) (hsub : target.submissionId = link.submissionId)
    (hother : link.workflowId ≠ w.workflowId) :
    Spared cfg w d (reorganizeRow cfg d x link target subjectId actor message).2 := by
  have hsame : Spared cfg w d d := ⟨hp, ha, .refl w d⟩
  unfold reorganizeRow
  split
  · exact hsame
  · next current hcurrent =>
    obtain ⟨hexecution, hid, -⟩ := orderExecution_spec hcurrent
    cases hmark : markReconcileRequired cfg d.db x.reconcile current.executionId subjectId actor message with
    | error err => exact hsame
    | ok p =>
      obtain ⟨e, db⟩ := p
      dsimp only
      obtain ⟨hpayable, hfar⟩ := markReconcileRequired_handled hp hexecution hmark
      rw [hid] at hfar
      have hbase : Spared cfg w d { d with db } := ⟨hpayable, ha, hfar.undisturbed hmem hlink hsub hother⟩
      exact hbase.trans (stopRow_spared hpayable ha (fun d' h => executionIncident_spared hpayable ha hother h))

/-- A reorganization is told before anything is written. -/
lemma executeTarget_reorganization {db db' : DB} {message : String}
    (h : executeTarget cfg db x target subjectId actor = (.error (.reorganization message), db')) : db' = db := by
  unfold executeTarget at h
  split at h
  · split at h <;> cases h
  · split at h
    · cases h
    · split at h
      · exact (congrArg Prod.snd h).symm
      · split at h <;> cases h

lemma settleRow_spared (hp : Payable cfg d.db) (ha : Apart w d) (hlink : link ∈ d.links) (hmem : target ∈ d.db.orders)
    (hsub : target.submissionId = link.submissionId) (hother : link.workflowId ≠ w.workflowId) :
    Spared cfg w d (settleRow cfg d x link target subjectId actor).2 := by
  obtain ⟨hpayable, hfar⟩ := @executeTarget_handled cfg d.db x target subjectId actor hp
  unfold settleRow
  cases hrun : executeTarget cfg d.db x target subjectId actor with
  | mk outcome db =>
    rw [hrun] at hpayable hfar
    have hbase : Spared cfg w d { d with db } := ⟨hpayable, ha, hfar.undisturbed hmem hlink hsub hother⟩
    cases outcome with
    | error fault =>
      cases fault with
      | reorganization message =>
        have hsame := executeTarget_reorganization hrun
        subst hsame
        exact reorganizeRow_spared hp ha hlink hmem hsub hother
      | error err => exact hbase.trans (recoverRow_spared hpayable ha hother)
    | ok e =>
      dsimp only
      cases hrecord : recordExecution cfg { d with db } x link subjectId e (decide (target.status = .confirmed)) with
      | ok d' => exact hbase.trans (recordExecution_spared hpayable ha hother hrecord)
      | error err => exact hbase.trans (recoverRow_spared hpayable ha hother)

lemma orderForSubmission_spec {db : DB} {submissionId : Id}
    (h : orderForSubmission db submissionId subjectId = some target) :
    target ∈ db.orders ∧ target.submissionId = submissionId ∧ target.subjectId = subjectId := by
  have hsome := List.find?_some h
  rw [Bool.and_eq_true, decide_eq_true_eq, decide_eq_true_eq] at hsome
  exact ⟨List.mem_of_find?_eq_some h, hsome⟩

/-- A row of another workflow, or of a workflow that is no longer open. -/
lemma executeRow_spared (hp : Payable cfg d.db) (ha : Apart w d) (hlink : link ∈ d.links)
    (hpast : link.workflowId ≠ w.workflowId ∨ ∀ v, d.workflows.find? w.workflowId = some v → v.status ≠ .opened) :
    Spared cfg w d (executeRow cfg d x subjectId actor link).2 := by
  have hsame : Spared cfg w d d := ⟨hp, ha, .refl w d⟩
  unfold executeRow
  split
  · exact hsame
  · next v hv =>
    have hfind := (Option.filter_eq_some_iff.mp hv).1
    split
    · exact hsame
    · next hopen =>
      have hother : link.workflowId ≠ w.workflowId := by
        rcases hpast with hother | hclosed
        · exact hother
        · rintro heq
          exact hopen (hclosed v (heq ▸ hfind))
      split
      · exact hsame
      · next target htarget =>
        obtain ⟨hmem, hsub, -⟩ := orderForSubmission_spec htarget
        split
        · exact hsame
        · exact settleRow_spared hp ha hlink hmem hsub hother

end

section
variable {subjectId : Id} {actor : String}

lemma executeRows_spared {rows : List LinkRow} :
    ∀ {d : RewardDb} {x : Nat → RowReadings}, Payable cfg d.db → Apart w d → (∀ l ∈ rows, l ∈ d.links) →
      ((∀ l ∈ rows, l.workflowId ≠ w.workflowId) ∨ ∀ v, d.workflows.find? w.workflowId = some v → v.status ≠ .opened) →
      Spared cfg w d (executeRows cfg subjectId actor d x rows).2 := by
  induction rows with
  | nil => exact fun hp ha _ _ => ⟨hp, ha, .refl w _⟩
  | cons link rows ih =>
    intro d x hp ha hlinks hpast
    have hfirst : Spared cfg w d (executeRow cfg d (x 0) subjectId actor link).2 := by
      refine executeRow_spared hp ha (hlinks link List.mem_cons_self) ?_
      rcases hpast with hother | hclosed
      · exact .inl (hother link List.mem_cons_self)
      · exact .inr hclosed
    unfold executeRows
    cases hrow : executeRow cfg d (x 0) subjectId actor link with
    | mk outcome d₁ =>
      rw [hrow] at hfirst
      cases outcome with
      | error err => exact hfirst
      | ok u =>
        refine hfirst.trans (ih hfirst.payable hfirst.apart (fun l hl => ?_) ?_)
        · rw [hfirst.undisturbed.links]
          exact hlinks l (List.mem_cons_of_mem _ hl)
        · rcases hpast with hother | hclosed
          · exact .inl (fun l hl => hother l (List.mem_cons_of_mem _ hl))
          · refine .inr (fun v hv => hclosed v ?_)
            rwa [hfirst.undisturbed.workflow] at hv

lemma executeRows_append (d : RewardDb) (x : Nat → RowReadings) (rows more : List LinkRow) :
    executeRows cfg subjectId actor d x (rows ++ more) =
      match executeRows cfg subjectId actor d x rows with
      | (.error err, d') => (.error err, d')
      | (.ok (), d') => executeRows cfg subjectId actor d' (fun n => x (n + rows.length)) more := by
  induction rows generalizing d x with
  | nil => rfl
  | cons link rows ih =>
    rw [List.cons_append]
    simp only [executeRows]
    cases hrow : executeRow cfg d (x 0) subjectId actor link with
    | mk outcome d₁ =>
      cases outcome with
      | error err => rfl
      | ok u =>
        dsimp only
        rw [ih]
        simp only [List.length_cons, Nat.add_assoc]

end

/-! ### A settled workflow -/

/-- Accepted submissions with a confirmed order fill the slots of the bounty. -/
def SlotsSettled (d : RewardDb) (w : WorkflowRow) (b : BountyRow) : Prop :=
  b.rewardSlots ≤ (d.db.submissions.rows.filter (fun x => decide (x.bountyId = b.bountyId ∧ x.status = .accepted ∧
    ∃ o ∈ d.db.orders.rows, o.submissionId = x.submissionId ∧ o.subjectId = w.subjectId ∧
      o.status = .confirmed))).length

instance (d : RewardDb) (w : WorkflowRow) (b : BountyRow) : Decidable (SlotsSettled d w b) :=
  inferInstanceAs (Decidable (b.rewardSlots ≤ _))

/-- Every confirmed order of the bounty has an execution whose receipt the chain still knows. -/
def Reverifies (cfg : Config) (d : RewardDb) (w : WorkflowRow) (b : BountyRow) (x : Nat → RowReadings) : Prop :=
  ∀ o ∈ d.db.orders, o.bountyId = b.bountyId → o.status = .confirmed →
    ∃ e, d.db.orderExecution o.orderId w.subjectId = some e ∧
      ∀ n, verifyConfirmedReceipt cfg d.db e.executionId w.subjectId (x n).reply = .ok e

/-- The workflow is closed with its bounty and its request, and no incident of it was opened. -/
def Closes (w : WorkflowRow) (d d' : RewardDb) : Prop :=
  (∃ w', d'.workflows.find? w.workflowId = some w' ∧ w'.status = .closed) ∧
    (∃ b', d'.db.bounties.find? w.bountyId = some b' ∧ b'.status ≠ .published) ∧
    (∃ q', d'.requests.find? w.assistanceRequestId = some q' ∧ q'.status = .resolved) ∧
    d'.incidents.rows.filter (fun i => decide (i.workflowId = w.workflowId)) =
      d.incidents.rows.filter (fun i => decide (i.workflowId = w.workflowId))

/-- The bounty has not expired nor was it cancelled, the request was not withdrawn, and the accepted submissions came
through the workflow. -/
structure Closable (d : RewardDb) (w : WorkflowRow) (b : BountyRow) (q : RequestRow) : Prop where
  bounty : b.status = .published ∨ b.status = .closed
  request : q.status = .opened ∨ q.status = .resolved
  slots : b.rewardSlots ≤ settledCount d w

/-- What stays fixed while the rows of a batch are processed. -/
structure Pending (cfg : Config) (d : RewardDb) (w : WorkflowRow) (b : BountyRow) (q : RequestRow)
    (x : Nat → RowReadings) : Prop where
  payable : Payable cfg d.db
  filed : WellFiled d
  workflow : w ∈ d.workflows
  opened : w.status = .opened
  bounty : bountyOf d w = some b
  request : requestOf d w = some q
  settled : SlotsSettled d w b
  receipts : Reverifies cfg d w b x

section
variable {b : BountyRow} {q : RequestRow} {x : Nat → RowReadings}

lemma Pending.apart (h : Pending cfg d w b q x) : Apart w d := by
  intro v hv hne
  refine ⟨fun heq => hne ?_, fun heq => hne ?_⟩
  · rw [List.inj_on_of_nodup_map h.filed.bounties hv h.workflow heq]
  · rw [List.inj_on_of_nodup_map h.filed.requests hv h.workflow heq]

/-- A selection as long as a wider one is the wider one. -/
lemma of_length_filter_le {α : Type} {p r : α → Bool} {l : List α} (himp : ∀ a ∈ l, r a = true → p a = true)
    (hlen : (l.filter p).length ≤ (l.filter r).length) {a : α} (ha : a ∈ l) (hp : p a = true) : r a = true := by
  have hsub : l.filter r = (l.filter p).filter r := by
    rw [List.filter_filter]
    apply List.filter_congr
    intro y hy
    cases hr : r y with
    | false => simp
    | true => simp [himp y hy hr]
  have hall : (l.filter p).filter r = l.filter p := by
    apply List.filter_sublist.eq_of_length
    apply Nat.le_antisymm List.filter_sublist.length_le
    rwa [← hsub]
  have hmem : a ∈ (l.filter p).filter r := by
    rw [hall]
    exact List.mem_filter.mpr ⟨ha, hp⟩
  exact (List.mem_filter.mp hmem).2

/-- The order of an accepted link of the workflow is confirmed. -/
lemma Pending.order (h : Pending cfg d w b q x) {link : LinkRow} (hlink : link ∈ d.links)
    (hown : link.workflowId = w.workflowId)
    (hacc : link.verificationStatus = .accepted) :
    ∃ o ∈ d.db.orders, o.submissionId = link.submissionId ∧ o.bountyId = b.bountyId ∧ o.subjectId = w.subjectId ∧
      o.status = .confirmed := by
  obtain ⟨v, hv, hvid, t, ht, htid, htb, hstanding⟩ := h.filed.linked link hlink
  have hvw : v = w := Table.eq_of_key hv h.workflow (hvid.trans hown)
  subst hvw
  obtain ⟨s, hs, rfl⟩ := List.mem_map.mp ht
  have hbmem := (Table.find?_eq_some.mp (Option.filter_eq_some_iff.mp h.bounty).1)
  have hsb : s.bountyId = b.bountyId := htb.trans hbmem.2.symm
  have hsacc : s.status = .accepted := standingOf_eq_accepted.mp (hstanding hacc)
  have hslots := h.payable.valid.slots _ (mem_bounties_terms hbmem.1)
  rw [accepted_payouts] at hslots
  have hconfirmed := of_length_filter_le (fun y _ hy => ?_) (hslots.trans h.settled) hs (decide_eq_true ⟨hsb, hsacc⟩)
  · rw [decide_eq_true_eq] at hconfirmed
    obtain ⟨-, -, o, ho, hos, hosubject, hostatus⟩ := hconfirmed
    refine ⟨o, ho, hos.trans htid, ?_, hosubject, hostatus⟩
    obtain ⟨y, hy, -, c, -, hcy, heq⟩ := h.payable.valid.payment_eq (List.mem_map_of_mem (f := orderTerms) ho)
    have hys : y = submissionTerms s := by
      apply List.inj_on_of_nodup_map h.payable.valid.submission_ids hy ht
      exact (congrArg Payment.submission heq).symm.trans hos
    rw [hys] at hcy
    exact (congrArg Payment.bounty heq).trans (hcy.trans hsb)
  · rw [decide_eq_true_eq] at hy ⊢
    exact ⟨hy.1, hy.2.1⟩

/-- The first of two selections that agree on a wider one. -/
lemma find?_of_filter {α : Type} {p r : α → Bool} {l l' : List α} (h : l'.filter r = l.filter r)
    (himp : ∀ y, p y = true → r y = true) : l'.find? p = l.find? p := by
  rw [← List.head?_filter, ← List.head?_filter]
  rw [filter_of_filter h (fun y _ => himp y) (fun y _ => himp y)]

lemma Undisturbed.orderExecution {d₁ : RewardDb} (hu : Undisturbed w d d₁) {o : OrderRow} (ho : o ∈ d.db.orders)
    (hl : LinkedTo d.links w o) (subjectId : Id) :
    d₁.db.orderExecution o.orderId subjectId = d.db.orderExecution o.orderId subjectId := by
  apply find?_of_filter (hu.executions o ho hl)
  intro e he
  rw [decide_eq_true_eq] at he ⊢
  exact he.1

lemma Undisturbed.executionRow {d₁ : RewardDb} (hu : Undisturbed w d d₁) {o : OrderRow} (ho : o ∈ d.db.orders)
    (hl : LinkedTo d.links w o) {e : ExecutionRow} (he : e ∈ d.db.executions) (heo : e.orderId = o.orderId)
    (subjectId : Id) :
    d₁.db.executionRow e.executionId subjectId = d.db.executionRow e.executionId subjectId := by
  have hmem : e ∈ d₁.db.executions.rows.filter (fun y => decide (y.orderId = o.orderId)) := by
    rw [hu.executions o ho hl]
    exact List.mem_filter.mpr ⟨he, decide_eq_true heo⟩
  have hfind : d₁.db.executions.find? e.executionId = d.db.executions.find? e.executionId := by
    rw [Table.find?_key he]
    exact Table.find?_key (List.mem_filter.mp hmem).1
  simp only [DB.executionRow, hfind]

lemma verifyConfirmedReceipt_confirmed {db : DB} {executionId subjectId : Id} {reply : String → ReceiptReply}
    {e : ExecutionRow}
    (h : verifyConfirmedReceipt cfg db executionId subjectId reply = .ok e) : e.status = .confirmed := by
  unfold verifyConfirmedReceipt at h
  split at h
  · cases h
  · next execution hexecution =>
    split at h
    · next tx hstatus htx =>
      split at h
      · cases h
      · split at h
        · cases h
        · split at h
          · cases h
          · cases h
            exact hstatus
      · cases h
    · cases h

section Settled
variable {x : RowReadings} {link : LinkRow} {target : OrderRow} {subjectId : Id} {actor : String} {e : ExecutionRow}
  (h : executeTarget cfg d.db x target subjectId actor = (.ok e, d.db))
include h

lemma settleRow_recorded {d' : RewardDb}
    (hrecord : recordExecution cfg d x link subjectId e (target.status = .confirmed) = .ok d') :
    settleRow cfg d x link target subjectId actor = (.ok (), d') := by
  obtain ⟨db, requests, workflows, links, incidents⟩ := d
  unfold settleRow
  simp only [h, hrecord]

lemma settleRow_recovered {err : PyError}
    (hrecord : recordExecution cfg d x link subjectId e (target.status = .confirmed) = .error err) :
    settleRow cfg d x link target subjectId actor = recoverRow cfg d x link subjectId err := by
  obtain ⟨db, requests, workflows, links, incidents⟩ := d
  unfold settleRow
  simp only [h, hrecord]

end Settled

/-- A row of the settled workflow, as long as the workflow is open, is made into its result. -/
lemma Pending.executeRow_own {d₁ : RewardDb} (h : Pending cfg d w b q x) (hs : Spared cfg w d d₁) {link : LinkRow}
    (hlink : link ∈ d.links)
    (hown : link.workflowId = w.workflowId) (hacc : link.verificationStatus = .accepted) (n : Nat) (actor : String) :
    executeRow cfg d₁ (x n) w.subjectId actor link =
      match resultForSubmission cfg d₁ (x n).result link.workflowId w.subjectId with
      | .ok d' => (.ok (), d')
      | .error err => recoverRow cfg d₁ (x n) link w.subjectId err := by
  obtain ⟨o, ho, hos, hob, hosubject, hostatus⟩ := h.order hlink hown hacc
  have hlinked : LinkedTo d.links w o := ⟨link, hlink, hos.symm, hown⟩
  have ho₁ : o ∈ d₁.db.orders := (hs.undisturbed.mem_orders hlinked).mpr ho
  have hworkflow : d₁.workflows.find? link.workflowId = some w := by
    rw [hown, hs.undisturbed.workflow]
    exact Table.find?_key h.workflow
  have htarget : orderForSubmission d₁.db link.submissionId w.subjectId = some o := by
    cases hfound : orderForSubmission d₁.db link.submissionId w.subjectId with
    | none =>
      have hnone := List.find?_eq_none.mp hfound o ho₁
      simp [hos, hosubject] at hnone
    | some t =>
      obtain ⟨ht, hts, -⟩ := orderForSubmission_spec hfound
      have hids := hs.payable.valid.payment_ids
      simp only [payouts, List.map_map] at hids
      rw [List.inj_on_of_nodup_map hids ht ho₁ (hts.trans hos.symm)]
  obtain ⟨e, he, hverify⟩ := h.receipts o ho hob hostatus
  obtain ⟨hemem, heo, -⟩ := orderExecution_spec he
  have hverified : verifyConfirmedReceipt cfg d₁.db e.executionId w.subjectId (x n).reply = .ok e := by
    rw [← hverify n]
    simp only [verifyConfirmedReceipt, hs.undisturbed.executionRow ho hlinked hemem heo]
  have hexecute : executeTarget cfg d₁.db (x n) o w.subjectId actor = (.ok e, d₁.db) := by
    unfold executeTarget
    rw [if_neg (by rw [hostatus]; decide), hs.undisturbed.orderExecution ho hlinked, he]
    dsimp only
    rw [if_pos hostatus, hverified]
  have hrecord : recordExecution cfg d₁ (x n) link w.subjectId e (decide (o.status = .confirmed)) =
      resultForSubmission cfg d₁ (x n).result link.workflowId w.subjectId := by
    unfold recordExecution
    rw [if_pos ⟨verifyConfirmedReceipt_confirmed hverified, decide_eq_true hostatus⟩]
  unfold executeRow
  rw [hworkflow, Option.filter_some, decide_eq_true rfl, if_pos rfl]
  dsimp only
  rw [if_neg (by rw [h.opened]; decide), htarget]
  dsimp only
  rw [if_neg (by rw [hostatus]; decide)]
  cases hresult : resultForSubmission cfg d₁ (x n).result link.workflowId w.subjectId with
  | ok d' => exact settleRow_recorded hexecute (hrecord.trans hresult)
  | error err => exact settleRow_recovered hexecute (hrecord.trans hresult)

lemma Undisturbed.settledCount {d₁ : RewardDb} (hu : Undisturbed w d d₁) : settledCount d₁ w = settledCount d w := by
  unfold Wallet.settledCount
  rw [hu.links]
  apply List.foldl_ext
  intro total l hl
  obtain ⟨hmem, hselected⟩ := List.mem_filter.mp hl
  rw [decide_eq_true_eq] at hselected
  rw [filter_of_filter hu.orders]
  · intro o _ ho
    rw [decide_eq_true_eq] at ho
    exact decide_eq_true ⟨l, hmem, ho.1.symm, hselected.1⟩
  · intro o _ ho
    rw [decide_eq_true_eq] at ho
    exact decide_eq_true ⟨l, hmem, ho.1.symm, hselected.1⟩

lemma Undisturbed.bountyOf {d₁ : RewardDb} (hu : Undisturbed w d d₁) : bountyOf d₁ w = bountyOf d w := by
  unfold Proofs.bountyOf
  rw [hu.bounty]

lemma Undisturbed.requestOf {d₁ : RewardDb} (hu : Undisturbed w d d₁) : requestOf d₁ w = requestOf d w := by
  unfold Proofs.requestOf
  rw [hu.request]

lemma transitionWorkflow_closes (cfg : Config) {d₁ : RewardDb} (r : Readings) (actor reason : String)
    (hfind : d₁.workflows.find? w.workflowId = some w)
    (hopen : w.status = .opened) : ∃ d₂, transitionWorkflow cfg d₁ r w .closed actor reason = .ok d₂ := by
  unfold transitionWorkflow
  rw [if_neg (by rw [hopen]; decide), raiseIf_neg (by rw [hopen]; decide)]
  simp only [ok_bind, RewardDb.updateWorkflow, RewardDb.audit, hfind]
  rw [raiseIf_neg]
  · exact ⟨_, rfl⟩
  · rintro ⟨old, hold, hbad⟩
    cases hold
    rw [hopen] at hbad
    exact hbad (by decide)

lemma closeBounty_closes (cfg : Config) {db : DB} {b : BountyRow} (r : Readings) (actor : String)
    (hfind : db.bounties.find? b.bountyId = some b)
    (hb : b.status = .published ∨ b.status = .closed) : ∃ db₂, closeBounty cfg db r b actor = .ok db₂ := by
  unfold closeBounty moveBounty
  rcases hb with hpublished | hclosed
  · rw [if_pos hpublished]
    simp only [setBountyStatus, DB.updateBounty, audit, hfind]
    rw [raiseIf_neg]
    · exact ⟨_, rfl⟩
    · rintro ⟨old, hold, hbad⟩
      cases hold
      rw [hpublished] at hbad
      exact hbad (by decide)
  · rw [if_neg (by rw [hclosed]; decide), raiseIf_neg (not_not.mpr hclosed)]
    exact ⟨_, rfl⟩

lemma resolveRequest_resolves {q : RequestRow} (hq : requestOf d w = some q)
    (hstatus : q.status = .opened ∨ q.status = .resolved) :
    ∃ d', resolveRequest d w = .ok d' := by
  have hfilter : (d.requests.find? w.assistanceRequestId).filter (fun q => decide (q.subjectId = w.subjectId)) =
      some q := hq
  unfold resolveRequest
  rw [hfilter]
  simp only [orRaise_some, ok_bind]
  rcases hstatus with hopen | hresolved
  · rw [if_pos hopen]
    exact ⟨_, rfl⟩
  · rw [if_neg (by rw [hresolved]; decide), raiseIf_neg (not_not.mpr hresolved)]
    exact ⟨_, rfl⟩

/-- The completion of an open workflow that can close succeeds. -/
lemma resultForSubmission_closes (cfg : Config) {d₁ : RewardDb} (r : Readings)
    (hfind : d₁.workflows.find? w.workflowId = some w)
    (hopen : w.status = .opened) (hb : bountyOf d₁ w = some b) (hq : requestOf d₁ w = some q)
    (hstatus : b.status = .published ∨ b.status = .closed) (hrequest : q.status = .opened ∨ q.status = .resolved)
    (hslots : b.rewardSlots ≤ settledCount d₁ w) :
    ∃ d', resultForSubmission cfg d₁ r w.workflowId w.subjectId = .ok d' := by
  have hrow : d₁.workflowRow w.workflowId w.subjectId = .ok w := by
    unfold RewardDb.workflowRow
    rw [hfind, Option.filter_some, decide_eq_true rfl, if_pos rfl]
    rfl
  have hbounty : (d₁.db.bounties.find? w.bountyId).filter (fun b => decide (b.subjectId = w.subjectId)) = some b := hb
  obtain ⟨d₂, h₂⟩ := transitionWorkflow_closes cfg r "system" "all reward slots settled" hfind hopen
  have ht := transitionWorkflow_transitioned h₂
  obtain ⟨hb₁, hbid⟩ := Table.find?_eq_some.mp (Option.filter_eq_some_iff.mp hb).1
  have hb₂ : d₂.db.bounties.find? b.bountyId = some b := by
    rw [(OnlyAudits.orders ht.audits).2.2]
    exact Table.find?_key hb₁
  obtain ⟨db₃, h₃⟩ := closeBounty_closes cfg (r.drop 2) "system" hb₂ hstatus
  have hq₃ : requestOf { d₂ with db := db₃ } w = some q := by
    unfold Proofs.requestOf at hq ⊢
    rwa [show ({ d₂ with db := db₃ } : RewardDb).requests = d₁.requests from ht.requests]
  obtain ⟨d₄, h₄⟩ := resolveRequest_resolves hq₃ hrequest
  refine ⟨d₄, ?_⟩
  unfold resultForSubmission completeIfSettled
  rw [hrow]
  simp only [ok_bind, hbounty, orRaise_some]
  rw [if_neg (by omega), raiseIf_neg (fun hbad => hbad.1 hopen)]
  simp only [ok_bind, h₂, h₃, h₄]

lemma Completed.closes {d₁ : RewardDb} (h : Completed cfg d₁ d' w b q)
    (hfind : d₁.workflows.find? w.workflowId = some w)
    (hopen : w.status = .opened) (hb : bountyOf d₁ w = some b) (hq : requestOf d₁ w = some q) : Closes w d₁ d' := by
  obtain ⟨hbmem, hbid⟩ := Table.find?_eq_some.mp (Option.filter_eq_some_iff.mp hb).1
  obtain ⟨hqmem, hqid⟩ := Table.find?_eq_some.mp (Option.filter_eq_some_iff.mp hq).1
  refine ⟨?_, ?_, ?_, by rw [h.incidents]⟩
  · rcases h.workflows with ⟨hclosed, -⟩ | ⟨w', hw', hclosed, hreplace⟩
    · rw [hopen] at hclosed
      cases hclosed
    · refine ⟨w', ?_, hclosed⟩
      rw [hreplace, ← hw'.1]
      exact Table.find?_replace_self (hw'.1 ▸ hfind)
  · rcases h.bounties with ⟨hclosed, hsame⟩ | ⟨-, b', hb', hclosed, hreplace⟩
    · refine ⟨b, ?_, by rw [hclosed]; decide⟩
      rw [hsame, ← hbid]
      exact Table.find?_key hbmem
    · refine ⟨b', ?_, by rw [hclosed]; decide⟩
      rw [hreplace, ← hbid, ← hb']
      exact Table.find?_replace_self (hb' ▸ Table.find?_key hbmem)
  · rcases h.requests with ⟨hresolved, hsame⟩ | ⟨-, q', hq', hresolved, hreplace⟩
    · refine ⟨q, ?_, hresolved⟩
      rw [hsame, ← hqid]
      exact Table.find?_key hqmem
    · refine ⟨q', ?_, hresolved⟩
      rw [hreplace, ← hqid, ← hq']
      exact Table.find?_replace_self (hq' ▸ Table.find?_key hqmem)

lemma Closes.spared {d₁ d₂ d₃ : RewardDb} (h : Closes w d₂ d₃) (hu : Undisturbed w d₁ d₂)
    (hlater : Undisturbed w d₃ d') : Closes w d₁ d' := by
  unfold Closes at *
  rw [hlater.workflow, hlater.bounty, hlater.request, hlater.incidents, ← hu.incidents]
  exact h

/-- A workflow that cannot close stays open until an incident stops it. -/
lemma Pending.executeRows_unclosed (h : Pending cfg d w b q x) (hbad : ¬Closable d w b q) (actor : String)
    {rows : List LinkRow} :
    ∀ {d₁ : RewardDb} {n : Nat}, Spared cfg w d d₁ → (∀ l ∈ rows, l ∈ d.links ∧ l.verificationStatus = .accepted) →
      ∃ v, (executeRows cfg w.subjectId actor d₁ (fun k => x (k + n)) rows).2.workflows.find? w.workflowId = some v ∧
        v.status ≠ .closed := by
  induction rows with
  | nil =>
    intro d₁ n hs _
    refine ⟨w, ?_, by rw [h.opened]; decide⟩
    rw [executeRows, hs.undisturbed.workflow]
    exact Table.find?_key h.workflow
  | cons link rows ih =>
    intro d₁ n hs hrows
    have hfind : d₁.workflows.find? w.workflowId = some w := by
      rw [hs.undisturbed.workflow]
      exact Table.find?_key h.workflow
    have hrest : ∀ l ∈ rows, l ∈ d.links ∧ l.verificationStatus = .accepted :=
      fun l hl => hrows l (List.mem_cons_of_mem _ hl)
    obtain ⟨hlink, hacc⟩ := hrows link List.mem_cons_self
    have hlink₁ : link ∈ d₁.links := by rwa [hs.undisturbed.links]
    have hstays : ∀ d₂, Spared cfg w d d₂ → ∃ v, d₂.workflows.find? w.workflowId = some v ∧ v.status ≠ .closed := by
      intro d₂ hs₂
      refine ⟨w, ?_, by rw [h.opened]; decide⟩
      rw [hs₂.undisturbed.workflow]
      exact Table.find?_key h.workflow
    have hgo : ∀ d₂, Spared cfg w d d₂ →
        ∃ v, (executeRows cfg w.subjectId actor d₂ (fun k => x (k + 1 + n)) rows).2.workflows.find?
        w.workflowId = some v ∧ v.status ≠ .closed := by
      intro d₂ hs₂
      have hlater := @ih d₂ (n + 1) hs₂ hrest
      simpa only [Nat.add_assoc, Nat.add_comm n 1] using hlater
    unfold executeRows
    dsimp only
    by_cases hown : link.workflowId = w.workflowId
    · rw [h.executeRow_own hs hlink hown hacc (0 + n) actor]
      cases hresult : resultForSubmission cfg d₁ (x (0 + n)).result link.workflowId w.subjectId with
      | ok d₂ =>
        obtain ⟨v, hv, -, c, hc, hcase⟩ := resultForSubmission_spec hresult
        rw [hown, hfind, Option.some.injEq] at hv
        subst hv
        rw [hs.undisturbed.bountyOf, h.bounty, Option.some.injEq] at hc
        subst hc
        rw [hs.undisturbed.settledCount, hs.undisturbed.requestOf] at hcase
        rcases hcase with ⟨-, rfl⟩ | ⟨hslots, -, q', hq', hdone⟩
        · exact hgo d₂ hs
        · rw [h.request, Option.some.injEq] at hq'
          subst hq'
          refine absurd ⟨?_, ?_, hslots⟩ hbad
          · rcases hdone.bounties with ⟨hclosed, -⟩ | ⟨hpublished, -⟩
            · exact .inr hclosed
            · exact .inl hpublished
          · rcases hdone.requests with ⟨hresolved, -⟩ | ⟨hopened, -⟩
            · exact .inr hresolved
            · exact .inl hopened
      | error err =>
        dsimp only
        unfold recoverRow
        by_cases hbase : err = .baseException
        · rw [if_pos hbase]
          exact hstays d₁ hs
        · rw [if_neg hbase]
          cases hincident : executionIncident cfg d₁ (x (0 + n)).incident link.workflowId w.subjectId link.submissionId
            none
              .recoveryMismatch ((x (0 + n)).text err) ("execution:" ++ link.submissionId) with
          | error fault => exact hstays d₁ hs
          | ok d₂ =>
            dsimp only [stopRow]
            obtain ⟨v, hv, -, hstopped⟩ := executionIncident_stopped hincident
            have hpayable := executionIncident_payable hs.payable hincident
            rw [hown, hfind, Option.some.injEq] at hv
            subst hv
            have hmem := (Table.find?_eq_some.mp hfind).1
            rcases hstopped.workflows with rfl | ⟨hmanual, -⟩ | ⟨v', hv', hmanual, hreplace⟩
            · exact hgo d₂ hs
            · rw [h.opened] at hmanual
              cases hmanual
            · have hfind' : d₂.workflows.find? w.workflowId = some v' := by
                rw [hreplace, ← hv'.1]
                exact Table.find?_replace_self (hv'.1 ▸ hfind)
              have hlater := @executeRows_spared cfg w w.subjectId actor rows d₂ (fun k => x (k + 1 + n)) hpayable
                  (hstopped.apart hmem hs.apart) (fun l hl => ?_) (.inr (fun u hu => ?_))
              · refine ⟨v', ?_, by rw [hmanual]; decide⟩
                rw [hlater.undisturbed.workflow]
                exact hfind'
              · rw [hstopped.links, hs.undisturbed.links]
                exact (hrest l hl).1
              · rw [hfind', Option.some.injEq] at hu
                rw [← hu, hmanual]
                decide
    · have hrow := @executeRow_spared cfg d₁ w (x (0 + n)) w.subjectId actor link hs.payable hs.apart hlink₁ (.inl hown)
      cases hrun : executeRow cfg d₁ (x (0 + n)) w.subjectId actor link with
      | mk outcome d₂ =>
        rw [hrun] at hrow
        cases outcome with
        | error err => exact hstays d₂ (hs.trans hrow)
        | ok u => exact hgo d₂ (hs.trans hrow)

lemma mem_readyRows {subjectId : Id} {limit : Nat} {l : LinkRow} (h : l ∈ readyRows d subjectId limit) :
    l ∈ d.links ∧ l.verificationStatus = .accepted := by
  have hmem := List.mem_of_mem_take h
  rw [List.mem_insertionSort, List.mem_filter] at hmem
  obtain ⟨hl, hselected⟩ := hmem
  simp only [Bool.and_eq_true, decide_eq_true_eq] at hselected
  exact ⟨hl, hselected.1.1.2⟩

/-- A batch gets to a row of the workflow: one is selected, and no selected row before it stops the batch. -/
def Reached (cfg : Config) (d : RewardDb) (w : WorkflowRow) (x : Nat → RowReadings) (actor : String) (limit : Nat) :
    Prop :=
  ∃ before link after, readyRows d w.subjectId limit = before ++ link :: after ∧ link.workflowId = w.workflowId ∧
    (∀ l ∈ before, l.workflowId ≠ w.workflowId) ∧ (executeRows cfg w.subjectId actor d x before).1 = .ok ()

/-- The batch closes the workflow exactly when it reaches it and the workflow can close. -/
lemma Pending.executeRows_closes_iff (h : Pending cfg d w b q x) (actor : String) (limit : Nat) :
    Closes w d (executeRows cfg w.subjectId actor d x (readyRows d w.subjectId limit)).2 ↔
      Closable d w b q ∧ Reached cfg d w x actor limit := by
  have hself : Spared cfg w d d := ⟨h.payable, h.apart, .refl w d⟩
  have hlinks : ∀ l ∈ readyRows d w.subjectId limit, l ∈ d.links := fun l hl => (mem_readyRows hl).1
  constructor
  · rintro ⟨⟨w', hw', hclosed⟩, -⟩
    refine ⟨?_, ?_⟩
    · by_contra hbad
      obtain ⟨v, hv, hopen⟩ := h.executeRows_unclosed hbad actor (n := 0) hself (fun l hl => mem_readyRows hl)
      simp only [Nat.add_zero] at hv
      rw [hw', Option.some.injEq] at hv
      exact hopen (hv ▸ hclosed)
    · -- otherwise no row of the workflow is processed
      by_contra hmissed
      have hopen : ∀ rows, (∀ l ∈ rows, l ∈ d.links) → (∀ l ∈ rows, l.workflowId ≠ w.workflowId) →
          (executeRows cfg w.subjectId actor d x rows).2.workflows.find? w.workflowId = some w := by
        intro rows hrows hothers
        rw [(executeRows_spared h.payable h.apart hrows (.inl hothers)).undisturbed.workflow]
        exact Table.find?_key h.workflow
      have hstill : (executeRows cfg w.subjectId actor d x (readyRows d w.subjectId limit)).2.workflows.find?
          w.workflowId = some w := by
        by_cases hany : ∃ l ∈ readyRows d w.subjectId limit, l.workflowId = w.workflowId
        · obtain ⟨l, hl, hlw⟩ := hany
          cases hfirst : (readyRows d w.subjectId limit).find? (fun l => decide (l.workflowId = w.workflowId)) with
          | none =>
            have hnone := List.find?_eq_none.mp hfirst l hl
            simp [hlw] at hnone
          | some link =>
            obtain ⟨hown, before, after, hsplit, hbefore⟩ := List.find?_eq_some_iff_append.mp hfirst
            rw [decide_eq_true_eq] at hown
            have hothers : ∀ l ∈ before, l.workflowId ≠ w.workflowId := fun l hl => by simpa using hbefore l hl
            rw [hsplit] at hlinks ⊢
            have hends := hopen before (fun l hl => hlinks l (List.mem_append_left _ hl)) hothers
            rw [executeRows_append]
            cases hrun : executeRows cfg w.subjectId actor d x before with
            | mk outcome d₁ =>
              rw [hrun] at hends
              cases outcome with
              | error err => exact hends
              | ok u => exact absurd ⟨before, link, after, hsplit, hown, hothers, by rw [hrun]⟩ hmissed
        · push Not at hany
          exact hopen _ hlinks hany
      rw [hw', Option.some.injEq] at hstill
      rw [hstill, h.opened] at hclosed
      cases hclosed
  · rintro ⟨hclosable, before, link, after, hsplit, hown, hothers, hok⟩
    rw [hsplit] at hlinks ⊢
    rw [executeRows_append]
    have hbefore := @executeRows_spared cfg w w.subjectId actor before d x h.payable h.apart
      (fun l hl => hlinks l (List.mem_append_left _ hl)) (.inl hothers)
    cases hrun : executeRows cfg w.subjectId actor d x before with
    | mk outcome d₁ =>
      rw [hrun] at hok hbefore
      dsimp only at hok
      rw [hok]
      dsimp only
      have hs : Spared cfg w d d₁ := hself.trans hbefore
      have hmem : link ∈ readyRows d w.subjectId limit := by
        rw [hsplit]
        exact List.mem_append_right _ List.mem_cons_self
      have hfind : d₁.workflows.find? w.workflowId = some w := by
        rw [hs.undisturbed.workflow]
        exact Table.find?_key h.workflow
      have hb : bountyOf d₁ w = some b := hs.undisturbed.bountyOf.trans h.bounty
      have hq : requestOf d₁ w = some q := hs.undisturbed.requestOf.trans h.request
      have hslots : b.rewardSlots ≤ settledCount d₁ w := hs.undisturbed.settledCount ▸ hclosable.slots
      obtain ⟨d₂, hresult⟩ := resultForSubmission_closes cfg (x (0 + before.length)).result hfind h.opened hb hq
        hclosable.bounty hclosable.request hslots
      have hrow := h.executeRow_own hs (mem_readyRows hmem).1 hown (mem_readyRows hmem).2 (0 + before.length) actor
      rw [hown, hresult] at hrow
      have hrun₂ : (WorkflowOp.result w.workflowId w.subjectId).run cfg d₁ (x (0 + before.length)).result = .ok d₂ :=
          hresult
      have hpayable := hs.payable.turn (WorkflowOp.run_turn hs.payable.sound.desk hs.payable.valid hrun₂)
      obtain ⟨v, hv, -, c, hc, hcase⟩ := resultForSubmission_spec hresult
      rw [hfind, Option.some.injEq] at hv
      subst hv
      rw [hb, Option.some.injEq] at hc
      subst hc
      rcases hcase with ⟨hfew, -⟩ | ⟨-, -, q', hq', hdone⟩
      · omega
      · rw [hq, Option.some.injEq] at hq'
        subst hq'
        have hcloses := hdone.closes hfind h.opened hb hq
        obtain ⟨⟨w', hw', hclosed⟩, -⟩ := hcloses
        have hlater := @executeRows_spared cfg w w.subjectId actor after d₂ (fun k => x (k + 1 + before.length))
            hpayable
          (hdone.apart (Table.find?_eq_some.mp hfind).1 hs.apart) (fun l hl => ?_) (.inr (fun u hu => ?_))
        · unfold executeRows
          rw [hrow]
          exact (hdone.closes hfind h.opened hb hq).spared hs.undisturbed hlater.undisturbed
        · rw [hdone.links, hs.undisturbed.links]
          exact hlinks l (List.mem_append_right _ (List.mem_cons_of_mem _ hl))
        · rw [hw', Option.some.injEq] at hu
          rw [← hu, hclosed]
          decide

end

/-! ### A workflow whose one slot is filled -/

def sampleSlot : RewardWorkflowInput :=
  ⟨"request-1", ["complete"], "walletnet_b0", "walletasset_c0", 100, 0, 1000000, 10, 1, "workflow-1"⟩

/-- The one slot of a workflow is filled and its order confirmed. -/
def sampleFilled : List RewardAction := sampleDesk.map .wallet ++
  [.workflow (readingsAt 1500 "f") (.openRequest sampleRequest),
    .workflow (readingsAt 1600 "g") (.create "subject-1" sampleSlot "operator" ⟨some "goal-1", some "subject-1",
      .ok "post-1"⟩),
    .workflow (readingsAt 1700 "h") (.publish "reward_g4" "subject-1" "operator" (some .published)),
    .workflow (readingsAt 1800 "i") (.submitPublic "reward_g4" "subject-1" samplePublicSubmission),
    .workflow (readingsAt 1900 "j") (.decide "submission_i4" "subject-1" sampleEvidence "operator"),
    .wallet (.execute "payorder_j4" "subject-1" "operator" ⟨none, none, none, some 0, .quote 21000 (some 1)⟩),
    .wallet (.prepare 0 (readingsAt 2000 "k")), .wallet (.dispatch 0 ⟨2100, 2100, "", true⟩),
    .wallet (.answer 0 (readingsAt 2200 "l") (.returned (some ⟨sampleHash 7, 1, 0, "2100"⟩))),
    .wallet (.poll "wallet_exec_k2" "subject-1" "operator"),
    .wallet (.lookup 1 2300 (fun tx => .receipt (sampleReceipt tx 1))), .wallet (.mark 1 (readingsAt 2400 "m"))]

/-- The bounty expires before the batch. -/
def sampleExpired : List RewardAction := sampleFilled ++
  [.wallet (.store (readingsAt 2000000 "n") (.maintainExpiredBounties "subject-1" 10))]

@[irreducible] def sampleRewards (actions : List RewardAction) : RewardSys :=
  actions.foldl (rewardMachine .sample).step ⟨.start, .empty, .empty, .empty, .empty⟩

lemma sampleRewards_reachable (actions : List RewardAction) :
    (rewardMachine .sample).Reachable (sampleRewards actions) := by
  unfold sampleRewards
  exact Machine.reachable_foldl rfl actions

/-- The chain confirms the receipt once more. -/
def sampleRow : RowReadings where
  execution := readingsAt 2000100 "p"
  first := ⟨none, none, none, some 0, .quote 21000 (some 1)⟩
  answer := .signerError "signer_rejected"
  reply tx := .receipt (sampleReceipt tx 1)
  result := readingsAt 2000200 "q"
  incident := readingsAt 2000300 "r"
  reconcile := readingsAt 2000400 "s"
  text _ := "settled reward workflow bounty status is invalid"

/-- The receipts of all orders are found again. -/
def rechecked (d : RewardDb) (w : WorkflowRow) (row : RowReadings) : Bool :=
  d.db.orders.rows.all (fun o => (d.db.orderExecution o.orderId w.subjectId).any (fun e =>
    match verifyConfirmedReceipt .sample d.db e.executionId w.subjectId row.reply with
    | .ok found => decide (found = e)
    | .error _ => false))

lemma reverifies_of_rechecked {b : BountyRow} {row : RowReadings} (h : rechecked d w row = true) :
    Reverifies .sample d w b (fun _ => row) := by
  intro o ho _ _
  have hany := List.all_eq_true.mp h o ho
  rw [Option.any_eq_true] at hany
  obtain ⟨e, he, hfound⟩ := hany
  refine ⟨e, he, fun _ => ?_⟩
  cases hverify : verifyConfirmedReceipt .sample d.db e.executionId w.subjectId row.reply with
  | error fault =>
    rw [hverify] at hfound
    cases hfound
  | ok found =>
    rw [hverify] at hfound
    rw [of_decide_eq_true hfound]

/-- In every run of the wallet, of its workflows and of the expiry of bounties: `execute_ready` closes an open
workflow whose slots are filled by accepted submissions with confirmed orders, with its bounty and its request and
without an incident, exactly when the stored bounty is still published or already closed, the request was not
withdrawn, those submissions came through the workflow, and the batch gets to one of its rows. -/
theorem settled_workflow_closes_iff {s : RewardSys} (h : (rewardMachine cfg).Reachable s) {w : WorkflowRow}
    {b : BountyRow}
    {q : RequestRow} (hw : w ∈ s.workflows) (hopen : w.status = .opened) (hb : bountyOf s.tables w = some b)
    (hq : requestOf s.tables w = some q) (hsettled : SlotsSettled s.tables w b) {x : Nat → RowReadings}
    (hreceipts : Reverifies cfg s.tables w b x) {actor name : String} {limit : Nat}
    (hsubject : validateSubjectId w.subjectId = .ok ()) (hactor : operator actor = .ok name)
    (hlimit : 1 ≤ limit ∧ limit ≤ 100) :
    Closes w s.tables (executeReady cfg s.tables x w.subjectId actor limit).2 ↔
      Closable s.tables w b q ∧ Reached cfg s.tables w x name limit := by
  have hpending : Pending cfg s.tables w b q x :=
    ⟨Payable.reachable h, WellFiled.reachable h, hw, hopen, hb, hq, hsettled, hreceipts⟩
  have hrun : executeReady cfg s.tables x w.subjectId actor limit =
      executeRows cfg w.subjectId name s.tables x (readyRows s.tables w.subjectId limit) := by
    unfold executeReady
    rw [hsubject, hactor]
    simp only [ok_bind]
    rw [raiseIf_neg (by omega)]
    rfl
  rw [hrun]
  exact hpending.executeRows_closes_iff name limit

theorem filled_workflow_closes : ∃ w ∈ (sampleRewards sampleFilled).workflows,
    Closes w (sampleRewards sampleFilled).tables
      (executeReady .sample (sampleRewards sampleFilled).tables (fun _ => sampleRow) w.subjectId "operator" 20).2 := by
  have hfacts : ∃ w ∈ (sampleRewards sampleFilled).workflows.rows, w.status = .opened ∧ w.subjectId = "subject-1" ∧
      (∃ b ∈ (sampleRewards sampleFilled).sys.db.bounties.rows, bountyOf (sampleRewards sampleFilled).tables w =
        some b ∧ SlotsSettled (sampleRewards sampleFilled).tables w b ∧ b.status = .published ∧
        b.rewardSlots ≤ settledCount (sampleRewards sampleFilled).tables w) ∧
      (∃ q ∈ (sampleRewards sampleFilled).requests.rows, requestOf (sampleRewards sampleFilled).tables w = some q ∧
        q.status = .opened) ∧
      rechecked (sampleRewards sampleFilled).tables w sampleRow = true ∧
      (readyRows (sampleRewards sampleFilled).tables w.subjectId 20).head?.map LinkRow.workflowId =
        some w.workflowId := by
    decide +kernel
  obtain ⟨w, hw, hopen, hsubject, ⟨b, -, hb, hsettled, hpublished, hslots⟩, ⟨q, -, hq, hrequest⟩, hcheck, hready⟩ :=
      hfacts
  refine ⟨w, hw, (settled_workflow_closes_iff (sampleRewards_reachable sampleFilled) hw hopen hb hq hsettled
    (reverifies_of_rechecked hcheck) (by rw [hsubject]; decide) (by decide : operator "operator" = .ok "operator")
    (by decide)).mpr ⟨⟨.inl hpublished, .inl hrequest, hslots⟩, ?_⟩⟩
  obtain ⟨link, hhead, hown⟩ := Option.map_eq_some_iff.mp hready
  obtain ⟨after, hafter⟩ := List.head?_eq_some_iff.mp hhead
  exact ⟨[], link, after, hafter, hown, (fun l hl => by cases hl), rfl⟩

/-- The bounty expires before the batch, and the settled workflow is stopped by an incident. -/
theorem expired_bounty_stops_settled_workflow :
    ¬∀ (cfg : Config) (s : RewardSys), (rewardMachine cfg).Reachable s → ∀ w ∈ s.workflows, w.status = .opened →
      ∀ b q, bountyOf s.tables w = some b → requestOf s.tables w = some q → SlotsSettled s.tables w b →
      ∀ x, Reverifies cfg s.tables w b x → ∀ actor name limit, validateSubjectId w.subjectId = .ok () →
      operator actor = .ok name →
      1 ≤ limit ∧ limit ≤ 100 → Closes w s.tables (executeReady cfg s.tables x w.subjectId actor limit).2 := by
  intro h
  have hfacts : (∃ w ∈ (sampleRewards sampleExpired).workflows.rows, w.status = .opened ∧ w.subjectId = "subject-1" ∧
      (∃ b ∈ (sampleRewards sampleExpired).sys.db.bounties.rows, bountyOf (sampleRewards sampleExpired).tables w =
        some b ∧ SlotsSettled (sampleRewards sampleExpired).tables w b) ∧
      (∃ q ∈ (sampleRewards sampleExpired).requests.rows, requestOf (sampleRewards sampleExpired).tables w = some q) ∧
      rechecked (sampleRewards sampleExpired).tables w sampleRow = true) ∧
      ∀ v ∈ (executeReady .sample (sampleRewards sampleExpired).tables (fun _ => sampleRow) "subject-1"
        "operator" 20).2.workflows.rows, v.status ≠ .closed := by
    decide +kernel
  obtain ⟨⟨w, hw, hopen, hsubject, ⟨b, -, hb, hsettled⟩, ⟨q, -, hq⟩, hcheck⟩, hends⟩ := hfacts
  obtain ⟨⟨v, hv, hclosed⟩, -⟩ := h .sample _ (sampleRewards_reachable sampleExpired) w hw hopen b q hb hq hsettled _
    (reverifies_of_rechecked hcheck) "operator" "operator" 20 (by rw [hsubject]; decide) (by decide) (by decide)
  rw [hsubject] at hv
  exact hends v (Table.find?_eq_some.mp hv).1 hclosed

end Noyra.Wallet.Proofs
