import Noyra.Proofs.Store
import Noyra.Proofs.Steps

/-!
# Invariants of every run

`Paired` and `Chained` hold of every reachable database: an execution agrees with its order, and its
attempts are numbered from one up to the attempt count. Any property of the database that the effects
preserve holds of every reachable state.
-/

namespace Noyra.Wallet.Proofs
open Noyra.Lib

variable {cfg : Config} {db db' : DB}

theorem mem_replaced {κ ρ : Type} [DecidableEq κ] {key : ρ → κ} {t t' : Table key} {row : ρ}
    (h : t' = t.replace row) (hrow : ∃ y ∈ t, key y = key row) {x : ρ} :
    x ∈ t' ↔ x = row ∨ (x ∈ t ∧ key x ≠ key row) := by
  subst h
  rw [Table.mem_replace]
  constructor
  · rintro (⟨rfl, -⟩ | hx)
    · exact .inl rfl
    · exact .inr hx
  · rintro (rfl | hx)
    · exact .inl ⟨rfl, hrow⟩
    · exact .inr hx

theorem mem_inserted {κ ρ : Type} [DecidableEq κ] {key : ρ → κ} {t t' : Table key} {row : ρ}
    (h : t.insert? row = some t') {x : ρ} : x ∈ t' ↔ x ∈ t ∨ x = row := by
  rw [Table.mem_def, (Table.insert?_eq_some.mp h).2, List.mem_append, List.mem_singleton]
  rfl

theorem Moved.mem_orders {o x : OrderRow} {target : OrderStatus} {now : Time}
    (h : Moved cfg db db' o target now) :
    x ∈ db'.orders ↔ x = movedOrder cfg o target now ∨ (x ∈ db.orders ∧ x.orderId ≠ o.orderId) :=
  mem_replaced h.orders ⟨o, h.mem, rfl⟩

theorem Paired.congr (hp : Paired cfg db) (ho : db'.orders = db.orders) (he : db'.executions = db.executions) :
    Paired cfg db' := by
  constructor
  · rw [ho]; exact hp.order_sealed
  · rw [he]; exact hp.execution_sealed
  · rw [he]; exact hp.quiet
  · rw [he]; exact hp.rebuilds
  · rw [ho, he]; exact hp.order_of
  · rw [ho, he]; exact hp.execution_of
  · rw [he]; exact hp.one_execution
  · simpa [Clear, he] using hp.separate

theorem Paired.opened {o : OrderRow} (hp : Paired cfg db) (h : Opened cfg db db' o) : Paired cfg db' := by
  have hx := h.rest.executions.executions
  have hmem : ∀ x, x ∈ db'.orders ↔ x ∈ db.orders ∨ x = o := fun x => mem_inserted h.inserted
  refine ⟨?_, ?_, ?_, ?_, ?_, ?_, ?_, ?_⟩
  · intro x hxo
    rcases (hmem x).mp hxo with hxo | rfl
    · exact hp.order_sealed x hxo
    · exact h.row_sealed
  · rw [hx]; exact hp.execution_sealed
  · rw [hx]; exact hp.quiet
  · rw [hx]; exact hp.rebuilds
  · rw [hx]
    intro e he
    obtain ⟨x, hxo, hm⟩ := hp.order_of e he
    exact ⟨x, (hmem x).mpr (.inl hxo), hm⟩
  · rw [hx]
    intro x hxo hs
    rcases (hmem x).mp hxo with hxo | rfl
    · exact hp.execution_of x hxo hs
    · simp [h.pending, executedStatus] at hs
  · rw [hx]; exact hp.one_execution
  · simpa [Clear, hx] using hp.separate

/-- No execution exists for an order that has not been started. -/
theorem Paired.no_execution (hp : Paired cfg db) {o : OrderRow} (ho : o ∈ db.orders)
    (hs : o.status ∉ executedStatus) : ∀ e ∈ db.executions, o.orderId ≠ e.orderId := by
  intro e he heq
  have hag := (hp.matches ho he heq).status
  revert hs hag
  cases o.status <;> cases e.status <;> simp [Agrees, executedStatus, ExecutionStatus.order]

/-- A decision leaves an order that has no execution, or refunds one whose execution failed. -/
theorem Decided.kinds {r : Readings} {o : OrderRow} {target : OrderStatus} {now : Time}
    (h : Decided cfg r db db' o target now) :
    (target ∉ executedStatus ∧ o.status ∉ executedStatus) ∨ (target = .refunded ∧ o.status = .failed) := by
  have hk := h.kind
  have ha := h.moved.allowed
  have hf := h.failed
  revert hk ha hf
  cases target <;> cases o.status <;> simp [decidedStatus, orderTransitions, executedStatus]

theorem Paired.decided {r : Readings} {o : OrderRow} {target : OrderStatus} {now : Time} (hp : Paired cfg db)
    (h : Decided cfg r db db' o target now) : Paired cfg db' := by
  have hx := h.executions.executions
  refine ⟨?_, ?_, ?_, ?_, ?_, ?_, ?_, ?_⟩
  · intro x hxo
    rcases h.moved.mem_orders.mp hxo with rfl | ⟨hxo, -⟩
    · exact movedOrder_sealed ..
    · exact hp.order_sealed x hxo
  · rw [hx]; exact hp.execution_sealed
  · rw [hx]; exact hp.quiet
  · rw [hx]; exact hp.rebuilds
  · rw [hx]
    intro e he
    obtain ⟨x, hxo, hm⟩ := hp.order_of e he
    by_cases hk : x.orderId = o.orderId
    · have hxeq : x = o := Table.eq_of_key hxo h.moved.mem hk
      subst hxeq
      refine ⟨movedOrder cfg x target now, h.moved.mem_orders.mpr (.inl rfl), { hm with status := ?_ }⟩
      rcases h.kinds with ⟨-, hn⟩ | ⟨rfl, hfail⟩
      · exact absurd hm.order (hp.no_execution hxo hn e he)
      · exact .inr ⟨rfl, hp.status_eq (x := .failed) hxo he hm.order hfail⟩
    · exact ⟨x, h.moved.mem_orders.mpr (.inr ⟨hxo, hk⟩), hm⟩
  · rw [hx]
    intro x hxo hs
    rcases h.moved.mem_orders.mp hxo with rfl | ⟨hxo, -⟩
    · rcases h.kinds with ⟨hn, -⟩ | ⟨-, hfail⟩
      · exact absurd hs hn
      · exact hp.execution_of o h.moved.mem (by simp [hfail, executedStatus])
    · exact hp.execution_of x hxo hs
  · rw [hx]; exact hp.one_execution
  · simpa [Clear, hx] using hp.separate

theorem Paired.started {o : OrderRow} {p : Prepared} {attemptId : Id} {now settled : Time} (hp : Paired cfg db)
    (h : Started cfg db db' o p attemptId now settled) : Paired cfg db' := by
  have hmem : ∀ x, x ∈ db'.executions ↔ x ∈ db.executions ∨ x = p.execution := fun x => mem_inserted h.executions
  obtain ⟨hst, -, herr, hrc, -⟩ := h.opening
  refine ⟨?_, ?_, ?_, ?_, ?_, ?_, ?_, ?_⟩
  · intro x hxo
    rcases h.moved.mem_orders.mp hxo with rfl | ⟨hxo, -⟩
    · exact movedOrder_sealed ..
    · exact hp.order_sealed x hxo
  · intro e he
    rcases (hmem e).mp he with he | rfl
    · exact hp.execution_sealed e he
    · exact h.row_sealed
  · intro e he
    rcases (hmem e).mp he with he | rfl
    · exact hp.quiet e he
    · exact fun _ => ⟨herr, hrc⟩
  · intro e he
    rcases (hmem e).mp he with he | rfl
    · exact hp.rebuilds e he
    · exact ⟨p.transfer, h.envelope, h.requestHash⟩
  · intro e he
    rcases (hmem e).mp he with he | rfl
    · obtain ⟨x, hxo, hm⟩ := hp.order_of e he
      refine ⟨x, h.moved.mem_orders.mpr (.inr ⟨hxo, ?_⟩), hm⟩
      intro hk
      exact h.absent e he (hm.order.symm.trans (hk.trans h.pair.order))
    · exact ⟨movedOrder cfg o .signing settled, h.moved.mem_orders.mpr (.inl rfl), { h.pair with }⟩
  · intro x hxo hs
    rcases h.moved.mem_orders.mp hxo with rfl | ⟨hxo, -⟩
    · exact ⟨p.execution, (hmem _).mpr (.inr rfl), h.pair.order.symm⟩
    · obtain ⟨e, he, hk⟩ := hp.execution_of x hxo hs
      exact ⟨e, (hmem e).mpr (.inl he), hk⟩
  · intro e he x hx hk
    rcases (hmem e).mp he with he | rfl <;> rcases (hmem x).mp hx with hx | rfl
    · exact hp.one_execution e he x hx hk
    · exact absurd hk.symm (h.absent e he)
    · exact absurd hk (h.absent x hx)
    · rfl
  · intro e he x hx hk
    rcases (hmem e).mp he with he | rfl <;> rcases (hmem x).mp hx with hx | rfl
    · exact hp.separate e he x hx hk
    · rw [indexConflict_comm]
      exact h.clear e he (fun hk' => hk hk'.symm)
    · exact h.clear x hx hk
    · exact absurd rfl hk

/-- An order and its execution change together. -/
theorem Paired.replaced {o : OrderRow} {e e' : ExecutionRow} {target : OrderStatus} {now : Time}
    (hp : Paired cfg db) (hmoved : Moved cfg db db' o target now) (howns : o.orderId = e.orderId)
    (he : e ∈ db.executions) (hid : e'.executionId = e.executionId)
    (hm : Matches (movedOrder cfg o target now) e') (hsealed : e'.Sealed cfg) (hquiet : Quiet e')
    (hreb : Rebuilds cfg e') (hclear : Clear db e') (hexec : db'.executions = db.executions.replace e') :
    Paired cfg db' := by
  have horder : e'.orderId = e.orderId := hm.order.symm.trans howns
  have hmem : ∀ x, x ∈ db'.executions ↔ x = e' ∨ (x ∈ db.executions ∧ x.executionId ≠ e'.executionId) :=
    fun x => mem_replaced hexec ⟨e, he, hid.symm⟩
  have hother : ∀ x ∈ db.executions, x.executionId ≠ e'.executionId → x.orderId ≠ e.orderId := by
    intro x hx hne hk
    rw [hp.one_execution e he x hx hk] at hne
    exact hne hid.symm
  refine ⟨?_, ?_, ?_, ?_, ?_, ?_, ?_, ?_⟩
  · intro x hxo
    rcases hmoved.mem_orders.mp hxo with rfl | ⟨hxo, -⟩
    · exact movedOrder_sealed ..
    · exact hp.order_sealed x hxo
  · intro x hx
    rcases (hmem x).mp hx with rfl | ⟨hx, -⟩
    · exact hsealed
    · exact hp.execution_sealed x hx
  · intro x hx
    rcases (hmem x).mp hx with rfl | ⟨hx, -⟩
    · exact hquiet
    · exact hp.quiet x hx
  · intro x hx
    rcases (hmem x).mp hx with rfl | ⟨hx, -⟩
    · exact hreb
    · exact hp.rebuilds x hx
  · intro x hx
    rcases (hmem x).mp hx with rfl | ⟨hx, hne⟩
    · exact ⟨_, hmoved.mem_orders.mpr (.inl rfl), hm⟩
    · obtain ⟨y, hyo, hmy⟩ := hp.order_of x hx
      refine ⟨y, hmoved.mem_orders.mpr (.inr ⟨hyo, ?_⟩), hmy⟩
      intro hk
      exact hother x hx hne (hmy.order.symm.trans (hk.trans howns))
  · intro y hyo hs
    rcases hmoved.mem_orders.mp hyo with rfl | ⟨hyo, hne⟩
    · exact ⟨e', (hmem e').mpr (.inl rfl), hm.order.symm⟩
    · obtain ⟨x, hx, hk⟩ := hp.execution_of y hyo hs
      refine ⟨x, (hmem x).mpr (.inr ⟨hx, ?_⟩), hk⟩
      intro hid'
      have hxe : x = e := Table.eq_of_key hx he (hid'.trans hid)
      exact hne (hk.symm.trans (hxe ▸ howns.symm))
  · intro x hx y hy hk
    rcases (hmem x).mp hx with rfl | ⟨hx, hnx⟩ <;> rcases (hmem y).mp hy with rfl | ⟨hy, hny⟩
    · rfl
    · exact absurd (hk.trans horder) (hother y hy hny)
    · exact absurd (hk.symm.trans horder) (hother x hx hnx)
    · exact hp.one_execution x hx y hy hk
  · intro x hx y hy hk
    rcases (hmem x).mp hx with rfl | ⟨hx, hnx⟩ <;> rcases (hmem y).mp hy with rfl | ⟨hy, hny⟩
    · exact absurd rfl hk
    · exact hclear y hy hny
    · rw [indexConflict_comm]
      exact hclear x hx hnx
    · exact hp.separate x hx y hy hk

theorem Paired.restarted {o : OrderRow} {e : ExecutionRow} {p : Prepared} {attemptId : Id} {now settled : Time}
    (hp : Paired cfg db) (h : Restarted cfg db db' o e p attemptId now settled) : Paired cfg db' := by
  have he := (Table.find?_eq_some.mp h.found).1
  have hm := hp.matches h.moved.mem he h.owns
  have hprep := h.prepared
  refine hp.replaced h.moved h.owns he ?_ ?_ ?_ ?_ ?_ h.clear h.executions
  · rw [hprep]; rfl
  · rw [hprep]; exact { hm with status := .inl rfl }
  · rw [hprep]; rfl
  · rw [hprep]; exact fun _ => ⟨rfl, rfl⟩
  · rw [hprep]; exact hp.rebuilds e he

theorem Paired.finished {o : OrderRow} {e : ExecutionRow} {a : AttemptRow} {f : Finish} {now settled : Time}
    (hp : Paired cfg db) (h : Finished cfg db db' o e a f now settled) (hof : f.Of e) : Paired cfg db' := by
  have hm := hp.matches h.moved.mem h.mem h.owns
  have hid : (finishedRow cfg e f now).executionId = e.executionId := rfl
  refine hp.replaced h.moved h.owns h.mem hid { hm with status := .inl rfl } rfl ?_
    (hp.rebuilds e h.mem) h.clear h.executions
  rintro (hs | hs)
  · exact absurd hs hof.quiet.1
  · exact hof.quiet.2 hs

/-! ### Attempts of an execution -/

/-- The numbers of the attempts of an execution, oldest first. -/
def attemptNumbers (db : DB) (executionId : Id) : List Nat :=
  (db.attempts.rows.filter (fun a => a.executionId = executionId)).map AttemptRow.attemptNumber

/-- Attempts are numbered without gaps, the latest one has the status of the execution, and every hash
of the execution is the hash of one of its attempts. -/
structure Chained (cfg : Config) (db : DB) : Prop where
  numbered : ∀ e ∈ db.executions, attemptNumbers db e.executionId = List.range' 1 e.attemptCount
  bounded : ∀ e ∈ db.executions, 1 ≤ e.attemptCount ∧ e.attemptCount ≤ 32
  belongs : ∀ a ∈ db.attempts, ∃ e ∈ db.executions, e.executionId = a.executionId ∧ e.subjectId = a.subjectId ∧
    a.requestId = requestIdOf e.orderId a.attemptNumber
  latest : ∀ e ∈ db.executions, ∀ a ∈ db.attempts, a.executionId = e.executionId →
    a.attemptNumber = e.attemptCount → a.status = e.status
  attempt_sealed : ∀ a ∈ db.attempts, a.Sealed cfg
  well_formed : ∀ a ∈ db.attempts, ∀ tx ∈ a.txHash, txHash tx = some tx
  carried : ∀ e ∈ db.executions, ∀ tx ∈ e.txHash, ∃ a ∈ db.attempts, a.executionId = e.executionId ∧
    a.txHash = some tx

theorem Chained.congr (hc : Chained cfg db) (h : SameExecutions db db') : Chained cfg db' := by
  obtain ⟨he, ha⟩ := h
  constructor
  · rw [he]; simpa only [attemptNumbers, ha] using hc.numbered
  · rw [he]; exact hc.bounded
  · rw [he, ha]; exact hc.belongs
  · rw [he, ha]; exact hc.latest
  · rw [ha]; exact hc.attempt_sealed
  · rw [ha]; exact hc.well_formed
  · rw [he, ha]; exact hc.carried

/-- An attempt number occurs once per execution. -/
theorem Chained.attempt_unique (hc : Chained cfg db) {e : ExecutionRow} (he : e ∈ db.executions)
    {a b : AttemptRow} (ha : a ∈ db.attempts) (hb : b ∈ db.attempts) (hae : a.executionId = e.executionId)
    (hbe : b.executionId = e.executionId) (hn : a.attemptNumber = b.attemptNumber) : a = b := by
  have hnodup : (attemptNumbers db e.executionId).Nodup := by
    rw [hc.numbered e he]
    exact List.nodup_range'
  exact List.inj_on_of_nodup_map hnodup (List.mem_filter.mpr ⟨ha, by simpa using hae⟩)
    (List.mem_filter.mpr ⟨hb, by simpa using hbe⟩) hn

/-- The number of an attempt lies between one and the attempt count. -/
theorem Chained.attempt_range (hc : Chained cfg db) {e : ExecutionRow} (he : e ∈ db.executions) {a : AttemptRow}
    (ha : a ∈ db.attempts) (hae : a.executionId = e.executionId) :
    1 ≤ a.attemptNumber ∧ a.attemptNumber ≤ e.attemptCount := by
  have hmem : a.attemptNumber ∈ attemptNumbers db e.executionId :=
    List.mem_map_of_mem (List.mem_filter.mpr ⟨ha, by simpa using hae⟩)
  rw [hc.numbered e he, List.mem_range'_1] at hmem
  omega

theorem Chained.latest_exists (hc : Chained cfg db) {e : ExecutionRow} (he : e ∈ db.executions) :
    ∃ a, Latest db e a := by
  have hmem : e.attemptCount ∈ attemptNumbers db e.executionId := by
    rw [hc.numbered e he, List.mem_range'_1]
    have := (hc.bounded e he).1
    omega
  obtain ⟨a, ha, hn⟩ := List.mem_map.mp hmem
  obtain ⟨ha, hae⟩ := List.mem_filter.mp ha
  exact ⟨a, ha, by simpa using hae, hn⟩

@[simp] theorem newAttempt_executionId (e : ExecutionRow) (attemptId : Id) (now : Time) :
    (newAttempt cfg e attemptId now).executionId = e.executionId := rfl

@[simp] theorem newAttempt_number (e : ExecutionRow) (attemptId : Id) (now : Time) :
    (newAttempt cfg e attemptId now).attemptNumber = e.attemptCount := rfl

theorem attemptNumbers_insert {a : AttemptRow} (h : db.attempts.insert? a = some db'.attempts) (id : Id) :
    attemptNumbers db' id = attemptNumbers db id ++ if a.executionId = id then [a.attemptNumber] else [] := by
  simp only [attemptNumbers, (Table.insert?_eq_some.mp h).2, List.filter_append, List.map_append]
  by_cases hid : a.executionId = id <;> simp [hid]

theorem Chained.started {o : OrderRow} {p : Prepared} {attemptId : Id} {now settled : Time} (hc : Chained cfg db)
    (h : Started cfg db db' o p attemptId now settled) : Chained cfg db' := by
  have hxe : ∀ x, x ∈ db'.executions ↔ x ∈ db.executions ∨ x = p.execution := fun x => mem_inserted h.executions
  have hxa : ∀ x, x ∈ db'.attempts ↔ x ∈ db.attempts ∨ x = newAttempt cfg p.execution attemptId now :=
    fun x => mem_inserted h.attempts
  obtain ⟨hst, htx, -, -, hcount⟩ := h.opening
  have hnew : ∀ x ∈ db.executions, x.executionId ≠ p.execution.executionId := (Table.insert?_eq_some.mp h.executions).1
  -- the new execution has no attempt yet, since every attempt belongs to an execution
  have hnone : ∀ a ∈ db.attempts, a.executionId ≠ p.execution.executionId := by
    intro a ha hk
    obtain ⟨x, hx, hid, -⟩ := hc.belongs a ha
    exact hnew x hx (hid.trans hk)
  refine ⟨?_, ?_, ?_, ?_, ?_, ?_, ?_⟩
  · intro e he
    rw [attemptNumbers_insert h.attempts]
    rcases (hxe e).mp he with he | rfl
    · rw [if_neg (fun hk => hnew e he hk.symm), List.append_nil, hc.numbered e he]
    · have hempty : attemptNumbers db p.execution.executionId = [] := by
        simp only [attemptNumbers, List.map_eq_nil_iff, List.filter_eq_nil_iff, decide_eq_true_eq]
        exact hnone
      simp [hempty, newAttempt, hcount]
  · intro e he
    rcases (hxe e).mp he with he | rfl
    · exact hc.bounded e he
    · simp [hcount]
  · intro a ha
    rcases (hxa a).mp ha with ha | rfl
    · obtain ⟨x, hx, hrest⟩ := hc.belongs a ha
      exact ⟨x, (hxe x).mpr (.inl hx), hrest⟩
    · exact ⟨p.execution, (hxe _).mpr (.inr rfl), rfl, rfl, rfl⟩
  · intro e he a ha hid hn
    rcases (hxe e).mp he with he | rfl <;> rcases (hxa a).mp ha with ha | rfl
    · exact hc.latest e he a ha hid hn
    · exact absurd hid.symm (hnew e he)
    · exact absurd hid (hnone a ha)
    · exact hst.symm
  · intro a ha
    rcases (hxa a).mp ha with ha | rfl
    · exact hc.attempt_sealed a ha
    · rfl
  · intro a ha tx hmem
    rcases (hxa a).mp ha with ha | rfl
    · exact hc.well_formed a ha tx hmem
    · simp [newAttempt] at hmem
  · intro e he tx hmem
    rcases (hxe e).mp he with he | rfl
    · obtain ⟨a, ha, hrest⟩ := hc.carried e he tx hmem
      exact ⟨a, (hxa a).mpr (.inl ha), hrest⟩
    · simp [htx] at hmem

theorem Chained.restarted {o : OrderRow} {e : ExecutionRow} {p : Prepared} {attemptId : Id} {now settled : Time}
    (hc : Chained cfg db) (h : Restarted cfg db db' o e p attemptId now settled) : Chained cfg db' := by
  have he := (Table.find?_eq_some.mp h.found).1
  have hid : p.execution.executionId = e.executionId := by rw [h.prepared]; rfl
  have hcount : p.execution.attemptCount = e.attemptCount + 1 := by rw [h.prepared]; rfl
  have hst : p.execution.status = .signing := by rw [h.prepared]; rfl
  have hxe : ∀ x, x ∈ db'.executions ↔ x = p.execution ∨
      (x ∈ db.executions ∧ x.executionId ≠ p.execution.executionId) :=
    fun x => mem_replaced h.executions ⟨e, he, hid.symm⟩
  have hxa : ∀ x, x ∈ db'.attempts ↔ x ∈ db.attempts ∨ x = newAttempt cfg p.execution attemptId now :=
    fun x => mem_inserted h.attempts
  refine ⟨?_, ?_, ?_, ?_, ?_, ?_, ?_⟩
  · intro x hx
    rw [attemptNumbers_insert h.attempts]
    rcases (hxe x).mp hx with rfl | ⟨hx, hne⟩
    · rw [newAttempt_executionId, newAttempt_number, if_pos rfl, hid, hc.numbered e he, hcount,
        List.range'_1_concat, Nat.add_comm]
    · rw [if_neg (fun hk => hne hk.symm), List.append_nil, hc.numbered x hx]
  · intro x hx
    rcases (hxe x).mp hx with rfl | ⟨hx, -⟩
    · have := h.bound
      omega
    · exact hc.bounded x hx
  · intro a ha
    rcases (hxa a).mp ha with ha | rfl
    · obtain ⟨x, hx, hk, hrest⟩ := hc.belongs a ha
      by_cases hne : x.executionId = p.execution.executionId
      · have hxeq : x = e := Table.eq_of_key hx he (hne.trans hid)
        subst hxeq
        refine ⟨p.execution, (hxe _).mpr (.inl rfl), hid.trans hk, ?_⟩
        rw [h.prepared]
        exact hrest
      · exact ⟨x, (hxe x).mpr (.inr ⟨hx, hne⟩), hk, hrest⟩
    · exact ⟨p.execution, (hxe _).mpr (.inl rfl), rfl, rfl, rfl⟩
  · intro x hx a ha hk hn
    rcases (hxe x).mp hx with rfl | ⟨hx, hne⟩ <;> rcases (hxa a).mp ha with ha | rfl
    · have := (hc.attempt_range he ha (hk.trans hid)).2
      omega
    · exact hst.symm
    · exact hc.latest x hx a ha hk hn
    · exact absurd hk.symm hne
  · intro a ha
    rcases (hxa a).mp ha with ha | rfl
    · exact hc.attempt_sealed a ha
    · rfl
  · intro a ha tx hmem
    rcases (hxa a).mp ha with ha | rfl
    · exact hc.well_formed a ha tx hmem
    · simp [newAttempt] at hmem
  · intro x hx tx hmem
    rcases (hxe x).mp hx with rfl | ⟨hx, -⟩
    · have htx : p.execution.txHash = e.txHash := by rw [h.prepared]; rfl
      obtain ⟨a, ha, hk, hrest⟩ := hc.carried e he tx (htx ▸ hmem)
      exact ⟨a, (hxa a).mpr (.inl ha), hk.trans hid.symm, hrest⟩
    · obtain ⟨a, ha, hrest⟩ := hc.carried x hx tx hmem
      exact ⟨a, (hxa a).mpr (.inl ha), hrest⟩

/-- The hash of a finish is well-formed when the stored one is. -/
theorem Finish.Of.well_formed {e : ExecutionRow} {f : Finish} (h : f.Of e)
    (he : ∀ tx ∈ e.txHash, Wallet.txHash tx = some tx) : ∀ tx ∈ f.txHash, Wallet.txHash tx = some tx := by
  intro tx hmem
  cases h with
  | mark _ hw =>
    cases hw with
    | broadcast hvalue =>
      obtain rfl : _ = tx := by simpa [broadcastFinish] using hmem
      exact txHash_txHash hvalue
    | @unknown value code =>
      simp only [unknownFinish, unknownHash] at hmem
      split at hmem
      · exact he tx hmem
      · split at hmem
        · next hvalue =>
          obtain rfl : _ = tx := by simpa using hmem
          exact txHash_txHash hvalue
        · exact he tx hmem
    | @failed value code receipt hvalue =>
      cases receipt with
      | none =>
        obtain rfl : e.txHash = value := by simpa [failureHash] using hvalue
        exact he tx hmem
      | some receipt =>
        simp only [failureHash, bind_eq_ok, orRaise_eq_ok, Except.ok.injEq] at hvalue
        obtain ⟨x, hx, rfl⟩ := hvalue
        obtain rfl : x = tx := by simpa [failedFinish] using hmem
        exact txHash_txHash hx
    | confirmed hvalue =>
      obtain rfl : _ = tx := by simpa [confirmedFinish] using hmem
      exact txHash_txHash hvalue
  | reconcile _ => exact he tx hmem
  | recovered _ => exact he tx hmem

theorem Chained.execution_hash (hc : Chained cfg db) {e : ExecutionRow} (he : e ∈ db.executions) :
    ∀ tx ∈ e.txHash, txHash tx = some tx := by
  intro tx hmem
  obtain ⟨a, ha, -, htx⟩ := hc.carried e he tx hmem
  exact hc.well_formed a ha tx htx

theorem Finished.mem_executions {o : OrderRow} {e x : ExecutionRow} {a : AttemptRow} {f : Finish} {now settled : Time}
    (h : Finished cfg db db' o e a f now settled) :
    x ∈ db'.executions ↔ x = finishedRow cfg e f now ∨ (x ∈ db.executions ∧ x.executionId ≠ e.executionId) :=
  mem_replaced h.executions ⟨e, h.mem, rfl⟩

theorem Finished.mem_attempts {o : OrderRow} {e : ExecutionRow} {a x : AttemptRow} {f : Finish} {now settled : Time}
    (h : Finished cfg db db' o e a f now settled) :
    x ∈ db'.attempts ↔ x = finishedAttempt cfg a f.status f.txHash f.errorCode now ∨
      (x ∈ db.attempts ∧ x.attemptId ≠ a.attemptId) :=
  mem_replaced h.attempts ⟨a, h.latest.1, rfl⟩

/-- A finish touches the attempts of its own execution only. -/
theorem Finished.other_attempts {o : OrderRow} {e : ExecutionRow} {a b : AttemptRow} {f : Finish} {now settled : Time}
    (h : Finished cfg db db' o e a f now settled) (hb : b.executionId ≠ e.executionId) :
    b ∈ db'.attempts ↔ b ∈ db.attempts := by
  rw [h.mem_attempts]
  constructor
  · rintro (rfl | ⟨hb', -⟩)
    · exact absurd h.latest.2.1 hb
    · exact hb'
  · intro hb'
    refine .inr ⟨hb', fun hid => hb ?_⟩
    rw [Table.eq_of_key hb' h.latest.1 hid]
    exact h.latest.2.1

theorem Chained.finished {o : OrderRow} {e : ExecutionRow} {a : AttemptRow} {f : Finish} {now settled : Time}
    (hc : Chained cfg db) (h : Finished cfg db db' o e a f now settled) (hof : f.Of e) : Chained cfg db' := by
  obtain ⟨ham, hae, han⟩ := h.latest
  have hfind : db.attempts.find? (finishedAttempt cfg a f.status f.txHash f.errorCode now).attemptId = some a :=
    Table.find?_key ham
  have hnumbers : ∀ id, attemptNumbers db' id = attemptNumbers db id := by
    intro id
    rw [attemptNumbers, h.attempts]
    exact Table.replace_filter_map hfind rfl rfl
  have hin : finishedAttempt cfg a f.status f.txHash f.errorCode now ∈ db'.attempts := h.mem_attempts.mpr (.inl rfl)
  refine ⟨?_, ?_, ?_, ?_, ?_, ?_, ?_⟩
  · intro x hx
    rw [hnumbers]
    rcases h.mem_executions.mp hx with rfl | ⟨hx, -⟩
    · exact hc.numbered e h.mem
    · exact hc.numbered x hx
  · intro x hx
    rcases h.mem_executions.mp hx with rfl | ⟨hx, -⟩
    · exact hc.bounded e h.mem
    · exact hc.bounded x hx
  · -- an attempt keeps its execution, its number and its request
    have hown : ∀ b ∈ db.attempts, ∃ x ∈ db'.executions, x.executionId = b.executionId ∧ x.subjectId = b.subjectId ∧
        b.requestId = requestIdOf x.orderId b.attemptNumber := by
      intro b hb
      obtain ⟨x, hx, hk, hrest⟩ := hc.belongs b hb
      by_cases hne : x.executionId = e.executionId
      · have hxe : x = e := Table.eq_of_key hx h.mem hne
        subst hxe
        exact ⟨_, h.mem_executions.mpr (.inl rfl), hk, hrest⟩
      · exact ⟨x, h.mem_executions.mpr (.inr ⟨hx, hne⟩), hk, hrest⟩
    intro b hb
    rcases h.mem_attempts.mp hb with rfl | ⟨hb, -⟩
    · exact hown a ham
    · exact hown b hb
  · intro x hx b hb hk hn
    rcases h.mem_executions.mp hx with rfl | ⟨hx, hne⟩ <;> rcases h.mem_attempts.mp hb with rfl | ⟨hb, hbne⟩
    · rfl
    · exact absurd (congrArg AttemptRow.attemptId (hc.attempt_unique h.mem hb ham hk hae (hn.trans han.symm))) hbne
    · exact absurd (hk.symm.trans hae) hne
    · exact hc.latest x hx b hb hk hn
  · intro b hb
    rcases h.mem_attempts.mp hb with rfl | ⟨hb, -⟩
    · rfl
    · exact hc.attempt_sealed b hb
  · intro b hb tx hmem
    rcases h.mem_attempts.mp hb with rfl | ⟨hb, -⟩
    · exact hof.well_formed (hc.execution_hash h.mem) tx hmem
    · exact hc.well_formed b hb tx hmem
  · intro x hx tx hmem
    rcases h.mem_executions.mp hx with rfl | ⟨hx, hne⟩
    · exact ⟨_, hin, hae, hmem⟩
    · obtain ⟨b, hb, hk, htx⟩ := hc.carried x hx tx hmem
      refine ⟨b, h.mem_attempts.mpr (.inr ⟨hb, ?_⟩), hk, htx⟩
      intro hid
      have hba : b = a := Table.eq_of_key hb ham hid
      exact hne (hk.symm.trans (hba ▸ hae))

/-! ### Executions persist -/

/-- `e'` is a later state of the execution `e`. -/
structure Continues (e e' : ExecutionRow) : Prop where
  executionId : e'.executionId = e.executionId
  intent : e'.intent = e.intent
  attempts : e.attemptCount ≤ e'.attemptCount

theorem Continues.refl (e : ExecutionRow) : Continues e e := ⟨rfl, rfl, le_rfl⟩

theorem Continues.trans {e₁ e₂ e₃ : ExecutionRow} (h : Continues e₁ e₂) (h' : Continues e₂ e₃) : Continues e₁ e₃ :=
  ⟨h'.1.trans h.1, h'.2.trans h.2, h.3.trans h'.3⟩

theorem Continues.order {e e' : ExecutionRow} (h : Continues e e') : e'.orderId = e.orderId :=
  congrArg WalletTransferIntent.orderId h.intent

theorem Continues.subject {e e' : ExecutionRow} (h : Continues e e') : e'.subjectId = e.subjectId :=
  congrArg WalletTransferIntent.subjectId h.intent

theorem continues_replaced {e e' x : ExecutionRow} (hfind : db.executions.find? e'.executionId = some e)
    (hexec : db'.executions = db.executions.replace e') (h : Continues e e') (hx : x ∈ db.executions) :
    ∃ y ∈ db'.executions, Continues x y := by
  have he := (Table.find?_eq_some.mp hfind).1
  by_cases hk : x.executionId = e'.executionId
  · have hxe : x = e := Table.eq_of_key hx he (hk.trans h.executionId)
    subst hxe
    exact ⟨e', (mem_replaced hexec ⟨x, hx, hk⟩).mpr (.inl rfl), h⟩
  · exact ⟨x, (mem_replaced hexec ⟨e, he, h.executionId.symm⟩).mpr (.inr ⟨hx, hk⟩), .refl x⟩

theorem Finished.continues {o : OrderRow} {e x : ExecutionRow} {a : AttemptRow} {f : Finish} {now settled : Time}
    (h : Finished cfg db db' o e a f now settled) (hx : x ∈ db.executions) :
    ∃ y ∈ db'.executions, Continues x y :=
  continues_replaced (show db.executions.find? (finishedRow cfg e f now).executionId = some e from h.found)
    h.executions ⟨rfl, rfl, le_rfl⟩ hx

theorem Effect.continues {permit : Permit} {r : Readings} (h : Effect cfg permit r db db') {e : ExecutionRow}
    (he : e ∈ db.executions) : ∃ e' ∈ db'.executions, Continues e e' := by
  have hsame : db'.executions = db.executions → ∃ e' ∈ db'.executions, Continues e e' :=
    fun hx => ⟨e, hx ▸ he, .refl e⟩
  cases h with
  | desk h => exact hsame h.aside.executions.executions
  | policy h => exact hsame h.aside.executions.executions
  | opened h => exact hsame h.rest.executions.executions
  | decided h => exact hsame h.executions.executions
  | started h => exact ⟨e, (mem_inserted h.executions).mpr (.inl he), .refl e⟩
  | @restarted o x p attemptId now settled h =>
    have hid : p.execution.executionId = x.executionId := by rw [h.prepared]; rfl
    refine continues_replaced (hid ▸ h.found) h.executions ?_ he
    rw [h.prepared]
    exact ⟨rfl, rfl, Nat.le_succ _⟩
  | finished h => exact h.continues he

theorem Effects.continues {permit : Permit} {r : Readings} (h : Effects cfg permit r db db') {e : ExecutionRow}
    (he : e ∈ db.executions) : ∃ e' ∈ db'.executions, Continues e e' := by
  induction h with
  | refl => exact ⟨e, he, .refl e⟩
  | tail _ heff ih =>
    obtain ⟨x, hx, hcont⟩ := ih
    obtain ⟨y, hy, hcont'⟩ := heff.continues hx
    exact ⟨y, hy, hcont.trans hcont'⟩

structure Sound (cfg : Config) (db : DB) : Prop where
  desk : DeskSound cfg db
  paired : Paired cfg db
  chained : Chained cfg db

theorem Sound.empty : Sound cfg .empty := by
  refine ⟨⟨?_, ?_, ?_, ?_, ?_⟩, ⟨?_, ?_, ?_, ?_, ?_, ?_, ?_, ?_⟩, ⟨?_, ?_, ?_, ?_, ?_, ?_, ?_⟩⟩ <;> intro x hx <;>
    cases hx

theorem Sound.effect {permit : Permit} {r : Readings} (hs : Sound cfg db) (h : Effect cfg permit r db db') :
    Sound cfg db' := by
  cases h with
  | desk h => exact ⟨h.sound, hs.paired.congr h.aside.orders h.aside.executions.executions,
      hs.chained.congr h.aside.executions⟩
  | policy h => exact ⟨h.sound, hs.paired.congr h.aside.orders h.aside.executions.executions,
      hs.chained.congr h.aside.executions⟩
  | opened h => exact ⟨hs.desk.congr h.rest.desk, hs.paired.opened h, hs.chained.congr h.rest.executions⟩
  | decided h => exact ⟨hs.desk.congr h.desk, hs.paired.decided h, hs.chained.congr h.executions⟩
  | started h => exact ⟨hs.desk.congr h.desk, hs.paired.started h, hs.chained.started h⟩
  | restarted h => exact ⟨hs.desk.congr h.desk, hs.paired.restarted h, hs.chained.restarted h⟩
  | finished h hof => exact ⟨hs.desk.congr h.desk, hs.paired.finished h hof, hs.chained.finished h hof⟩

/-- A property that every effect preserves survives a row of effects. -/
theorem Effects.invariant {permit : Permit} {r : Readings} {I : DB → Prop}
    (hstep : ∀ db db', Sound cfg db → I db → Effect cfg permit r db db' → I db') (hs : Sound cfg db) (hi : I db)
    (h : Effects cfg permit r db db') : Sound cfg db' ∧ I db' := by
  induction h with
  | refl => exact ⟨hs, hi⟩
  | tail _ heff ih => exact ⟨ih.1.effect heff, hstep _ _ ih.1 ih.2 heff⟩

theorem prepare_effects {permit : Permit} {r : Readings} {orderId subjectId : Id} {actor : String}
    {attempt : Attempt} {p : Prepared} (h : prepare cfg db r orderId subjectId actor attempt = .ok (p, db')) :
    Effect cfg permit r db db' := by
  cases attempt with
  | first q =>
    obtain ⟨o, policy, asset, source, -, -, -, hstart⟩ := prepareFirst_ok h
    exact .started hstart
  | further reason =>
    obtain ⟨o, e, policy, source, -, -, -, hstart⟩ := prepareRetry_ok h
    exact .restarted hstart

/-- The permit lets through the transaction of an action. -/
def Permit.AdmitsAction (permit : Permit) (db : DB) : Action → Prop
  | .store _ op => permit.Admits db op
  | _ => True

/-- Every step changes the database by effects. -/
theorem step_effects {permit : Permit} {s : Sys} {a : Action} (hs : Sound cfg s.db)
    (hpermitted : permit.AdmitsAction s.db a) (hfinish : ∀ db e f, permit.finish db e f) :
    Effects cfg permit a.readings s.db (step cfg s a).db := by
  have h : Event cfg s a (step cfg s a) := step_event s a
  generalize step cfg s a = s' at h
  cases h with
  | store hrun => exact StoreOp.run_effects hs.desk hpermitted hrun
  | prepared _ hprep => exact .one (prepare_effects hprep)
  | answered _ _ hmark => exact Mark.apply_effects hs.paired (fun _ _ _ _ _ _ => hfinish ..) hmark
  | marked _ hmark => exact Mark.apply_effects hs.paired (fun _ _ _ _ _ _ => hfinish ..) hmark
  | _ => exact .refl

/-- The invariant rule for the database: what every permitted effect preserves holds in every state that a
guarded run reaches. -/
theorem database_invariant {guard : Sys → Action → Prop} {permit : Permit} {timely : Readings → Prop}
    {I : DB → Prop} (hpermitted : ∀ s a, guard s a → permit.AdmitsAction s.db a ∧ timely a.readings)
    (hfinish : ∀ db e f, permit.finish db e f) (hinit : I .empty)
    (hstep : ∀ r db db', timely r → Sound cfg db → I db → Effect cfg permit r db db' → I db')
    {s : Sys} (h : (machine cfg).ReachableUnder guard s) : Sound cfg s.db ∧ I s.db := by
  refine Machine.ReachableUnder.invariant (I := fun s => Sound cfg s.db ∧ I s.db) ?_ ?_ h
  · rintro s rfl
    exact ⟨.empty, hinit⟩
  · rintro s a ⟨hs, hi⟩ hg
    obtain ⟨hpermit, htimely⟩ := hpermitted s a hg
    exact Effects.invariant (fun _ _ => hstep _ _ _ htimely) hs hi (step_effects hs hpermit hfinish)

theorem Permit.all_admitsAction (db : DB) (a : Action) : Permit.all.AdmitsAction db a := by
  cases a <;> simp [Permit.AdmitsAction, Permit.all_admits]

theorem reachable_invariant {I : DB → Prop} (hinit : I .empty)
    (hstep : ∀ r db db', Sound cfg db → I db → Effect cfg Permit.all r db db' → I db') {s : Sys}
    (h : (machine cfg).Reachable s) : Sound cfg s.db ∧ I s.db := by
  let timely : Readings → Prop := fun _ => True
  have hall : ∀ (s : Sys) (a : Action), True → Permit.all.AdmitsAction s.db a ∧ timely a.readings :=
    fun s a _ => ⟨Permit.all_admitsAction s.db a, trivial⟩
  exact database_invariant hall (fun _ _ _ => trivial) hinit (fun r db db' _ => hstep r db db') h

/-- The invariant rule for the system: one obligation per case of a step. -/
theorem system_invariant {guard : Sys → Action → Prop} {J : Sys → Prop} (hinit : J .start)
    (hstep : ∀ s a s', Sound cfg s.db → guard s a → Event cfg s a s' →
      Effects cfg Permit.all a.readings s.db s'.db → J s → J s')
    {s : Sys} (h : (machine cfg).ReachableUnder guard s) : Sound cfg s.db ∧ J s := by
  refine Machine.ReachableUnder.invariant (I := fun s => Sound cfg s.db ∧ J s) ?_ ?_ h
  · rintro s rfl
    exact ⟨.empty, hinit⟩
  · rintro s a ⟨hs, hj⟩ hg
    have heff := step_effects (a := a) hs (Permit.all_admitsAction s.db a) (fun _ _ _ => trivial)
    have hs' := Effects.invariant (I := fun _ => True) (fun _ _ _ _ _ => trivial) hs trivial heff
    exact ⟨hs'.1, hstep s a _ hs hg (step_event s a) heff hj⟩

theorem reachable_sound {s : Sys} (h : (machine cfg).Reachable s) : Sound cfg s.db :=
  (reachable_invariant (I := fun _ => True) trivial (fun _ _ _ _ _ _ => trivial) h).1

/-- The loop commits a recovery for each execution and stops at the first error. -/
theorem recoverExecutions_reachable {s : Sys} (h : (machine cfg).Reachable s) (subjectId : Id) (actor : String)
    (r : Readings) (ids : List Id) : ∃ s', (machine cfg).Reachable s' ∧
    s'.db = (recoverExecutions cfg subjectId actor s.db r ids).2 := by
  induction ids generalizing s r with
  | nil => exact ⟨s, h, rfl⟩
  | cons executionId rest ih =>
    obtain ⟨actions, hrun⟩ := h
    have hnext : (machine cfg).Reachable
        ((machine cfg).step s (.store r (.recoverExecution executionId subjectId actor))) :=
      ⟨_, .next hrun trivial⟩
    unfold recoverExecutions
    cases hrecover : recoverExecution cfg s.db r executionId subjectId actor with
    | error error => exact ⟨s, ⟨actions, hrun⟩, rfl⟩
    | ok db =>
      obtain ⟨s', hs', hdb⟩ := ih hnext (r.drop 4)
      refine ⟨s', hs', hdb.trans ?_⟩
      change (recoverExecutions cfg subjectId actor
        (commit s.db (recoverExecution cfg s.db r executionId subjectId actor)) (r.drop 4) rest).2 = _
      rw [hrecover]
      rfl

/-- What `recover_database_inflight` leaves is reached by a run, so that every invariant of the runs holds after it. -/
theorem recoverDatabaseInflight_reachable {s : Sys} (h : (machine cfg).Reachable s) (r : Readings) (subjectId : Id)
    (actor : String) (limit : Nat) :
    ∃ s', (machine cfg).Reachable s' ∧ s'.db = (recoverDatabaseInflight cfg s.db r subjectId actor limit).2 := by
  unfold recoverDatabaseInflight
  split
  case h_1 => exact ⟨s, h, rfl⟩
  case h_2 actor' _ => exact recoverExecutions_reachable h subjectId actor' r _

end Noyra.Wallet.Proofs
