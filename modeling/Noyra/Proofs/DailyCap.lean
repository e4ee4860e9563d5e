import Mathlib.Algebra.Order.BigOperators.Group.List
import Noyra.Proofs.Ledger

/-!
# The daily cap

What the policy authorizes on one UTC day stays within the daily limit. The window of `_policy_allows` is
open at its end, so a reservation that straddles midnight is counted against both days.
-/

namespace Noyra.Wallet.Proofs
open Noyra.Lib

variable {cfg : Config} {db db' : DB} {subjectId : Id}

theorem dayStart_le (t : Time) : dayStart t ≤ t := Nat.div_mul_le_self t dayMillis

theorem dayStart_mono {t u : Time} (h : t ≤ u) : dayStart t ≤ dayStart u :=
  Nat.mul_le_mul_right dayMillis (Nat.div_le_div_right h)

/-- An order of the subject for the asset that was authorized on the day of `day` and is in flight or paid. -/
def CountedOn (subjectId networkId assetId : Id) (day : Time) (o : OrderRow) : Prop :=
  o.subjectId = subjectId ∧ o.networkId = networkId ∧ o.assetId = assetId ∧ o.status ∈ activeStatus ∧
    o.authorizedAt.map dayStart = some (dayStart day)

instance (subjectId networkId assetId : Id) (day : Time) : DecidablePred (CountedOn subjectId networkId assetId day) :=
  fun _ => inferInstanceAs (Decidable (_ ∧ _))

/-- The amount authorized on a UTC day. -/
def dayAmount (db : DB) (subjectId networkId assetId : Id) (day : Time) : Nat :=
  ((db.orders.rows.filter (CountedOn subjectId networkId assetId day)).map OrderRow.amount).sum

theorem foldl_dayTotal (day month : Time) (l : List OrderRow) (t : PeriodTotals) :
    (l.foldl (PeriodTotals.add day month) t).dayTotal =
      t.dayTotal + ((l.filter (fun o => decide (day ≤ o.period))).map OrderRow.amount).sum := by
  induction l generalizing t with
  | nil => simp
  | cons o l ih =>
    rw [List.foldl_cons, ih]
    by_cases hd : day ≤ o.period <;> by_cases hm : month ≤ o.period <;> simp [PeriodTotals.add, hd, hm, Nat.add_assoc]

/-- A day that does not begin before the day of the check lies in the window of the check. -/
theorem dayAmount_le_dayTotal (db : DB) (row : OrderRow) {now day : Time} (h : now ≤ day) :
    dayAmount db row.subjectId row.networkId row.assetId day ≤ (periodTotals db row none now).dayTotal := by
  have hday := dayStart_mono h
  rw [periodTotals, foldl_dayTotal, Nat.zero_add, assetOrders, List.filter_filter, dayAmount]
  refine List.Sublist.sum_le_sum ((List.monotone_filter_right _ ?_).map _) (fun _ _ => Nat.zero_le _)
  intro o ho
  obtain ⟨hs, hn, ha, hst, hauth⟩ := of_decide_eq_true ho
  obtain ⟨t, ht, hday'⟩ := Option.map_eq_some_iff.mp hauth
  have hperiod : dayStart now ≤ o.period := by
    rw [OrderRow.period, ht, Option.getD_some]
    exact (hday.trans_eq hday'.symm).trans (dayStart_le t)
  simp [hs, hn, ha, hst, hperiod]

theorem dayAmount_eq_sum (db : DB) (subjectId networkId assetId : Id) (day : Time) :
    (dayAmount db subjectId networkId assetId day : ℤ) = (db.orders.rows.map
      (fun o => if CountedOn subjectId networkId assetId day o then (o.amount : ℤ) else 0)).sum := by
  rw [dayAmount, Table.sum_filter]
  simp only [decide_eq_true_eq]

theorem dayAmount_congr {day day' : Time} (h : dayStart day = dayStart day') (networkId assetId : Id) :
    dayAmount db subjectId networkId assetId day = dayAmount db subjectId networkId assetId day' := by
  have hfilter : db.orders.rows.filter (CountedOn subjectId networkId assetId day) =
      db.orders.rows.filter (CountedOn subjectId networkId assetId day') :=
    List.filter_congr (fun o _ => decide_eq_decide.mpr (by simp only [CountedOn, h]))
  rw [dayAmount, dayAmount, hfilter]

theorem active_before {s target : OrderStatus} (h : target ∈ orderTransitions s) (ht : target ∈ activeStatus)
    (hne : target ≠ .reserved) : s ∈ activeStatus := by
  revert h ht hne
  cases s <;> cases target <;> simp [orderTransitions, activeStatus]

theorem inactive_before {s : OrderStatus} (h : OrderStatus.reserved ∈ orderTransitions s) : s ∉ activeStatus := by
  revert h
  cases s <;> simp [orderTransitions, activeStatus]

theorem Moved.dayAmount_eq {o : OrderRow} {target : OrderStatus} {now : Time} (h : Moved cfg db db' o target now)
    (subjectId networkId assetId : Id) (day : Time) :
    (dayAmount db' subjectId networkId assetId day : ℤ) = dayAmount db subjectId networkId assetId day -
      (if CountedOn subjectId networkId assetId day o then (o.amount : ℤ) else 0) +
      (if CountedOn subjectId networkId assetId day (movedOrder cfg o target now) then (o.amount : ℤ) else 0) := by
  rw [dayAmount_eq_sum, dayAmount_eq_sum, h.orders]
  have hfound : db.orders.find? (movedOrder cfg o target now).orderId = some o := h.found
  exact Table.sum_replace hfound (fun _ _ _ => rfl)

/-- A move other than a reservation counts nothing new. -/
theorem Moved.dayAmount_le {o : OrderRow} {target : OrderStatus} {now : Time} (h : Moved cfg db db' o target now)
    (hne : target ≠ .reserved) (subjectId networkId assetId : Id) (day : Time) :
    dayAmount db' subjectId networkId assetId day ≤ dayAmount db subjectId networkId assetId day := by
  have heq := h.dayAmount_eq subjectId networkId assetId day
  have hcount : CountedOn subjectId networkId assetId day (movedOrder cfg o target now) →
      CountedOn subjectId networkId assetId day o := by
    rintro ⟨hs, hn, ha, hst, hday⟩
    simp only [movedOrder, hne, if_false] at hday
    exact ⟨hs, hn, ha, active_before h.allowed hst hne, hday⟩
  by_cases hnew : CountedOn subjectId networkId assetId day (movedOrder cfg o target now)
  · rw [if_pos hnew, if_pos (hcount hnew)] at heq
    omega
  · rw [if_neg hnew] at heq
    split at heq <;> omega

theorem policyAllows_daily {r : Reading} {o : OrderRow} {policy : PolicyRow} {exclude : Option Id}
    (h : policyAllows db r o (some policy) exclude = true) (hlimit : 0 < policy.terms.dailyLimit) :
    (periodTotals db o exclude r.clock).dayTotal + o.amount ≤ policy.terms.dailyLimit := by
  simp only [policyAllows, Bool.and_eq_true] at h
  have hdaily := h.1.2.2
  simp only [dailyAllows, Bool.or_eq_true, beq_iff_eq, decide_eq_true_eq] at hdaily
  omega

/-- A reservation at a reading not before the check stays within the limit on its day. -/
theorem Moved.dayAmount_reserved {o : OrderRow} {now : Time} {r : Reading} {policy : PolicyRow}
    (h : Moved cfg db db' o .reserved now) (hallow : policyAllows db r o (some policy) none = true)
    (hlimit : 0 < policy.terms.dailyLimit) (hnow : r.clock ≤ now) {networkId assetId : Id} {day : Time}
    (hcap : dayAmount db o.subjectId networkId assetId day ≤ policy.terms.dailyLimit) :
    dayAmount db' o.subjectId networkId assetId day ≤ policy.terms.dailyLimit := by
  have heq := h.dayAmount_eq o.subjectId networkId assetId day
  have hold : ¬CountedOn o.subjectId networkId assetId day o := fun hc => inactive_before h.allowed hc.2.2.2.1
  rw [if_neg hold] at heq
  by_cases hnew : CountedOn o.subjectId networkId assetId day (movedOrder cfg o .reserved now)
  · rw [if_pos hnew] at heq
    obtain ⟨-, hn, ha, -, hauth⟩ := hnew
    have hday : dayStart now = dayStart day := by
      simpa [movedOrder] using hauth
    have htotal := dayAmount_le_dayTotal db o hnow
    have hn' : o.networkId = networkId := hn
    have ha' : o.assetId = assetId := ha
    rw [hn', ha', dayAmount_congr hday] at htotal
    have hbound := policyAllows_daily hallow hlimit
    omega
  · rw [if_neg hnew] at heq
    omega

/-- The policy of the subject changes only while none of its orders has been authorized. -/
def steadyPolicy (subjectId : Id) : Permit :=
  { Permit.all with
    policy := fun db x => x = subjectId →
      (∀ o ∈ db.orders, o.subjectId = subjectId → o.authorizedAt = none) ∨ db.policyRow subjectId = none }

structure Capped (subjectId : Id) (db : DB) : Prop where
  policy_of : ∀ o ∈ db.orders, o.subjectId = subjectId → o.authorizedAt ≠ none → db.policyRow subjectId ≠ none
  cap : ∀ policy, db.policyRow subjectId = some policy → 0 < policy.terms.dailyLimit →
    ∀ networkId assetId day, dayAmount db subjectId networkId assetId day ≤ policy.terms.dailyLimit

theorem Capped.congr (hc : Capped subjectId db) (ho : db'.orders = db.orders)
    (hp : db'.policyRow subjectId = db.policyRow subjectId) : Capped subjectId db' := by
  refine ⟨?_, ?_⟩
  · rw [ho, hp]
    exact hc.policy_of
  · rw [hp]
    simpa only [dayAmount, ho] using hc.cap

theorem dayAmount_eq_zero (h : ∀ o ∈ db.orders, o.subjectId = subjectId → o.authorizedAt = none)
    (networkId assetId : Id) (day : Time) : dayAmount db subjectId networkId assetId day = 0 := by
  have hnone : db.orders.rows.filter (CountedOn subjectId networkId assetId day) = [] := by
    rw [List.filter_eq_nil_iff]
    intro o ho hc
    obtain ⟨hs, -, -, -, hauth⟩ := of_decide_eq_true hc
    rw [h o ho hs] at hauth
    cases hauth
  rw [dayAmount, hnone]
  rfl

theorem Capped.policy {x : Id} (hc : Capped subjectId db) (h : PolicyStep cfg db db' x)
    (hpermit : (steadyPolicy subjectId).policy db x) : Capped subjectId db' := by
  by_cases hx : subjectId = x
  · have hnone : ∀ o ∈ db.orders, o.subjectId = subjectId → o.authorizedAt = none := by
      rcases hpermit hx.symm with hnone | hno
      · exact hnone
      · intro o ho hs
        by_contra hauth
        exact hc.policy_of o ho hs hauth hno
    rw [← h.aside.orders] at hnone
    exact ⟨fun o ho hs hauth => absurd (hnone o ho hs) hauth,
      fun policy _ _ networkId assetId day => by rw [dayAmount_eq_zero hnone]; exact Nat.zero_le _⟩
  · exact hc.congr h.aside.orders (h.others subjectId hx)

theorem Capped.opened {o : OrderRow} (hc : Capped subjectId db) (h : Opened cfg db db' o) : Capped subjectId db' := by
  have hp : db'.policyRow subjectId = db.policyRow subjectId := by rw [DB.policyRow, h.rest.desk.policies]; rfl
  refine ⟨?_, ?_⟩
  · intro x hx hs hauth
    rw [hp]
    rcases (mem_inserted h.inserted).mp hx with hx | rfl
    · exact hc.policy_of x hx hs hauth
    · exact absurd h.unauthorized hauth
  · intro policy hpol hlimit networkId assetId day
    have hnot : ¬CountedOn subjectId networkId assetId day o := by
      rintro ⟨-, -, -, -, hauth⟩
      rw [h.unauthorized] at hauth
      cases hauth
    have hsame : dayAmount db' subjectId networkId assetId day = dayAmount db subjectId networkId assetId day := by
      simp [dayAmount, (Table.insert?_eq_some.mp h.inserted).2, hnot]
    rw [hsame]
    exact hc.cap policy (hp ▸ hpol) hlimit networkId assetId day

/-- A move that reserves nothing. -/
theorem Capped.moved {o : OrderRow} {target : OrderStatus} {now : Time} (hc : Capped subjectId db)
    (h : Moved cfg db db' o target now) (hd : SameDesk db db') (hne : target ≠ .reserved) : Capped subjectId db' := by
  have hp : db'.policyRow subjectId = db.policyRow subjectId := by rw [DB.policyRow, hd.policies]; rfl
  refine ⟨?_, ?_⟩
  · intro x hx hs hauth
    rw [hp]
    rcases h.mem_orders.mp hx with rfl | ⟨hx, -⟩
    · refine hc.policy_of o h.mem hs ?_
      simpa [movedOrder, hne] using hauth
    · exact hc.policy_of x hx hs hauth
  · intro policy hpol hlimit networkId assetId day
    exact (h.dayAmount_le hne subjectId networkId assetId day).trans
      (hc.cap policy (hp ▸ hpol) hlimit networkId assetId day)

theorem Capped.reserved {o : OrderRow} {now : Time} {r : Reading} (hc : Capped subjectId db)
    (h : Moved cfg db db' o .reserved now) (hd : SameDesk db db') (hnow : r.clock ≤ now)
    (hallow : policyAllows db r o (db.policyRow o.subjectId) none = true) : Capped subjectId db' := by
  have hp : db'.policyRow subjectId = db.policyRow subjectId := by rw [DB.policyRow, hd.policies]; rfl
  refine ⟨?_, ?_⟩
  · intro x hx hs hauth hnone
    rw [hp] at hnone
    rcases h.mem_orders.mp hx with rfl | ⟨hx, -⟩
    · have hs' : o.subjectId = subjectId := hs
      rw [hs', hnone] at hallow
      simp [policyAllows] at hallow
    · exact hc.policy_of x hx hs hauth hnone
  · intro policy hpol hlimit networkId assetId day
    rw [hp] at hpol
    have hold := hc.cap policy hpol hlimit networkId assetId day
    by_cases hs : o.subjectId = subjectId
    · subst hs
      rw [hpol] at hallow
      exact h.dayAmount_reserved hallow hlimit hnow hold
    · -- the order of another subject
      have heq := h.dayAmount_eq subjectId networkId assetId day
      rw [if_neg (fun hk => hs hk.1), if_neg (fun hk => hs hk.1)] at heq
      omega

/-- The clock does not go backwards within a transaction. -/
def Timely (r : Readings) : Prop := ∀ i j, i ≤ j → (r i).clock ≤ (r j).clock

theorem Capped.effect {r : Readings} (hr : Timely r) (hc : Capped subjectId db)
    (h : Effect cfg (steadyPolicy subjectId) r db db') : Capped subjectId db' := by
  cases h with
  | desk h => exact hc.congr h.aside.orders (by rw [DB.policyRow, h.policies]; rfl)
  | policy h hpermit => exact hc.policy h hpermit
  | opened h => exact hc.opened h
  | @decided o target now h _ =>
    by_cases ht : target = .reserved
    · subst ht
      obtain ⟨i, j, hij, rfl, hallow⟩ := h.authorized rfl
      exact hc.reserved h.moved h.desk (hr i j hij) hallow
    · exact hc.moved h.moved h.desk ht
  | started h => exact hc.moved h.moved h.desk (by decide)
  | restarted h => exact hc.moved h.moved h.desk (by decide)
  | @finished o e a f now settled h =>
    refine hc.moved h.moved h.desk ?_
    cases f.status <;> simp [ExecutionStatus.order]

/-- The subject whose policy an action sets. -/
def policyChange? : Action → Option Id
  | .store _ (.updatePolicy subjectId ..) => some subjectId
  | _ => none

/-- The policy of the subject is set before the first of its orders is authorized, and left alone afterwards. -/
def KeepsPolicy (subjectId : Id) (s : Sys) (a : Action) : Prop :=
  policyChange? a = some subjectId → ∀ o ∈ s.db.orders.rows, o.subjectId = subjectId → o.authorizedAt = none

instance (subjectId : Id) (s : Sys) (a : Action) : Decidable (KeepsPolicy subjectId s a) :=
  inferInstanceAs (Decidable (policyChange? a = some subjectId → ∀ o ∈ s.db.orders.rows, o.subjectId = subjectId →
    o.authorizedAt = none))

/-- With a policy that stays as it is and a clock that never goes backwards, what is authorized on one UTC day
stays within the daily limit. -/
theorem authorized_within_daily_limit {s : Sys}
    (h : (machine cfg).ReachableUnder (fun s a => KeepsPolicy subjectId s a ∧ Timely a.readings) s)
    {policy : PolicyRow} (hpolicy : s.db.policyRow subjectId = some policy) (hlimit : 0 < policy.terms.dailyLimit)
    (networkId assetId : Id) (day : Time) :
    dayAmount s.db subjectId networkId assetId day ≤ policy.terms.dailyLimit := by
  have hpermitted : ∀ s a, KeepsPolicy subjectId s a ∧ Timely a.readings →
      (steadyPolicy subjectId).AdmitsAction s.db a ∧ Timely a.readings := by
    rintro s a ⟨hkeep, htime⟩
    refine ⟨?_, htime⟩
    cases a with
    | store r op =>
      cases op with
      | createIdentity x => exact fun hnone hx => .inr (hx ▸ hnone)
      | updatePolicy x => exact fun hx => .inl (hkeep (by rw [← hx]; rfl))
      | refundOrder => exact fun _ _ _ => trivial
      | _ => exact trivial
    | _ => exact trivial
  have hempty : Capped subjectId .empty := ⟨fun o ho => (by cases ho), fun policy hp => (by cases hp)⟩
  exact (database_invariant hpermitted (fun _ _ _ => trivial) hempty
    (fun _ _ _ hr _ hc heff => hc.effect hr heff) h).2.cap policy hpolicy hlimit networkId assetId day

theorem readingsAt_timely (t : Time) (tag : String) : Timely (readingsAt t tag) :=
  fun _ _ h => Nat.add_le_add_left h t

theorem sampleOrder_within_daily_limit :
    dayAmount (sampleState sampleOrder).db "subject-1" "walletnet_b0" "walletasset_c0" 1800 = 100 ∧
      ∀ policy ∈ (sampleState sampleOrder).db.policyRow "subject-1", ∀ day,
        dayAmount (sampleState sampleOrder).db "subject-1" "walletnet_b0" "walletasset_c0" day ≤
          policy.terms.dailyLimit := by
  refine ⟨by decide +kernel, ?_⟩
  intro policy hpolicy day
  have hlimit : ∀ policy ∈ (sampleState sampleOrder).db.policyRow "subject-1", 0 < policy.terms.dailyLimit := by
    decide +kernel
  have hkeep : (machine .sample).Meets (KeepsPolicy "subject-1") .start sampleOrder := by decide
  have htimely : ∀ a ∈ sampleOrder, Timely a.readings := by
    simp [sampleOrder, sampleDesk, Action.readings, readingsAt_timely]
  exact authorized_within_daily_limit (sampleState_reachableUnder (hkeep.and htimely)) hpolicy
    (hlimit policy hpolicy) "walletnet_b0" "walletasset_c0" day

end Noyra.Wallet.Proofs
