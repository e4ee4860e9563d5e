import Noyra.Proofs.Envelope

/-!
# Observed balances

The dispatch gate checks the observed balance of the paid asset against the unresolved orders. It does not
look at orders that have been confirmed since the observation: `_prepare` asks the native observation to be
newer than the last settlement, but neither the observation of a token nor the gate asks it again.
-/

namespace Noyra.Wallet.Proofs
open Noyra.Lib

variable {cfg : Config} {db db' : DB}

/-- The amount of the other unresolved orders of the asset. -/
def unresolvedBeside (db : DB) (e : ExecutionRow) : Nat :=
  ((db.orders.rows.filter (fun o => o.subjectId = e.subjectId ∧ o.networkId = e.networkId ∧ o.assetId = e.assetId ∧
    o.status ∈ unresolvedStatus ∧ o.orderId ≠ e.orderId)).map OrderRow.amount).sum

/-- A payment of the asset of `e` from the address that was confirmed at or after the instant. -/
def SettledSince (e : ExecutionRow) (address : String) (instant : Time) (x : ExecutionRow) : Prop :=
  x.subjectId = e.subjectId ∧ x.networkId = e.networkId ∧ x.assetId = e.assetId ∧ x.sourceAddress = address ∧
    x.status = .confirmed ∧ instant ≤ x.updatedAt

instance (e : ExecutionRow) (address : String) (instant : Time) : DecidablePred (SettledSince e address instant) :=
  fun _ => inferInstanceAs (Decidable (_ ∧ _))

def settledAmount (db : DB) (e : ExecutionRow) (address : String) (instant : Time) : Nat :=
  ((db.executions.rows.filter (SettledSince e address instant)).map ExecutionRow.amount).sum

/-- The latest observation of the paid asset at the spending address, less what is unresolved and what was settled
since, covers the payment. -/
def Covered (db : DB) (e : ExecutionRow) : Prop :=
  ∀ source ∈ spendingAddress db e.subjectId e.networkId,
    ∀ seen ∈ latestBalance db e.subjectId e.networkId e.assetId source.addressId,
      (e.amount : ℤ) ≤ seen.balance - unresolvedBeside db e - settledAmount db e source.address seen.observedAt

/-- No payment of the asset from the spending address was confirmed since its latest observation. -/
def Unspent (db : DB) (e : ExecutionRow) : Prop :=
  ∀ source ∈ spendingAddress db e.subjectId e.networkId,
    ∀ seen ∈ latestBalance db e.subjectId e.networkId e.assetId source.addressId,
      ∀ x ∈ db.executions.rows, ¬SettledSince e source.address seen.observedAt x

instance (db : DB) (e : ExecutionRow) : Decidable (Covered db e) :=
  inferInstanceAs (Decidable (∀ source ∈ spendingAddress db e.subjectId e.networkId,
    ∀ seen ∈ latestBalance db e.subjectId e.networkId e.assetId source.addressId,
      (e.amount : ℤ) ≤ seen.balance - unresolvedBeside db e - settledAmount db e source.address seen.observedAt))

instance (db : DB) (e : ExecutionRow) : Decidable (Unspent db e) :=
  inferInstanceAs (Decidable (∀ source ∈ spendingAddress db e.subjectId e.networkId,
    ∀ seen ∈ latestBalance db e.subjectId e.networkId e.assetId source.addressId,
      ∀ x ∈ db.executions.rows, ¬SettledSince e source.address seen.observedAt x))

theorem policyAllows_funds {r : Reading} {o : OrderRow} {policy : Option PolicyRow} {exclude : Option Id}
    (h : policyAllows db r o policy exclude = true) {source : AddressRow}
    (hsource : spendingAddress db o.subjectId o.networkId = some source) {seen : SnapshotRow}
    (hseen : latestBalance db o.subjectId o.networkId o.assetId source.addressId = some seen) :
    (o.amount : ℤ) ≤ seen.balance - unresolvedAmount db o exclude := by
  cases policy with
  | none => simp [policyAllows] at h
  | some p =>
    simp only [policyAllows, hsource, Bool.and_eq_true] at h
    have hfunds := h.2
    simp only [balanceAllows, Bool.and_eq_true] at hfunds
    have hfunds := hfunds.2
    rw [latestBalance] at hseen
    simp only [hseen, fundsAllow, decide_eq_true_eq] at hfunds
    split at hfunds <;> omega

theorem authorize_ok {r : Reading} {d : Dispatch} (h : authorize cfg db r d = .ok ()) :
    ∃ o ∈ db.orders, ∃ current ∈ db.executions, o.orderId = d.prepared.execution.orderId ∧
      current.record = d.prepared.execution.record ∧
      policyAllows db r o (db.policyRow d.prepared.execution.subjectId) (some d.prepared.execution.orderId) = true := by
  simp only [authorize, bind_eq_ok, raiseIf_eq_ok] at h
  obtain ⟨o, ho, current, hcurrent, hchecks⟩ := h
  obtain ⟨hom, hok⟩ := Table.find?_eq_some.mp (orderRow_eq_ok.mp ho).1
  simp only [not_or, not_not] at hchecks
  obtain ⟨-, hrecord, -, -, -, hallow⟩ := hchecks
  exact ⟨o, hom, current, executionRow_mem hcurrent, hok, hrecord, by simpa using hallow⟩

theorem record_intent {x e : ExecutionRow} (h : x.record = e.record) : x.intent = e.intent :=
  show x.record.intent = e.record.intent by rw [h]

/-- An envelope that passes the gate is covered, unless something was settled since the observation. -/
theorem covered_of_unspent {r : Reading} {d : Dispatch} (hs : Sound cfg db) (h : authorize cfg db r d = .ok ())
    (hun : Unspent db d.prepared.execution) : Covered db d.prepared.execution := by
  obtain ⟨o, ho, current, hcur, hok, hrecord, hallow⟩ := authorize_ok h
  have hintent := record_intent hrecord
  have hm := hs.paired.matches ho hcur (hok.trans (congrArg WalletTransferIntent.orderId hintent).symm)
  have hsub : o.subjectId = d.prepared.execution.subjectId :=
    hm.subject.trans (congrArg WalletTransferIntent.subjectId hintent)
  have hnet : o.networkId = d.prepared.execution.networkId :=
    hm.network.trans (congrArg WalletTransferIntent.networkId hintent)
  have hasset : o.assetId = d.prepared.execution.assetId :=
    hm.asset.trans (congrArg WalletTransferIntent.assetId hintent)
  have hamount : o.amount = d.prepared.execution.amount :=
    hm.amount.trans (congrArg WalletTransferIntent.amount hintent)
  intro source hsource seen hseen
  have hfunds := policyAllows_funds hallow (hsub ▸ hnet ▸ hsource) (by rw [hsub, hnet, hasset]; exact hseen)
  have hbeside : unresolvedAmount db o (some d.prepared.execution.orderId) =
      unresolvedBeside db d.prepared.execution := by
    simp only [unresolvedAmount, assetOrders, unresolvedBeside, hsub, hnet, hasset, ne_eq, Option.some.injEq,
      eq_comm]
  have hsettled : settledAmount db d.prepared.execution source.address seen.observedAt = 0 := by
    have hnone : db.executions.rows.filter (SettledSince d.prepared.execution source.address seen.observedAt) = [] := by
      rw [List.filter_eq_nil_iff]
      exact fun x hx hc => hun source hsource seen hseen x hx (of_decide_eq_true hc)
    rw [settledAmount, hnone]
    rfl
  rw [hbeside, hamount] at hfunds
  omega

/-! ### What `_prepare` asks of the native observation -/

/-- A confirmed payment has a transaction. -/
def ConfirmedHashed (db : DB) : Prop := ∀ e ∈ db.executions, e.status = .confirmed → e.txHash.isSome = true

theorem Finish.Of.confirmed_hashed {e : ExecutionRow} {f : Finish} (h : f.Of e) (hf : f.status = .confirmed) :
    f.txHash.isSome = true := by
  cases h with
  | mark _ hw => cases hw <;> first | rfl | cases hf
  | reconcile _ => cases hf
  | recovered _ => cases hf

theorem ConfirmedHashed.effect {permit : Permit} {r : Readings} (hc : ConfirmedHashed db)
    (h : Effect cfg permit r db db') : ConfirmedHashed db' := by
  have hsame : SameExecutions db db' → ConfirmedHashed db' := fun hx e he => hc e (hx.executions ▸ he)
  cases h with
  | desk h => exact hsame h.aside.executions
  | policy h => exact hsame h.aside.executions
  | opened h => exact hsame h.rest.executions
  | decided h => exact hsame h.executions
  | started h =>
    intro x hx hst
    rcases (mem_inserted h.executions).mp hx with hx | rfl
    · exact hc x hx hst
    · rw [h.opening.1] at hst
      cases hst
  | @restarted o e p attemptId now settled h =>
    intro x hx hst
    have hid : p.execution.executionId = e.executionId := by rw [h.prepared]; rfl
    rcases (mem_replaced h.executions ⟨e, (Table.find?_eq_some.mp h.found).1, hid.symm⟩).mp hx with rfl | ⟨hx, -⟩
    · rw [h.prepared] at hst
      cases hst
    · exact hc x hx hst
  | finished h hof =>
    intro x hx hst
    rcases h.mem_executions.mp hx with rfl | ⟨hx, -⟩
    · exact hof.confirmed_hashed hst
    · exact hc x hx hst

theorem spendingAddress_row {subjectId networkId : Id} {source : AddressRow}
    (h : spendingAddress db subjectId networkId = some source) :
    db.addresses.find? source.addressId = some source ∧ source.subjectId = subjectId := by
  unfold spendingAddress at h
  split at h
  · next row hrows =>
    obtain rfl : row = source := Option.some.inj h
    have hmem : row ∈ db.addresses.rows.filter (fun a => a.subjectId = subjectId ∧ a.networkId = networkId ∧
        a.status = .active ∧ a.purpose = .spending) := by
      rw [hrows]
      exact List.mem_singleton_self row
    obtain ⟨ha, hcond⟩ := List.mem_filter.mp hmem
    exact ⟨Table.find?_key ha, (of_decide_eq_true hcond).1⟩
  · cases h

theorem policyAllows_asset {r : Reading} {o : OrderRow} {policy : Option PolicyRow} {exclude : Option Id}
    (h : policyAllows db r o policy exclude = true) : ∃ a ∈ db.assets, a.assetId = o.assetId ∧
      a.subjectId = o.subjectId ∧ a.networkId = o.networkId ∧ a.status = .active := by
  cases policy with
  | none => simp [policyAllows] at h
  | some p =>
    simp only [policyAllows, Bool.and_eq_true] at h
    have hreg := h.1.1.1.2
    simp only [registryAllows, List.any_eq_true, decide_eq_true_eq] at hreg
    obtain ⟨n, -, hn, hns, -, a, ha, hid, hsub, hnet, hact⟩ := hreg
    exact ⟨a, ha, hid, hsub.trans hns, hnet.trans hn, hact⟩

/-- A budget that passes has no settlement since the native observation. -/
theorem budget_fresh {clock : Time} {subjectId networkId : Id} {assetType : AssetType} {source : AddressRow}
    {minBalance gas fee age : Nat} {exclude : Option Id} {a : AssetRow} {seen : SnapshotRow} (hd : DeskSound cfg db)
    (h : checkObservedFeeBudget db clock subjectId networkId assetType source.addressId minBalance gas fee age exclude =
      .ok ()) (hsource : spendingAddress db subjectId networkId = some source) (ha : a ∈ db.assets)
    (hsub : a.subjectId = subjectId) (hnet : a.networkId = networkId) (hnative : a.assetType = .native)
    (hseen : latestBalance db subjectId networkId a.assetId source.addressId = some seen) {x : ExecutionRow}
    (hx : x ∈ db.executions) (hxs : x.subjectId = subjectId) (hxn : x.networkId = networkId)
    (hxa : x.sourceAddress = source.address) (hst : x.status = .confirmed) (htx : x.txHash.isSome = true) :
    ¬seen.observedAt ≤ x.updatedAt := by
  simp only [checkObservedFeeBudget, bind_eq_ok, orRaise_eq_ok] at h
  obtain ⟨-, -, native, hfound, h⟩ := h
  have hfact := List.find?_some hfound
  simp only [decide_eq_true_eq] at hfact
  have hsame : native = a := hd.native native (List.mem_of_find?_eq_some hfound) a ha hfact.2.2.1 hnative
    (hfact.1.trans hsub.symm) (hfact.2.1.trans hnet.symm)
  obtain ⟨hrow, hrows⟩ := spendingAddress_row hsource
  simp only [hsame, hseen, hrow, bind_eq_ok, orRaise_eq_ok, raiseIf_eq_ok, Option.filter_some, hrows, decide_true,
    if_true, Option.some.injEq] at h
  obtain ⟨-, -, row, rfl, -, hfresh, -⟩ := h
  intro hle
  exact hfresh ⟨x, hx, hxs, hxn, hxa, by simp [hst], htx, hle⟩

/-- What a prepared attempt has passed. -/
theorem prepare_checked {r : Readings} {orderId subjectId : Id} {actor : String} {attempt : Attempt} {p : Prepared}
    (hs : Sound cfg db) (h : prepare cfg db r orderId subjectId actor attempt = .ok (p, db')) :
    ∃ o policy, ∃ source : AddressRow, ∃ minBalance age exclude, Matches { o with status := .signing } p.execution ∧
      policyAllows db (r 0) o policy (some o.orderId) = true ∧
      spendingAddress db p.execution.subjectId p.execution.networkId = some source ∧
      checkObservedFeeBudget db (r 1).clock p.execution.subjectId p.execution.networkId p.execution.assetType
        source.addressId minBalance p.execution.gasLimit p.execution.maxFeePerGas age exclude = .ok () ∧
      SameDesk db db' ∧ ∀ x ∈ db'.executions, x.status = .confirmed → x ∈ db.executions := by
  cases attempt with
  | first q =>
    obtain ⟨o, policy, asset, source, -, -, hchecks, hstart⟩ := prepareFirst_ok h
    have hsub : o.subjectId = p.execution.subjectId := hstart.pair.subject
    have hnet : o.networkId = p.execution.networkId := hstart.pair.network
    refine ⟨o, some policy, source, minBalanceFor o policy, policy.terms.maxObservationAgeSeconds, none, hstart.pair,
      hchecks.allows, ?_, ?_, hstart.desk, ?_⟩
    · rw [← hsub, ← hnet]
      exact hchecks.source_row
    · rw [← hsub, ← hnet, hchecks.asset_type]
      exact hchecks.budget
    · intro x hx hst
      rcases (mem_inserted hstart.executions).mp hx with hx | rfl
      · exact hx
      · rw [hstart.opening.1] at hst
        cases hst
  | further reason =>
    obtain ⟨o, e, policy, source, -, -, hchecks, hstart⟩ := prepareRetry_ok h
    have he := (Table.find?_eq_some.mp hstart.found).1
    have hm := hs.paired.matches hstart.moved.mem he hstart.owns
    have hid : p.execution.executionId = e.executionId := by rw [hstart.prepared]; rfl
    have hintent : p.execution.intent = e.intent := by rw [hstart.prepared]; rfl
    have hsub : o.subjectId = p.execution.subjectId :=
      hm.subject.trans (congrArg WalletTransferIntent.subjectId hintent).symm
    have hnet : e.networkId = p.execution.networkId := (congrArg WalletTransferIntent.networkId hintent).symm
    refine ⟨o, some policy, source, minBalanceFor o policy, policy.terms.maxObservationAgeSeconds, some e.executionId,
      ?_, hchecks.allows, ?_, ?_, hstart.desk, ?_⟩
    · rw [hstart.prepared]
      exact { hm with status := .inl rfl }
    · rw [← hsub, ← hnet]
      exact hchecks.source_row
    · rw [← hsub, hstart.prepared]
      exact hchecks.budget
    · intro x hx hst
      rcases (mem_replaced hstart.executions ⟨e, he, hid.symm⟩).mp hx with rfl | ⟨hx, -⟩
      · rw [hstart.prepared] at hst
        cases hst
      · exact hx

/-- A native payment is unspent when `_prepare` has committed. -/
theorem prepare_unspent {r : Readings} {orderId subjectId : Id} {actor : String} {attempt : Attempt} {p : Prepared}
    (hs : Sound cfg db) (hc : ConfirmedHashed db)
    (h : prepare cfg db r orderId subjectId actor attempt = .ok (p, db')) {a : AssetRow} (ha : a ∈ db.assets)
    (hid : a.assetId = p.execution.assetId) (hnative : a.assetType = .native) : Unspent db' p.execution := by
  obtain ⟨o, policy, source, minBalance, age, exclude, hm, hallow, hsource, hbudget, hdesk, hrows⟩ :=
    prepare_checked hs h
  obtain ⟨b, hb, hbid, hbsub, hbnet, -⟩ := policyAllows_asset hallow
  have hba : b = a := Table.eq_of_key hb ha (hbid.trans (hm.asset.trans hid.symm))
  subst hba
  intro source' hsource' seen hseen x hx hsettled
  rw [spendingAddress, hdesk.addresses, ← spendingAddress] at hsource'
  rw [latestBalance, observations, hdesk.snapshots, ← observations, ← latestBalance, ← hid] at hseen
  obtain rfl : source = source' := Option.some.inj (hsource.symm.trans hsource')
  obtain ⟨hxs, hxn, -, hxa, hst, hle⟩ := hsettled
  have hold := hrows x hx hst
  exact budget_fresh hs.desk hbudget hsource hb (hbsub.trans hm.subject) (hbnet.trans hm.network) hnative hseen hold
    hxs hxn hxa hst (hc x hold hst) hle

/-- In every reachable state, an envelope that passes the gate is covered by the observed balance if nothing was
settled since the observation; for a native payment this holds when `_prepare` has committed. -/
theorem dispatch_covered_of_unspent {s : Sys} (h : (machine cfg).Reachable s) :
    (∀ (i : Nat) (d : Dispatch) (r : Reading), s.calls[i]? = some (.signing d) → authorize cfg s.db r d = .ok () →
      Unspent s.db d.prepared.execution → Covered s.db d.prepared.execution) ∧
    (∀ r orderId subjectId actor attempt p db',
      prepare cfg s.db r orderId subjectId actor attempt = .ok (p, db') →
      (∃ a ∈ s.db.assets, a.assetId = p.execution.assetId ∧ a.assetType = .native) → Unspent db' p.execution) := by
  obtain ⟨hs, hc⟩ := reachable_invariant (I := ConfirmedHashed) (fun e he => by cases he)
    (fun _ _ _ _ hc heff => hc.effect heff) h
  refine ⟨?_, ?_⟩
  · intro i d r _ hauth hun
    exact covered_of_unspent hs hauth hun
  · rintro r orderId subjectId actor attempt p db' hprep ⟨a, ha, hid, hnative⟩
    exact prepare_unspent hs hc hprep ha hid hnative

/-- A token beside the native asset; both balances are observed. -/
def sampleToken : List Action := sampleDesk ++
  [.store (readingsAt 1410 "p") (.registerAsset "subject-1" "walletnet_b0"
      (some "0x3333333333333333333333333333333333333333") "operator"),
    .store (readingsAt 1420 "q") (.recordBalanceSnapshot "subject-1" "walletasset_c0" "walletaddr_d0" 1000000 none
      "operator"),
    .store (readingsAt 1430 "r") (.recordBalanceSnapshot "subject-1" "walletasset_p0" "walletaddr_d0" 150 none
      "operator"),
    .store (readingsAt 1500 "f") (.createBounty "subject-1"
      { sampleBounty with assetId := "walletasset_p0", ids := by decide } "operator" (some "subject-1") none),
    .store (readingsAt 1600 "g") (.transitionBounty "bounty_f1" "subject-1" .published "operator"),
    .store (readingsAt 1700 "h") (.submitToBounty "bounty_f1" "subject-1" sampleSubmission),
    .store (readingsAt 1800 "i") (.decideSubmission "submission_h4" "subject-1" true "good" "operator"),
    .execute "payorder_i2" "subject-1" "operator" ⟨none, none, none, some 0, .quote 60000 (some 1)⟩,
    .prepare 0 (readingsAt 1900 "j")]

/-- The attempt that the call waits to hand over. -/
def waiting? (s : Sys) (i : Nat) : Option Dispatch := (s.calls[i]?).bind atGate?

theorem sampleToken_waiting :
    ∃ d ∈ (waiting? (sampleState sampleToken) 0).toList, (sampleState sampleToken).calls[0]? = some (.signing d) ∧
      authorize .sample (sampleState sampleToken).db ⟨2000, 2000, "", true⟩ d = .ok () ∧
      Unspent (sampleState sampleToken).db d.prepared.execution := by
  decide +kernel

theorem sampleToken_covered :
    ∃ d, (sampleState sampleToken).calls[0]? = some (.signing d) ∧
      Covered (sampleState sampleToken).db d.prepared.execution := by
  obtain ⟨d, -, hcall, hauth, hun⟩ := sampleToken_waiting
  exact ⟨d, hcall, (dispatch_covered_of_unspent (sampleState_reachable sampleToken)).1 0 d _ hcall hauth hun⟩

def sampleTokenReceipt (tx : String) : WalletReceipt :=
  { sampleReceipt tx 1 with
    effectHash := some ("0x" ++ Config.sample.contentHash (.obj [("tx_hash", .str tx), ("chain_id", .nat 1),
      ("asset_type", .str "token"), ("contract_address", .str "0x3333333333333333333333333333333333333333"),
      ("recipient_address", .str "0x2222222222222222222222222222222222222222"), ("amount", .amount 100)])) }

/-- The token order is confirmed; a second one is prepared after a new observation of the native balance. -/
def sampleSpent : List Action := sampleToken ++
  [.dispatch 0 ⟨2000, 2000, "", true⟩,
    .answer 0 (readingsAt 2100 "k") (.returned (some ⟨sampleHash 7, 1, 0, "2100"⟩)),
    .poll "wallet_exec_j2" "subject-1" "operator",
    .lookup 1 2200 (fun tx => .receipt (sampleTokenReceipt tx)),
    .mark 1 (readingsAt 2300 "l"),
    .store (readingsAt 2400 "m") (.submitToBounty "bounty_f1" "subject-1"
      { sampleSubmission with idempotencyKey := "submission-2", key := second_key }),
    .store (readingsAt 2500 "n") (.decideSubmission "submission_m4" "subject-1" true "good" "operator"),
    .store (readingsAt 2600 "o") (.recordBalanceSnapshot "subject-1" "walletasset_c0" "walletaddr_d0" 1000000 none
      "operator"),
    .execute "payorder_n2" "subject-1" "operator" ⟨none, none, none, some 1, .quote 60000 (some 1)⟩,
    .prepare 2 (readingsAt 2700 "p")]

/-- The gate lets the second token order through on an observation from before the first was paid. -/
theorem dispatch_not_covered_after_settlement :
    ¬∀ (cfg : Config) (s : Sys), (machine cfg).Reachable s → ∀ (i : Nat) (d : Dispatch) (r : Reading),
      s.calls[i]? = some (.signing d) → authorize cfg s.db r d = .ok () → Covered s.db d.prepared.execution := by
  intro h
  have hspent : ∃ d ∈ (waiting? (sampleState sampleSpent) 2).toList,
      (sampleState sampleSpent).calls[2]? = some (.signing d) ∧
      authorize .sample (sampleState sampleSpent).db ⟨2800, 2800, "", true⟩ d = .ok () ∧
      ¬Covered (sampleState sampleSpent).db d.prepared.execution := by
    decide +kernel
  obtain ⟨d, -, hcall, hauth, hnot⟩ := hspent
  exact hnot (h .sample _ (sampleState_reachable sampleSpent) 2 d _ hcall hauth)

end Noyra.Wallet.Proofs
