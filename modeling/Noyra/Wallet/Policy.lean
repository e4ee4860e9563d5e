import Mathlib.Data.List.Sort
import Noyra.Wallet.Hashing

/-!
# Payment policy

The authorization test of `WalletEconomyStore._policy_allows`: registry state, amount limits,
period limits anchored at the authorization time, and the observed balance of the spending address.
-/

namespace Noyra.Wallet
open Noyra.Lib

/-- `_spending_address`: defined only when the network has exactly one active spending address. -/
def spendingAddress (db : DB) (subjectId networkId : Id) : Option AddressRow :=
  match db.addresses.rows.filter (fun a => a.subjectId = subjectId ∧ a.networkId = networkId ∧
      a.status = .active ∧ a.purpose = .spending) with
  | [a] => some a
  | _ => none

def activeStatus : List OrderStatus := [.reserved, .signing, .broadcast, .unknown, .confirmed]

def unresolvedStatus : List OrderStatus := [.reserved, .signing, .broadcast, .unknown]

structure PeriodTotals where
  dayCount : Nat
  dayTotal : Nat
  monthCount : Nat
  monthTotal : Nat

/-- The instant that decides which period an order is counted in. -/
def OrderRow.period (o : OrderRow) : Time := o.authorizedAt.getD o.updatedAt

/-- One iteration of the aggregation loop. -/
def PeriodTotals.add (dayStart monthStart : Time) (t : PeriodTotals) (o : OrderRow) : PeriodTotals :=
  let t := if dayStart ≤ o.period then
    { t with dayCount := t.dayCount + 1, dayTotal := t.dayTotal + o.amount } else t
  if monthStart ≤ o.period then
    { t with monthCount := t.monthCount + 1, monthTotal := t.monthTotal + o.amount } else t

/-- The orders of the asset of `row` in one of `statuses`, without the excluded one. -/
def assetOrders (db : DB) (row : OrderRow) (statuses : List OrderStatus) (exclude : Option Id) :
    List OrderRow :=
  db.orders.rows.filter (fun o => o.subjectId = row.subjectId ∧ o.networkId = row.networkId ∧
    o.assetId = row.assetId ∧ o.status ∈ statuses ∧ exclude ≠ some o.orderId)

def periodTotals (db : DB) (row : OrderRow) (exclude : Option Id) (now : Time) : PeriodTotals :=
  (assetOrders db row activeStatus exclude).foldl
    (PeriodTotals.add (dayStart now) (monthStart now)) ⟨0, 0, 0, 0⟩

/-- `ORDER BY observed_at DESC, snapshot_id DESC`. -/
def SnapshotRow.newer (a b : SnapshotRow) : Prop :=
  b.observedAt < a.observedAt ∨ (a.observedAt = b.observedAt ∧ b.snapshotId ≤ a.snapshotId)

instance : DecidableRel SnapshotRow.newer := fun _ _ => inferInstanceAs (Decidable (_ ∨ _))

def observations (db : DB) (subjectId networkId assetId addressId : Id) : List SnapshotRow :=
  (db.snapshots.rows.filter (fun s => s.subjectId = subjectId ∧ s.networkId = networkId ∧
    s.assetId = assetId ∧ s.addressId = addressId)).insertionSort SnapshotRow.newer

def latestBalance (db : DB) (subjectId networkId assetId addressId : Id) : Option SnapshotRow :=
  (observations db subjectId networkId assetId addressId).head?

/-- The two latest balances jump: one of them is zero, or the newer differs by more than the older. -/
def anomalous : List SnapshotRow → Bool
  | newer :: older :: _ => ((newer.balance == 0) != (older.balance == 0)) ||
      (older.balance != 0 && decide (Int.natAbs (newer.balance - older.balance : Int) > older.balance))
  | _ => false

/-- Sum of the amounts of the unresolved orders of the asset. -/
def unresolvedAmount (db : DB) (row : OrderRow) (exclude : Option Id) : Nat :=
  ((assetOrders db row unresolvedStatus exclude).map OrderRow.amount).sum

/-- Mode switches: pause, disabled policies, and automation with its release evidence. -/
def modeAllows (activation : Bool) (row : OrderRow) (p : PolicyRow) : Bool :=
  !p.terms.emergencyPaused && p.terms.mode != .disabled &&
    (row.paymentMode != .automatic ||
      (p.terms.mode == .automatic && p.automationEnabled && activation))

def registryAllows (db : DB) (row : OrderRow) : Bool :=
  db.networks.rows.any (fun n => n.networkId = row.networkId ∧ n.subjectId = row.subjectId ∧
      n.status = .active ∧
    db.assets.rows.any (fun a => a.assetId = row.assetId ∧ a.subjectId = n.subjectId ∧
      a.networkId = n.networkId ∧ a.status = .active))

def amountAllows (row : OrderRow) (p : PolicyRow) : Bool :=
  (row.paymentMode != .automatic || (decide (0 < p.terms.perOrderLimit) && decide (0 < p.terms.dailyLimit))) &&
    decide (0 < row.amount) &&
    (p.terms.perOrderLimit == 0 || decide (row.amount ≤ p.terms.perOrderLimit)) &&
    (!p.terms.recipientAllowlistEnabled ||
      decide (row.recipientAddress ∈ p.terms.allowedRecipientAddresses))

/-- The daily amount limit. -/
def dailyAllows (row : OrderRow) (p : PolicyRow) (t : PeriodTotals) : Bool :=
  p.terms.dailyLimit == 0 || decide (t.dayTotal + row.amount ≤ p.terms.dailyLimit)

/-- The count limits and the monthly amount, which automatic orders are free of. -/
def periodAllows (row : OrderRow) (p : PolicyRow) (t : PeriodTotals) : Bool :=
  row.paymentMode == .automatic ||
    ((p.terms.dailyOrderLimit == 0 || decide (t.dayCount < p.terms.dailyOrderLimit)) &&
      (p.terms.monthlyOrderLimit == 0 || decide (t.monthCount < p.terms.monthlyOrderLimit)) &&
      (p.terms.monthlyLimit == 0 || decide (t.monthTotal + row.amount ≤ p.terms.monthlyLimit)))

/-- The observation covers the order after every unresolved order of the asset. -/
def fundsAllow (db : DB) (row : OrderRow) (p : PolicyRow) (exclude : Option Id) :
    Option SnapshotRow → Bool
  | some s => decide ((row.amount : Int) + (if row.paymentMode = .automatic then 0 else p.terms.minBalance) ≤
      s.balance - unresolvedAmount db row exclude)
  | none => row.paymentMode == .automatic || p.terms.minBalance == 0

def observationAllows (row : OrderRow) (p : PolicyRow) (now : Time) : Option SnapshotRow → Bool
  | some s => decide (s.observedAt ≤ now) &&
      (row.paymentMode == .automatic || p.terms.maxObservationAgeSeconds == 0 ||
        decide (now - s.observedAt ≤ p.terms.maxObservationAgeSeconds * 1000))
  | none => row.paymentMode == .automatic || p.terms.maxObservationAgeSeconds == 0

def balanceAllows (db : DB) (row : OrderRow) (p : PolicyRow) (exclude : Option Id) (now : Time)
    (source : AddressRow) : Bool :=
  let seen := observations db row.subjectId row.networkId row.assetId source.addressId
  (row.paymentMode == .automatic || !p.terms.anomalyBlock || !anomalous seen) &&
    observationAllows row p now seen.head? && fundsAllow db row p exclude seen.head?

/-- `_policy_allows`. -/
def policyAllows (db : DB) (r : Reading) (row : OrderRow) (policy : Option PolicyRow)
    (exclude : Option Id) : Bool :=
  match policy with
  | none => false
  | some p =>
    modeAllows r.activation row p && registryAllows db row && amountAllows row p &&
      (let totals := periodTotals db row exclude r.clock
       periodAllows row p totals && dailyAllows row p totals) &&
      match spendingAddress db row.subjectId row.networkId with
      | none => false
      | some source => balanceAllows db row p exclude r.clock source

end Noyra.Wallet
