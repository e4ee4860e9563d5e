import Noyra.Proofs.Invariant

/-!
# The ledger follows the orders

Each move of an order posts at most one journal, so the journals of an order can be read off its status.
The balance of the reserved account is then the sum of the orders that are reserved and not closed, as
long as no order is refunded after it has been settled.
-/

namespace Noyra.Wallet.Proofs
open Noyra.Lib

variable {cfg : Config} {db db' : DB}

/-! ### Journals of an order -/

def HasJournal (db : DB) (orderId : Id) (t : JournalType) : Prop :=
  ∃ j ∈ db.journals.rows, j.orderId = orderId ∧ j.journalType = t

instance (db : DB) (orderId : Id) (t : JournalType) : Decidable (HasJournal db orderId t) :=
  inferInstanceAs (Decidable (∃ j ∈ db.journals.rows, j.orderId = orderId ∧ j.journalType = t))

/-- The journals an order of each status has. A settled order may be reopened by a reorganization, so the
statuses after `signing` leave the settlement open. -/
def LedgerFits (has : JournalType → Prop) : OrderStatus → Prop
  | .pendingPolicy | .awaitingConfirmation | .rejected | .expired => ∀ t, ¬has t
  | .reserved => has .reservation ∧ ¬has .release ∧ ¬has .settlement ∧ ¬has .refund
  | .cancelled => (has .reservation ↔ has .release) ∧ ¬has .settlement ∧ ¬has .refund
  | .signing | .broadcast | .unknown | .failed => has .reservation ∧ ¬has .release ∧ ¬has .refund
  | .confirmed => has .reservation ∧ ¬has .release ∧ ¬has .refund ∧ has .settlement
  | .refunded => has .reservation ∧ ¬has .release ∧ has .refund

def entriesOf (db : DB) (journalId : Id) : List EntryRow :=
  db.entries.rows.filter (fun e => e.journalId = journalId)

/-- The journal copies the columns of its order. -/
def Refers (db : DB) (j : JournalRow) : Prop :=
  ∃ o ∈ db.orders, o.orderId = j.orderId ∧ o.subjectId = j.subjectId ∧ o.networkId = j.networkId ∧
    o.assetId = j.assetId ∧ o.amount = j.amount

/-- What holds of the ledger between two transactions. -/
structure Booked (cfg : Config) (db : DB) : Prop where
  unique : ∀ j ∈ db.journals, ∀ x ∈ db.journals, x.orderId = j.orderId → x.journalType = j.journalType → x = j
  order_of : ∀ j ∈ db.journals, Refers db j
  amounts : ∀ o ∈ db.orders, 0 < o.amount ∧ o.amount ≤ sqliteInt64Max
  journal_sealed : ∀ j ∈ db.journals, j.Sealed cfg
  legs : ∀ j ∈ db.journals, ∃ debitId creditId, entriesOf db j.journalId =
    [entryOf cfg j debitId (journalLegs j.journalType).1, entryOf cfg j creditId (journalLegs j.journalType).2]
  journal_of : ∀ e ∈ db.entries, ∃ j ∈ db.journals, j.journalId = e.journalId
  fits : ∀ o ∈ db.orders, LedgerFits (HasJournal db o.orderId) o.status

theorem hasJournal_congr (hj : db'.journals = db.journals) (orderId : Id) :
    HasJournal db' orderId = HasJournal db orderId := by
  funext t
  simp [HasJournal, hj]

theorem LedgerStep.hasJournal {o : OrderRow} {posting : Option JournalType} (h : LedgerStep cfg db db' o posting)
    (orderId : Id) (t : JournalType) :
    HasJournal db' orderId t ↔ HasJournal db orderId t ∨ (orderId = o.orderId ∧ posting = some t) := by
  cases posting with
  | none => simp [hasJournal_congr (SameLedger.journals h)]
  | some u =>
    obtain ⟨journalId, now, debitId, creditId, hp⟩ := h
    simp only [HasJournal, hp.journals, List.mem_append, List.mem_singleton, Option.some.injEq]
    constructor
    · rintro ⟨j, hj | rfl, ho, ht⟩
      · exact .inl ⟨j, hj, ho, ht⟩
      · exact .inr ⟨ho.symm, ht⟩
    · rintro (⟨j, hj, ho, ht⟩ | ⟨rfl, rfl⟩)
      · exact ⟨j, .inl hj, ho, ht⟩
      · exact ⟨_, .inr rfl, rfl, rfl⟩

/-- The journals of a status go over to those of the next one. -/
theorem LedgerFits.move {s target : OrderStatus} {has has' : JournalType → Prop} (h : LedgerFits has s)
    (hallowed : target ∈ orderTransitions s) (hexp : target ≠ .expired) (href : target = .refunded → s = .failed)
    (hhas : ∀ t, has' t ↔ has t ∨ postingOf s target = some t) : LedgerFits has' target := by
  cases s <;> cases target <;> simp [orderTransitions] at hallowed hexp href <;>
    simp_all [LedgerFits, postingOf]

theorem Booked.congr (hb : Booked cfg db) (ho : db'.orders = db.orders) (hl : SameLedger db db') :
    Booked cfg db' := by
  obtain ⟨hj, he⟩ := hl
  constructor
  · rw [hj]; exact hb.unique
  · rw [hj]; simpa only [Refers, ho] using hb.order_of
  · rw [ho]; exact hb.amounts
  · rw [hj]; exact hb.journal_sealed
  · rw [hj]; simpa only [entriesOf, he] using hb.legs
  · rw [hj, he]; exact hb.journal_of
  · rw [ho]; simpa only [hasJournal_congr hj] using hb.fits

theorem Booked.no_journal (hb : Booked cfg db) {orderId : Id} (h : ∀ o ∈ db.orders, o.orderId ≠ orderId)
    (t : JournalType) : ¬HasJournal db orderId t := by
  rintro ⟨j, hj, hid, -⟩
  obtain ⟨o, ho, hk, -⟩ := hb.order_of j hj
  exact h o ho (hk.trans hid)

theorem Booked.opened {o : OrderRow} (hd : DeskSound cfg db) (hb : Booked cfg db) (h : Opened cfg db db' o) :
    Booked cfg db' := by
  obtain ⟨hj, he⟩ := h.rest.ledger
  have hmem : ∀ x, x ∈ db'.orders ↔ x ∈ db.orders ∨ x = o := fun x => mem_inserted h.inserted
  refine ⟨?_, ?_, ?_, ?_, ?_, ?_, ?_⟩
  · rw [hj]; exact hb.unique
  · rw [hj]
    intro j hjm
    obtain ⟨x, hx, hrest⟩ := hb.order_of j hjm
    exact ⟨x, (hmem x).mpr (.inl hx), hrest⟩
  · intro x hx
    rcases (hmem x).mp hx with hx | rfl
    · exact hb.amounts x hx
    · obtain ⟨b, hbm, hamount⟩ := h.amount
      rw [hamount]
      exact (hd.bounties b hbm).2
  · rw [hj]; exact hb.journal_sealed
  · rw [hj]; simpa only [entriesOf, he] using hb.legs
  · rw [hj, he]; exact hb.journal_of
  · intro x hx
    rw [hasJournal_congr hj]
    rcases (hmem x).mp hx with hx | rfl
    · exact hb.fits x hx
    · rw [h.pending]
      exact hb.no_journal (Table.insert?_eq_some.mp h.inserted).1

/-- The tables of the ledger after a journal has been posted. -/
theorem Booked.posted {o : OrderRow} {t : JournalType} {journalId debitId creditId : Id} {now : Time}
    (hb : Booked cfg db) (h : Posted cfg db db' o t journalId now debitId creditId) :
    (∀ j ∈ db'.journals, ∀ x ∈ db'.journals, x.orderId = j.orderId → x.journalType = j.journalType → x = j) ∧
      (∀ j ∈ db'.journals, ∃ debitId creditId, entriesOf db' j.journalId =
        [entryOf cfg j debitId (journalLegs j.journalType).1, entryOf cfg j creditId (journalLegs j.journalType).2]) ∧
      (∀ e ∈ db'.entries, ∃ j ∈ db'.journals, j.journalId = e.journalId) := by
  have hmem : ∀ x, x ∈ db'.journals ↔ x ∈ db.journals ∨ x = journalOf cfg o t journalId now := by
    intro x
    rw [Table.mem_def, h.journals, List.mem_append, List.mem_singleton]
    rfl
  have hentries : ∀ id, entriesOf db' id = entriesOf db id ++ if journalId = id then
      [entryOf cfg (journalOf cfg o t journalId now) debitId (journalLegs t).1,
        entryOf cfg (journalOf cfg o t journalId now) creditId (journalLegs t).2] else [] := by
    intro id
    simp only [entriesOf, h.entries, List.filter_append]
    by_cases hid : journalId = id <;> simp [entryOf, journalOf, hid]
  refine ⟨?_, ?_, ?_⟩
  · intro j hj x hx ho ht
    rcases (hmem j).mp hj with hj | rfl <;> rcases (hmem x).mp hx with hx | rfl
    · exact hb.unique j hj x hx ho ht
    · exact absurd ht.symm (h.absent j hj ho.symm)
    · exact absurd ht (h.absent x hx ho)
    · rfl
  · intro j hj
    rcases (hmem j).mp hj with hj | rfl
    · rw [hentries, if_neg (fun hk => h.fresh j hj hk.symm), List.append_nil]
      exact hb.legs j hj
    · -- no entry refers to a journal that did not exist
      have hnone : entriesOf db journalId = [] := by
        simp only [entriesOf, List.filter_eq_nil_iff, decide_eq_true_eq]
        intro e he hk
        obtain ⟨j, hj, hid⟩ := hb.journal_of e he
        exact h.fresh j hj (hid.trans hk)
      refine ⟨debitId, creditId, ?_⟩
      change entriesOf db' journalId = _
      rw [hentries, if_pos rfl, hnone]
      rfl
  · intro e he
    rw [Table.mem_def, h.entries, List.mem_append] at he
    rcases he with he | he
    · obtain ⟨j, hj, hid⟩ := hb.journal_of e he
      exact ⟨j, (hmem j).mpr (.inl hj), hid⟩
    · refine ⟨_, (hmem _).mpr (.inr rfl), ?_⟩
      simp only [List.mem_cons, List.not_mem_nil, or_false] at he
      rcases he with rfl | rfl <;> rfl

theorem Moved.refers {o : OrderRow} {target : OrderStatus} {now : Time} (h : Moved cfg db db' o target now)
    {j : JournalRow} (hj : Refers db j) : Refers db' j := by
  obtain ⟨x, hx, hrest⟩ := hj
  by_cases hk : x.orderId = o.orderId
  · have hxo : x = o := Table.eq_of_key hx h.mem hk
    subst hxo
    exact ⟨_, h.mem_orders.mpr (.inl rfl), hrest⟩
  · exact ⟨x, h.mem_orders.mpr (.inr ⟨hx, hk⟩), hrest⟩

/-- A move of an order keeps the ledger in step. -/
theorem Booked.moved {o : OrderRow} {target : OrderStatus} {now : Time} (hb : Booked cfg db)
    (h : Moved cfg db db' o target now) (hexp : target ≠ .expired) (href : target = .refunded → o.status = .failed) :
    Booked cfg db' := by
  have hhas := h.ledger.hasJournal
  have hamounts : ∀ x ∈ db'.orders, 0 < x.amount ∧ x.amount ≤ sqliteInt64Max := by
    intro x hx
    rcases h.mem_orders.mp hx with rfl | ⟨hx, -⟩
    · exact hb.amounts o h.mem
    · exact hb.amounts x hx
  have hfits : ∀ x ∈ db'.orders, LedgerFits (HasJournal db' x.orderId) x.status := by
    intro x hx
    rcases h.mem_orders.mp hx with rfl | ⟨hx, hne⟩
    · refine (hb.fits o h.mem).move h.allowed hexp href (fun t => ?_)
      exact (hhas o.orderId t).trans (by simp)
    · have heq : HasJournal db' x.orderId = HasJournal db x.orderId := by
        funext t
        simpa [hne] using hhas x.orderId t
      rw [heq]
      exact hb.fits x hx
  cases hp : postingOf o.status target with
  | none =>
    have hl : SameLedger db db' := by simpa [hp, LedgerStep] using h.ledger
    obtain ⟨hj, he⟩ := hl
    refine ⟨hj ▸ hb.unique, ?_, hamounts, hj ▸ hb.journal_sealed, ?_, ?_, hfits⟩
    · rw [hj]
      exact fun j hjm => h.refers (hb.order_of j hjm)
    · rw [hj]; simpa only [entriesOf, he] using hb.legs
    · rw [hj, he]; exact hb.journal_of
  | some t =>
    obtain ⟨journalId, posted, debitId, creditId, hpost⟩ : LedgerStep cfg db db' o (some t) := hp ▸ h.ledger
    obtain ⟨hunique, hlegs, hjournal⟩ := hb.posted hpost
    have hmem : ∀ j ∈ db'.journals, j ∈ db.journals ∨ j = journalOf cfg o t journalId posted := by
      intro j hj
      rw [Table.mem_def, hpost.journals, List.mem_append, List.mem_singleton] at hj
      exact hj
    refine ⟨hunique, ?_, hamounts, ?_, hlegs, hjournal, hfits⟩
    · intro j hj
      rcases hmem j hj with hj | rfl
      · exact h.refers (hb.order_of j hj)
      · exact h.refers ⟨o, h.mem, rfl, rfl, rfl, rfl, rfl⟩
    · intro j hj
      rcases hmem j hj with hj | rfl
      · exact hb.journal_sealed j hj
      · rfl

theorem Booked.effect {permit : Permit} {r : Readings} (hd : DeskSound cfg db) (hb : Booked cfg db)
    (h : Effect cfg permit r db db') : Booked cfg db' := by
  cases h with
  | desk h => exact hb.congr h.aside.orders h.aside.ledger
  | policy h => exact hb.congr h.aside.orders h.aside.ledger
  | opened h => exact hb.opened hd h
  | decided h =>
    refine hb.moved h.moved ?_ h.failed
    rintro rfl
    simpa [decidedStatus] using h.kind
  | started h => exact hb.moved h.moved (by decide) (fun h => by cases h)
  | restarted h => exact hb.moved h.moved (by decide) (fun h => by cases h)
  | finished h => exact hb.moved h.moved (order_ne _).1 (fun hr => absurd hr (order_ne _).2)

theorem Booked.empty : Booked cfg .empty := by
  refine ⟨?_, ?_, ?_, ?_, ?_, ?_, ?_⟩ <;> intro x hx <;> cases hx

theorem reachable_booked {s : Sys} (h : (machine cfg).Reachable s) : Booked cfg s.db :=
  (reachable_invariant .empty (fun _ _ _ hs hb heff => hb.effect hs.desk heff) h).2

/-! ### The reserved account -/

/-- The journal types that end a reservation. -/
def closingTypes : List JournalType := [.release, .settlement, .refund]

/-- The order holds a reservation journal and no closing journal. -/
def Held (db : DB) (orderId : Id) : Prop :=
  HasJournal db orderId .reservation ∧ ∀ t ∈ closingTypes, ¬HasJournal db orderId t

instance (db : DB) (orderId : Id) : Decidable (Held db orderId) :=
  inferInstanceAs (Decidable (_ ∧ ∀ t ∈ closingTypes, ¬HasJournal db orderId t))

def signedAmount (e : EntryRow) : ℤ :=
  match e.direction with
  | .credit => e.amount
  | .debit => -e.amount

/-- The journal books on the asset. -/
def booksOn (db : DB) (networkId assetId journalId : Id) : Bool :=
  db.journals.rows.any (fun j => j.journalId = journalId ∧ j.networkId = networkId ∧ j.assetId = assetId)

/-- Credit minus debit of the reserved account, per network and asset. -/
def reservedBalance (db : DB) (networkId assetId : Id) : ℤ :=
  ((db.entries.rows.filter (fun e => e.account = .reserved && booksOn db networkId assetId e.journalId)).map
    signedAmount).sum

/-- The amounts of the orders that hold a reservation and no closing journal. -/
def heldAmount (db : DB) (networkId assetId : Id) : ℕ :=
  ((db.orders.rows.filter (fun o => o.networkId = networkId ∧ o.assetId = assetId ∧ Held db o.orderId)).map
    OrderRow.amount).sum

/-- What an order contributes to the held amount. -/
def holding (db : DB) (networkId assetId : Id) (o : OrderRow) : ℤ :=
  if o.networkId = networkId ∧ o.assetId = assetId ∧ Held db o.orderId then o.amount else 0

theorem heldAmount_eq_sum (db : DB) (networkId assetId : Id) :
    (heldAmount db networkId assetId : ℤ) = (db.orders.rows.map (holding db networkId assetId)).sum := by
  rw [heldAmount, Table.sum_filter]
  simp only [decide_eq_true_eq]
  rfl

/-- What a journal of each type does to the reserved account. -/
def reservedSign : JournalType → ℤ
  | .reservation => 1
  | _ => -1

theorem reservedBalance_posted {o : OrderRow} {t : JournalType} {journalId debitId creditId : Id} {now : Time}
    (hb : Booked cfg db) (h : Posted cfg db db' o t journalId now debitId creditId) (networkId assetId : Id) :
    reservedBalance db' networkId assetId = reservedBalance db networkId assetId +
      if o.networkId = networkId ∧ o.assetId = assetId then reservedSign t * o.amount else 0 := by
  -- old entries keep their journal, the new ones refer to the new journal only
  have hold : ∀ e ∈ db.entries.rows, booksOn db' networkId assetId e.journalId =
      booksOn db networkId assetId e.journalId := by
    intro e he
    obtain ⟨j, hj, hid⟩ := hb.journal_of e he
    have hne : journalId ≠ e.journalId := fun hk => h.fresh j hj (hid.trans hk.symm)
    simp [booksOn, h.journals, journalOf, hne]
  have hnew : booksOn db' networkId assetId journalId = decide (o.networkId = networkId ∧ o.assetId = assetId) := by
    have hno : db.journals.rows.any (fun j => decide (j.journalId = journalId ∧ j.networkId = networkId ∧
        j.assetId = assetId)) = false := by
      simp only [List.any_eq_false, decide_eq_true_eq, not_and]
      exact fun j hj hk => absurd hk (h.fresh j hj)
    rw [booksOn, h.journals, List.any_append, hno]
    simp [journalOf]
  rw [reservedBalance, reservedBalance, h.entries, List.filter_append, List.map_append, List.sum_append]
  congr 1
  · refine congrArg (fun l => (l.map signedAmount).sum) (List.filter_congr (fun e he => ?_))
    rw [hold e he]
  · by_cases hon : o.networkId = networkId ∧ o.assetId = assetId <;>
      cases t <;> simp [entryOf, journalOf, journalLegs, hnew, hon, signedAmount, reservedSign]

/-- Only the moved order can change its contribution. -/
theorem heldAmount_moved {o : OrderRow} {target : OrderStatus} {now : Time} (h : Moved cfg db db' o target now)
    (networkId assetId : Id) :
    (heldAmount db' networkId assetId : ℤ) =
      heldAmount db networkId assetId - holding db networkId assetId o + holding db' networkId assetId o := by
  have hother : ∀ x ∈ db.orders, x.orderId ≠ (movedOrder cfg o target now).orderId →
      holding db' networkId assetId x = holding db networkId assetId x := by
    intro x hx hne
    have hhas : ∀ t, HasJournal db' x.orderId t ↔ HasJournal db x.orderId t := by
      intro t
      rw [h.ledger.hasJournal]
      simp only [or_iff_left_iff_imp, and_imp]
      exact fun hk => absurd hk hne
    have hheld : Held db' x.orderId ↔ Held db x.orderId := by simp only [Held, hhas]
    simp only [holding, hheld]
  rw [heldAmount_eq_sum, heldAmount_eq_sum, h.orders]
  have hfound : db.orders.find? (movedOrder cfg o target now).orderId = some o := h.found
  exact Table.sum_replace hfound hother

/-- A closing journal is posted for a held order, unless the order was settled before its refund. -/
theorem LedgerFits.held {s target : OrderStatus} {t : JournalType} {orderId : Id}
    (h : LedgerFits (HasJournal db orderId) s) (hallowed : target ∈ orderTransitions s)
    (hpost : postingOf s target = some t) (ht : t ∈ closingTypes) (habsent : ¬HasJournal db orderId t)
    (href : target = .refunded → s = .failed ∧ ¬HasJournal db orderId .settlement) : Held db orderId := by
  cases s <;> cases target <;> simp [orderTransitions] at hallowed href <;>
    simp_all [LedgerFits, postingOf, closingTypes, Held] <;> grind

theorem LedgerFits.unreserved {s target : OrderStatus} {has : JournalType → Prop} (h : LedgerFits has s)
    (hallowed : target ∈ orderTransitions s) (hpost : postingOf s target = some .reservation) : ∀ t, ¬has t := by
  cases s <;> cases target <;> simp [orderTransitions, postingOf] at hallowed hpost <;> exact h

/-- The balance moves with the held amount. -/
theorem balance_moved {o : OrderRow} {target : OrderStatus} {now : Time} (hb : Booked cfg db)
    (h : Moved cfg db db' o target now)
    (href : target = .refunded → o.status = .failed ∧ ¬HasJournal db o.orderId .settlement)
    {networkId assetId : Id} (hbal : reservedBalance db networkId assetId = heldAmount db networkId assetId) :
    reservedBalance db' networkId assetId = heldAmount db' networkId assetId := by
  have hhas := h.ledger.hasJournal o.orderId
  have hheld := heldAmount_moved h networkId assetId
  cases hp : postingOf o.status target with
  | none =>
    have hl : SameLedger db db' := by simpa [hp, LedgerStep] using h.ledger
    have hsame : holding db' networkId assetId o = holding db networkId assetId o := by
      simp only [holding, Held, hasJournal_congr hl.journals]
      rfl
    have hres : reservedBalance db' networkId assetId = reservedBalance db networkId assetId := by
      simp only [reservedBalance, booksOn, hl.journals, hl.entries]
    omega
  | some t =>
    obtain ⟨journalId, posted, debitId, creditId, hpost⟩ : LedgerStep cfg db db' o (some t) := hp ▸ h.ledger
    have habsent : ¬HasJournal db o.orderId t := by
      rintro ⟨j, hj, ho, ht⟩
      exact hpost.absent j hj ho ht
    have hres := reservedBalance_posted hb hpost networkId assetId
    by_cases hon : o.networkId = networkId ∧ o.assetId = assetId
    · rw [if_pos hon] at hres
      by_cases hres' : t = .reservation
      · subst hres'
        -- the reservation opens the holding
        have hbefore : ¬Held db o.orderId := fun hk => habsent hk.1
        have hafter : Held db' o.orderId := by
          refine ⟨(hhas _).mpr (.inr ⟨rfl, hp⟩), fun t ht hk => ?_⟩
          rcases (hhas t).mp hk with hk | ⟨-, hk⟩
          · exact (hb.fits o h.mem).unreserved h.allowed hp t hk
          · rw [hp, Option.some.injEq] at hk
            subst hk
            simp [closingTypes] at ht
        simp only [holding, hon, hbefore, hafter, true_and, if_true, if_false] at hheld
        simp only [reservedSign] at hres
        omega
      · have hclose : t ∈ closingTypes := by cases t <;> simp_all [closingTypes]
        have hbefore := (hb.fits o h.mem).held h.allowed hp hclose habsent href
        have hafter : ¬Held db' o.orderId := fun hk => hk.2 t hclose ((hhas t).mpr (.inr ⟨rfl, hp⟩))
        have hsign : reservedSign t = -1 := by cases t <;> simp_all [reservedSign]
        simp only [holding, hon, hbefore, hafter, true_and, if_true, if_false] at hheld
        rw [hsign] at hres
        omega
    · rw [if_neg hon] at hres
      have hzero : ∀ d : DB, holding d networkId assetId o = 0 := fun d =>
        if_neg (fun hk => hon ⟨hk.1, hk.2.1⟩)
      rw [hzero, hzero] at hheld
      omega

theorem balance_congr (ho : db'.orders = db.orders) (hl : SameLedger db db') (networkId assetId : Id) :
    reservedBalance db' networkId assetId = reservedBalance db networkId assetId ∧
      heldAmount db' networkId assetId = heldAmount db networkId assetId := by
  constructor
  · simp only [reservedBalance, booksOn, hl.journals, hl.entries]
  · simp only [heldAmount, Held, ho, hasJournal_congr hl.journals]
    rfl

/-- The ledger agrees with the orders. -/
structure LedgerAgrees (db : DB) : Prop where
  one_reservation : ∀ j ∈ db.journals, ∀ x ∈ db.journals, j.orderId = x.orderId →
    j.journalType = .reservation → x.journalType = .reservation → j = x
  one_closing : ∀ j ∈ db.journals, ∀ x ∈ db.journals, j.orderId = x.orderId →
    j.journalType ∈ closingTypes → x.journalType ∈ closingTypes → j = x
  reserved_first : ∀ j ∈ db.journals, j.journalType ∈ closingTypes → HasJournal db j.orderId .reservation
  balance : ∀ networkId assetId, reservedBalance db networkId assetId = heldAmount db networkId assetId

/-- Refunded orders have not been settled. -/
def Unsettled (db : DB) : Prop := ∀ o ∈ db.orders, o.status = .refunded → ¬HasJournal db o.orderId .settlement

/-- A refund is admitted for an order without a settlement journal. -/
def unsettledRefunds : Permit :=
  { Permit.all with refund := fun db o => o.status = .failed → ¬HasJournal db o.orderId .settlement }

/-- The order an action asks to refund. -/
def refundedOrder? : Action → Option Id
  | .store _ (.refundOrder orderId _ _ _) => some orderId
  | _ => none

/-- `refund_order` is not called for a failed order that has a settlement journal. -/
def RefundsUnsettled (s : Sys) (a : Action) : Prop :=
  ∀ orderId ∈ refundedOrder? a, ∀ o ∈ s.db.orders.rows, o.orderId = orderId → o.status = .failed →
    ¬HasJournal s.db o.orderId .settlement

instance (s : Sys) (a : Action) : Decidable (RefundsUnsettled s a) :=
  inferInstanceAs (Decidable (∀ orderId ∈ refundedOrder? a, ∀ o ∈ s.db.orders.rows, o.orderId = orderId →
    o.status = .failed → ¬HasJournal s.db o.orderId .settlement))

theorem Unsettled.moved {o : OrderRow} {target : OrderStatus} {now : Time} (hu : Unsettled db)
    (h : Moved cfg db db' o target now)
    (href : target = .refunded → o.status = .failed ∧ ¬HasJournal db o.orderId .settlement) : Unsettled db' := by
  intro x hx hs hhas
  rcases h.mem_orders.mp hx with rfl | ⟨hx, hne⟩
  · have ht : target = .refunded := hs
    rcases (h.ledger.hasJournal _ _).mp hhas with hk | ⟨-, hk⟩
    · exact (href ht).2 hk
    · simp [ht, postingOf] at hk
  · rcases (h.ledger.hasJournal _ _).mp hhas with hk | ⟨hk, -⟩
    · exact hu x hx hs hk
    · exact hne hk

/-- The invariant of runs that refund unsettled orders only. -/
structure Balanced (cfg : Config) (db : DB) : Prop where
  booked : Booked cfg db
  unsettled : Unsettled db
  balance : ∀ networkId assetId, reservedBalance db networkId assetId = heldAmount db networkId assetId

theorem Balanced.moved {o : OrderRow} {target : OrderStatus} {now : Time} (hb : Balanced cfg db)
    (hbook : Booked cfg db') (h : Moved cfg db db' o target now)
    (href : target = .refunded → o.status = .failed ∧ ¬HasJournal db o.orderId .settlement) : Balanced cfg db' :=
  ⟨hbook, hb.unsettled.moved h href, fun n a => balance_moved hb.booked h href (hb.balance n a)⟩

theorem Balanced.congr (hb : Balanced cfg db) (hbook : Booked cfg db') (ho : db'.orders = db.orders)
    (hl : SameLedger db db') : Balanced cfg db' := by
  refine ⟨hbook, ?_, fun n a => ?_⟩
  · intro x hx hs
    rw [hasJournal_congr hl.journals]
    exact hb.unsettled x (ho ▸ hx) hs
  · obtain ⟨h₁, h₂⟩ := balance_congr ho hl n a
    rw [h₁, h₂]
    exact hb.balance n a

theorem Balanced.opened {o : OrderRow} (hb : Balanced cfg db) (hbook : Booked cfg db') (h : Opened cfg db db' o) :
    Balanced cfg db' := by
  have hj := h.rest.ledger.journals
  have hnone := hb.booked.no_journal (Table.insert?_eq_some.mp h.inserted).1
  refine ⟨hbook, ?_, fun n a => ?_⟩
  · intro x hx hs
    rw [hasJournal_congr hj]
    rcases (mem_inserted h.inserted).mp hx with hx | rfl
    · exact hb.unsettled x hx hs
    · exact hnone .settlement
  · have hres : reservedBalance db' n a = reservedBalance db n a := by
      simp only [reservedBalance, booksOn, hj, h.rest.ledger.entries]
    have hnot : ¬Held db o.orderId := fun hk => hnone _ hk.1
    have hheld : heldAmount db' n a = heldAmount db n a := by
      have hsame : ∀ id, Held db' id ↔ Held db id := fun id => by simp only [Held, hasJournal_congr hj]
      simp [heldAmount, hsame, (Table.insert?_eq_some.mp h.inserted).2, hnot]
    rw [hres, hheld]
    exact hb.balance n a

theorem Balanced.effect {r : Readings} (hs : Sound cfg db) (hb : Balanced cfg db)
    (h : Effect cfg unsettledRefunds r db db') : Balanced cfg db' := by
  have hbook := hb.booked.effect hs.desk h
  cases h with
  | desk h => exact hb.congr hbook h.aside.orders h.aside.ledger
  | policy h => exact hb.congr hbook h.aside.orders h.aside.ledger
  | opened h => exact hb.opened hbook h
  | decided h hpermit =>
    exact hb.moved hbook h.moved (fun ht => ⟨h.failed ht, hpermit ht (h.failed ht)⟩)
  | started h => exact hb.moved hbook h.moved (fun h => by cases h)
  | restarted h => exact hb.moved hbook h.moved (fun h => by cases h)
  | finished h => exact hb.moved hbook h.moved (fun hr => absurd hr (order_ne _).2)

/-- Two closing types of one order fit no status. -/
theorem LedgerFits.one_closing {s : OrderStatus} {has : JournalType → Prop} (h : LedgerFits has s)
    (hset : s = .refunded → ¬has .settlement) {t u : JournalType} (ht : t ∈ closingTypes) (hu : u ∈ closingTypes)
    (hhast : has t) (hhasu : has u) : t = u := by
  have hexcl : ¬(has .release ∧ has .settlement) ∧ ¬(has .release ∧ has .refund) ∧
      ¬(has .settlement ∧ has .refund) := by
    cases s <;> simp only [LedgerFits] at h <;> grind
  cases t <;> cases u <;> simp [closingTypes] at ht hu <;> grind

theorem LedgerFits.reserved_first {s : OrderStatus} {has : JournalType → Prop} (h : LedgerFits has s)
    {t : JournalType} (ht : t ∈ closingTypes) (hhas : has t) : has .reservation := by
  cases s <;> cases t <;> simp [closingTypes] at ht <;> simp only [LedgerFits] at h <;> grind

theorem Balanced.agrees (hb : Balanced cfg db) : LedgerAgrees db := by
  have hfits : ∀ j ∈ db.journals, ∃ o ∈ db.orders, o.orderId = j.orderId ∧
      LedgerFits (HasJournal db j.orderId) o.status ∧
      (o.status = .refunded → ¬HasJournal db j.orderId .settlement) := by
    intro j hj
    obtain ⟨o, ho, hk, -⟩ := hb.booked.order_of j hj
    exact ⟨o, ho, hk, hk ▸ hb.booked.fits o ho, hk ▸ hb.unsettled o ho⟩
  refine ⟨?_, ?_, ?_, hb.balance⟩
  · intro j hj x hx ho hjt hxt
    exact hb.booked.unique x hx j hj ho (hjt.trans hxt.symm)
  · intro j hj x hx ho hjt hxt
    refine hb.booked.unique x hx j hj ho ?_
    obtain ⟨o, -, -, hfit, hset⟩ := hfits j hj
    exact hfit.one_closing hset hjt hxt ⟨j, hj, rfl, rfl⟩ ⟨x, hx, ho.symm, rfl⟩
  · intro j hj hjt
    obtain ⟨o, -, -, hfit, -⟩ := hfits j hj
    exact hfit.reserved_first hjt ⟨j, hj, rfl, rfl⟩

/-- In every run that refunds unsettled orders only, the ledger agrees with the orders. -/
theorem ledger_agrees_of_unsettled_refunds {s : Sys} (h : (machine cfg).ReachableUnder RefundsUnsettled s) :
    LedgerAgrees s.db := by
  let timely : Readings → Prop := fun _ => True
  have hpermitted : ∀ s a, RefundsUnsettled s a → unsettledRefunds.AdmitsAction s.db a ∧ timely a.readings := by
    intro s a hg
    refine ⟨?_, trivial⟩
    cases a with
    | store r op => cases op <;> first | exact hg _ rfl | exact trivial | exact fun _ => trivial
    | _ => exact trivial
  have hempty : Balanced cfg .empty := ⟨.empty, fun x hx => (by cases hx), fun _ _ => rfl⟩
  exact (database_invariant hpermitted (fun _ _ _ => trivial) hempty
    (fun _ _ _ _ hs hb heff => hb.effect hs heff) h).2.agrees

/-- Clock and identifiers of a transaction that starts at `t`. -/
def readingsAt (t : Time) (tag : String) : Readings := fun i => ⟨t + i, t + i, tag ++ toString i, true⟩

def samplePolicy : PaymentPolicyInput :=
  ⟨{ defaultTerms with mode := .automatic, perOrderLimit := 1000, dailyLimit := 1000 }, none, by decide⟩

def sampleBounty : BountyInput where
  title := "Translate the handbook"
  description := "A translation of the handbook."
  acceptanceCriteria := ["complete"]
  networkId := "walletnet_b0"
  assetId := "walletasset_c0"
  rewardAmount := 100
  opensAt := 0
  expiresAt := 1000000
  maxSubmissions := 10
  rewardSlots := 10
  projectId := some "project-1"
  goalId := none
  idempotencyKey := "bounty-1"
  text := by decide
  criteria := by decide
  ids := by decide
  amount := by decide
  window := by decide
  slots := by decide

def sampleSubmission : SubmissionInput where
  counterparty := "worker"
  content := "done"
  evidence := []
  recipientAddress := "0x2222222222222222222222222222222222222222"
  idempotencyKey := "submission-1"
  consentVersion := 1
  text := by decide
  evidenceValues := by decide
  address := by decide
  key := by decide
  consent := by decide

lemma second_key : isIdentifier "submission-2" = true := by decide

/-- A subject with a network, a native asset, a spending address and an automatic policy. -/
def sampleDesk : List Action :=
  [.store (readingsAt 1000 "a") (.createIdentity "subject-1"),
    .store (readingsAt 1100 "b") (.registerNetwork "subject-1" 1 "operator"),
    .store (readingsAt 1200 "c") (.registerAsset "subject-1" "walletnet_b0" none "operator"),
    .store (readingsAt 1300 "d") (.registerAddress "subject-1" "walletnet_b0"
      "0x1111111111111111111111111111111111111111" .spending "operator"),
    .store (readingsAt 1400 "e") (.updatePolicy "subject-1" samplePolicy 1 "operator" none)]

/-- One accepted submission; its order is reserved. -/
def sampleOrder : List Action := sampleDesk ++
  [.store (readingsAt 1500 "f") (.createBounty "subject-1" sampleBounty "operator" (some "subject-1") none),
    .store (readingsAt 1600 "g") (.transitionBounty "bounty_f1" "subject-1" .published "operator"),
    .store (readingsAt 1700 "h") (.submitToBounty "bounty_f1" "subject-1" sampleSubmission),
    .store (readingsAt 1800 "i") (.decideSubmission "submission_h4" "subject-1" true "good" "operator")]

/-- The first attempt on the order, handed to the signer. -/
def sampleAttempt : List Action := sampleOrder ++
  [.execute "payorder_i2" "subject-1" "operator" ⟨none, none, none, some 0, .quote 21000 (some 1)⟩,
    .prepare 0 (readingsAt 1900 "j"),
    .dispatch 0 ⟨2000, 2000, "", true⟩]

def sampleHash (n : Nat) : String := "0x" ++ hexWord n

def sampleReceipt (tx : String) (status : Nat) : WalletReceipt :=
  ⟨tx, 1, status, some 5, some (sampleHash 9), 1, none⟩

/-- The state the sample wallet is in after some actions. -/
@[irreducible] def sampleState (actions : List Action) : Sys := actions.foldl (step .sample) .start

theorem sampleState_reachable (actions : List Action) : (machine .sample).Reachable (sampleState actions) := by
  unfold sampleState
  exact Machine.reachable_foldl (M := machine .sample) rfl actions

theorem sampleState_reachableUnder {guard : Sys → Action → Prop} {actions : List Action}
    (h : (machine .sample).Meets guard .start actions) :
      (machine .sample).ReachableUnder guard (sampleState actions) := by
  unfold sampleState
  exact Machine.reachableUnder_foldl (M := machine .sample) rfl actions h

/-- The signer rejects the first attempt and the order is refunded. -/
def sampleRefund : List Action := sampleAttempt ++
  [.answer 0 (readingsAt 2100 "k") (.signerError "signer_rejected"),
    .store (readingsAt 2200 "l") (.refundOrder "payorder_i2" "subject-1" "operator" "rejected")]

theorem ledger_agrees_of_rejected_attempt : LedgerAgrees (sampleState sampleRefund).db :=
  ledger_agrees_of_unsettled_refunds (sampleState_reachableUnder (by decide +kernel))

/-- The order is confirmed. -/
def sampleSettled : List Action := sampleAttempt ++
  [.answer 0 (readingsAt 2100 "k") (.returned (some ⟨sampleHash 7, 1, 0, "2100"⟩)),
    .poll "wallet_exec_j2" "subject-1" "operator",
    .lookup 1 2200 (fun tx => .receipt (sampleReceipt tx 1)),
    .mark 1 (readingsAt 2300 "l")]

/-- A reorganization reopens the order, the chain reports a failure, and the order is refunded. -/
def sampleReorganized : List Action := sampleSettled ++
  [.store (readingsAt 2400 "m") (.markReconcileRequired "wallet_exec_j2" "subject-1" "operator" "reorganized"),
    .poll "wallet_exec_j2" "subject-1" "operator",
    .lookup 2 2500 (fun tx => .receipt (sampleReceipt tx 0)),
    .mark 2 (readingsAt 2600 "n"),
    .store (readingsAt 2700 "o") (.refundOrder "payorder_i2" "subject-1" "operator" "failed")]

/-- The refund of a settled order drives the reserved account below zero. -/
theorem ledger_disagrees_after_settled_refund :
    ¬∀ (cfg : Config) (s : Sys), (machine cfg).Reachable s → LedgerAgrees s.db := by
  intro h
  have hneg : reservedBalance (sampleState sampleReorganized).db "walletnet_b0" "walletasset_c0" = -100 := by
    decide +kernel
  have hbal := (h .sample _ (sampleState_reachable sampleReorganized)).balance "walletnet_b0" "walletasset_c0"
  rw [hneg] at hbal
  omega

end Noyra.Wallet.Proofs
