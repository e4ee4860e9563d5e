import Noyra.Wallet.Integrity
import Noyra.Proofs.Ledger

/-!
# Audits raise no false alarm

Every row that a transaction writes is sealed with the hash the audits recompute, so in every reachable state
both audits pass. The stream over the ledger is followed journal by journal.
-/

namespace Noyra.Wallet.Proofs
open Noyra.Lib

variable {cfg : Config} {db db' : DB} {subjectId : Id}

/-- A subject has two entries for each of its journals. -/
def TwoLegged (db : DB) : Prop := ∀ subjectId : Id,
  (db.entries.rows.filter (fun e => e.subjectId = subjectId)).length =
    2 * (db.journals.rows.filter (fun j => j.subjectId = subjectId)).length

theorem TwoLegged.congr (h : TwoLegged db) (hl : SameLedger db db') : TwoLegged db' := by
  simpa only [TwoLegged, hl.journals, hl.entries] using h

theorem TwoLegged.step {o : OrderRow} {posting : Option JournalType} (h : TwoLegged db)
    (hl : LedgerStep cfg db db' o posting) : TwoLegged db' := by
  cases posting with
  | none => exact h.congr hl
  | some t =>
    obtain ⟨journalId, now, debitId, creditId, hp⟩ := hl
    intro x
    rw [hp.entries, hp.journals, List.filter_append, List.filter_append, List.length_append, List.length_append, h x]
    by_cases hx : o.subjectId = x
    · simp [entryOf, journalOf, hx]
      omega
    · simp [entryOf, journalOf, hx]

theorem TwoLegged.effect {permit : Permit} {r : Readings} (h : TwoLegged db) (heff : Effect cfg permit r db db') :
    TwoLegged db' := by
  cases heff with
  | desk hd => exact h.congr hd.aside.ledger
  | policy hd => exact h.congr hd.aside.ledger
  | opened ho => exact h.congr ho.rest.ledger
  | decided hd => exact h.step hd.moved.ledger
  | started hd => exact h.step hd.moved.ledger
  | restarted hd => exact h.step hd.moved.ledger
  | finished hd => exact h.step hd.moved.ledger

theorem Booked.journal_order (hb : Booked cfg db) {j : JournalRow} (hj : j ∈ db.journals) :
    ∃ o, db.orders.find? j.orderId = some o ∧ o.subjectId = j.subjectId ∧ o.networkId = j.networkId ∧
      o.assetId = j.assetId ∧ o.amount = j.amount ∧ 0 < j.amount ∧ j.amount ≤ sqliteInt64Max := by
  obtain ⟨o, ho, hid, hs, hn, ha, hamount⟩ := hb.order_of j hj
  have hbound := hb.amounts o ho
  rw [hamount] at hbound
  exact ⟨o, Table.find?_eq_some.mpr ⟨ho, hid⟩, hs, hn, ha, hamount, hbound⟩

/-- The two rows of a journal. -/
theorem Booked.journalHistory_eq (hb : Booked cfg db) {j : JournalRow} (hj : j ∈ db.journals) :
    ∃ debitId creditId, journalHistory db j =
      [⟨j, db.orders.find? j.orderId, some (entryOf cfg j debitId (journalLegs j.journalType).1)⟩,
        ⟨j, db.orders.find? j.orderId, some (entryOf cfg j creditId (journalLegs j.journalType).2)⟩] := by
  obtain ⟨debitId, creditId, hlegs⟩ := hb.legs j hj
  rw [entriesOf] at hlegs
  exact ⟨debitId, creditId, by rw [journalHistory, hlegs]; rfl⟩

theorem journalLegs_directions (t : JournalType) :
    (journalLegs t).1.2 = .debit ∧ (journalLegs t).2.2 = .credit ∧
      expectedAccounts t = [(journalLegs t).1, (journalLegs t).2] := by
  cases t <;> exact ⟨rfl, rfl, rfl⟩

/-- The audit between two journals. -/
structure Passed (t : LedgerAudit) (journals entries : Nat) : Prop where
  finished : t.finishJournal = .ok ()
  journalCount : t.journalCount = journals
  entryCount : t.entryCount = entries

theorem Passed.start : Passed .start 0 0 := ⟨rfl, rfl, rfl⟩

theorem Booked.openJournal_ok {t : LedgerAudit} {j : JournalRow} {e : Option EntryRow} (hb : Booked cfg db)
    (ht : t.finishJournal = .ok ()) (hj : j ∈ db.journals) (hs : j.subjectId = subjectId) :
    t.openJournal cfg subjectId ⟨j, db.orders.find? j.orderId, e⟩ = .ok (t.begin j) := by
  obtain ⟨o, hfind, hos, hon, hoa, hoamount, hpos, hbound⟩ := hb.journal_order hj
  have hseal : j.stateHash = walletJournalHash cfg j := hb.journal_sealed j hj
  refine bind_eq_ok.mpr ⟨(), ht, ?_⟩
  refine bind_eq_ok.mpr ⟨(), raiseIf_neg (by simp only [not_or]; omega), ?_⟩
  refine bind_eq_ok.mpr ⟨(), raiseIf_neg (not_not.mpr hs), ?_⟩
  refine bind_eq_ok.mpr ⟨o, orRaise_eq_ok.mpr hfind, ?_⟩
  refine bind_eq_ok.mpr ⟨(), raiseIf_neg ?_, bind_eq_ok.mpr ⟨(), raiseIf_neg (not_not.mpr hseal), rfl⟩⟩
  simp [hos, hs, hon, hoa, hoamount]

theorem Booked.addEntry_ok {t : LedgerAudit} {j : JournalRow} (hb : Booked cfg db) (hj : j ∈ db.journals)
    (hs : j.subjectId = subjectId) (entryId : Id) (leg : Account × Direction) :
    t.addEntry cfg subjectId j (entryOf cfg j entryId leg) = .ok (t.count (entryOf cfg j entryId leg)) := by
  obtain ⟨o, -, -, -, -, -, -, hbound⟩ := hb.journal_order hj
  refine bind_eq_ok.mpr ⟨(), raiseIf_neg ?_, bind_eq_ok.mpr ⟨(), raiseIf_neg (not_not.mpr rfl),
    bind_eq_ok.mpr ⟨(), raiseIf_neg (Nat.not_lt.mpr hbound), rfl⟩⟩⟩
  simp [entryOf, hs]

/-- A journal with its two legs is balanced. -/
theorem finishJournal_legs (cfg : Config) (t : LedgerAudit) (j : JournalRow) (debitId creditId : Id) :
    (((t.begin j).count (entryOf cfg j debitId (journalLegs j.journalType).1)).count
      (entryOf cfg j creditId (journalLegs j.journalType).2)).finishJournal = .ok () := by
  obtain ⟨hdebit, hcredit, haccounts⟩ := journalLegs_directions j.journalType
  refine bind_eq_ok.mpr ⟨(), raiseIf_neg ?_, bind_eq_ok.mpr ⟨(), raiseIf_neg (not_not.mpr ?_), raiseIf_neg ?_⟩⟩
  · simp [LedgerAudit.count, LedgerAudit.begin, entryOf, hdebit, hcredit]
  · rw [haccounts]
    simp [LedgerAudit.count, LedgerAudit.begin, entryOf]
  · simp [LedgerAudit.count, LedgerAudit.begin, entryOf, hdebit, hcredit]

/-- The stream passes over a journal that it has not begun. -/
theorem Passed.journal {t : LedgerAudit} {n m : Nat} {j : JournalRow} (hb : Booked cfg db) (ht : Passed t n m)
    (hj : j ∈ db.journals) (hs : j.subjectId = subjectId)
    (hnew : t.current.map JournalRow.journalId ≠ some j.journalId) :
    ∃ t', (journalHistory db j).foldlM (LedgerAudit.read cfg subjectId) t = .ok t' ∧ Passed t' (n + 1) (m + 2) ∧
      t'.current = some j := by
  obtain ⟨debitId, creditId, hrows⟩ := hb.journalHistory_eq hj
  have hfirst : t.read cfg subjectId
      ⟨j, db.orders.find? j.orderId, some (entryOf cfg j debitId (journalLegs j.journalType).1)⟩ =
      .ok ((t.begin j).count (entryOf cfg j debitId (journalLegs j.journalType).1)) := by
    simp only [LedgerAudit.read, hnew, if_false, hb.openJournal_ok ht.finished hj hs, ok_bind, hb.addEntry_ok hj hs]
  have hsecond : ((t.begin j).count (entryOf cfg j debitId (journalLegs j.journalType).1)).read cfg subjectId
      ⟨j, db.orders.find? j.orderId, some (entryOf cfg j creditId (journalLegs j.journalType).2)⟩ =
      .ok (((t.begin j).count (entryOf cfg j debitId (journalLegs j.journalType).1)).count
        (entryOf cfg j creditId (journalLegs j.journalType).2)) := by
    simp only [LedgerAudit.read, LedgerAudit.count, LedgerAudit.begin, Option.map_some, if_true, ok_bind]
    exact hb.addEntry_ok hj hs _ _
  refine ⟨_, ?_, ⟨finishJournal_legs cfg t j debitId creditId, ?_, ?_⟩, rfl⟩
  · rw [hrows, List.foldlM_cons, hfirst, ok_bind, List.foldlM_cons, hsecond, ok_bind]
    rfl
  · simp [LedgerAudit.count, LedgerAudit.begin, ht.journalCount]
  · simp [LedgerAudit.count, LedgerAudit.begin, ht.entryCount]

/-- The stream passes over journals of the subject. -/
theorem Passed.journals (hb : Booked cfg db) {journals : List JournalRow}
    (hj : ∀ j ∈ journals, j ∈ db.journals ∧ j.subjectId = subjectId)
    (hnodup : (journals.map JournalRow.journalId).Nodup) {t : LedgerAudit} {n m : Nat} (ht : Passed t n m)
    (hnew : ∀ j ∈ journals, t.current.map JournalRow.journalId ≠ some j.journalId) :
    ∃ t', (journals.flatMap (journalHistory db)).foldlM (LedgerAudit.read cfg subjectId) t = .ok t' ∧
      Passed t' (n + journals.length) (m + 2 * journals.length) := by
  induction journals generalizing t n m with
  | nil => exact ⟨t, rfl, ht⟩
  | cons j rest ih =>
    rw [List.map_cons, List.nodup_cons] at hnodup
    obtain ⟨hjm, hjs⟩ := hj j List.mem_cons_self
    obtain ⟨t₁, hrun₁, hpass₁, hcur⟩ := ht.journal hb hjm hjs (hnew j List.mem_cons_self)
    have hnew₁ : ∀ x ∈ rest, t₁.current.map JournalRow.journalId ≠ some x.journalId := by
      intro x hx heq
      rw [hcur, Option.map_some, Option.some.injEq] at heq
      exact hnodup.1 (heq ▸ List.mem_map_of_mem hx)
    obtain ⟨t', hrun, hpass⟩ := ih (fun x hx => hj x (List.mem_cons_of_mem j hx)) hnodup.2 hpass₁ hnew₁
    refine ⟨t', ?_, ?_⟩
    · rw [List.flatMap_cons, List.foldlM_append, hrun₁, ok_bind, hrun]
    · have h₁ : n + (j :: rest).length = n + 1 + rest.length := by simp; omega
      have h₂ : m + 2 * (j :: rest).length = m + 2 + 2 * rest.length := by simp; omega
      rw [h₁, h₂]
      exact hpass

/-- The whole stream passes, and it has counted every journal and every entry of the subject. -/
theorem Booked.history_passes (hb : Booked cfg db) (htwo : TwoLegged db) (subjectId : Id) :
    ∃ t, (history db subjectId).foldlM (LedgerAudit.read cfg subjectId) LedgerAudit.start = .ok t ∧
      t.finishJournal = .ok () ∧
      t.entryCount = (db.entries.rows.filter (fun e => e.subjectId = subjectId)).length := by
  let le (a b : JournalRow) : Prop :=
    a.createdAt < b.createdAt ∨ (a.createdAt = b.createdAt ∧ a.journalId ≤ b.journalId)
  have hperm : (db.journals.rows.filter (fun j => j.subjectId = subjectId)).insertionSort le |>.Perm
      (db.journals.rows.filter (fun j => j.subjectId = subjectId)) := List.perm_insertionSort _ _
  have hmem : ∀ j ∈ (db.journals.rows.filter (fun j => j.subjectId = subjectId)).insertionSort le,
      j ∈ db.journals ∧ j.subjectId = subjectId := by
    intro j hj
    obtain ⟨hj, hs⟩ := List.mem_filter.mp (hperm.mem_iff.mp hj)
    exact ⟨hj, of_decide_eq_true hs⟩
  have hnodup : (((db.journals.rows.filter (fun j => j.subjectId = subjectId)).insertionSort le).map
      JournalRow.journalId).Nodup :=
    (hperm.map _).nodup_iff.mpr (db.journals.nodup.sublist (List.filter_sublist.map _))
  obtain ⟨t, hrun, hpass⟩ := Passed.start.journals hb hmem hnodup (fun _ _ => nofun)
  refine ⟨t, hrun, hpass.finished, ?_⟩
  rw [hpass.entryCount, hperm.length_eq, htwo subjectId, Nat.zero_add]

theorem Booked.no_orphan (hb : Booked cfg db) (subjectId : Id) :
    db.entries.rows.find? (fun e => e.subjectId = subjectId ∧
      (db.journals.find? e.journalId).all (fun j => j.subjectId ≠ subjectId ∨ j.orderId ≠ e.orderId)) = none := by
  rw [List.find?_eq_none]
  intro e he hbad
  obtain ⟨hes, hall⟩ := of_decide_eq_true hbad
  obtain ⟨j, hj, hid⟩ := hb.journal_of e he
  obtain ⟨debitId, creditId, hlegs⟩ := hb.legs j hj
  have hleg : ∃ id leg, e = entryOf cfg j id leg := by
    have hmem : e ∈ entriesOf db j.journalId := List.mem_filter.mpr ⟨he, by simp [hid]⟩
    rw [hlegs, List.mem_cons, List.mem_singleton] at hmem
    rcases hmem with rfl | rfl <;> exact ⟨_, _, rfl⟩
  obtain ⟨id, leg, rfl⟩ := hleg
  have hfind : db.journals.find? (entryOf cfg j id leg).journalId = some j := Table.find?_key hj
  have hs : j.subjectId = subjectId := hes
  rw [hfind] at hall
  simp [hs, entryOf] at hall

theorem entry_sealed (hb : Booked cfg db) : ∀ e ∈ db.entries, e.Sealed cfg := by
  intro e he
  obtain ⟨j, hj, hid⟩ := hb.journal_of e he
  obtain ⟨debitId, creditId, hlegs⟩ := hb.legs j hj
  have hmem : e ∈ entriesOf db j.journalId := List.mem_filter.mpr ⟨he, by simp [hid]⟩
  rw [hlegs, List.mem_cons, List.mem_singleton] at hmem
  rcases hmem with rfl | rfl <;> rfl

theorem verifyIntegrity_ok (hs : Sound cfg db) (hb : Booked cfg db) (htwo : TwoLegged db)
    (hsubject : validateSubjectId subjectId = .ok ()) {policy : PolicyRow}
    (hpolicy : db.policyRow subjectId = some policy) :
    ∃ counts, verifyIntegrity cfg db subjectId = .ok counts := by
  obtain ⟨hsealed, hvalid, hversion⟩ := hs.desk.policies policy (Table.find?_eq_some.mp hpolicy).1
  obtain ⟨t, hrun, hfinish, hcount⟩ := hb.history_passes htwo subjectId
  refine ⟨⟨(db.bounties.rows.filter (fun b => b.subjectId = subjectId)).length,
    (db.submissions.rows.filter (fun s => s.subjectId = subjectId)).length,
    (db.orders.rows.filter (fun o => o.subjectId = subjectId)).length, t.journalCount, t.entryCount⟩, ?_⟩
  refine bind_eq_ok.mpr ⟨(), hsubject, bind_eq_ok.mpr ⟨policy, orRaise_eq_ok.mpr hpolicy, ?_⟩⟩
  refine bind_eq_ok.mpr ⟨(), raiseIf_neg (by simp [hvalid]; omega), ?_⟩
  refine bind_eq_ok.mpr ⟨(), raiseIf_neg (not_not.mpr hsealed), ?_⟩
  refine bind_eq_ok.mpr ⟨(), forM_eq_ok (fun b hbm => raiseIf_neg (not_not.mpr ?_)), ?_⟩
  · exact (hs.desk.bounties b (List.mem_filter.mp hbm).1).1
  refine bind_eq_ok.mpr ⟨(), forM_eq_ok (fun x hx => raiseIf_neg (not_not.mpr ?_)), ?_⟩
  · exact hs.desk.submissions x (List.mem_filter.mp hx).1
  refine bind_eq_ok.mpr ⟨(), forM_eq_ok (fun o ho => raiseIf_neg (not_not.mpr ?_)), ?_⟩
  · exact hs.paired.order_sealed o (List.mem_filter.mp ho).1
  refine bind_eq_ok.mpr ⟨t, hrun, bind_eq_ok.mpr ⟨(), hfinish, ?_⟩⟩
  rw [hb.no_orphan subjectId]
  exact bind_eq_ok.mpr ⟨(), raiseIf_neg (not_not.mpr hcount), rfl⟩

theorem Chained.attemptsOf_eq (hc : Chained cfg db) {e : ExecutionRow} (he : e ∈ db.executions) :
    (attemptsOf db e).map AttemptRow.attemptNumber = List.range' 1 e.attemptCount := by
  rw [← hc.numbered e he, attemptsOf, attemptNumbers]
  refine congrArg _ (List.filter_congr (fun a ha => decide_eq_decide.mpr ?_))
  refine and_iff_left_of_imp (fun hid => ?_)
  obtain ⟨x, hx, hxid, hsub, -⟩ := hc.belongs a ha
  have hxe : x = e := Table.eq_of_key hx he (hxid.trans hid)
  exact hxe ▸ hsub.symm

/-- The chain of attempts of an execution passes the audit. -/
theorem Chained.chain_ok (hc : Chained cfg db) {e : ExecutionRow} (he : e ∈ db.executions) :
    ¬((attemptsOf db e).length ≠ e.attemptCount ∨
      ((attemptsOf db e).map AttemptRow.attemptNumber).min? ≠ some 1 ∨
      ((attemptsOf db e).map AttemptRow.attemptNumber).max? ≠ some e.attemptCount ∨
      ((attemptsOf db e).find? (fun a => a.attemptNumber = e.attemptCount)).map AttemptRow.status ≠ some e.status) := by
  have hnumbers := hc.attemptsOf_eq he
  have hpos := (hc.bounded e he).1
  simp only [not_or, not_not]
  refine ⟨?_, ?_, ?_, ?_⟩
  · simpa using congrArg List.length hnumbers
  · rw [hnumbers, List.min?_eq_some_iff]
    refine ⟨List.mem_range'_1.mpr (by omega), fun n hn => ?_⟩
    exact (List.mem_range'_1.mp hn).1
  · rw [hnumbers, List.max?_eq_some_iff]
    refine ⟨List.mem_range'_1.mpr (by omega), fun n hn => ?_⟩
    have := (List.mem_range'_1.mp hn).2
    omega
  · obtain ⟨a, ham, hae, han⟩ := hc.latest_exists he
    have hlast : e.attemptCount ∈ (attemptsOf db e).map AttemptRow.attemptNumber := by
      rw [hnumbers, List.mem_range'_1]
      omega
    obtain ⟨b, hb, hbn⟩ := List.mem_map.mp hlast
    have hsome : ((attemptsOf db e).find? (fun a => a.attemptNumber = e.attemptCount)).isSome = true :=
      List.find?_isSome.mpr ⟨b, hb, by simp [hbn]⟩
    obtain ⟨c, hfound⟩ := Option.isSome_iff_exists.mp hsome
    have hcmem := List.mem_filter.mp (List.mem_of_find?_eq_some hfound)
    have hcn : c.attemptNumber = e.attemptCount := by simpa using List.find?_some hfound
    rw [hfound, Option.map_some, hc.latest e he c hcmem.1 (of_decide_eq_true hcmem.2).1 hcn]

theorem verifyExecution_ok (hs : Sound cfg db) {e : ExecutionRow} (he : e ∈ db.executions)
    (hsub : e.subjectId = subjectId) : verifyExecution cfg db subjectId e = .ok () := by
  obtain ⟨o, ho, hm⟩ := hs.paired.order_of e he
  have hfind : db.orders.find? e.orderId = some o := Table.find?_eq_some.mpr ⟨ho, hm.order⟩
  refine bind_eq_ok.mpr ⟨(), raiseIf_neg (not_not.mpr (hs.paired.execution_sealed e he)),
    bind_eq_ok.mpr ⟨(), raiseIf_neg (hs.chained.chain_ok he), raiseIf_neg ?_⟩⟩
  rw [hfind]
  rcases hm.status with hst | ⟨hst, hfailed⟩
  · simp [hm.subject, hsub, hst]
  · simp [hm.subject, hsub, hst, hfailed]

theorem verifyDatabaseIntegrity_ok (hs : Sound cfg db) (hsubject : validateSubjectId subjectId = .ok ()) :
    ∃ counts, verifyDatabaseIntegrity cfg db subjectId = .ok counts := by
  refine ⟨((db.executions.rows.filter (fun e => e.subjectId = subjectId)).length,
    (db.attempts.rows.filter (fun a => a.subjectId = subjectId)).length), ?_⟩
  refine bind_eq_ok.mpr ⟨(), hsubject, bind_eq_ok.mpr ⟨(), forM_eq_ok (fun e he => ?_), ?_⟩⟩
  · obtain ⟨he, hsub⟩ := List.mem_filter.mp he
    exact verifyExecution_ok hs he (of_decide_eq_true hsub)
  exact bind_eq_ok.mpr ⟨(), forM_eq_ok (fun a ha => raiseIf_neg (not_not.mpr
    (hs.chained.attempt_sealed a (List.mem_filter.mp ha).1))), rfl⟩

/-- What the audits look for. -/
structure Audited (cfg : Config) (db : DB) : Prop where
  policies : ∀ p ∈ db.policies, p.Sealed cfg
  bounties : ∀ b ∈ db.bounties, b.Sealed cfg
  submissions : ∀ s ∈ db.submissions, s.Sealed cfg
  orders : ∀ o ∈ db.orders, o.Sealed cfg
  journals : ∀ j ∈ db.journals, j.Sealed cfg
  entries : ∀ e ∈ db.entries, e.Sealed cfg
  executions : ∀ e ∈ db.executions, e.Sealed cfg
  attempts : ∀ a ∈ db.attempts, a.Sealed cfg
  numbers : ∀ e ∈ db.executions, attemptNumbers db e.executionId = List.range' 1 e.attemptCount
  statuses : ∀ e ∈ db.executions, (∃ a, Latest db e a ∧ a.status = e.status) ∧
    ∃ o ∈ db.orders, o.orderId = e.orderId ∧ Agrees o.status e.status

/-- In every reachable state the audits of every subject pass, and everything they look for is in order. -/
theorem audits_pass {s : Sys} (h : (machine cfg).Reachable s) :
    Audited cfg s.db ∧ ∀ subjectId, validateSubjectId subjectId = .ok () →
      (∃ counts, verifyDatabaseIntegrity cfg s.db subjectId = .ok counts) ∧
      ((∃ counts, verifyIntegrity cfg s.db subjectId = .ok counts) ↔ (s.db.policyRow subjectId).isSome = true) := by
  obtain ⟨hs, htwo⟩ := reachable_invariant (I := TwoLegged) (fun _ => rfl)
    (fun _ _ _ _ htwo heff => htwo.effect heff) h
  have hb := reachable_booked h
  refine ⟨⟨fun p hp => (hs.desk.policies p hp).1, fun b hbm => (hs.desk.bounties b hbm).1, hs.desk.submissions,
    hs.paired.order_sealed, hb.journal_sealed, entry_sealed hb, hs.paired.execution_sealed, hs.chained.attempt_sealed,
    hs.chained.numbered, ?_⟩, ?_⟩
  · intro e he
    obtain ⟨a, ha⟩ := hs.chained.latest_exists he
    obtain ⟨o, ho, hm⟩ := hs.paired.order_of e he
    exact ⟨⟨a, ha, hs.chained.latest e he a ha.1 ha.2.1 ha.2.2⟩, o, ho, hm.order, hm.status⟩
  · intro subjectId hsubject
    refine ⟨verifyDatabaseIntegrity_ok hs hsubject, ?_, ?_⟩
    · rintro ⟨counts, hok⟩
      simp only [verifyIntegrity, bind_eq_ok, orRaise_eq_ok] at hok
      obtain ⟨-, -, policy, hpolicy, -⟩ := hok
      rw [hpolicy]
      rfl
    · intro hsome
      obtain ⟨policy, hpolicy⟩ := Option.isSome_iff_exists.mp hsome
      exact verifyIntegrity_ok hs hb htwo hsubject hpolicy

theorem audits_pass_after_reorganization :
    (∃ counts, verifyDatabaseIntegrity .sample (sampleState sampleReorganized).db "subject-1" = .ok counts) ∧
      ∃ counts, verifyIntegrity .sample (sampleState sampleReorganized).db "subject-1" = .ok counts := by
  have hpolicy : ((sampleState sampleReorganized).db.policyRow "subject-1").isSome = true := by decide +kernel
  obtain ⟨hexecutions, heconomy⟩ :=
    (audits_pass (sampleState_reachable sampleReorganized)).2 "subject-1" (by decide)
  exact ⟨hexecutions, heconomy.mpr hpolicy⟩

end Noyra.Wallet.Proofs
