import Noyra.Wallet.Execution

/-!
# Audits

`WalletEconomyStore.verify_integrity` and `WalletPaymentExecutionEngine.verify_database_integrity`: the rows
of a subject are read again, their hashes recomputed, and the ledger is streamed journal by journal.
-/

namespace Noyra.Wallet
open Noyra.Lib

section
variable (cfg : Config) (db : DB) (subjectId : Id)

/-- A row of the history query: a journal, its order and one of its entries, where they exist. -/
structure HistoryRow where
  journal : JournalRow
  order : Option OrderRow
  entry : Option EntryRow

/-- The rows of one journal; the left join keeps a journal without entries. -/
def journalHistory (j : JournalRow) : List HistoryRow :=
  match db.entries.rows.filter (fun e => e.journalId = j.journalId) with
  | [] => [⟨j, db.orders.find? j.orderId, none⟩]
  | entries => entries.map (fun e => ⟨j, db.orders.find? j.orderId, some e⟩)

def history : List HistoryRow :=
  ((db.journals.rows.filter (fun j => j.subjectId = subjectId)).insertionSort (fun a b =>
    a.createdAt < b.createdAt ∨ (a.createdAt = b.createdAt ∧ a.journalId ≤ b.journalId))).flatMap
      (journalHistory db)

def expectedAccounts : JournalType → List (Account × Direction)
  | .reservation => [(.available, .debit), (.reserved, .credit)]
  | .release => [(.reserved, .debit), (.released, .credit)]
  | .settlement => [(.reserved, .debit), (.paid, .credit)]
  | .refund => [(.reserved, .debit), (.released, .credit)]

/-- The running totals of the stream, and the journal that is being read. -/
structure LedgerAudit where
  journalCount : Nat
  entryCount : Nat
  current : Option JournalRow
  currentEntryCount : Nat
  currentDebit : Nat
  currentCredit : Nat
  currentAccounts : List (Account × Direction)

def LedgerAudit.start : LedgerAudit := ⟨0, 0, none, 0, 0, 0, []⟩

/-- `finish_journal`. -/
def LedgerAudit.finishJournal (t : LedgerAudit) : Except PyError Unit :=
  match t.current with
  | none => .ok ()
  | some j => do
    raiseIf (t.currentEntryCount ≠ 2 ∨ t.currentDebit ≠ t.currentCredit)
      (.integrityError ("wallet ledger journal is unbalanced: " ++ j.journalId))
    raiseIf (¬((∀ x ∈ t.currentAccounts, x ∈ expectedAccounts j.journalType) ∧
        ∀ x ∈ expectedAccounts j.journalType, x ∈ t.currentAccounts))
      (.integrityError ("wallet ledger journal accounts are invalid: " ++ j.journalId))
    raiseIf (t.currentDebit ≠ j.amount ∨ t.currentCredit ≠ j.amount)
      (.integrityError ("wallet ledger journal amount is inconsistent: " ++ j.journalId))

/-- The totals when a journal is begun. -/
def LedgerAudit.begin (t : LedgerAudit) (j : JournalRow) : LedgerAudit :=
  { t with
    journalCount := t.journalCount + 1, current := some j, currentEntryCount := 0, currentDebit := 0,
    currentCredit := 0, currentAccounts := [] }

/-- The totals after an entry of the current journal. -/
def LedgerAudit.count (t : LedgerAudit) (e : EntryRow) : LedgerAudit :=
  { t with
    entryCount := t.entryCount + 1, currentEntryCount := t.currentEntryCount + 1,
    currentDebit := if e.direction = .debit then t.currentDebit + e.amount else t.currentDebit,
    currentCredit := if e.direction = .debit then t.currentCredit else t.currentCredit + e.amount,
    currentAccounts := t.currentAccounts ++ [(e.account, e.direction)] }

/-- The checks on a journal when its first row comes up. -/
def LedgerAudit.openJournal (t : LedgerAudit) (row : HistoryRow) : Except PyError LedgerAudit := do
  t.finishJournal
  let j := row.journal
  raiseIf (j.amount = 0 ∨ sqliteInt64Max < j.amount)
    (.integrityError ("wallet ledger amount is invalid: " ++ j.journalId))
  raiseIf (j.subjectId ≠ subjectId)
    (.integrityError ("wallet ledger journal subject mismatch: " ++ j.journalId))
  let o ← orRaise row.order (.integrityError ("wallet ledger order reference is missing: " ++ j.journalId))
  raiseIf (o.subjectId ≠ subjectId ∨ o.networkId ≠ j.networkId ∨ o.assetId ≠ j.assetId ∨ o.amount ≠ j.amount)
    (.integrityError ("wallet ledger order reference mismatch: " ++ j.journalId))
  raiseIf (j.stateHash ≠ walletJournalHash cfg j)
    (.integrityError ("wallet ledger journal hash mismatch: " ++ j.journalId))
  .ok (t.begin j)

/-- The checks on an entry of the current journal. -/
def LedgerAudit.addEntry (t : LedgerAudit) (j : JournalRow) (e : EntryRow) : Except PyError LedgerAudit := do
  raiseIf (e.journalId ≠ j.journalId ∨ e.subjectId ≠ subjectId ∨ e.orderId ≠ j.orderId ∨ e.amount ≠ j.amount ∨
      e.createdAt ≠ j.createdAt)
    (.integrityError ("wallet ledger entry reference mismatch: " ++ j.journalId))
  raiseIf (e.stateHash ≠ walletEntryHash cfg e)
    (.integrityError ("wallet ledger entry hash mismatch: " ++ e.entryId))
  raiseIf (sqliteInt64Max < e.amount)
    (.integrityError ("wallet ledger entry amount is invalid: " ++ e.entryId))
  .ok (t.count e)

/-- One iteration of the stream. -/
def LedgerAudit.read (t : LedgerAudit) (row : HistoryRow) : Except PyError LedgerAudit := do
  let t ← if t.current.map JournalRow.journalId = some row.journal.journalId then .ok t
    else t.openJournal cfg subjectId row
  match row.entry with
  | none => .ok t
  | some e => t.addEntry cfg subjectId row.journal e

structure EconomyCounts where
  bounties : Nat
  submissions : Nat
  orders : Nat
  journals : Nat
  entries : Nat

def verifyIntegrity : Except PyError EconomyCounts := do
  validateSubjectId subjectId
  let policy ← orRaise (db.policyRow subjectId)
    (.integrityError ("wallet payment policy is missing: " ++ subjectId))
  raiseIf (policy.policyVersion < 1 ∨ policy.terms.isValid = false)
    (.integrityError ("wallet payment policy is malformed: " ++ subjectId))
  raiseIf (policy.stateHash ≠ policyStateHash cfg policy)
    (.integrityError ("wallet payment policy hash mismatch: " ++ subjectId))
  let bounties := db.bounties.rows.filter (fun b => b.subjectId = subjectId)
  bounties.forM (fun b => raiseIf (b.stateHash ≠ bountyStateHashRow cfg b b.status)
    (.integrityError ("wallet bounty hash mismatch: " ++ b.bountyId)))
  let submissions := db.submissions.rows.filter (fun s => s.subjectId = subjectId)
  submissions.forM (fun s => raiseIf (s.stateHash ≠ submissionStateHashRow cfg s s.status s.decisionReason)
    (.integrityError ("wallet submission hash mismatch: " ++ s.submissionId)))
  let orders := db.orders.rows.filter (fun o => o.subjectId = subjectId)
  orders.forM (fun o => raiseIf (o.stateHash ≠ orderStateHashRow cfg o o.status none none)
    (.integrityError ("wallet payment order hash mismatch: " ++ o.orderId)))
  let t ← (history db subjectId).foldlM (LedgerAudit.read cfg subjectId) LedgerAudit.start
  t.finishJournal
  match db.entries.rows.find? (fun e => e.subjectId = subjectId ∧
      (db.journals.find? e.journalId).all (fun j => j.subjectId ≠ subjectId ∨ j.orderId ≠ e.orderId)) with
  | some orphan => .error (.integrityError ("wallet ledger entry has invalid journal: " ++ orphan.entryId))
  | none => do
    raiseIf (t.entryCount ≠ (db.entries.rows.filter (fun e => e.subjectId = subjectId)).length)
      (.integrityError "wallet ledger entry count is inconsistent")
    .ok ⟨bounties.length, submissions.length, orders.length, t.journalCount, t.entryCount⟩

/-- The attempts of an execution that carry its subject. -/
def attemptsOf (e : ExecutionRow) : List AttemptRow :=
  db.attempts.rows.filter (fun a => a.executionId = e.executionId ∧ a.subjectId = e.subjectId)

/-- The checks on one execution row. -/
def verifyExecution (e : ExecutionRow) : Except PyError Unit := do
  raiseIf (e.stateHash ≠ executionHash cfg e)
    (.integrityError ("wallet execution hash mismatch: " ++ e.executionId))
  let attempts := attemptsOf db e
  let numbers := attempts.map AttemptRow.attemptNumber
  raiseIf (attempts.length ≠ e.attemptCount ∨ numbers.min? ≠ some 1 ∨ numbers.max? ≠ some e.attemptCount ∨
      (attempts.find? (fun a => a.attemptNumber = e.attemptCount)).map AttemptRow.status ≠ some e.status)
    (.integrityError ("wallet execution attempt chain mismatch: " ++ e.executionId))
  raiseIf ((db.orders.find? e.orderId).all (fun o => o.subjectId ≠ subjectId ∨
      ¬(o.status = e.status.order ∨ (o.status = .refunded ∧ e.status ∈ [ExecutionStatus.failed, .unknown]))))
    (.integrityError ("wallet execution order mismatch: " ++ e.executionId))

def verifyDatabaseIntegrity : Except PyError (Nat × Nat) := do
  validateSubjectId subjectId
  let executions := db.executions.rows.filter (fun e => e.subjectId = subjectId)
  executions.forM (verifyExecution cfg db subjectId)
  let attempts := db.attempts.rows.filter (fun a => a.subjectId = subjectId)
  attempts.forM (fun a => raiseIf (a.stateHash ≠ attemptHash cfg a)
    (.integrityError ("wallet execution attempt hash mismatch: " ++ a.attemptId)))
  .ok (executions.length, attempts.length)

end

end Noyra.Wallet
