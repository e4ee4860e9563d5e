import Noyra.Wallet.Policy

/-!
# Bounties, payment orders and the ledger

`WalletEconomyStore`: every public operation is one transaction, a function from the database to an
exception or a new database. Readings are numbered in the order in which the source takes them.
-/

namespace Noyra.Wallet
open Noyra.Lib

def newId (stem : String) (r : Reading) : Id := stem ++ "_" ++ r.uuid

/-- `_audit`. -/
def audit (db : DB) (r : Reading) (subjectId : Id) (action actor : String) (payload : Json) : DB :=
  { db with audits := db.audits ++ [⟨newId "audit" r, subjectId, action, actor, payload, r.utc⟩] }

structure BountyInput where
  title : String
  description : String
  acceptanceCriteria : List String
  networkId : Id
  assetId : Id
  rewardAmount : Nat
  opensAt : Time
  expiresAt : Time
  maxSubmissions : Nat
  rewardSlots : Nat
  projectId : Option Id
  goalId : Option Id
  idempotencyKey : String
  text : title ≠ "" ∧ strip title = title ∧ longerThan 240 title = false ∧
    description ≠ "" ∧ strip description = description ∧ longerThan 20000 description = false
  criteria : acceptanceCriteria ≠ [] ∧ acceptanceCriteria.length ≤ 32 ∧ acceptanceCriteria.Nodup ∧
    ∀ c ∈ acceptanceCriteria, c ≠ "" ∧ strip c = c ∧ longerThan 2000 c = false
  ids : isIdentifier networkId ∧ isIdentifier assetId ∧ isIdentifier idempotencyKey ∧
    (∀ p ∈ projectId, isIdentifier p) ∧ ∀ g ∈ goalId, isIdentifier g
  amount : 0 < rewardAmount ∧ rewardAmount ≤ sqliteInt64Max
  window : opensAt < expiresAt ∧ (projectId ≠ none ∨ goalId ≠ none)
  slots : 1 ≤ rewardSlots ∧ rewardSlots ≤ maxSubmissions ∧ maxSubmissions ≤ 10000

structure SubmissionInput where
  counterparty : String
  content : String
  evidence : List String
  recipientAddress : String
  idempotencyKey : String
  consentVersion : Nat
  text : counterparty ≠ "" ∧ strip counterparty = counterparty ∧ longerThan 256 counterparty = false ∧
    content ≠ "" ∧ strip content = content ∧ longerThan 20000 content = false
  evidenceValues : evidence.length ≤ 32 ∧ ∀ e ∈ evidence, e ≠ "" ∧ strip e = e ∧ longerThan 2000 e = false
  address : isCanonicalAddress recipientAddress
  key : isIdentifier idempotencyKey
  consent : 1 ≤ consentVersion ∧ consentVersion ≤ 1000

structure PaymentPolicyInput where
  terms : PolicyTerms
  automationEnabled : Option Bool
  valid : terms.isValid = true

section
variable (cfg : Config)

/-- `_effective_bounty_status`. -/
def effectiveBountyStatus (b : BountyRow) (clock : Time) : BountyStatus :=
  if b.status ∈ [BountyStatus.draft, .published, .closed] ∧ b.expiresAt ≤ clock then .expired
  else b.status

/-- `_set_bounty_status`. -/
def setBountyStatus (db : DB) (r : Readings) (row : BountyRow) (target : BountyStatus)
    (reason actor : String) : Except PyError DB :=
  let db := audit db (r 1) row.subjectId ("wallet_bounty_" ++ target.text) actor
    (.obj [("bounty_id", .str row.bountyId), ("from", .str row.status.text), ("to", .str target.text),
      ("reason", .str reason)])
  db.updateBounty { row with
    status := target, stateHash := bountyStateHashRow cfg row target, updatedAt := (r 0).clock }

/-- A bounty found to have expired is marked so before anything else. -/
def expireIfDue (db : DB) (r : Readings) (row : BountyRow) (status : BountyStatus) (reason actor : String) :
    Except PyError DB :=
  if status ≠ row.status then setBountyStatus cfg db r row status reason actor else .ok db

/-- The inserted row is compared with the proposal when an idempotency key is used again. -/
def bountyEquivalent (b : BountyRow) (p : BountyInput) : Bool :=
  b.title == p.title && b.description == p.description &&
    b.acceptanceCriteria == p.acceptanceCriteria && b.networkId == p.networkId &&
    b.assetId == p.assetId && b.rewardAmount == p.rewardAmount && b.opensAt == p.opensAt &&
    b.expiresAt == p.expiresAt && b.maxSubmissions == p.maxSubmissions &&
    b.rewardSlots == p.rewardSlots && b.projectId == p.projectId && b.goalId == p.goalId

/-- `_bounty_payload`. -/
def bountyPayload (b : BountyRow) : Json :=
  .obj [("bounty_id", .str b.bountyId), ("subject_id", .str b.subjectId),
    ("project_id", .opt .str b.projectId), ("goal_id", .opt .str b.goalId),
    ("idempotency_key", .str b.idempotencyKey), ("title", .str b.title),
    ("description", .str b.description), ("acceptance_criteria", .strs b.acceptanceCriteria),
    ("network_id", .str b.networkId), ("asset_id", .str b.assetId),
    ("reward_amount", .amount b.rewardAmount), ("opens_at", .time b.opensAt),
    ("expires_at", .time b.expiresAt), ("max_submissions", .nat b.maxSubmissions),
    ("reward_slots", .nat b.rewardSlots), ("status", .str "draft"), ("created_at", .time b.createdAt)]

/-- `create_bounty`; the owners are what the project and goal tables hold for the named provenance. -/
def createBounty (db : DB) (r : Readings) (subjectId : Id) (proposal : BountyInput) (actor : String)
    (projectOwner goalOwner : Option Id) : Except PyError (BountyRow × DB) := do
  let actor ← operator actor
  validateSubjectId subjectId
  let network ← db.networkRow proposal.networkId subjectId
  let asset ← db.assetRow proposal.assetId subjectId
  raiseIf (network.status ≠ .active ∨ asset.status ≠ .active ∨ asset.networkId ≠ proposal.networkId)
    (.valueError "wallet network or asset is not active")
  raiseIf (proposal.projectId.isSome ∧ projectOwner ≠ some subjectId)
    (.valueError "bounty project provenance is invalid")
  raiseIf (proposal.goalId.isSome ∧ goalOwner ≠ some subjectId)
    (.valueError "bounty goal provenance is invalid")
  match db.bounties.rows.find? (fun b => b.subjectId = subjectId ∧
      b.idempotencyKey = proposal.idempotencyKey) with
  | some existing =>
    raiseIf (bountyEquivalent existing proposal = false)
      (.valueError "bounty idempotency key conflicts with different input")
    .ok (existing, db)
  | none =>
    let draft : BountyRow :=
      { bountyId := newId "bounty" (r 1), subjectId, projectId := proposal.projectId,
        goalId := proposal.goalId, idempotencyKey := proposal.idempotencyKey, title := proposal.title,
        description := proposal.description, acceptanceCriteria := proposal.acceptanceCriteria,
        networkId := proposal.networkId, assetId := proposal.assetId,
        rewardAmount := proposal.rewardAmount, opensAt := proposal.opensAt,
        expiresAt := proposal.expiresAt, maxSubmissions := proposal.maxSubmissions,
        rewardSlots := proposal.rewardSlots, status := .draft, stateHash := "",
        createdAt := (r 0).clock, updatedAt := (r 0).clock }
    let row := { draft with stateHash := bountyStateHashRow cfg draft .draft }
    let db := audit db (r 2) subjectId "wallet_bounty_created" actor (bountyPayload row)
    let db ← db.insertBounty row
    .ok (row, db)

/-- `_transition_bounty`, with `publish_bounty`, `close_bounty` and `cancel_bounty` as its targets. -/
def transitionBounty (db : DB) (r : Readings) (bountyId subjectId : Id) (target : BountyStatus)
    (actor : String) : Except PyError DB := do
  let actor ← operator actor
  validateSubjectId subjectId
  let row ← orRaise ((db.bounties.find? bountyId).filter (fun b => b.subjectId = subjectId))
    (.notFoundError "wallet bounty not found")
  let db ← expireIfDue cfg db (r.drop 1) row (effectiveBountyStatus row (r 0).clock) "expired" actor
  let row ← orRaise (db.bounties.find? bountyId) (.notFoundError "wallet bounty not found")
  raiseIf (target ∉ bountyTransitions row.status)
    (.invalidTransitionError "wallet bounty transition is invalid")
  setBountyStatus cfg db (r.drop 3) row target target.text actor

/-- The loop of `maintain_expired_bounties`; each iteration uses two readings. -/
def expireBounties (now : Time) : DB → Readings → List BountyRow → Except PyError DB
  | db, _, [] => .ok db
  | db, r, row :: rows =>
    if row.expiresAt ≤ now then do
      let db ← setBountyStatus cfg db r row .expired "expiry" "system"
      expireBounties now db (r.drop 2) rows
    else expireBounties now db (r.drop 2) rows

/-- `maintain_expired_bounties`. The selection compares timestamp texts, the loop parsed times. -/
def maintainExpiredBounties (db : DB) (r : Readings) (subjectId : Id) (limit : Nat) :
    Except PyError DB := do
  raiseIf (limit < 1 ∨ 1000 < limit) (.valueError "invalid bounty expiry maintenance limit")
  let now := (r 0).clock
  let due := (db.bounties.rows.filter (fun b => b.subjectId = subjectId ∧
    b.status ∈ [BountyStatus.draft, .published, .closed] ∧ isoTextLe b.expiresAt now)).insertionSort
      (fun a b => a.expiresAt < b.expiresAt ∨ (a.expiresAt = b.expiresAt ∧ a.bountyId ≤ b.bountyId))
  expireBounties cfg now db (r.drop 1) (due.take limit)

/-- The row `_transition_order` writes. -/
def movedOrder (row : OrderRow) (target : OrderStatus) (now : Time) : OrderRow :=
  let authorizedAt := if target = .reserved then some now else row.authorizedAt
  { row with
    status := target, authorizedAt, updatedAt := now,
    stateHash := orderStateHashRow cfg row target authorizedAt (some now) }

/-- `_transition_order`. -/
def transitionOrder (db : DB) (r : Readings) (row : OrderRow) (target : OrderStatus)
    (actor reason : String) : Except PyError DB := do
  raiseIf (target ∉ orderTransitions row.status)
    (.invalidTransitionError "payment order transition is invalid")
  let db := audit db (r 1) row.subjectId ("wallet_payment_order_" ++ target.text) actor
    (.obj [("order_id", .str row.orderId), ("from", .str row.status.text), ("to", .str target.text),
      ("reason", .str reason)])
  db.updateOrder (movedOrder cfg row target (r 0).clock)

/-- The two legs of a journal, debit first. -/
def journalLegs : JournalType → (Account × Direction) × (Account × Direction)
  | .reservation => ((.available, .debit), (.reserved, .credit))
  | .release => ((.reserved, .debit), (.released, .credit))
  | .settlement => ((.reserved, .debit), (.paid, .credit))
  | .refund => ((.reserved, .debit), (.released, .credit))

/-- The header of a posted journal. -/
def journalOf (row : OrderRow) (journalType : JournalType) (journalId : Id) (now : Time) : JournalRow :=
  let j : JournalRow :=
    { journalId, subjectId := row.subjectId, orderId := row.orderId, networkId := row.networkId,
      assetId := row.assetId, journalType, amount := row.amount, createdAt := now, stateHash := "" }
  { j with stateHash := walletJournalHash cfg j }

/-- One leg of a posted journal. -/
def entryOf (j : JournalRow) (entryId : Id) (leg : Account × Direction) : EntryRow :=
  let e : EntryRow :=
    { entryId, journalId := j.journalId, subjectId := j.subjectId, orderId := j.orderId,
      account := leg.1, direction := leg.2, amount := j.amount, createdAt := j.createdAt,
      stateHash := "" }
  { e with stateHash := walletEntryHash cfg e }

/-- `_post_order_journal`. The legs are those of the type at every call of the source. -/
def postOrderJournal (db : DB) (r : Readings) (row : OrderRow) (journalType : JournalType) :
    Except PyError DB := do
  raiseIf (∃ j ∈ db.journals.rows, j.orderId = row.orderId ∧ j.journalType = journalType)
    (.invalidTransitionError ("order " ++ journalType.text ++ " journal already exists"))
  let journal := journalOf cfg row journalType (newId "journal" (r 1)) (r 0).clock
  let db ← db.insertJournal journal
  let db ← db.insertEntry (entryOf cfg journal (newId "entry" (r 2)) (journalLegs journalType).1)
  db.insertEntry (entryOf cfg journal (newId "entry" (r 3)) (journalLegs journalType).2)

/-- `_reserve_order`. -/
def reserveOrder (db : DB) (r : Readings) (row : OrderRow) (actor : String) : Except PyError DB := do
  raiseIf (policyAllows db (r 0) row (db.policyRow row.subjectId) none = false)
    (.valueError "payment policy denied reservation")
  let db ← transitionOrder cfg db (r.drop 1) row .reserved actor "funds reserved"
  postOrderJournal cfg db (r.drop 3) row .reservation

/-- `_release_order`. -/
def releaseOrder (db : DB) (r : Readings) (row : OrderRow) (actor reason : String) :
    Except PyError DB := do
  let db ← transitionOrder cfg db r row .cancelled actor reason
  postOrderJournal cfg db (r.drop 2) row .release

/-- The order `_ensure_order` inserts. -/
def pendingOrder (r : Readings) (s : SubmissionRow) (b : BountyRow) (policy : Option PolicyRow) : OrderRow :=
  let o : OrderRow :=
    { orderId := newId "payorder" (r 0), subjectId := s.subjectId, bountyId := s.bountyId,
      submissionId := s.submissionId, networkId := b.networkId, assetId := b.assetId,
      recipientAddress := s.recipientAddress, amount := b.rewardAmount,
      paymentMode := (policy.map (fun p => p.terms.mode)).getD .disabled,
      policyVersion := (policy.map PolicyRow.policyVersion).getD 1,
      idempotencyKey := s.bountyId ++ ":" ++ s.submissionId, authorizedAt := none,
      status := .pendingPolicy, stateHash := "", createdAt := (r 1).clock, updatedAt := (r 1).clock }
  { o with stateHash := orderTemporalHash cfg o .pendingPolicy none o.updatedAt }

/-- The first decision on a new order. -/
def decideOrder (db : DB) (r : Readings) (row : OrderRow) (policy : Option PolicyRow) :
    Except PyError DB :=
  match row.paymentMode with
  | .disabled => transitionOrder cfg db r row .rejected "system" "payment policy disabled"
  | .conditionalConfirmation =>
    transitionOrder cfg db r row .awaitingConfirmation "system" "confirmation required"
  | .automatic =>
    if policyAllows db (r 0) row policy none = false then
      transitionOrder cfg db (r.drop 1) row .rejected "system" "payment policy denied"
    else reserveOrder cfg db (r.drop 1) row "system"

/-- `_ensure_order`. -/
def ensureOrder (db : DB) (r : Readings) (s : SubmissionRow) : Except PyError DB :=
  if ∃ o ∈ db.orders.rows, o.submissionId = s.submissionId then .ok db
  else do
    let bounty ← orRaise (db.bounties.find? s.bountyId) (.typeError "'NoneType' object is not subscriptable")
    let policy := db.policyRow s.subjectId
    let row := pendingOrder cfg r s bounty policy
    let db := audit db (r 2) s.subjectId "wallet_payment_order_created" "system"
      (.obj [("submission_id", .str s.submissionId), ("amount", .amount bounty.rewardAmount)])
    let db ← db.insertOrder row
    decideOrder cfg db (r.drop 3) row policy

/-- `_submission_input_matches`. -/
def submissionInputMatches (s : SubmissionRow) (p : SubmissionInput) : Bool :=
  s.counterparty == p.counterparty && s.content == p.content && s.evidence == p.evidence &&
    s.recipientAddress == p.recipientAddress && s.consentVersion == p.consentVersion

/-- `submit_to_bounty`. -/
def submitToBounty (db : DB) (r : Readings) (bountyId subjectId : Id) (proposal : SubmissionInput) :
    Except PyError (SubmissionRow × DB) := do
  validateSubjectId subjectId
  let now := (r 0).clock
  let bounty ← orRaise ((db.bounties.find? bountyId).filter (fun b => b.subjectId = subjectId))
    (.notFoundError "wallet bounty not found")
  match db.submissions.rows.find? (fun s => s.subjectId = subjectId ∧ s.bountyId = bountyId ∧
      s.idempotencyKey = proposal.idempotencyKey) with
  | some existing =>
    raiseIf (submissionInputMatches existing proposal = false)
      (.valueError "submission idempotency key conflicts with different input")
    .ok (existing, db)
  | none =>
    let status := effectiveBountyStatus bounty (r 1).clock
    let db ← expireIfDue cfg db (r.drop 2) bounty status "expiry" "system"
    raiseIf (status ≠ .published ∨ now < bounty.opensAt) (.valueError "bounty is not accepting submissions")
    raiseIf ((db.submissions.rows.filter (fun s => s.bountyId = bountyId ∧
        s.status ∈ [SubmissionStatus.submitted, .accepted])).length ≥ bounty.maxSubmissions)
      (.valueError "bounty submission limit reached")
    let blank : SubmissionRow :=
      { submissionId := newId "submission" (r 4), bountyId, subjectId,
        counterparty := proposal.counterparty, content := proposal.content,
        evidence := proposal.evidence, recipientAddress := proposal.recipientAddress,
        idempotencyKey := proposal.idempotencyKey, consentVersion := proposal.consentVersion,
        status := .submitted, decisionReason := none, createdAt := now, decidedAt := none,
        stateHash := "" }
    let row := { blank with stateHash := submissionStateHashRow cfg blank .submitted none }
    let db := audit db (r 5) subjectId "wallet_bounty_submission_created" "visitor"
      (.obj [("submission_id", .str row.submissionId), ("bounty_id", .str bountyId),
        ("subject_id", .str subjectId), ("counterparty", .str row.counterparty),
        ("content", .str row.content), ("evidence", .strs row.evidence),
        ("recipient_address", .str row.recipientAddress), ("idempotency_key", .str row.idempotencyKey),
        ("consent_version", .nat row.consentVersion)])
    let db ← db.insertSubmission row
    .ok (row, db)

/-- `_decide_submission_connection`. -/
def decideSubmissionConnection (db : DB) (r : Readings) (submissionId subjectId : Id) (accepted : Bool)
    (reason actor : String) : Except PyError (SubmissionRow × DB) := do
  let row ← orRaise ((db.submissions.find? submissionId).filter (fun s => s.subjectId = subjectId))
    (.notFoundError "wallet submission not found")
  raiseIf (row.status ≠ .submitted) (.invalidTransitionError "submission already decided")
  let bounty ← orRaise ((db.bounties.find? row.bountyId).filter (fun b => b.subjectId = subjectId))
    (.integrityError "submission bounty reference is invalid")
  raiseIf (accepted ∧ (db.submissions.rows.filter (fun s => s.bountyId = row.bountyId ∧
      s.status = .accepted)).length ≥ bounty.rewardSlots)
    (.valueError "bounty reward slots are exhausted")
  let target : SubmissionStatus := if accepted then .accepted else .rejected
  let db := audit db (r 1) subjectId ("wallet_submission_" ++ target.text) actor
    (.obj [("submission_id", .str submissionId), ("from", .str "submitted"), ("to", .str target.text),
      ("reason", .str reason)])
  let decided := { row with
    status := target, decisionReason := some reason, decidedAt := some (r 0).clock,
    stateHash := submissionStateHashRow cfg row target (some reason) }
  let db ← db.updateSubmission decided
  if accepted then do
    let db ← ensureOrder cfg db (r.drop 2) decided
    .ok (decided, db)
  else .ok (decided, db)

/-- `decide_submission`. -/
def decideSubmission (db : DB) (r : Readings) (submissionId subjectId : Id) (accepted : Bool)
    (reason actor : String) : Except PyError (SubmissionRow × DB) := do
  let actor ← operator actor
  validateSubjectId subjectId
  let reason ← reasonText reason "submission decision reason is invalid" 2000
  decideSubmissionConnection cfg db r submissionId subjectId accepted reason actor

/-- `withdraw_submission`. -/
def withdrawSubmission (db : DB) (r : Readings) (submissionId subjectId : Id) (actor : String) :
    Except PyError (SubmissionRow × DB) := do
  validateSubjectId subjectId
  let row ← orRaise ((db.submissions.find? submissionId).filter (fun s => s.subjectId = subjectId))
    (.notFoundError "wallet submission not found")
  raiseIf (row.status ≠ .submitted) (.invalidTransitionError "submission cannot be withdrawn")
  let db := audit db (r 1) subjectId "wallet_submission_withdrawn" actor
    (.obj [("submission_id", .str submissionId), ("from", .str "submitted"), ("to", .str "withdrawn")])
  let withdrawn := { row with
    status := .withdrawn, decisionReason := some "withdrawn", decidedAt := some (r 0).clock,
    stateHash := submissionStateHashRow cfg row .withdrawn (some "withdrawn") }
  let db ← db.updateSubmission withdrawn
  .ok (withdrawn, db)

structure AutomationRequest where
  idempotencyKey : String
  requestDigest : String

/-- The row `_insert_policy` writes. -/
def policyOf (subjectId : Id) (p : PaymentPolicyInput) (version : Nat) (now : Time) : PolicyRow :=
  let row : PolicyRow :=
    { subjectId, terms := p.terms,
      automationEnabled := p.automationEnabled.getD (p.terms.mode == .automatic),
      policyVersion := version, updatedAt := now, stateHash := "" }
  { row with stateHash := policyStateHash cfg row }

/-- The payload of the audit record of an earlier automation request with the same key. -/
def automationDuplicate (db : DB) (subjectId : Id) (key : String) : Option Json :=
  (db.audits.find? (fun a => a.subjectId = subjectId ∧ a.action = "wallet_automation_updated" ∧
    a.payload.strField "idempotency_key" = some key)).map AuditRecord.payload

/-- The write of `update_policy`, after the version check. -/
def applyPolicy (db : DB) (r : Readings) (subjectId : Id) (proposal : PaymentPolicyInput)
    (current : Nat) (actor : String) (request : Option AutomationRequest) :
    Except PyError (PolicyRow × DB) := do
  raiseIf (proposal.terms.mode = .automatic ∧ proposal.automationEnabled ≠ some false ∧
      proposal.terms.emergencyPaused = false ∧ (r 0).activation = false)
    (.valueError "automatic payment activation evidence is missing")
  let row := policyOf cfg subjectId proposal (current + 1) (r 1).clock
  let db := audit (db.upsertPolicy row) (r 2) subjectId "wallet_payment_policy_updated" actor
    (.obj [("policy_version", .nat (current + 1)), ("mode", .str proposal.terms.mode.text)])
  match request with
  | none => .ok (row, db)
  | some q =>
    .ok (row, audit db (r 3) subjectId "wallet_automation_updated" actor
      (.obj [("idempotency_key", .str q.idempotencyKey), ("request_digest", .str q.requestDigest),
        ("policy_version", .nat (current + 1))]))

/-- `update_policy`. -/
def updatePolicy (db : DB) (r : Readings) (subjectId : Id) (proposal : PaymentPolicyInput)
    (expectedVersion : Nat) (actor : String) (request : Option AutomationRequest) :
    Except PyError (PolicyRow × DB) := do
  let actor ← operator actor
  validateSubjectId subjectId
  raiseIf (expectedVersion < 1) (.valueError "invalid policy version")
  raiseIf (proposal.terms.mode = .automatic ∧
      (proposal.terms.perOrderLimit = 0 ∨ proposal.terms.dailyLimit = 0))
    (.valueError "automatic payment requires per-order and daily amount limits")
  let row := db.policyRow subjectId
  match request.bind (fun q => (automationDuplicate db subjectId q.idempotencyKey).map (fun d => (q, d))) with
  | some (q, recorded) => do
    raiseIf (recorded.strField "request_digest" ≠ some q.requestDigest)
      (.valueError "wallet automation idempotency conflict")
    let row ← orRaise row (.integrityError "wallet payment policy is missing")
    .ok (row, db)
  | none => do
    let current := (row.map PolicyRow.policyVersion).getD 1
    raiseIf (expectedVersion ≠ current) (.valueError "wallet payment policy version conflict")
    applyPolicy cfg db r subjectId proposal current actor request

/-- `confirm_order`. -/
def confirmOrder (db : DB) (r : Readings) (orderId subjectId : Id) (actor : String) :
    Except PyError DB := do
  let actor ← operator actor
  let row ← db.orderRow orderId subjectId
  raiseIf (row.status ≠ .awaitingConfirmation)
    (.invalidTransitionError "order is not awaiting confirmation")
  reserveOrder cfg db r row actor

/-- `reject_order`. -/
def rejectOrder (db : DB) (r : Readings) (orderId subjectId : Id) (actor reason : String) :
    Except PyError DB := do
  let actor ← operator actor
  let row ← db.orderRow orderId subjectId
  raiseIf (row.status ∉ [OrderStatus.pendingPolicy, .awaitingConfirmation])
    (.invalidTransitionError "order cannot be rejected")
  transitionOrder cfg db r row .rejected actor reason

/-- `cancel_order`. -/
def cancelOrder (db : DB) (r : Readings) (orderId subjectId : Id) (actor reason : String) :
    Except PyError DB := do
  let actor ← operator actor
  let row ← db.orderRow orderId subjectId
  if row.status = .reserved then releaseOrder cfg db r row actor reason
  else do
    raiseIf (row.status ∉ [OrderStatus.pendingPolicy, .awaitingConfirmation])
      (.invalidTransitionError "order cannot be cancelled")
    transitionOrder cfg db r row .cancelled actor reason

/-- An execution that old releases may have closed without evidence. -/
def legacyUnresolved (db : DB) (e : ExecutionRow) : Bool :=
  db.orders.rows.any (fun o => o.orderId = e.orderId ∧ o.subjectId = e.subjectId ∧
    ((e.status = .failed ∧ e.receipt.status = none ∧
        db.attempts.rows.any (fun a => a.executionId = e.executionId ∧ a.subjectId = e.subjectId ∧
          a.attemptNumber < e.attemptCount ∧ a.status ∈ [ExecutionStatus.unknown, .broadcast])) ∨
      (o.status = .refunded ∧ e.status ∈ [ExecutionStatus.signing, .broadcast, .unknown])))

/-- `_require_resolved_legacy_payments`. -/
def requireResolvedLegacyPayments (db : DB) (subjectId networkId : Id) : Except PyError Unit :=
  raiseIf (∃ e ∈ db.executions.rows, e.subjectId = subjectId ∧ e.networkId = networkId ∧
      legacyUnresolved db e)
    (.integrityError "legacy wallet payment has unresolved broadcasts; recovery required")

/-- `refund_order`. -/
def refundOrder (db : DB) (r : Readings) (orderId subjectId : Id) (actor reason : String) :
    Except PyError DB := do
  let actor ← operator actor
  let reason ← reasonText reason "refund reason is invalid" 2000
  let row ← db.orderRow orderId subjectId
  requireResolvedLegacyPayments db subjectId row.networkId
  raiseIf (row.status ≠ .failed) (.invalidTransitionError "order cannot be refunded")
  let db ← transitionOrder cfg db r row .refunded actor reason
  postOrderJournal cfg db (r.drop 2) row .refund

end

end Noyra.Wallet
