import Noyra.Wallet.System

/-!
# Reward workflows

`WalletRewardWorkflow`: a bounty published for an assistance request, its submissions with the source they
came from, and the incidents that stop it. Each operation is one transaction over the wallet tables and its
own. Tables of other subsystems that it only reads (projects, posts, inbound events) are inputs.
-/

namespace Noyra.Wallet
open Noyra.Lib

inductive WorkflowStatus
  | awaitingPublication | opened | closed | cancelled | manualIntervention
  deriving DecidableEq

def WorkflowStatus.text : WorkflowStatus → String
  | .awaitingPublication => "awaiting_publication"
  | .opened => "open"
  | .closed => "closed"
  | .cancelled => "cancelled"
  | .manualIntervention => "manual_intervention"

inductive VerificationStatus
  | pendingVerification | accepted | rejected | manualIntervention
  deriving DecidableEq

def VerificationStatus.text : VerificationStatus → String
  | .pendingVerification => "pending_verification"
  | .accepted => "accepted"
  | .rejected => "rejected"
  | .manualIntervention => "manual_intervention"

inductive SourceType
  | publicForm | inboundEvent
  deriving DecidableEq

def SourceType.text : SourceType → String
  | .publicForm => "public_form"
  | .inboundEvent => "inbound_event"

inductive IncidentKind
  | sourceMismatch | evidenceMismatch | paymentUnknown | chainReorganization | recoveryMismatch
  | signerRejection | broadcastUnknown | receiptChainUnknown
  deriving DecidableEq

def IncidentKind.text : IncidentKind → String
  | .sourceMismatch => "source_mismatch"
  | .evidenceMismatch => "evidence_mismatch"
  | .paymentUnknown => "payment_unknown"
  | .chainReorganization => "chain_reorganization"
  | .recoveryMismatch => "recovery_mismatch"
  | .signerRejection => "signer_rejection"
  | .broadcastUnknown => "broadcast_unknown"
  | .receiptChainUnknown => "receipt_chain_unknown"

inductive RequestStatus
  | opened | resolved | withdrawn
  deriving DecidableEq

/-- `autonomous_project_assistance_requests`. -/
structure RequestRow where
  requestId : Id
  subjectId : Id
  projectId : Id
  phaseId : Id
  title : String
  publicSummary : String
  status : RequestStatus
  deriving DecidableEq

structure WorkflowRow where
  workflowId : Id
  subjectId : Id
  assistanceRequestId : Id
  projectId : Id
  phaseId : Id
  goalId : Id
  postId : Id
  bountyId : Id
  idempotencyKey : String
  status : WorkflowStatus
  manualReason : Option String
  stateHash : String
  lastAuditId : Id
  createdAt : Time
  updatedAt : Time
  deriving DecidableEq

structure LinkRow where
  submissionId : Id
  workflowId : Id
  subjectId : Id
  sourceType : SourceType
  inboundEventId : Option Id
  interactionId : Option Id
  claimedNetworkId : Id
  sourceContentHash : String
  verificationStatus : VerificationStatus
  criteriaResults : Option (List Bool)
  verificationReason : Option String
  verifiedBy : Option String
  decisionKey : Option String
  stateHash : String
  createdAt : Time
  updatedAt : Time
  deriving DecidableEq

structure IncidentRow where
  incidentId : Id
  subjectId : Id
  workflowId : Id
  submissionId : Option Id
  executionId : Option Id
  kind : IncidentKind
  idempotencyKey : String
  resolved : Bool
  reason : String
  resolution : Option String
  resolutionKey : Option String
  stateHash : String
  createdAt : Time
  updatedAt : Time
  deriving DecidableEq

structure RewardDb where
  db : DB
  requests : Table RequestRow.requestId
  workflows : Table WorkflowRow.workflowId
  links : Table LinkRow.submissionId
  incidents : Table IncidentRow.incidentId

/-- `validate_wallet_reward_workflow_transition`. -/
def workflowTransitions : WorkflowStatus → List WorkflowStatus
  | .awaitingPublication => [.opened, .cancelled, .manualIntervention]
  | .opened => [.closed, .cancelled, .manualIntervention]
  | .manualIntervention => [.opened, .closed, .cancelled]
  | .closed => []
  | .cancelled => []

/-- `validate_wallet_reward_submission_link_transition`. -/
def linkTransitions : VerificationStatus → List VerificationStatus
  | .pendingVerification => [.accepted, .rejected, .manualIntervention]
  | _ => []

/-- The submission status a link status has to agree with. -/
def VerificationStatus.submission : VerificationStatus → Option SubmissionStatus
  | .accepted => some .accepted
  | .rejected => some .rejected
  | _ => none

namespace RewardDb

def audit (d : RewardDb) (r : Reading) (subjectId : Id) (action actor : String) (payload : Json) : RewardDb :=
  { d with db := Wallet.audit d.db r subjectId action actor payload }

def insertWorkflow (d : RewardDb) (row : WorkflowRow) : Except PyError RewardDb := do
  raiseIf (∃ w ∈ d.workflows.rows, w.assistanceRequestId = row.assistanceRequestId ∨ w.postId = row.postId ∨
      w.bountyId = row.bountyId ∨ (w.subjectId = row.subjectId ∧ w.idempotencyKey = row.idempotencyKey))
    (.sqliteIntegrityError "UNIQUE constraint failed: wallet_reward_workflows")
  let workflows ← orRaise (d.workflows.insert? row) (.sqliteIntegrityError "wallet_reward_workflows.workflow_id")
  .ok { d with workflows }

def updateWorkflow (d : RewardDb) (row : WorkflowRow) : Except PyError RewardDb := do
  raiseIf (∃ old ∈ d.workflows.find? row.workflowId, row.status ∉ workflowTransitions old.status)
    (.sqliteIntegrityError "wallet reward workflow transition is invalid")
  .ok { d with workflows := d.workflows.replace row }

def insertLink (d : RewardDb) (row : LinkRow) : Except PyError RewardDb := do
  raiseIf (¬∃ s ∈ d.db.submissions.rows, s.submissionId = row.submissionId ∧ s.subjectId = row.subjectId ∧
      ∃ w ∈ d.workflows.rows, w.workflowId = row.workflowId ∧ s.bountyId = w.bountyId)
    (.sqliteIntegrityError "wallet reward submission provenance mismatch")
  raiseIf (∃ l ∈ d.links.rows, l.subjectId = row.subjectId ∧ l.inboundEventId.isSome ∧
      l.inboundEventId = row.inboundEventId)
    (.sqliteIntegrityError "UNIQUE constraint failed: wallet_reward_submission_links")
  let links ← orRaise (d.links.insert? row) (.sqliteIntegrityError "wallet_reward_submission_links.submission_id")
  .ok { d with links }

def updateLink (d : RewardDb) (row : LinkRow) : Except PyError RewardDb := do
  raiseIf (∃ old ∈ d.links.find? row.submissionId, row.verificationStatus ∉ linkTransitions old.verificationStatus)
    (.sqliteIntegrityError "wallet reward submission link transition is invalid")
  raiseIf (∃ target ∈ row.verificationStatus.submission,
      ¬∃ s ∈ d.db.submissions.rows, s.submissionId = row.submissionId ∧ s.status = target)
    (.sqliteIntegrityError "wallet reward submission status mismatch")
  .ok { d with links := d.links.replace row }

def insertIncident (d : RewardDb) (row : IncidentRow) : Except PyError RewardDb := do
  raiseIf ((¬∃ w ∈ d.workflows.rows, w.workflowId = row.workflowId ∧ w.subjectId = row.subjectId) ∨
      (∃ id ∈ row.submissionId, ¬∃ s ∈ d.db.submissions.rows, s.submissionId = id ∧ s.subjectId = row.subjectId) ∨
      (∃ id ∈ row.executionId, ¬∃ e ∈ d.db.executions.rows, e.executionId = id ∧ e.subjectId = row.subjectId))
    (.sqliteIntegrityError "wallet reward incident provenance mismatch")
  raiseIf (∃ i ∈ d.incidents.rows, i.subjectId = row.subjectId ∧ i.idempotencyKey = row.idempotencyKey)
    (.sqliteIntegrityError "UNIQUE constraint failed: wallet_reward_incidents")
  let incidents ← orRaise (d.incidents.insert? row) (.sqliteIntegrityError "wallet_reward_incidents.incident_id")
  .ok { d with incidents }

def updateIncident (d : RewardDb) (row : IncidentRow) : Except PyError RewardDb := do
  raiseIf (∃ old ∈ d.incidents.find? row.incidentId, old.resolved ∨ row.stateHash = old.stateHash)
    (.sqliteIntegrityError "wallet reward incident transition is invalid")
  .ok { d with incidents := d.incidents.replace row }

/-- `_workflow_row`. -/
def workflowRow (d : RewardDb) (workflowId subjectId : Id) : Except PyError WorkflowRow :=
  orRaise ((d.workflows.find? workflowId).filter (fun w => w.subjectId = subjectId))
    (.notFoundError "wallet reward workflow not found")

end RewardDb

/-- `RewardWorkflowInput`; the bounty it describes is validated once more as a `BountyInput`. -/
structure RewardWorkflowInput where
  assistanceRequestId : Id
  acceptanceCriteria : List String
  networkId : Id
  assetId : Id
  rewardAmount : Nat
  opensAt : Time
  expiresAt : Time
  maxSubmissions : Nat
  rewardSlots : Nat
  idempotencyKey : String

/-- `RewardPublicSubmissionInput`: a submission with the network it claims. -/
structure RewardPublicSubmissionInput where
  submission : SubmissionInput
  networkId : Id
  network_id : isIdentifier networkId

/-- A processed inbound event with its interaction, the envelope read from it, and the submission built of
both. -/
structure InboundSubmission where
  eventId : Id
  interactionId : Id
  subjectId : Id
  contentHash : String
  workflowId : Id
  networkId : Id
  submission : SubmissionInput

structure RewardEvidenceDecisionInput where
  accepted : Bool
  criteriaResults : List Bool
  reason : String
  idempotencyKey : String
  criteria : criteriaResults ≠ [] ∧ criteriaResults.length ≤ 32
  text : reason ≠ "" ∧ strip reason = reason ∧ longerThan 2000 reason = false
  key : isIdentifier idempotencyKey

/-- What `create` reads from the project tables and gets from the post store. -/
structure RewardContext where
  projectGoal : Option Id
  goalOwner : Option Id
  post : Except PyError Id

inductive PostStatus
  | pendingReview | published | other
  deriving DecidableEq

/-- `BountyInput(...)`. -/
def RewardWorkflowInput.bounty (p : RewardWorkflowInput) (request : RequestRow) (goalId : Id) : Option BountyInput :=
  let title := request.title ++ " reward"
  let description := request.publicSummary
  let key := "workflow-bounty:" ++ p.idempotencyKey
  if h : (title ≠ "" ∧ strip title = title ∧ longerThan 240 title = false ∧
        description ≠ "" ∧ strip description = description ∧ longerThan 20000 description = false) ∧
      (p.acceptanceCriteria ≠ [] ∧ p.acceptanceCriteria.length ≤ 32 ∧ p.acceptanceCriteria.Nodup ∧
        ∀ c ∈ p.acceptanceCriteria, c ≠ "" ∧ strip c = c ∧ longerThan 2000 c = false) ∧
      (isIdentifier p.networkId ∧ isIdentifier p.assetId ∧ isIdentifier key ∧
        (∀ x ∈ some request.projectId, isIdentifier x) ∧ ∀ g ∈ some goalId, isIdentifier g) ∧
      (0 < p.rewardAmount ∧ p.rewardAmount ≤ sqliteInt64Max) ∧ p.opensAt < p.expiresAt ∧
      (1 ≤ p.rewardSlots ∧ p.rewardSlots ≤ p.maxSubmissions ∧ p.maxSubmissions ≤ 10000) then
    some ⟨title, description, p.acceptanceCriteria, p.networkId, p.assetId, p.rewardAmount, p.opensAt, p.expiresAt,
      p.maxSubmissions, p.rewardSlots, some request.projectId, some goalId, key, h.1, h.2.1, h.2.2.1, h.2.2.2.1,
      ⟨h.2.2.2.2.1, by simp⟩, h.2.2.2.2.2⟩
  else none

section
variable (cfg : Config)

/-- `_workflow_hash_payload_from_row`. -/
def workflowHash (w : WorkflowRow) (status : WorkflowStatus) (manualReason : Option String) : String :=
  cfg.contentHash (.obj [("workflow_id", .str w.workflowId), ("subject_id", .str w.subjectId),
    ("assistance_request_id", .str w.assistanceRequestId), ("project_id", .str w.projectId),
    ("phase_id", .str w.phaseId), ("goal_id", .str w.goalId), ("post_id", .str w.postId),
    ("bounty_id", .str w.bountyId), ("idempotency_key", .str w.idempotencyKey), ("status", .str status.text),
    ("manual_reason", .opt .str manualReason)])

/-- `_link_hash`. -/
def linkHash (l : LinkRow) (status : VerificationStatus) (criteria : Option (List Bool))
    (reason verifiedBy : Option String) : String :=
  cfg.contentHash (.obj [("submission_id", .str l.submissionId), ("workflow_id", .str l.workflowId),
    ("subject_id", .str l.subjectId), ("source_type", .str l.sourceType.text),
    ("inbound_event_id", .opt .str l.inboundEventId), ("interaction_id", .opt .str l.interactionId),
    ("claimed_network_id", .str l.claimedNetworkId), ("source_content_hash", .str l.sourceContentHash),
    ("verification_status", .str status.text),
    ("criteria_results_json", .opt (fun c => .arr (c.map .bool)) criteria),
    ("verification_reason", .opt .str reason), ("verified_by", .opt .str verifiedBy)])

/-- `_incident_hash`. -/
def incidentHash (i : IncidentRow) (resolved : Bool) (resolution : Option String) : String :=
  cfg.contentHash (.obj [("incident_id", .str i.incidentId), ("subject_id", .str i.subjectId),
    ("workflow_id", .str i.workflowId), ("submission_id", .opt .str i.submissionId),
    ("execution_id", .opt .str i.executionId), ("kind", .str i.kind.text),
    ("idempotency_key", .str i.idempotencyKey), ("status", .str (if resolved then "resolved" else "open")),
    ("reason", .str i.reason), ("resolution", .opt .str resolution)])

/-- `_transition_workflow`. -/
def transitionWorkflow (d : RewardDb) (r : Readings) (row : WorkflowRow) (target : WorkflowStatus)
    (actor reason : String) : Except PyError RewardDb :=
  if row.status = target then .ok d
  else do
    raiseIf (target ∉ workflowTransitions row.status)
      (.invalidTransitionError "reward workflow transition is invalid")
    let d := d.audit (r 1) row.subjectId ("wallet_reward_workflow_" ++ target.text) actor
      (.obj [("workflow_id", .str row.workflowId), ("reason", .str reason)])
    let manualReason := if target = .manualIntervention then some reason else none
    d.updateWorkflow { row with
      status := target, manualReason, stateHash := workflowHash cfg row target manualReason,
      lastAuditId := newId "audit" (r 1), updatedAt := (r 0).clock }

/-- `_open_incident`, the write of `_incident_result`. -/
def openIncident (d : RewardDb) (r : Readings) (workflow : WorkflowRow) (submissionId executionId : Option Id)
    (kind : IncidentKind) (reason cause : String) : Except PyError RewardDb :=
  let key := "incident:" ++ cfg.contentHash (.obj [("workflow_id", .str workflow.workflowId),
    ("workflow_revision", .str workflow.lastAuditId), ("cause", .str cause)])
  match d.incidents.rows.find? (fun i => i.subjectId = workflow.subjectId ∧ i.idempotencyKey = key) with
  | some existing => do
    raiseIf (existing.workflowId ≠ workflow.workflowId ∨ existing.submissionId ≠ submissionId ∨
        existing.executionId ≠ executionId ∨ existing.kind ≠ kind ∨ existing.reason ≠ reason)
      (.valueError "reward incident idempotency conflict")
    .ok d
  | none => do
    let d := d.audit (r 1) workflow.subjectId "wallet_reward_incident_opened" "system"
      (.obj [("workflow_id", .str workflow.workflowId), ("kind", .str kind.text), ("reason", .str reason)])
    let blank : IncidentRow :=
      { incidentId := newId "incident" (r 2), subjectId := workflow.subjectId, workflowId := workflow.workflowId,
        submissionId, executionId, kind, idempotencyKey := key, resolved := false, reason, resolution := none,
        resolutionKey := none, stateHash := "", createdAt := (r 0).clock, updatedAt := (r 0).clock }
    let d ← d.insertIncident { blank with stateHash := incidentHash cfg blank false none }
    transitionWorkflow cfg d (r.drop 3) workflow .manualIntervention "system" reason

/-- The link `_link_submission` inserts. -/
def pendingLink (workflow : WorkflowRow) (submissionId : Id) (source : SourceType) (event interaction : Option Id)
    (sourceContentHash : String) (claimedNetworkId : Id) (now : Time) : LinkRow :=
  let l : LinkRow :=
    { submissionId, workflowId := workflow.workflowId, subjectId := workflow.subjectId, sourceType := source,
      inboundEventId := event, interactionId := interaction, claimedNetworkId, sourceContentHash,
      verificationStatus := .pendingVerification, criteriaResults := none, verificationReason := none,
      verifiedBy := none, decisionKey := none, stateHash := "", createdAt := now, updatedAt := now }
  { l with stateHash := linkHash cfg l .pendingVerification none none none }

/-- `_link_submission`. -/
def linkSubmission (d : RewardDb) (r : Readings) (workflow : WorkflowRow) (submissionId : Id) (source : SourceType)
    (event interaction : Option Id) (sourceContentHash : String) (claimedNetworkId : Id) (actor : String) :
    Except PyError RewardDb :=
  match d.links.find? submissionId with
  | some existing => do
    raiseIf (existing.workflowId ≠ workflow.workflowId ∨ existing.subjectId ≠ workflow.subjectId ∨
        existing.sourceType ≠ source ∨ existing.inboundEventId ≠ event ∨ existing.interactionId ≠ interaction ∨
        existing.claimedNetworkId ≠ claimedNetworkId ∨ existing.sourceContentHash ≠ sourceContentHash)
      (.integrityError "reward submission provenance conflict")
    .ok d
  | none =>
    let d := d.audit (r 1) workflow.subjectId "wallet_reward_submission_linked" actor
      (.obj [("submission_id", .str submissionId), ("workflow_id", .str workflow.workflowId),
        ("source_type", .str source.text)])
    d.insertLink (pendingLink cfg workflow submissionId source event interaction sourceContentHash claimedNetworkId
      (r 0).clock)

/-- `_workflow_input_matches`. -/
def workflowInputMatches (d : RewardDb) (w : WorkflowRow) (p : RewardWorkflowInput) : Bool :=
  w.assistanceRequestId == p.assistanceRequestId && (d.db.bounties.find? w.bountyId).any (fun b =>
    w.idempotencyKey == p.idempotencyKey && b.acceptanceCriteria == p.acceptanceCriteria &&
    b.networkId == p.networkId && b.assetId == p.assetId && b.rewardAmount == p.rewardAmount &&
    b.opensAt == p.opensAt && b.expiresAt == p.expiresAt && b.maxSubmissions == p.maxSubmissions &&
    b.rewardSlots == p.rewardSlots)

/-- `_create_workflow_connection`. -/
def createWorkflowConnection (d : RewardDb) (r : Readings) (subjectId : Id) (p : RewardWorkflowInput)
    (actor : String) (request : RequestRow) (goalId : Id) (c : RewardContext) : Except PyError RewardDb := do
  let input ← orRaise (p.bounty request goalId) (.valueError "bounty proposal is invalid")
  let (bounty, db) ← createBounty cfg d.db (r.drop 1) subjectId input actor (some subjectId) c.goalOwner
  let d := { d with db }
  let postId ← c.post
  let d := d.audit (r 5) subjectId "wallet_reward_workflow_created" actor
    (.obj [("workflow_id", .str (newId "reward" (r 4))),
      ("assistance_request_id", .str p.assistanceRequestId), ("bounty_id", .str bounty.bountyId),
      ("post_id", .str postId)])
  let blank : WorkflowRow :=
    { workflowId := newId "reward" (r 4), subjectId, assistanceRequestId := p.assistanceRequestId,
      projectId := request.projectId, phaseId := request.phaseId, goalId, postId, bountyId := bounty.bountyId,
      idempotencyKey := p.idempotencyKey, status := .awaitingPublication, manualReason := none, stateHash := "",
      lastAuditId := newId "audit" (r 5), createdAt := (r 0).clock, updatedAt := (r 0).clock }
  d.insertWorkflow { blank with stateHash := workflowHash cfg blank .awaitingPublication none }

/-- `create`. -/
def createWorkflow (d : RewardDb) (r : Readings) (subjectId : Id) (p : RewardWorkflowInput) (actor : String)
    (c : RewardContext) : Except PyError RewardDb := do
  validateSubjectId subjectId
  let actor ← operator actor
  match d.workflows.rows.find? (fun w => w.subjectId = subjectId ∧ w.idempotencyKey = p.idempotencyKey) with
  | some existing => do
    raiseIf (workflowInputMatches d existing p = false)
      (.valueError "reward workflow idempotency key identifies different input")
    .ok d
  | none => do
    let request ← orRaise ((d.requests.find? p.assistanceRequestId).filter (fun q => q.subjectId = subjectId ∧
        q.status = .opened)) (.valueError "assistance request is not open")
    let goalId ← orRaise c.projectGoal (.integrityError "assistance request project reference is invalid")
    createWorkflowConnection cfg d r subjectId p actor request goalId c

/-- A bounty is moved on, unless it is there already. -/
def moveBounty (db : DB) (r : Readings) (bounty : BountyRow) (source target : BountyStatus) (reason actor : String)
    (error : PyError) : Except PyError DB :=
  if bounty.status = source then setBountyStatus cfg db r bounty target reason actor
  else do
    raiseIf (bounty.status ≠ target) error
    .ok db

/-- The bounty part of `publish`. -/
def publishBounty (db : DB) (r : Readings) (bounty : BountyRow) (actor : String) : Except PyError DB :=
  moveBounty cfg db r bounty .draft .published "reward workflow publication approved" actor
    (.invalidTransitionError "reward workflow bounty is not publishable")

/-- `publish`. -/
def publishWorkflow (d : RewardDb) (r : Readings) (workflowId subjectId : Id) (actor : String)
    (post : Option PostStatus) : Except PyError RewardDb := do
  let actor ← operator actor
  let row ← d.workflowRow workflowId subjectId
  raiseIf (row.status ∉ [WorkflowStatus.awaitingPublication, .opened])
    (.invalidTransitionError "reward workflow is not publishable")
  let post ← orRaise post (.integrityError "reward workflow post is missing")
  raiseIf (post = .pendingReview) (.valueError "reward workflow post requires moderation")
  raiseIf (post ≠ .published) (.invalidTransitionError "reward workflow post is not published")
  let bounty ← orRaise ((d.db.bounties.find? row.bountyId).filter (fun b => b.subjectId = subjectId))
    (.integrityError "reward workflow bounty is missing")
  let db ← publishBounty cfg d.db r bounty actor
  transitionWorkflow cfg { d with db } (r.drop 2) row .opened actor "public help request published"

/-- The common part of `submit_public` and `submit_inbound`: a submission of a claimed network is made, or the
workflow is stopped. -/
def submitTo (d : RewardDb) (r : Readings) (workflow : WorkflowRow) (subjectId : Id) (submission : SubmissionInput)
    (networkId : Id) (source : SourceType) (event interaction : Option Id) (sourceContentHash mismatch cause actor :
    String) : Except PyError RewardDb := do
  raiseIf (workflow.status ≠ .opened) (.valueError "reward workflow is not open")
  if (d.db.bounties.find? workflow.bountyId).all (fun b => b.networkId ≠ networkId) then
    openIncident cfg d r workflow none none .sourceMismatch mismatch cause
  else do
    let (row, db) ← submitToBounty cfg d.db r workflow.bountyId subjectId submission
    linkSubmission cfg { d with db } (r.drop 6) workflow row.submissionId source event interaction
      sourceContentHash networkId actor

/-- `submit_public`. -/
def submitPublic (d : RewardDb) (r : Readings) (workflowId subjectId : Id) (p : RewardPublicSubmissionInput) :
    Except PyError RewardDb := do
  validateSubjectId subjectId
  let workflow ← d.workflowRow workflowId subjectId
  submitTo cfg d r workflow subjectId p.submission p.networkId .publicForm none none
    (cfg.contentHash (.str p.submission.content)) "submission network does not match bounty"
    ("network:" ++ p.submission.idempotencyKey) "visitor"

/-- `submit_inbound` of an event whose envelope could be read. -/
def submitInbound (d : RewardDb) (r : Readings) (e : InboundSubmission) : Except PyError RewardDb := do
  let workflow ← d.workflowRow e.workflowId e.subjectId
  submitTo cfg d r workflow e.subjectId e.submission e.networkId .inboundEvent (some e.eventId) (some e.interactionId)
    e.contentHash "inbound network does not match bounty" ("inbound-network:" ++ e.eventId) "verified-channel"

/-- The decided link. -/
def decidedLink (l : LinkRow) (target : VerificationStatus) (p : RewardEvidenceDecisionInput) (actor : String)
    (now : Time) : LinkRow :=
  { l with
    verificationStatus := target, criteriaResults := some p.criteriaResults, verificationReason := some p.reason,
    verifiedBy := some actor, decisionKey := some p.idempotencyKey,
    stateHash := linkHash cfg l target (some p.criteriaResults) (some p.reason) (some actor), updatedAt := now }

/-- `decide`. -/
def decideEvidence (d : RewardDb) (r : Readings) (submissionId subjectId : Id) (p : RewardEvidenceDecisionInput)
    (actor : String) : Except PyError RewardDb := do
  let actor ← operator actor
  let link ← orRaise ((d.links.find? submissionId).filter (fun l => l.subjectId = subjectId))
    (.notFoundError "reward submission link not found")
  let workflow ← d.workflowRow link.workflowId subjectId
  let bounty ← orRaise (d.db.bounties.find? workflow.bountyId) (.typeError "'NoneType' object is not subscriptable")
  if p.criteriaResults.length ≠ bounty.acceptanceCriteria.length then
    openIncident cfg d r workflow (some submissionId) none .evidenceMismatch
      "criteria result count does not match bounty" ("criteria:" ++ p.idempotencyKey)
  else
    let verified := p.accepted && p.criteriaResults.all id
    let target : VerificationStatus := if verified then .accepted else .rejected
    if link.verificationStatus ≠ .pendingVerification then do
      raiseIf (link.verificationStatus ≠ target) (.invalidTransitionError "reward evidence is already decided")
      -- The earlier decision is repeated word for word or refused.
      raiseIf (link.criteriaResults ≠ some p.criteriaResults ∨ link.verificationReason ≠ some p.reason ∨
          (link.decisionKey.isSome ∧ link.decisionKey ≠ some p.idempotencyKey))
        (.valueError "reward evidence decision idempotency conflict")
      .ok d
    else do
      let d := d.audit (r 1) subjectId ("wallet_reward_submission_" ++ target.text) actor
        (.obj [("submission_id", .str submissionId), ("reason", .str p.reason),
          ("idempotency_key", .str p.idempotencyKey)])
      let (_, db) ← decideSubmissionConnection cfg d.db (r.drop 2) submissionId subjectId verified p.reason actor
      { d with db }.updateLink (decidedLink cfg link target p actor (r 0).clock)

/-- `resolve_incident`. -/
def resolveIncident (d : RewardDb) (r : Readings) (incidentId subjectId : Id) (resolution key actor : String) :
    Except PyError RewardDb := do
  let actor ← operator actor
  let row ← orRaise ((d.incidents.find? incidentId).filter (fun i => i.subjectId = subjectId))
    (.notFoundError "wallet reward incident not found")
  if row.resolved then do
    raiseIf (row.resolution ≠ some resolution ∨ (row.resolutionKey.isSome ∧ row.resolutionKey ≠ some key))
      (.valueError "incident resolution idempotency conflict")
    .ok d
  else
    let d := d.audit (r 0) subjectId "wallet_reward_incident_resolved" actor
      (.obj [("incident_id", .str incidentId), ("resolution", .str resolution), ("idempotency_key", .str key)])
    d.updateIncident { row with
      resolved := true, resolution := some resolution, resolutionKey := some key,
      stateHash := incidentHash cfg row true (some resolution), updatedAt := (r 1).clock }

/-- `resume`. -/
def resumeWorkflow (d : RewardDb) (r : Readings) (workflowId subjectId : Id) (actor reason : String) :
    Except PyError RewardDb := do
  let actor ← operator actor
  let reason ← reasonText reason "resume reason is invalid" 2000
  let row ← d.workflowRow workflowId subjectId
  raiseIf (row.status ≠ .manualIntervention)
    (.invalidTransitionError "reward workflow is not awaiting intervention")
  raiseIf (∃ i ∈ d.incidents.rows, i.workflowId = workflowId ∧ i.subjectId = subjectId ∧ i.resolved = false)
    (.invalidTransitionError "open reward incident must be resolved first")
  transitionWorkflow cfg d r row .opened actor reason

/-- The settled orders of a workflow, as `_complete_if_settled` counts them. -/
def settledCount (d : RewardDb) (w : WorkflowRow) : Nat :=
  (d.links.rows.filter (fun l => l.workflowId = w.workflowId ∧ l.subjectId = w.subjectId ∧
    l.verificationStatus = .accepted)).foldl
    (fun n l => n + (d.db.orders.rows.filter (fun o => o.submissionId = l.submissionId ∧
      o.status = .confirmed)).length) 0

/-- `_complete_if_settled` after the workflow has been closed: the bounty and the request. -/
def closeBounty (db : DB) (r : Readings) (bounty : BountyRow) (actor : String) : Except PyError DB :=
  moveBounty cfg db r bounty .published .closed "all reward slots settled" actor
    (.integrityError "settled reward workflow bounty status is invalid")

def resolveRequest (d : RewardDb) (w : WorkflowRow) : Except PyError RewardDb := do
  let request ← orRaise ((d.requests.find? w.assistanceRequestId).filter (fun q => q.subjectId = w.subjectId))
    (.integrityError "reward workflow assistance request is missing")
  if request.status = .opened then .ok { d with requests := d.requests.replace { request with status := .resolved } }
  else do
    raiseIf (request.status ≠ .resolved) (.integrityError "settled reward workflow assistance request is invalid")
    .ok d

/-- `_complete_if_settled`. -/
def completeIfSettled (d : RewardDb) (r : Readings) (w : WorkflowRow) (actor : String) : Except PyError RewardDb := do
  let bounty ← orRaise ((d.db.bounties.find? w.bountyId).filter (fun b => b.subjectId = w.subjectId))
    (.integrityError "reward workflow bounty is missing")
  if settledCount d w < bounty.rewardSlots then .ok d
  else do
    raiseIf (w.status ≠ .opened ∧ w.status ≠ .closed)
      (.invalidTransitionError "settled reward workflow cannot be completed")
    let d ← transitionWorkflow cfg d r w .closed actor "all reward slots settled"
    let db ← closeBounty cfg d.db (r.drop 2) bounty actor
    resolveRequest { d with db } w

/-- The transaction of `_result_for_submission` for a confirmed order. -/
def resultForSubmission (d : RewardDb) (r : Readings) (workflowId subjectId : Id) : Except PyError RewardDb := do
  let w ← d.workflowRow workflowId subjectId
  completeIfSettled cfg d r w "system"

/-- The incident transactions of `execute_ready`. -/
def executionIncident (d : RewardDb) (r : Readings) (workflowId subjectId : Id) (submissionId : Id)
    (executionId : Option Id) (kind : IncidentKind) (reason cause : String) : Except PyError RewardDb := do
  let w ← d.workflowRow workflowId subjectId
  openIncident cfg d r w (some submissionId) executionId kind reason cause

inductive WorkflowOp
  | openRequest (request : RequestRow)
  | create (subjectId : Id) (proposal : RewardWorkflowInput) (actor : String) (context : RewardContext)
  | publish (workflowId subjectId : Id) (actor : String) (post : Option PostStatus)
  | submitPublic (workflowId subjectId : Id) (proposal : RewardPublicSubmissionInput)
  | submitInbound (event : InboundSubmission)
  | decide (submissionId subjectId : Id) (proposal : RewardEvidenceDecisionInput) (actor : String)
  | resolveIncident (incidentId subjectId : Id) (resolution key actor : String)
  | resume (workflowId subjectId : Id) (actor reason : String)
  | result (workflowId subjectId : Id)
  | incident (workflowId subjectId submissionId : Id) (executionId : Option Id) (kind : IncidentKind)
      (reason cause : String)

def WorkflowOp.run (d : RewardDb) (r : Readings) : WorkflowOp → Except PyError RewardDb
  | .openRequest request => do
    let requests ← orRaise (d.requests.insert? { request with status := .opened })
      (.sqliteIntegrityError "autonomous_project_assistance_requests.request_id")
    .ok { d with requests }
  | .create subjectId proposal actor context => createWorkflow cfg d r subjectId proposal actor context
  | .publish workflowId subjectId actor post => publishWorkflow cfg d r workflowId subjectId actor post
  | .submitPublic workflowId subjectId proposal => Wallet.submitPublic cfg d r workflowId subjectId proposal
  | .submitInbound event => Wallet.submitInbound cfg d r event
  | .decide submissionId subjectId proposal actor => decideEvidence cfg d r submissionId subjectId proposal actor
  | .resolveIncident incidentId subjectId resolution key actor =>
    Wallet.resolveIncident cfg d r incidentId subjectId resolution key actor
  | .resume workflowId subjectId actor reason => resumeWorkflow cfg d r workflowId subjectId actor reason
  | .result workflowId subjectId => resultForSubmission cfg d r workflowId subjectId
  | .incident workflowId subjectId submissionId executionId kind reason cause =>
    executionIncident cfg d r workflowId subjectId submissionId executionId kind reason cause

/-- The wallet with the tables of the workflows. -/
structure RewardSys where
  sys : Sys
  requests : Table RequestRow.requestId
  workflows : Table WorkflowRow.workflowId
  links : Table LinkRow.submissionId
  incidents : Table IncidentRow.incidentId

def RewardSys.tables (s : RewardSys) : RewardDb := ⟨s.sys.db, s.requests, s.workflows, s.links, s.incidents⟩

inductive RewardAction
  | wallet (a : Action)
  | workflow (r : Readings) (op : WorkflowOp)

def rewardStep (s : RewardSys) : RewardAction → RewardSys
  | .wallet a => { s with sys := step cfg s.sys a }
  | .workflow r op =>
    match op.run cfg s.tables r with
    | .ok d => ⟨{ s.sys with db := d.db }, d.requests, d.workflows, d.links, d.incidents⟩
    | .error _ => s

def rewardMachine : Machine RewardSys RewardAction where
  init s := s = ⟨.start, .empty, .empty, .empty, .empty⟩
  step := rewardStep cfg

end

end Noyra.Wallet
