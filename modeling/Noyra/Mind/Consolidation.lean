import Noyra.Mind.Integration

/-!
# Memory consolidation

`MemoryConsolidator.run_due` with the accesses that strengthen a memory, and `verify_lifecycle_integrity` over accesses,
consolidation runs and integrations. Every transaction is one step; ages and the strengthened salience are parameters.
-/

namespace Noyra.Mind
open Noyra.Lib

structure AccessRow where
  accessId : String
  subjectId : String
  memoryId : String
  contextType : String
  contextId : String
  queryHash : String
  relevance : Double
  accessCount : Nat
  stateHash : String
  firstAccessedAt : Nat
  lastAccessedAt : Nat

inductive RunStatus
  | committed
  | noChange
  deriving DecidableEq

def RunStatus.text : RunStatus → String
  | .committed => "committed"
  | .noChange => "no_change"

inductive Disposition
  | retained
  | strengthened
  | archivedDuplicate
  | summarized
  deriving DecidableEq

/-- Dispositions whose memory is archived. -/
def Disposition.archives : Disposition → Bool
  | .archivedDuplicate | .summarized => true
  | _ => false

/-- A row of `memory_consolidation_runs`. -/
structure ConsolidationRow where
  consolidationId : String
  subjectId : String
  idempotencyKey : String
  status : RunStatus
  reviewedCount : Nat
  archivedMemoryIds : List String
  strengthenedMemoryIds : List String
  summaryMemoryIds : List String
  summary : String
  stateHash : String
  createdAt : Nat

/-- A row of `memory_consolidation_members`. -/
structure MemberRow where
  memberId : String
  consolidationId : String
  sourceMemoryId : String
  resultMemoryId : Option String
  disposition : Disposition
  reason : String
  stateHash : String
  createdAt : Nat

structure ConsolidationConfig extends IntegrationConfig where
  /-- `content_hash(" ".join(content.casefold().split()))`. -/
  normalHash : String → String
  /-- `_access_hash`. -/
  accessHash : String → String → String → Double → Nat → Nat → Nat → String
  /-- `_state_hash` of a run. -/
  runHash : RunStatus → Nat → List String → List String → List String → String → Nat → String
  memberHash : String → Option String → Disposition → String → Nat → String
  /-- `elapsed.total_seconds() >= interval_seconds`, for the reading of the clock and the time of the last run. -/
  elapsed : Nat → Nat → Bool
  /-- `age_days >= stale_after_days`, for the reading of the clock and `updated_at`. -/
  stale : Nat → Nat → Bool
  /-- `age_days >= archive_after_days`. -/
  old : Nat → Nat → Bool
  minimumActiveMemories : ℤ
  /-- The first ten characters of a reading of the clock. -/
  period : Nat → String
  /-- `min(0.95, salience + min(0.12, access_count * 0.02))`. -/
  strengthen : Double → Nat → Double
  strengthen_pos : ∀ s n, 0 ≤ s.value → s.value ≤ 1 → 3 ≤ n → 0 < (strengthen s n).value ∧ (strengthen s n).value ≤ 1

structure ConsolidationTables extends IntegrationTables where
  accesses : Table AccessRow.accessId
  runs : Table ConsolidationRow.consolidationId
  members : Table MemberRow.memberId

variable (cfg : ConsolidationConfig)

/-- A recalled memory, with the id for a new row. -/
structure Recalled where
  memoryId : String
  relevance : Double
  accessId : String

structure RecallCall where
  subjectId : String
  contextType : String
  contextId : String
  queryHash : String
  recalls : List Recalled
  now : Nat

/-- One memory in `_record_accesses`. -/
def recordAccess (c : RecallCall) (t : ConsolidationTables) (item : Recalled) :
    Except MindError ConsolidationTables := do
  raiseIf ((t.memories.find? item.memoryId).isNone = true ∨ isUnit item.relevance.value = false) .database
  match t.accesses.rows.find? (fun a => a.subjectId = c.subjectId && a.memoryId = item.memoryId && a.contextType =
    c.contextType &&
      a.contextId = c.contextId && a.queryHash = c.queryHash) with
  | none => do
    let row : AccessRow :=
      { accessId := item.accessId
        subjectId := c.subjectId
        memoryId := item.memoryId
        contextType := c.contextType
        contextId := c.contextId
        queryHash := c.queryHash
        relevance := stored item.relevance
        accessCount := 1
        stateHash := cfg.accessHash c.contextType c.contextId c.queryHash item.relevance 1 c.now c.now
        firstAccessedAt := c.now
        lastAccessedAt := c.now }
    let accesses ← orRaise (t.accesses.insert? row) .database
    .ok { t with accesses := accesses }
  | some row =>
    let row : AccessRow :=
      { row with
        relevance := stored item.relevance
        accessCount := row.accessCount + 1
        stateHash := cfg.accessHash c.contextType c.contextId c.queryHash item.relevance (row.accessCount + 1)
          row.firstAccessedAt c.now
        lastAccessedAt := c.now }
    .ok { t with accesses := t.accesses.replace row }

/-- `_record_accesses`. -/
def ConsolidationTables.recordAccesses (t : ConsolidationTables) (c : RecallCall) :
    Except MindError ConsolidationTables :=
  c.recalls.foldlM (recordAccess cfg c) t

structure Candidate where
  memory : MemoryRow
  accessCount : Nat

def Candidate.id (c : Candidate) : String := c.memory.memoryId

/-- `ORDER BY m.updated_at, m.memory_id`. -/
def earlier (a b : MemoryRow) : Bool :=
  a.updatedAt < b.updatedAt || (a.updatedAt = b.updatedAt && a.memoryId ≤ b.memoryId)

/-- The active memories of the subject in the order they are reviewed. -/
def ConsolidationTables.activeRows (t : ConsolidationTables) : List MemoryRow :=
  (t.memories.rows.filter (fun row => row.subjectId = cfg.subjectId && row.status = .active)).insertionSort
    (fun a b => earlier a b = true)

/-- `COALESCE(SUM(a.access_count), 0)`. -/
def ConsolidationTables.accessCount (t : ConsolidationTables) (memoryId : String) : Nat :=
  ((t.accesses.rows.filter (fun a => a.memoryId = memoryId)).map AccessRow.accessCount).sum

/-- `_candidates`. -/
def ConsolidationTables.candidates (t : ConsolidationTables) : Except MindError (List Candidate) :=
  (t.activeRows cfg).mapM (fun row => do
    let memory ← row.check cfg.toMemoryConfig
    .ok ⟨memory, t.accessCount memory.memoryId⟩)

/-- The key by which duplicates are sorted. -/
def better (a b : Candidate) : Bool :=
  b.memory.confidence.value < a.memory.confidence.value || (a.memory.confidence.value = b.memory.confidence.value &&
    (b.memory.salience.value < a.memory.salience.value || (a.memory.salience.value = b.memory.salience.value &&
      (b.accessCount < a.accessCount || (a.accessCount = b.accessCount &&
        (a.memory.createdAt < b.memory.createdAt || (a.memory.createdAt = b.memory.createdAt && a.id ≤ b.id)))))))

/-- The key under which candidates are duplicates. -/
def duplicateKey (c : Candidate) : MemoryType × String := (c.memory.memoryType, cfg.normalHash c.memory.content)

/-- The group of a candidate, best first. -/
def groupOf (candidates : List Candidate) (c : Candidate) : List Candidate :=
  (candidates.filter (fun d => duplicateKey cfg d = duplicateKey cfg c)).insertionSort (fun a b => better a b = true)

/-- `duplicate_losers.get(memory_id)`. -/
def duplicateKeeper (candidates : List Candidate) (c : Candidate) : Option String :=
  ((groupOf cfg candidates c).head?.map Candidate.id).filter (fun keeper => keeper ≠ c.id)

/-- The floats of 0.95, 0.55, 0.45 and 0.3. -/
def point95 : ℚ := 4278419646001971 / 4503599627370496
def point55 : ℚ := 2476979795053773 / 4503599627370496
def point45 : Double := ⟨8106479329266893 / 18014398509481984, false, fun _ => by decide +kernel⟩
def point3 : ℚ := 5404319552844595 / 18014398509481984

def forgettable : MemoryType → Bool
  | .episodic | .reflection | .prediction => true
  | _ => false

def Candidate.weak (c : Candidate) : Bool := c.memory.salience.value < point3 && c.memory.confidence.value < point55

/-- `access_count >= 3 and salience < 0.95`. -/
def Candidate.recalled (c : Candidate) : Bool := 3 ≤ c.accessCount && c.memory.salience.value < point95

/-- `forgettable and stale and weak`. -/
def Candidate.fading (now : Nat) (c : Candidate) : Bool :=
  forgettable c.memory.memoryType && (cfg.old now c.memory.updatedAt && c.accessCount = 0) && c.weak

/-- The memories that the summary of a candidate names. -/
def cluster (candidates : List Candidate) (now : Nat) (c : Candidate) : List String :=
  (((candidates.filter (fun d => d.memory.memoryType = c.memory.memoryType && d.accessCount = 0 && d.weak &&
    cfg.stale now d.memory.updatedAt)).map Candidate.id).insertionSort (fun a b => a ≤ b)).take 8

/-- Readings of the clock and new ids during a run; what belongs to one memory is given by its id. -/
structure Readings where
  dueNow : Nat
  periodNow : Nat
  now : Nat
  eventId : String
  consolidationId : String
  revisedAt : String → Nat
  summaryId : String → String
  summaryAt : String → Nat
  memberId : String → String

def Readings.key (r : Readings) : String := "memory-consolidation:" ++ cfg.period r.periodNow

/-- A row of `dispositions`. -/
structure Verdict where
  source : String
  result : Option String
  disposition : Disposition
  reason : String

/-- The locals of `_commit` inside its loop. -/
structure Progress where
  tables : ConsolidationTables
  archived : List String
  strengthened : List String
  summaries : List String
  activeCount : ℤ
  verdicts : List Verdict

/-- A revision of a candidate that keeps its content and confidence. -/
def ConsolidationTables.reviseCandidate (t : ConsolidationTables) (r : Readings) (c : Candidate) (salience : Double)
    (status : MemoryStatus) (reason : String) : Except MindError ConsolidationTables := do
  let (_, mind) ← t.toMindTables.revise cfg.toMemoryConfig c.id
    ⟨c.memory.content, salience, c.memory.confidence, status, reason, c.memory.sources ++ [r.eventId],
      some c.memory.currentRevision⟩
    (r.revisedAt c.id)
  .ok { t with toIntegrationTables := { t.toIntegrationTables with toMindTables := mind } }

/-- The summary of the cluster of a candidate. -/
def summarize (r : Readings) (candidates : List Candidate) (c : Candidate) (p : Progress) :
    Except MindError (Option String × Progress) :=
  let ids := cluster cfg candidates r.now c
  if ids.length < 2 then .ok (none, p)
  else
    let content := "Consolidated memory cluster: " ++ ", ".intercalate ids
    match p.tables.memories.rows.find? (fun m => m.subjectId = cfg.subjectId && m.contentHash =
      cfg.contentHash content) with
    | some existing => .ok (some existing.memoryId, p)
    | none => do
      let (record, mind) ← p.tables.toMindTables.create cfg.toMemoryConfig
        ⟨cfg.subjectId, .reflection, content, point45, .float point45, [r.eventId], "private",
          "deterministic consolidation of low-access memories"⟩ (r.summaryId c.id) (r.summaryAt c.id)
      .ok (some record.memoryId,
        { p with
          tables := { p.tables with toIntegrationTables := { p.tables.toIntegrationTables with toMindTables := mind } }
          summaries := p.summaries ++ [record.memoryId] })

def archiveDuplicate (r : Readings) (c : Candidate) (keeper : String) (p : Progress) : Except MindError Progress := do
  let tables ← p.tables.reviseCandidate cfg r c c.memory.salience .archived ("duplicate consolidated into " ++ keeper)
  .ok { p with
        tables := tables
        archived := p.archived ++ [c.id]
        activeCount := p.activeCount - 1
        verdicts := p.verdicts ++ [⟨c.id, some keeper, .archivedDuplicate, "exact duplicate"⟩] }

def strengthenCandidate (r : Readings) (c : Candidate) (p : Progress) : Except MindError Progress := do
  let tables ← p.tables.reviseCandidate cfg r c (cfg.strengthen c.memory.salience c.accessCount) .active
    "repeated contextual recall strengthened accessibility"
  .ok { p with
        tables := tables
        strengthened := p.strengthened ++ [c.id]
        verdicts := p.verdicts ++ [⟨c.id, some c.id, .strengthened, "repeated recall"⟩] }

def archiveStale (r : Readings) (candidates : List Candidate) (c : Candidate) (p : Progress) :
    Except MindError Progress := do
  let (summaryMemoryId, p) ← summarize cfg r candidates c p
  let tables ← p.tables.reviseCandidate cfg r c c.memory.salience .archived
    "inactive low-salience memory moved out of active recall"
  .ok { p with
        tables := tables
        archived := p.archived ++ [c.id]
        activeCount := p.activeCount - 1
        verdicts := p.verdicts ++ [⟨c.id, summaryMemoryId, .summarized, "archived without deleting history"⟩] }

def retain (c : Candidate) (p : Progress) : Progress :=
  { p with verdicts := p.verdicts ++ [⟨c.id, some c.id, .retained, "retained"⟩] }

/-- One candidate of the loop of `_commit`. -/
def review (r : Readings) (candidates : List Candidate) (p : Progress) (c : Candidate) : Except MindError Progress :=
  match duplicateKeeper cfg candidates c with
  | some keeper => archiveDuplicate cfg r c keeper p
  | none =>
    if c.recalled = true then strengthenCandidate cfg r c p
    else if c.fading cfg r.now = true ∧ cfg.minimumActiveMemories < p.activeCount then archiveStale cfg r candidates c p
    else .ok (retain c p)

/-- The row of a run. -/
def runRow (r : Readings) (candidates : List Candidate) (p : Progress) : ConsolidationRow :=
  let status := if p.archived = [] ∧ p.strengthened = [] ∧ p.summaries = [] then .noChange else .committed
  let summary := "Reviewed " ++ toString candidates.length ++ " memories; archived " ++ toString p.archived.length ++
    ", strengthened " ++
    toString p.strengthened.length ++ ", created " ++ toString p.summaries.length ++ " summaries."
  { consolidationId := r.consolidationId
    subjectId := cfg.subjectId
    idempotencyKey := r.key cfg
    status := status
    reviewedCount := candidates.length
    archivedMemoryIds := p.archived
    strengthenedMemoryIds := p.strengthened
    summaryMemoryIds := p.summaries
    summary := summary
    stateHash := cfg.runHash status candidates.length p.archived p.strengthened p.summaries summary r.now
    createdAt := r.now }

/-- The row of a disposition. -/
def memberRow (r : Readings) (v : Verdict) : MemberRow where
  memberId := r.memberId v.source
  consolidationId := r.consolidationId
  sourceMemoryId := v.source
  resultMemoryId := v.result
  disposition := v.disposition
  reason := v.reason
  stateHash := cfg.memberHash v.source v.result v.disposition v.reason r.now
  createdAt := r.now

def insertMember (r : Readings) (members : Table MemberRow.memberId) (v : Verdict) :
    Except MindError (Table MemberRow.memberId) :=
  orRaise (members.insert? (memberRow cfg r v)) .database

namespace ConsolidationTables

variable (t : ConsolidationTables)

/-- The event of the run. -/
def appendEvent (eventId : String) : Except MindError ConsolidationTables := do
  raiseIf (t.events.any (fun e => e.2 = eventId) = true) .database
  .ok { t with events := t.events ++ [(cfg.subjectId, eventId)] }

/-- The run with the key of a call, when there is one. -/
def existing (r : Readings) : Option ConsolidationRow :=
  t.runs.rows.find? (fun run => run.subjectId = cfg.subjectId && run.idempotencyKey = r.key cfg)

/-- The transaction of `_commit`. -/
def commit (r : Readings) (candidates : List Candidate) : Except MindError (String × ConsolidationTables) :=
  match t.existing cfg r with
  | some _ => .ok ("memory_consolidation_replayed", t)
  | none => do
    let start ← t.appendEvent cfg r.eventId
    let p ← candidates.foldlM (review cfg r candidates) ⟨start, [], [], [], candidates.length, []⟩
    let runs ← orRaise (p.tables.runs.insert? (runRow cfg r candidates p)) .database
    let members ← p.verdicts.foldlM (insertMember cfg r) p.tables.members
    .ok ("memory_consolidation_" ++ (runRow cfg r candidates p).status.text,
      { p.tables with runs := runs, members := members })

/-- `_consolidation_from_row`. -/
def checkRun (run : ConsolidationRow) : Except MindError ConsolidationRow := do
  raiseIf (¬ run.archivedMemoryIds.Nodup) (.integrity ("memory consolidation " ++ run.consolidationId ++
    " archived memory ids list is invalid"))
  raiseIf (¬ run.strengthenedMemoryIds.Nodup)
    (.integrity ("memory consolidation " ++ run.consolidationId ++ " strengthened memory ids list is invalid"))
  raiseIf (¬ run.summaryMemoryIds.Nodup) (.integrity ("memory consolidation " ++ run.consolidationId ++
    " summary memory ids list is invalid"))
  raiseIf (cfg.runHash run.status run.reviewedCount run.archivedMemoryIds run.strengthenedMemoryIds
    run.summaryMemoryIds run.summary
      run.createdAt ≠ run.stateHash) (.integrity ("memory consolidation hash mismatch: " ++ run.consolidationId))
  .ok run

/-- `created_at DESC, consolidation_id DESC`. -/
def later (a b : ConsolidationRow) : Bool :=
  b.createdAt < a.createdAt || (a.createdAt = b.createdAt && b.consolidationId ≤ a.consolidationId)

/-- `consolidation_history`. -/
def consolidationHistory : Except MindError (List ConsolidationRow) :=
  ((t.runs.rows.filter (fun run => run.subjectId = cfg.subjectId)).insertionSort (fun a b => later a b = true)).mapM
    (checkRun cfg)

/-- `_is_due`. -/
def isDue (r : Readings) : Except MindError Bool := do
  let history ← t.consolidationHistory cfg
  match history with
  | [] => .ok true
  | latest :: _ => .ok (cfg.elapsed r.dueNow latest.createdAt)

/-- `run_due` once it is due. -/
def runWhenDue (r : Readings) : Except MindError (String × ConsolidationTables) := do
  let candidates ← t.candidates cfg
  match t.existing cfg r with
  | some run => .ok ("memory_consolidation_" ++ run.status.text, t)
  | none => t.commit cfg r candidates

/-- `run_due`: what it returns, and the tables after it. -/
def runDue (r : Readings) : Except MindError (Option String) × ConsolidationTables :=
  match t.isDue cfg r with
  | .error e => (.error e, t)
  | .ok false => (.ok none, t)
  | .ok true =>
    match t.runWhenDue cfg r with
    | .error e => (.error e, t)
    | .ok (status, t') => (.ok (some status), t')

def verifyAccess (a : AccessRow) : Except MindError Unit := do
  raiseIf (isUnit a.relevance.value = false) (.integrity ("memory access " ++ a.accessId ++ " relevance is invalid"))
  raiseIf (a.accessCount < 1) (.integrity ("memory access " ++ a.accessId ++ " access_count is invalid"))
  raiseIf (cfg.accessHash a.contextType a.contextId a.queryHash a.relevance a.accessCount a.firstAccessedAt
    a.lastAccessedAt ≠ a.stateHash)
    (.integrity ("memory access hash mismatch: " ++ a.accessId))

/-- The members of a run. -/
def membersOf (consolidationId : String) : List MemberRow :=
  t.members.rows.filter (fun m => m.consolidationId = consolidationId)

def verifyMember (m : MemberRow) : Except MindError Unit :=
  raiseIf (cfg.memberHash m.sourceMemoryId m.resultMemoryId m.disposition m.reason m.createdAt ≠ m.stateHash)
    (.integrity ("memory consolidation member mismatch: " ++ m.memberId))

def verifyRun (run : ConsolidationRow) : Except MindError Unit := do
  let record ← checkRun cfg run
  (t.membersOf record.consolidationId).forM (verifyMember cfg)

/-- `verify_lifecycle_integrity`. -/
def verifyLifecycle : Except MindError Unit := do
  (t.accesses.rows.filter (fun a => a.subjectId = cfg.subjectId)).forM (verifyAccess cfg)
  (t.runs.rows.filter (fun run => run.subjectId = cfg.subjectId)).forM (t.verifyRun cfg)
  t.toIntegrationTables.verifyLifecycleIntegrity cfg.toIntegrationConfig

end ConsolidationTables

inductive LifeAction
  | create (m : MindTables.NewMemory) (memoryId : String) (now : Nat)
  | revise (memoryId : String) (revision : MindTables.Revision) (now : Nat)
  | access (c : RecallCall)
  | event (subjectId eventId : String)
  /-- A private conversation is deleted. -/
  | withdraw (eventId : String)
  | runDue (r : Readings)

/-- A transaction that raises changes nothing. -/
def ConsolidationTables.orKeep (t : ConsolidationTables) (result : Except MindError ConsolidationTables) :
    ConsolidationTables :=
  match result with
  | .ok t' => t'
  | .error _ => t

def ConsolidationTables.withMind (t : ConsolidationTables) (mind : MindTables) : ConsolidationTables :=
  { t with toIntegrationTables := { t.toIntegrationTables with toMindTables := mind } }

def ConsolidationTables.step (t : ConsolidationTables) : LifeAction → ConsolidationTables
  | .create m memoryId now => t.orKeep
    ((t.toMindTables.create cfg.toMemoryConfig m memoryId now).map (fun x => t.withMind x.2))
  | .revise memoryId revision now =>
    t.orKeep ((t.toMindTables.revise cfg.toMemoryConfig memoryId revision now).map (fun x => t.withMind x.2))
  | .access c => t.orKeep (t.recordAccesses cfg c)
  | .event subjectId eventId => t.withMind { t.toMindTables with events := t.events ++ [(subjectId, eventId)] }
  | .withdraw eventId => t.withMind { t.toMindTables with withdrawn := eventId :: t.withdrawn }
  | .runDue r => (t.runDue cfg r).2

def lifeMachine : Machine ConsolidationTables LifeAction where
  init t := t.memories.rows = [] ∧ t.integrations.rows = [] ∧ t.accesses.rows = [] ∧ t.runs.rows = [] ∧
    t.members.rows = []
  step := ConsolidationTables.step cfg

end Noyra.Mind
