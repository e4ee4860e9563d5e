import Mathlib.Data.List.Sort
import Noyra.Lib.Machine
import Noyra.Mind.Memory

/-!
# Memory integrations

`integrate` and `revert` of `MemoryIntegrationSupervisor`, reading an integration back with its hash, and the check
of the integrations in `verify_lifecycle_integrity`. Lists of ids are kept as lists; every transaction is one step.
-/

namespace Noyra.Mind
open Noyra.Lib

inductive Operation
  | merge
  | supersede
  | contradict
  deriving DecidableEq

def Operation.ofText? (text : String) : Option Operation :=
  if text = "merge" then some .merge
  else if text = "supersede" then some .supersede
  else if text = "contradict" then some .contradict
  else none

inductive IntegrationStatus
  | active
  | reverted
  deriving DecidableEq

inductive IntegrationAction
  | commit
  | revert
  deriving DecidableEq

structure IntegrationRow where
  integrationId : String
  subjectId : String
  operation : Operation
  sourceMemoryIds : List String
  outputMemoryId : String
  evidenceEventIds : List String
  reason : String
  confidence : Double
  status : IntegrationStatus
  stateHash : String
  createdAt : Nat
  revertedAt : Option Nat

structure IntegrationRevision where
  integrationId : String
  action : IntegrationAction
  reason : String
  stateHash : String
  createdAt : Nat

/-- `[0-9a-f]{64}`. -/
def validHash (s : String) : Bool :=
  s.toList.length = 64 && s.toList.all (fun c => ('0' ≤ c && c ≤ '9') || ('a' ≤ c && c ≤ 'f'))

structure IntegrationConfig extends MemoryConfig where
  subjectId : String
  /-- Two confidences do not share a hash. -/
  stateHash_injective : ∀ (content : String) (salience salience' x y : Double) (status : MemoryStatus),
    stateHash content salience x status = stateHash content salience' y status → x = y
  /-- `_hash`. -/
  hash : Operation → List String → String → List String → String → Number → IntegrationStatus → String
  hash_valid : ∀ operation sources output evidence reason confidence status,
    validHash (hash operation sources output evidence reason confidence status) = true
  /-- The hash of a revision. -/
  revisionHash : String → IntegrationAction → String → Nat → String
  revisionHash_valid : ∀ integrationId action reason now, validHash (revisionHash integrationId action reason now) =
    true

structure IntegrationTables extends MindTables where
  integrations : Table IntegrationRow.integrationId
  revisions : List IntegrationRevision

variable (cfg : IntegrationConfig)

namespace IntegrationTables

variable (t : IntegrationTables)

/-- `get`. -/
def get (integrationId : String) : Except MindError IntegrationRow := do
  let row ← orRaise ((t.integrations.find? integrationId).filter (fun row => row.subjectId = cfg.subjectId))
    (.integration "memory integration is unavailable")
  raiseIf (cfg.hash row.operation row.sourceMemoryIds row.outputMemoryId row.evidenceEventIds
    row.reason (.float row.confidence) row.status ≠
    row.stateHash) (.integrity "memory integration hash mismatch")
  .ok row

/-- `_revision`. -/
def revision (integrationId : String) (action : IntegrationAction) (reason : String) (now : Nat) : IntegrationTables :=
  { t with revisions := t.revisions ++ [⟨integrationId, action, reason,
    cfg.revisionHash integrationId action reason now, now⟩] }

/-- A revision of a memory inside the transaction. -/
def reviseMemory (memoryId : String) (r : MindTables.Revision) (now : Nat) : Except MindError IntegrationTables := do
  let (_, mind) ← t.toMindTables.revise cfg.toMemoryConfig memoryId r now
  .ok { t with toMindTables := mind }

end IntegrationTables

/-- The arguments of `integrate`, with the new ids, the readings of the clock (those for a memory by its id), and
whether the database fails. -/
structure IntegrateCall where
  operation : String
  sourceMemoryIds : List String
  synthesis : String
  confidence : Number
  evidenceEventIds : List String
  reason : String
  memoryId : String
  integrationId : String
  memoryNow : String → Nat
  now : Nat
  fails : Bool

/-- `max(record.salience for record in records)`. -/
def maxSalience : List MemoryRow → Double
  | [] => ⟨0, false, Double.zero_sign⟩
  | r :: rest => rest.foldl (fun best x => if best.value < x.salience.value then x.salience else best) r.salience

namespace IntegrationTables

variable (t : IntegrationTables)

/-- `integrate` before its transaction: the operation and the records of the sources. -/
def checkIntegrate (c : IntegrateCall) : Except MindError (Operation × List MemoryRow) := do
  let operation ← orRaise (Operation.ofText? c.operation) (.integration "invalid memory integration operation")
  raiseIf (c.sourceMemoryIds.length < 2 ∨ ¬ c.sourceMemoryIds.Nodup)
    (.integration "integration requires distinct source memories")
  raiseIf (strip c.synthesis = "" ∨ strip c.reason = "" ∨ isUnit c.confidence.value = false)
    (.integration "invalid integration synthesis")
  raiseIf (c.evidenceEventIds = [] ∨ ¬ c.evidenceEventIds.Nodup) (.integration "integration evidence is required")
  let records ← c.sourceMemoryIds.mapM (t.toMindTables.load cfg.toMemoryConfig)
  raiseIf (records.any (fun r => r.subjectId ≠ cfg.subjectId) = true)
    (.integration "memory integration crosses subject boundary")
  raiseIf (records.all (fun r => r.confidence.value < c.confidence.value) = true)
    (.integration "integration confidence exceeds source evidence")
  .ok (operation, records)

/-- A source that an integration supersedes. -/
def supersedeRecord (c : IntegrateCall) (t : IntegrationTables) (record : MemoryRow) :
    Except MindError IntegrationTables :=
  t.reviseMemory cfg record.memoryId
    ⟨record.content, record.salience, record.confidence, .superseded, "superseded by integration " ++ c.memoryId,
      c.evidenceEventIds, some record.currentRevision⟩ (c.memoryNow record.memoryId)

/-- `if operation in {"merge", "supersede"}`. -/
def supersedeRecords (c : IntegrateCall) (operation : Operation) (records : List MemoryRow) (t : IntegrationTables) :
    Except MindError IntegrationTables :=
  if operation = .contradict then .ok t else records.foldlM (supersedeRecord cfg c) t

/-- The transaction of `integrate`. -/
def commitIntegrate (c : IntegrateCall) (operation : Operation) (records : List MemoryRow) :
    Except MindError IntegrationTables := do
  raiseIf (c.evidenceEventIds.all (fun e => t.events.contains (cfg.subjectId, e)) = false)
    (.integration "integration evidence is unavailable")
  let (output, mind) ← t.toMindTables.create cfg.toMemoryConfig
    ⟨cfg.subjectId, if operation = .contradict then .reflection else .semantic, strip c.synthesis, maxSalience records,
      c.confidence, c.evidenceEventIds, "private", "memory integration: " ++ strip c.reason⟩ c.memoryId
      (c.memoryNow c.memoryId)
  let t : IntegrationTables := { t with toMindTables := mind }
  let t ← supersedeRecords cfg c operation records t
  let row : IntegrationRow :=
    { integrationId := c.integrationId
      subjectId := cfg.subjectId
      operation := operation
      sourceMemoryIds := c.sourceMemoryIds
      outputMemoryId := output.memoryId
      evidenceEventIds := c.evidenceEventIds
      reason := strip c.reason
      confidence := stored c.confidence.toFloat
      status := .active
      stateHash := cfg.hash operation c.sourceMemoryIds output.memoryId c.evidenceEventIds (strip c.reason)
        c.confidence .active
      createdAt := c.now
      revertedAt := none }
  let integrations ← orRaise (t.integrations.insert? row) .database
  raiseIf (c.fails = true) .database
  .ok ({ t with integrations := integrations }.revision cfg c.integrationId .commit (strip c.reason) c.now)

def integrate (c : IntegrateCall) : Except MindError IntegrationRow × IntegrationTables :=
  match t.checkIntegrate cfg c >>= fun (operation, records) => t.commitIntegrate cfg c operation records with
  | .error e => (.error e, t)
  | .ok t' => (t'.get cfg c.integrationId, t')

end IntegrationTables

structure RevertCall where
  integrationId : String
  reason : String
  memoryNow : String → Nat
  now : Nat
  fails : Bool

namespace IntegrationTables

variable (t : IntegrationTables)

/-- A source of a reverted integration, as it is before the transaction. -/
def restoreSource (c : RevertCall) (record : IntegrationRow) (before t : IntegrationTables) (memoryId : String) :
    Except MindError IntegrationTables := do
  let memory ← before.toMindTables.load cfg.toMemoryConfig memoryId
  if memory.status = .superseded then
    t.reviseMemory cfg memoryId
      ⟨memory.content, memory.salience, memory.confidence, .active, "integration reverted: " ++ strip c.reason,
        record.evidenceEventIds, some memory.currentRevision⟩ (c.memoryNow memoryId)
  else .ok t

/-- `revert` before its transaction: the integration and its output. -/
def checkRevert (c : RevertCall) : Except MindError (IntegrationRow × MemoryRow) := do
  let record ← t.get cfg c.integrationId
  raiseIf (record.status ≠ .active ∨ strip c.reason = "") (.integration "integration cannot be reverted")
  let output ← t.toMindTables.load cfg.toMemoryConfig record.outputMemoryId
  .ok (record, output)

/-- The output of a reverted integration, as it is before the transaction. -/
def archiveOutput (c : RevertCall) (record : IntegrationRow) (output : MemoryRow) (t : IntegrationTables) :
    Except MindError IntegrationTables :=
  if output.status = .archived then .ok t
  else
    t.reviseMemory cfg output.memoryId
      ⟨output.content, output.salience, output.confidence, .archived, "integration output reverted: " ++ strip c.reason,
        record.evidenceEventIds, some output.currentRevision⟩ (c.memoryNow output.memoryId)

/-- The transaction of `revert`. -/
def commitRevert (c : RevertCall) (record : IntegrationRow) (output : MemoryRow) :
    Except MindError IntegrationTables := do
  let t' ← record.sourceMemoryIds.foldlM (restoreSource cfg c record t) t
  let t' ← archiveOutput cfg c record output t'
  let row : IntegrationRow :=
    { record with
      status := .reverted
      stateHash := cfg.hash record.operation record.sourceMemoryIds record.outputMemoryId record.evidenceEventIds
        record.reason
        (.float record.confidence) .reverted
      revertedAt := some c.now }
  raiseIf (c.fails = true) .database
  .ok ({ t' with integrations := t'.integrations.replace row }.revision cfg c.integrationId .revert (strip c.reason)
    c.now)

def revert (c : RevertCall) : Except MindError IntegrationRow × IntegrationTables :=
  match t.checkRevert cfg c >>= fun (record, output) => t.commitRevert cfg c record output with
  | .error e => (.error e, t)
  | .ok t' => (t'.get cfg c.integrationId, t')

/-- `_verify_owned_ids` over the memories. -/
def verifyOwnedMemories (ids : List String) (context : String) : Except MindError Unit :=
  ids.forM (fun id => do
    let row ← orRaise (t.memories.find? id) (.integrity (context ++ " is missing or invalid"))
    raiseIf (row.subjectId ≠ cfg.subjectId) (.integrity (context ++ " crosses a subject boundary")))

/-- `_verify_owned_ids` over the events. -/
def verifyOwnedEvents (ids : List String) (context : String) : Except MindError Unit :=
  ids.forM (fun id => raiseIf (t.events.contains (cfg.subjectId, id) = false)
    (.integrity (context ++ " is missing or invalid")))

/-- The revisions of an integration, by time and then by insertion. -/
def revisionsOf (integrationId : String) : List IntegrationRevision :=
  (t.revisions.filter (fun r => r.integrationId = integrationId)).insertionSort (fun a b => a.createdAt ≤ b.createdAt)

/-- One revision against the action expected in its place. -/
def verifyRevision (row : IntegrationRow) (first : Bool) (expected : IntegrationAction)
    (revision : IntegrationRevision) :
    Except MindError Unit := do
  let context := "memory integration " ++ row.integrationId
  raiseIf (revision.action ≠ expected) (.integrity (context ++ " revision sequence is invalid"))
  raiseIf (strip revision.reason = "") (.integrity (context ++ " revision reason is invalid"))
  raiseIf (validHash revision.stateHash = false ∨
      revision.stateHash ≠ cfg.revisionHash row.integrationId revision.action revision.reason revision.createdAt)
    (.integrity (context ++ " revision hash mismatch"))
  raiseIf (first = true ∧ (revision.reason ≠ row.reason ∨ revision.createdAt ≠ row.createdAt))
    (.integrity (context ++ " commit revision is invalid"))
  raiseIf (revision.action = .revert ∧ some revision.createdAt ≠ row.revertedAt)
    (.integrity (context ++ " revert revision is invalid"))

/-- One integration in `_verify_memory_integrations`. -/
def verifyIntegration (row : IntegrationRow) : Except MindError Unit := do
  let context := "memory integration " ++ row.integrationId
  raiseIf (¬ row.sourceMemoryIds.Nodup) (.integrity (context ++ " source memory ids list is invalid"))
  raiseIf (¬ row.evidenceEventIds.Nodup) (.integrity (context ++ " evidence event ids list is invalid"))
  raiseIf (row.sourceMemoryIds.length < 2 ∨ row.evidenceEventIds = [])
    (.integrity (context ++ " references are invalid"))
  raiseIf (row.outputMemoryId ∈ row.sourceMemoryIds) (.integrity (context ++ " output aliases a source memory"))
  raiseIf (strip row.reason = "") (.integrity (context ++ " reason is invalid"))
  raiseIf (isUnit row.confidence.value = false) (.integrity (context ++ " confidence is invalid"))
  raiseIf (decide (row.status = .active) ≠ row.revertedAt.isNone) (.integrity (context ++ " lifecycle is invalid"))
  raiseIf (validHash row.stateHash = false) (.integrity (context ++ " state hash is invalid"))
  raiseIf (row.stateHash ≠ cfg.hash row.operation row.sourceMemoryIds row.outputMemoryId row.evidenceEventIds row.reason
      (.float row.confidence) row.status) (.integrity (context ++ " state hash mismatch"))
  t.verifyOwnedMemories cfg row.sourceMemoryIds (context ++ " source memory")
  t.verifyOwnedMemories cfg [row.outputMemoryId] (context ++ " output memory")
  t.verifyOwnedEvents cfg row.evidenceEventIds (context ++ " evidence event")
  match row.status, t.revisionsOf row.integrationId with
  | .active, [commit] => verifyRevision cfg row true .commit commit
  | .reverted, [commit, revert] => do
    verifyRevision cfg row true .commit commit
    verifyRevision cfg row false .revert revert
  | _, _ => .error (.integrity (context ++ " revision history is invalid"))

/-- `verify_lifecycle_integrity` as far as it reads what integrations write. -/
def verifyLifecycleIntegrity : Except MindError Unit :=
  (t.integrations.rows.filter (fun row => row.subjectId = cfg.subjectId)).forM (t.verifyIntegration cfg)

end IntegrationTables

inductive Call
  | integrate (c : IntegrateCall)
  | revert (c : RevertCall)

/-- The tables, and the status each memory had before the first of the integrations that cover it. -/
structure World where
  tables : IntegrationTables
  before : String → Option MemoryStatus

def IntegrationTables.statusOf (t : IntegrationTables) (memoryId : String) : Option MemoryStatus :=
  (t.memories.find? memoryId).map MemoryRow.status

/-- An active merge or supersession of a memory. -/
def IntegrationRow.covers (row : IntegrationRow) (memoryId : String) : Bool :=
  row.status = .active && row.operation ≠ .contradict && row.sourceMemoryIds.contains memoryId

def IntegrationTables.covered (t : IntegrationTables) (memoryId : String) : Bool :=
  t.integrations.rows.any (fun row => row.covers memoryId)

/-- The answer of a call and the tables after it. -/
def IntegrationTables.call (t : IntegrationTables) : Call → Except MindError IntegrationRow × IntegrationTables
  | .integrate c => t.integrate cfg c
  | .revert c => t.revert cfg c

/-- The status of a memory that is newly covered is noted. -/
def noteBefore (t t' : IntegrationTables) (before : String → Option MemoryStatus) : String → Option MemoryStatus :=
  fun memoryId =>
  if t'.covered memoryId = true ∧ t.covered memoryId = false then t.statusOf memoryId else before memoryId

def integrationMachine : Machine World Call where
  init w := w.tables.integrations.rows = [] ∧ w.tables.revisions = []
  step w c := ⟨(w.tables.call cfg c).2, noteBefore w.tables (w.tables.call cfg c).2 w.before⟩

end Noyra.Mind
