import Mathlib.Logic.Relation
import Noyra.Migration.System

/-!
# Chains of migrations

One hop runs `CutoverCoordinator.run` to its commit. The target starts from the snapshot taken behind the
reservation, finalized by `_finalize_target_database`, under its own `NOYRA_MIGRATION_TARGET_ID`; the source keeps
its database. Between the hops the hosts go on with migration work of their own.
-/

namespace Noyra.Migration
open Noyra.Lib
open Noyra.Wallet (Id)

/-- What `_finalize_target_database` reads of an activation request. -/
structure FinalizeRequest where
  taskId : Id
  targetId : Id
  manifestDigest : String
  artifactId : String

/-- The task of the copy, validating. -/
def enterValidating (db : Db) (x : Reading) (t : TaskRow) (request : FinalizeRequest) : Except MigrationError Db :=
  if t.status = .preparing then do
    let (_, db) ← transitionTask db x request.taskId .validating "migration-target"
      { expectedStatus := some .preparing, manifestDigest := some request.manifestDigest,
        artifactId := some request.artifactId }
    .ok db
  else .ok db

/-- The task of the copy, in cutover. -/
def enterTargetCutover (db : Db) (x : Reading) (t : TaskRow) (request : FinalizeRequest) : Except MigrationError Db :=
  if t.status ∈ [TaskStatus.preparing, .validating] then do
    let (_, db) ← transitionTask db x request.taskId .cutover "migration-target" { expectedStatus := some .validating }
    .ok db
  else .ok db

/-- `_finalize_target_database`: the copy commits its own task and completes its epoch. -/
def finalizeTargetDatabase (db : Db) (x : Reading) (request : FinalizeRequest) : Except MigrationError Db := do
  let t ← orRaise (db.tasks.find? request.taskId) (.targetActivationError "restored_migration_task_changed")
  raiseIf (t.status ∉ [TaskStatus.preparing, .validating, .cutover])
    (.targetActivationError "restored_migration_task_changed")
  let db ← enterValidating db x t request
  let db ← enterTargetCutover db x t request
  let (_, db) ← transitionTask db x request.taskId .committed "migration-target" { expectedStatus := some .cutover }
  let e ← orRaise ((t.targetEpochId.bind db.epochs.find?).filter (fun e => e.status = .active))
    (.targetActivationError "restored_migration_epoch_changed")
  raiseIf (e.targetId ≠ request.targetId) (.targetActivationError "restored_migration_epoch_changed")
  completeInTransaction db x e.lease "migration-target"

/-- A host: its database, its `NOYRA_MIGRATION_TARGET_ID` and its fence directory. -/
structure Host where
  db : Db
  own : Option Id
  root : FenceRoot

/-- Both guards let the host work for the subject. -/
def Host.admitted (h : Host) (subjectId : Id) : Prop :=
  noActiveMigrationEpoch h.db subjectId h.root h.own = true ∧ migrationEpochGuard h.db subjectId h.root h.own = true

/-- Both guards refuse it. -/
def Host.rejected (h : Host) (subjectId : Id) : Prop :=
  noActiveMigrationEpoch h.db subjectId h.root h.own = false ∧ migrationEpochGuard h.db subjectId h.root h.own = false

section
variable (cfg : Config) (requirePrincipal : Bool)

/-- Any committed migration transactions of one host. -/
def Activity : Db → Db → Prop :=
  Relation.ReflTransGen (fun db db' => ∃ tx x r, Tx.exec cfg requirePrincipal x db tx = .ok (r, db'))

/-- What becomes of a host that has been left: its database and fence directory may change, its name does not. -/
structure Follows (h h' : Host) : Prop where
  activity : Activity cfg requirePrincipal h.db h'.db
  own : h'.own = h.own

/-- One hop from the database `db`: `source` is what the old host is left with, `target` what the new host
starts from. -/
structure Hop (subjectId targetId : Id) (db source target : Db) where
  task : TaskRow
  subject : task.subjectId = subjectId
  toTarget : task.targetId = targetId
  policy : MigrationPolicy
  walletMode : Option WalletMode
  actor : String
  clock : Time
  checked : checkRun task policy walletMode clock = .ok ()
  reserving : Reading
  lease : EpochLease
  started : TaskRow
  snapshot : Db
  reserved : reserve db reserving task policy actor = .ok ((lease, started), snapshot)
  executing : Nat → Reading
  committed : (store cfg requirePrincipal).complete (executeReserved cfg started lease actor) executing snapshot =
    (.ok (), source)
  request : FinalizeRequest
  requested : request.taskId = task.taskId ∧ request.targetId = targetId
  finalizing : Reading
  finalized : finalizeTargetDatabase snapshot finalizing request = .ok target

/-- `Chain n earlier h`: after `n` hops the subject has arrived at `h`, and has left the hosts `earlier`. -/
inductive Chain (subjectId : Id) : Nat → List Host → Host → Prop
  | origin {h : Host} : Chain subjectId 0 [] h
  | hop {n : Nat} {earlier earlier' : List Host} {h : Host} {db source target : Db} {targetId : Id}
      {root root' : FenceRoot} :
      Chain subjectId n earlier h → List.Forall₂ (Follows cfg requirePrincipal) earlier earlier' →
      Activity cfg requirePrincipal h.db db → Hop cfg requirePrincipal subjectId targetId db source target →
      (∀ e ∈ h :: earlier, e.own ≠ some targetId) →
      Chain subjectId (n + 1) (earlier' ++ [⟨source, h.own, root⟩]) ⟨target, some targetId, root'⟩

end

/-- The host owns the subject alone. -/
def SoleOwner (subjectId : Id) (earlier : List Host) (h : Host) : Prop :=
  h.admitted subjectId ∧ ∀ e ∈ earlier, e.rejected subjectId

end Noyra.Migration
