import Mathlib.Data.Rat.Defs
import Mathlib.Data.List.Sort
import Noyra.Lib.Outcome
import Noyra.Lib.Table
import Noyra.Lib.Time

/-!
# Retention of backups

`backup_inventory` reads the backup directory, and `backup_gc_plan` decides which verified backups may go: beyond a
count, beyond an age, and beyond a number of bytes, but never below a floor of recovery points and never a protected
one. Hashes, marker files, timestamp parsing and the age in days are read from the environment.
-/

namespace Noyra.Core.Backups
open Noyra.Lib

/-- `BackupRetentionPolicy`. -/
structure BackupRetentionPolicy where
  keepVerifiedCount : Nat
  maxAgeDays : Option Nat
  maxBytes : Option Nat
  unverifiedGraceDays : Nat
  minimumRecoveryPoints : Nat
  count : 1 ≤ keepVerifiedCount ∧ keepVerifiedCount ≤ 100
  age : ∀ d ∈ maxAgeDays, 1 ≤ d ∧ d ≤ 36500
  bytes : ∀ b ∈ maxBytes, 1 ≤ b
  grace : 1 ≤ unverifiedGraceDays ∧ unverifiedGraceDays ≤ 36500
  floor : 1 ≤ minimumRecoveryPoints ∧ minimumRecoveryPoints ≤ 100

/-- A value in a marker file, as far as the checks tell values apart. -/
inductive MarkerValue
  | text (s : String)
  | flag (b : Bool)
  | number (q : ℚ)
  | other
  deriving DecidableEq

/-- `read_marker`. -/
abbrev Marker := List (String × MarkerValue)

/-- An entry of the backup directory. -/
structure BackupFile where
  name : String
  regular : Bool
  size : Nat
  mtime : Moment
  marker : Option Marker
  /-- `hash_file`, unless it raises. -/
  digest : Option String

abbrev BackupDirectory := Table BackupFile.name

inductive ReadTime
  | time (t : Moment)
  /-- Refused with a `ValueError`, or without an offset. -/
  | rejected
  | overflow

structure BackupConfig where
  /-- `datetime.fromisoformat(value.replace("Z", "+00:00"))`, in UTC. -/
  parseVerifiedAt : String → ReadTime
  /-- `max(0, int((moment - timestamp).total_seconds() // 86400))`, in floating point. -/
  ageDays : Moment → Moment → Nat

inductive BackupError
  | overflowError
  deriving DecidableEq

/-- A row of the inventory. -/
structure InventoryItem where
  name : String
  size : Nat
  sha256 : Option String
  verified : Bool
  timestamp : Moment
  ageDays : Nat
  deriving DecidableEq

/-- The stored text of the timestamp. -/
def InventoryItem.createdAt (item : InventoryItem) : List Char := item.timestamp.isoformat

inductive DeletionReason
  | countExceeded | maxAgeExceeded | maxBytesExceeded
  deriving DecidableEq

/-- `fnmatch(name, "noyra-*.noyra-backup")`. -/
def isBackupName (name : String) : Bool :=
  "noyra-".toList.isPrefixOf name.toList && ".noyra-backup".toList.isSuffixOf name.toList && 19 ≤ name.toList.length

/-- `[0-9a-f]{64}`. -/
def isSha256 (s : String) : Bool :=
  s.toList.length = 64 && s.toList.all (fun c => ('0' ≤ c && c ≤ '9') || ('a' ≤ c && c ≤ 'f'))

/-- Equality of a marker value and a size. -/
def MarkerValue.isSize (v : MarkerValue) (size : Nat) : Bool :=
  match v with
  | .number q => q = size
  | .flag b => size = (if b then 1 else 0)
  | _ => false

/-- `marker.get("size", size) == size`. -/
def sizeMatches (marker : Marker) (size : Nat) : Bool :=
  match marker.lookup "size" with
  | none => true
  | some v => v.isSize size

/-- The digest of a marker that verifies the file. -/
def verifiedDigest (file : BackupFile) : Option String :=
  match file.marker, file.digest with
  | some marker, some digest =>
    match marker.lookup "sha256" with
    | some (.text sha) =>
      if marker.lookup "format" = some (.text "noyra-verified-upgrade-backup/v1") ∧
          marker.lookup "backup" = some (.text file.name) ∧ marker.lookup "restore_verified" = some (.flag true) ∧
          sizeMatches marker file.size = true ∧ isSha256 sha = true ∧ sha = digest then some sha
      else none
    | _ => none
  | _, _ => none

variable (cfg : BackupConfig)

/-- `_backup_timestamp`. -/
def backupTimestamp (file : BackupFile) : Except BackupError Moment :=
  match (file.marker.getD []).lookup "verified_at" with
  | some (.text value) =>
    match cfg.parseVerifiedAt value with
    | .time t => .ok t
    | .rejected => .ok file.mtime
    | .overflow => .error .overflowError
  | _ => .ok file.mtime

/-- One iteration of `backup_inventory`. -/
def inventoryItem (now : Moment) (file : BackupFile) : Except BackupError InventoryItem := do
  let timestamp ← backupTimestamp cfg file
  let sha256 := verifiedDigest file
  .ok ⟨file.name, file.size, sha256, sha256.isSome, timestamp, cfg.ageDays now timestamp⟩

/-- The files that the inventory looks at, in the order of their names. -/
def backupFiles (backups : BackupDirectory) : List BackupFile :=
  (backups.rows.filter (fun f => isBackupName f.name && f.regular)).insertionSort (fun a b => a.name ≤ b.name)

/-- `backup_inventory`. -/
def backupInventory (backups : BackupDirectory) (now : Moment) : Except BackupError (List InventoryItem) :=
  (backupFiles backups).mapM (inventoryItem cfg now)

/-- `(created_at, name)` of one item above that of another. -/
def newer (a b : InventoryItem) : Bool :=
  decide (b.createdAt < a.createdAt) || (b.createdAt = a.createdAt && decide (b.name < a.name))

/-- The verified items, newest first. -/
def verifiedItems (inventory : List InventoryItem) : List InventoryItem :=
  (inventory.filter InventoryItem.verified).insertionSort (fun a b => newer b a = false)

/-- The loop over the oldest remaining items: those that go until the bytes fit. -/
def exceedingBytes (maxBytes : Nat) : ℤ → List InventoryItem → List InventoryItem
  | _, [] => []
  | bytes, item :: rest => if bytes ≤ maxBytes then [] else item :: exceedingBytes maxBytes (bytes - item.size) rest

def totalBytes (items : List InventoryItem) : ℤ := (items.map (fun i => (i.size : ℤ))).sum

def names (items : List InventoryItem) : List String := items.map InventoryItem.name

inductive SpaceStatus
  | withinLimit | unverifiedAndProtectedRecoveryPointsExceedLimit | unverifiedBackupsExceedLimit
  | protectedRecoveryPointsExceedLimit
  deriving DecidableEq

/-- `_backup_space_status`. -/
def backupSpaceStatus (verifiedBytes unverifiedBytes : ℤ) (maxBytes : Option Nat) : SpaceStatus :=
  match maxBytes with
  | none => .withinLimit
  | some most =>
    if verifiedBytes + unverifiedBytes ≤ most then .withinLimit
    else if unverifiedBytes ≠ 0 then
      if (most : ℤ) < verifiedBytes then .unverifiedAndProtectedRecoveryPointsExceedLimit
        else .unverifiedBackupsExceedLimit
    else .protectedRecoveryPointsExceedLimit

/-- What `backup_gc_plan` returns, apart from its hash. -/
structure BackupPlan where
  /-- `backup_details`. -/
  deletions : List (InventoryItem × DeletionReason)
  attention : List InventoryItem
  inventory : List InventoryItem
  /-- `backup_protected`. -/
  keep : List String
  verifiedBytesAfterPlan : ℤ
  unverifiedBytes : ℤ
  spaceStatus : SpaceStatus
  verifiedRecoveryPointsAfterPlan : Nat
  recoveryPointsSatisfied : Bool

/-- `plan["backups"]`. -/
def BackupPlan.backups (p : BackupPlan) : List String := names (p.deletions.map Prod.fst)

section
variable (policy : BackupRetentionPolicy) (protectedNames : List String)

/-- The names of the recovery floor, with the protected ones. -/
def inFloor (verified : List InventoryItem) (name : String) : Bool :=
  decide (name ∈ names (verified.take policy.minimumRecoveryPoints)) || decide (name ∈ protectedNames)

/-- The names that the count keeps. -/
def inKeep (verified : List InventoryItem) (name : String) : Bool :=
  decide (name ∈ names (verified.take (max policy.keepVerifiedCount policy.minimumRecoveryPoints))) ||
    decide (name ∈ protectedNames)

def countDeletions (verified : List InventoryItem) : List InventoryItem :=
  verified.filter (fun i => !inKeep policy protectedNames verified i.name && decide (i.name ∉ protectedNames))

/-- What the count leaves above the floor. -/
def remainingItems (verified : List InventoryItem) : List InventoryItem :=
  verified.filter (fun i => inKeep policy protectedNames verified i.name && !inFloor policy protectedNames verified
    i.name)

def ageDeletions (verified : List InventoryItem) : List InventoryItem :=
  match policy.maxAgeDays with
  | none => []
  | some days => (remainingItems policy protectedNames verified).filter (fun i => decide (days < i.ageDays))

/-- What age leaves above the floor, oldest first. -/
def youngItems (verified : List InventoryItem) : List InventoryItem :=
  ((remainingItems policy protectedNames verified).filter (fun i =>
    decide (i.name ∉ names (ageDeletions policy protectedNames verified)))).insertionSort (fun a b => newer a b = false)

/-- The items that the first two rules leave. -/
def afterAge (verified : List InventoryItem) : List InventoryItem :=
  verified.filter (fun i => decide (i.name ∉ names (countDeletions policy protectedNames verified ++
    ageDeletions policy protectedNames verified)))

def byteDeletions (verified : List InventoryItem) : List InventoryItem :=
  match policy.maxBytes with
  | none => []
  | some most =>
    exceedingBytes most (totalBytes (afterAge policy protectedNames verified))
      (youngItems policy protectedNames verified)

/-- Everything that goes. -/
def deletedItems (verified : List InventoryItem) : List InventoryItem :=
  countDeletions policy protectedNames verified ++ ageDeletions policy protectedNames verified ++
    byteDeletions policy protectedNames verified

/-- `backup_gc_plan` of an inventory. -/
def planOf (inventory : List InventoryItem) : BackupPlan :=
  let verified := verifiedItems inventory
  let left := verified.filter (fun i => decide (i.name ∉ names (deletedItems policy protectedNames verified)))
  let unverifiedBytes := totalBytes (inventory.filter (fun i => !i.verified))
  let kept := (names verified).filter (fun n => inKeep policy protectedNames verified n &&
    decide (n ∉ names (ageDeletions policy protectedNames verified ++ byteDeletions policy protectedNames verified)))
  { deletions := (countDeletions policy protectedNames verified).map (·, .countExceeded) ++
      (ageDeletions policy protectedNames verified).map (·, .maxAgeExceeded) ++
      (byteDeletions policy protectedNames verified).map (·, .maxBytesExceeded)
    attention := inventory.filter (fun i => !i.verified && decide (policy.unverifiedGraceDays < i.ageDays))
    inventory
    keep := (kept ++ protectedNames).dedup.insertionSort (fun a b => a ≤ b)
    verifiedBytesAfterPlan := totalBytes left
    unverifiedBytes
    spaceStatus := backupSpaceStatus (totalBytes left) unverifiedBytes policy.maxBytes
    verifiedRecoveryPointsAfterPlan := left.length
    recoveryPointsSatisfied := decide (policy.minimumRecoveryPoints ≤ left.length) }

/-- `backup_gc_plan`. -/
def backupGcPlan (backups : BackupDirectory) (now : Moment) : Except BackupError BackupPlan := do
  let inventory ← backupInventory cfg backups now
  .ok (planOf policy protectedNames inventory)

end

/-- The directory once the planned backups are deleted. -/
def applyPlan (backups : BackupDirectory) (plan : BackupPlan) : BackupDirectory :=
  backups.keepRows (fun f => decide (f.name ∉ plan.backups))

end Noyra.Core.Backups
