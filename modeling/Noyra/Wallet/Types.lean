import Noyra.Lib.Outcome
import Noyra.Lib.Text

/-!
# Wallet vocabulary

Statuses, amounts, times and the values read from outside a transaction (`wallet/economy_types.py`,
`wallet/types.py`, `core/types.py`).
-/

namespace Noyra.Wallet
open Noyra.Lib

abbrev Id := String

/-- Milliseconds since the epoch, UTC: the resolution of `utc_now` and `canonical_timestamp`. -/
abbrev Time := Nat

def sqliteInt64Max : Nat := 9223372036854775807
def maxUint256 : Nat := 2 ^ 256 - 1

inductive PyError
  | notFoundError (message : String)
  | invalidTransitionError (message : String)
  | integrityError (message : String)
  | valueError (message : String)
  | typeError (message : String)
  | permissionError (message : String)
  | walletExecutionError (message : String)
  | walletDispatchDenied (message : String)
  | operationInvalidated
  | sqliteIntegrityError (message : String)
  /-- Raised outside `Exception`, such as `KeyboardInterrupt`. -/
  | baseException
  deriving DecidableEq, Repr

/-- The values a durable row is hashed from. -/
inductive Json
  | null
  | int (n : Int)
  | str (s : String)
  | arr (items : List Json)
  | obj (fields : List (String × Json))

namespace Json

def opt {α : Type} (f : α → Json) : Option α → Json
  | none => .null
  | some a => f a

def nat (n : Nat) : Json := .int n
def bool (b : Bool) : Json := .int (if b then 1 else 0)
def strs (items : List String) : Json := .arr (items.map .str)

/-- `json_extract(value, '$.key')` where the field is text. -/
def strField (key : String) : Json → Option String
  | .obj fields =>
    match fields.find? (fun f => f.1 = key) with
    | some (_, .str s) => some s
    | _ => none
  | _ => none

end Json

inductive OrderStatus
  | pendingPolicy | awaitingConfirmation | reserved | rejected | cancelled | expired
  | signing | broadcast | unknown | confirmed | failed | refunded
  deriving DecidableEq, Repr

def OrderStatus.text : OrderStatus → String
  | .pendingPolicy => "pending_policy"
  | .awaitingConfirmation => "awaiting_confirmation"
  | .reserved => "reserved"
  | .rejected => "rejected"
  | .cancelled => "cancelled"
  | .expired => "expired"
  | .signing => "signing"
  | .broadcast => "broadcast"
  | .unknown => "unknown"
  | .confirmed => "confirmed"
  | .failed => "failed"
  | .refunded => "refunded"

/-- Status of an execution and of its attempts. -/
inductive ExecutionStatus
  | signing | broadcast | unknown | confirmed | failed
  deriving DecidableEq, Repr

/-- The order status of the same name. -/
def ExecutionStatus.order : ExecutionStatus → OrderStatus
  | .signing => .signing
  | .broadcast => .broadcast
  | .unknown => .unknown
  | .confirmed => .confirmed
  | .failed => .failed

def ExecutionStatus.text (s : ExecutionStatus) : String := s.order.text

inductive BountyStatus
  | draft | published | closed | cancelled | expired
  deriving DecidableEq, Repr

def BountyStatus.text : BountyStatus → String
  | .draft => "draft"
  | .published => "published"
  | .closed => "closed"
  | .cancelled => "cancelled"
  | .expired => "expired"

inductive SubmissionStatus
  | submitted | accepted | rejected | withdrawn | expired
  deriving DecidableEq, Repr

def SubmissionStatus.text : SubmissionStatus → String
  | .submitted => "submitted"
  | .accepted => "accepted"
  | .rejected => "rejected"
  | .withdrawn => "withdrawn"
  | .expired => "expired"

inductive PaymentMode
  | disabled | conditionalConfirmation | automatic
  deriving DecidableEq, Repr

def PaymentMode.text : PaymentMode → String
  | .disabled => "disabled"
  | .conditionalConfirmation => "conditional_confirmation"
  | .automatic => "automatic"

inductive JournalType
  | reservation | release | settlement | refund
  deriving DecidableEq, Repr

def JournalType.text : JournalType → String
  | .reservation => "reservation"
  | .release => "release"
  | .settlement => "settlement"
  | .refund => "refund"

inductive Account
  | available | reserved | paid | released
  deriving DecidableEq, Repr

def Account.text : Account → String
  | .available => "available"
  | .reserved => "reserved"
  | .paid => "paid"
  | .released => "released"

inductive Direction
  | debit | credit
  deriving DecidableEq, Repr

def Direction.text : Direction → String
  | .debit => "debit"
  | .credit => "credit"

inductive AssetType
  | native | token
  deriving DecidableEq, Repr

def AssetType.text : AssetType → String
  | .native => "native"
  | .token => "token"

inductive RegistryStatus
  | active | revoked
  deriving DecidableEq, Repr

inductive AddressPurpose
  | treasury | spending | observation | external
  deriving DecidableEq, Repr

def dayMillis : Nat := 86400000

/-- Midnight UTC of the day of `t`. -/
def dayStart (t : Time) : Time := t / dayMillis * dayMillis

/-- Day of the month, from 1, of the day `days` after 1970-01-01 (proleptic Gregorian calendar). -/
def dayOfMonth (days : Nat) : Nat :=
  let doe := (days + 719468) % 146097
  let yoe := (doe - doe / 1460 + doe / 36524 - doe / 146096) / 365
  let doy := doe - (365 * yoe + yoe / 4 - yoe / 100)
  let mp := (5 * doy + 2) / 153
  doy - (153 * mp + 2) / 5 + 1

/-- Midnight UTC of the first day of the month of `t`. -/
def monthStart (t : Time) : Time :=
  let days := t / dayMillis
  (days - (dayOfMonth days - 1)) * dayMillis

example : dayOfMonth 0 = 1 ∧ dayOfMonth 59 = 1 ∧ dayOfMonth 789 = 29 := by decide

/-- SQLite's text order between a stored millisecond timestamp and `datetime.isoformat()`, which
prints no fraction at all when the fraction is zero and six digits otherwise. -/
def isoTextLe (stored now : Time) : Bool :=
  stored / 1000 < now / 1000 ||
    (stored / 1000 == now / 1000 && now % 1000 != 0 && decide (stored % 1000 ≤ now % 1000))

/-- What one point of a transaction reads from outside the database: the store's clock, `utc_now`,
a fresh identifier, and whether the release evidence for automatic payments is present. -/
structure Reading where
  clock : Time
  utc : Time
  uuid : String
  activation : Bool

/-- The successive readings of one call. -/
abbrev Readings := Nat → Reading

def Readings.drop (r : Readings) (n : Nat) : Readings := fun i => r (i + n)

/-- Construction parameters of the store and the engine. The hash is a parameter of the model: no
result depends on more than its being a function. -/
structure Config where
  contentHash : Json → String
  signerId : String
  maxFeePerGas : Nat
  minConfirmations : Nat
  confirmationTimeoutSeconds : Nat
  maxFeePerGas_pos : 0 < maxFeePerGas
  minConfirmations_pos : 0 < minConfirmations

def isAlphanumeric (b : UInt8) : Bool :=
  let n := b.toNat
  (decide (48 ≤ n) && decide (n ≤ 57)) || (decide (65 ≤ n) && decide (n ≤ 90)) ||
    (decide (97 ≤ n) && decide (n ≤ 122))

/-- An alphanumeric byte, then between `low` and `high` alphanumeric bytes or bytes of `marks`. -/
def isName (marks : List UInt8) (low high : Nat) (s : String) : Bool :=
  match bytes s with
  | b :: bs => isAlphanumeric b && decide (low ≤ bs.length) && decide (bs.length ≤ high) &&
      bs.all (fun d => isAlphanumeric d || marks.contains d)
  | [] => false

/-- `[A-Za-z0-9][A-Za-z0-9._:-]{0,127}`. -/
def isIdentifier (s : String) : Bool := isName [46, 95, 58, 45] 0 127 s

def canonicalEvmAddress (value : String) : Option String :=
  let candidate := strip value
  if isHex 40 candidate then some (lower candidate) else none

def isCanonicalAddress (value : String) : Bool := canonicalEvmAddress value == some value

/-- `_tx_hash`. -/
def txHash (value : String) : Option String :=
  if isHex 64 value then some (lower value) else none

/-- `_operator`. -/
def operator (actor : String) : Except PyError String :=
  if strip actor = "" ∨ strip actor = "subject" then
    .error (.permissionError "wallet economic operation requires an operator")
  else .ok (strip actor)

/-- A stripped text of length between 1 and `bound`. -/
def reasonText (value message : String) (bound : Nat) : Except PyError String :=
  if strip value = "" ∨ longerThan bound (strip value) then .error (.valueError message)
  else .ok (strip value)

/-- `[A-Za-z0-9][A-Za-z0-9_-]{2,127}`. -/
def isSubjectId (s : String) : Bool := isName [95, 45] 2 127 s

def reservedSubjectIds : List String :=
  ["aux", "con", "nul", "prn"] ++ (List.range 9).map (fun i => "com" ++ toString (i + 1)) ++
    (List.range 9).map (fun i => "lpt" ++ toString (i + 1))

def validateSubjectId (subjectId : String) : Except PyError Unit := do
  raiseIf (isSubjectId subjectId = false)
    (.valueError "subject_id must be 3-128 ASCII characters: letters, digits, '_' or '-'")
  raiseIf (lower subjectId ∈ reservedSubjectIds)
    (.valueError "subject_id cannot be a reserved filesystem device name")

/-- A stored hash is its own canonical form. -/
theorem txHash_txHash {value tx : String} (h : txHash value = some tx) : txHash tx = some tx := by
  unfold txHash at h
  split at h
  · next hv =>
    cases h
    obtain ⟨hh, hl⟩ := isHex_lower hv
    rw [txHash, if_pos hh, hl]
  · cases h

end Noyra.Wallet
