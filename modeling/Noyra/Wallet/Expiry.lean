import Noyra.Lib.IsoTime
import Noyra.Wallet.Economy

/-!
# Expiry of bounties as texts

`wallet_bounties.expires_at` is a text, and three paths of the economy store compare it with the clock:
`maintain_expired_bounties` and `list_bounties` in SQL, `_effective_bounty_status` after parsing. The rows here
keep what the three paths read.
-/

namespace Noyra.Wallet
open Noyra.Lib

/-- A value of `canonical_timestamp`: an instant of whole milliseconds. -/
structure CanonicalTime where
  moment : Moment
  whole : moment.micros % 1000 = 0
  deriving DecidableEq

/-- The stored text. -/
def CanonicalTime.text (t : CanonicalTime) : List Char := t.moment.isoformatMillis

/-- The columns of `wallet_bounties` that decide expiry and order. -/
structure BountyExpiry where
  bountyId : Id
  subjectId : Id
  status : BountyStatus
  expiresAt : CanonicalTime
  createdAt : CanonicalTime
  deriving DecidableEq

/-- A status that expiry ends. -/
def BountyStatus.expires : BountyStatus → Bool
  | .draft => true
  | .published => true
  | .closed => true
  | _ => false

/-- `_parse_time`. -/
def parseTimestamp (text : List Char) : Except PyError Moment :=
  orRaise (fromisoformat text) (.valueError "Invalid isoformat string")

/-- `_effective_bounty_status` at a reading of the clock. -/
def BountyExpiry.effectiveStatus (row : BountyExpiry) (clock : CanonicalTime) : Except PyError BountyStatus :=
  if row.status.expires then do
    let expiry ← parseTimestamp row.expiresAt.text
    let now ← parseTimestamp clock.text
    .ok (if expiry.micros ≤ now.micros then .expired else row.status)
  else .ok row.status

/-- The status condition of the query of `list_bounties`. -/
def BountyExpiry.listed (row : BountyExpiry) (status : Option BountyStatus) (clock : CanonicalTime) : Bool :=
  match status with
  | none => true
  | some .expired => row.status = .expired || (row.status.expires && decide (row.expiresAt.text ≤ clock.text))
  | some .cancelled => row.status = .cancelled
  | some status => row.status = status && decide (clock.text < row.expiresAt.text)

/-- The cursor condition of the query. -/
def BountyExpiry.before (row : BountyExpiry) (cursor : Option (List Char × Id)) : Bool :=
  cursor.all (fun c => decide (row.createdAt.text < c.1) || (row.createdAt.text = c.1 && decide (row.bountyId < c.2)))

/-- The rows of the query of `list_bounties`, newest first, without its limit. -/
def listedRows (table : Table BountyExpiry.bountyId) (subjectId : Id) (status : Option BountyStatus)
    (cursor : Option (List Char × Id)) (clock : CanonicalTime) : List BountyExpiry :=
  (table.rows.filter (fun r => r.subjectId = subjectId && r.listed status clock && r.before cursor)).insertionSort
    (fun a b => b.createdAt.text < a.createdAt.text ∨ (b.createdAt.text = a.createdAt.text ∧ b.bountyId ≤ a.bountyId))

/-- `list_bounties`: the rows with their effective status. -/
def listBounties (table : Table BountyExpiry.bountyId) (subjectId : Id) (status : Option BountyStatus) (limit : Nat)
    (cursor : Option (List Char × Id)) (clock : CanonicalTime) : Except PyError (List BountyExpiry) := do
  raiseIf (limit < 1 ∨ 1000 < limit) (.valueError "invalid bounty limit")
  validateSubjectId subjectId
  raiseIf (cursor.any (fun c => 40 < c.1.length || 128 < c.2.length)) (.valueError "invalid bounty cursor")
  let records ← ((listedRows table subjectId status cursor clock).take limit).mapM (fun r => do
    let status ← r.effectiveStatus clock
    .ok { r with status })
  .ok (match status with
    | none => records
    | some status => records.filter (fun r => r.status = status))

/-- The rows of the query of `maintain_expired_bounties`, without its limit. -/
def dueRows (table : Table BountyExpiry.bountyId) (subjectId : Id) (now : Moment) : List BountyExpiry :=
  (table.rows.filter (fun r => r.subjectId = subjectId && r.status.expires &&
    decide (r.expiresAt.text ≤ now.isoformat))).insertionSort
      (fun a b => a.expiresAt.text < b.expiresAt.text ∨ (a.expiresAt.text = b.expiresAt.text ∧ a.bountyId ≤ b.bountyId))

/-- The loop of `maintain_expired_bounties`. -/
def expireDue (now : Moment) : Table BountyExpiry.bountyId → List BountyExpiry →
    Except PyError (Table BountyExpiry.bountyId)
  | table, [] => .ok table
  | table, row :: rows => do
    let expiry ← parseTimestamp row.expiresAt.text
    expireDue now (if expiry.micros ≤ now.micros then table.replace { row with status := .expired } else table) rows

/-- `maintain_expired_bounties`. -/
def maintainExpired (table : Table BountyExpiry.bountyId) (subjectId : Id) (limit : Nat) (clock : CanonicalTime) :
    Except PyError (Table BountyExpiry.bountyId) := do
  raiseIf (limit < 1 ∨ 1000 < limit) (.valueError "invalid bounty expiry maintenance limit")
  let now ← parseTimestamp clock.text
  expireDue now table ((dueRows table subjectId now).take limit)

end Noyra.Wallet
