import Mathlib.Data.List.Sort
import Noyra.Lib.IsoTime
import Noyra.Lib.Machine
import Noyra.Lib.Outcome
import Noyra.Lib.Table
import Noyra.Lib.Text

/-!
# Capability grants

`CapabilityStore`: an operator grants a subject a capability with a scope and a rate limit, and every use is
charged to one grant. What a path or an address denotes is read from the environment.
-/

namespace Noyra.Capability
open Noyra.Lib

inductive CapabilityType
  | webRead | filesystemRead | filesystemWrite | publish | message | wallet
  deriving DecidableEq

def CapabilityType.name : CapabilityType → String
  | .webRead => "web_read"
  | .filesystemRead => "filesystem_read"
  | .filesystemWrite => "filesystem_write"
  | .publish => "publish"
  | .message => "message"
  | .wallet => "wallet"

/-- `capability_type.startswith("filesystem")`. -/
def CapabilityType.filesystem (t : CapabilityType) : Bool := t = .filesystemRead || t = .filesystemWrite

/-- An element of a list in a scope: a text, or a value of another kind. -/
inductive ScopeItem
  | text (s : String)
  | other
  deriving DecidableEq

/-- A value in a scope, as far as the checks tell values apart. -/
inductive ScopeValue
  | text (s : String)
  | flag (b : Bool)
  | items (l : List ScopeItem)
  | other
  deriving DecidableEq

/-- The entries of a scope. -/
abbrev Scope := List (String × ScopeValue)

inductive CapabilityError
  | permissionError (text : String)
  | valueError (text : String)
  | notFoundError
  | integrityError (text : String)
  | overflowError
  | denied (capabilityType : CapabilityType) (resource : String)
  | actionDenied
  deriving DecidableEq

/-- `CapabilityDeniedError`. -/
def CapabilityError.isDenial : CapabilityError → Bool
  | .denied _ _ => true
  | .actionDenied => true
  | _ => false

/-- The characters of a timestamp. -/
abbrev Timestamp := List Char

/-- `CapabilityGrant`. -/
structure CapabilityGrant where
  capabilityType : CapabilityType
  scope : Scope
  issuer : String
  rateLimitPerHour : Nat
  sideEffect : Bool
  requiresApproval : Bool
  expiresAt : Option Timestamp
  deriving DecidableEq

/-- What makes a `CapabilityGrant`. -/
def CapabilityGrant.valid (p : CapabilityGrant) : Bool :=
  1 ≤ p.issuer.length && p.issuer.length ≤ 256 && strip p.issuer ≠ "" && p.rateLimitPerHour ≤ 100000 &&
    p.expiresAt.all (fun t => t.length ≤ 64)

inductive GrantStatus
  | active | revoked
  deriving DecidableEq

/-- `capability_grants`. -/
structure GrantRow where
  grantId : Nat
  subjectId : Nat
  capabilityType : CapabilityType
  scope : Scope
  issuer : String
  rateLimitPerHour : Nat
  sideEffect : Bool
  requiresApproval : Bool
  status : GrantStatus
  stateHash : String
  createdAt : Timestamp
  expiresAt : Option Timestamp
  revokedAt : Option Timestamp
  revokeReason : Option String
  deriving DecidableEq

/-- `capability_uses`. -/
structure UseRow where
  useId : Nat
  grantId : Nat
  subjectId : Nat
  resource : String
  actionId : Option Nat
  createdAt : Timestamp
  deriving DecidableEq

/-- `urlsplit`. -/
structure Url where
  scheme : String
  hostname : Option String
  port : Option Nat
  username : Option String
  password : Option String
  fragment : String
  deriving DecidableEq

/-- What a call reads of paths and addresses. -/
structure ResourceView where
  /-- `normalized_root`, in parts. -/
  normalizedRoot : String → Option (List String)
  /-- `Path(resource).expanduser().resolve()`, in parts. -/
  resolve : String → Option (List String)
  urlsplit : String → Option Url
  /-- Whether the text is an address, and a global one. -/
  isGlobal : String → Option Bool
  /-- `str.lower`. -/
  lower : String → String

/-- A `datetime`: its wall clock, and the offset of its zone from UTC in microseconds, where it has one. -/
structure DateTime where
  wall : Moment
  utcoffset : Option Int

/-- `astimezone(UTC)` of a wall clock with its offset; `none` is the `OverflowError`. -/
def astimezone (wall : Moment) (utcoffset : Int) : Option Moment :=
  if (wall.micros : Int) < utcoffset then none else Moment.ofMicros? ((wall.micros : Int) - utcoffset).toNat

structure CapabilityConfig where
  /-- `datetime.fromisoformat`; `none` is the `ValueError`. -/
  fromisoformat : Timestamp → Option DateTime
  /-- `_state_hash_values`. -/
  stateHash : Nat → CapabilityGrant → GrantStatus → Timestamp → Option Timestamp → Option String → String

/-- `_parse_time`. -/
def CapabilityConfig.parseTime (cfg : CapabilityConfig) (text : Timestamp) : Except CapabilityError Moment := do
  let parsed ← orRaise (cfg.fromisoformat text) (.valueError "capability time must be ISO-8601")
  let utcoffset ← orRaise parsed.utcoffset (.valueError "capability time must include a timezone")
  orRaise (astimezone parsed.wall utcoffset) .overflowError

structure CapabilityState where
  grants : Table GrantRow.grantId
  uses : List UseRow
  nextId : Nat

def Scope.get (scope : Scope) (key : String) : Option ScopeValue := scope.lookup key

/-- The texts of a list that has only nonblank texts. -/
def nonblankTexts : List ScopeItem → Option (List String)
  | [] => some []
  | .text s :: rest => if strip s = "" then none else (nonblankTexts rest).map (s :: ·)
  | .other :: _ => none

/-- The nonempty list of nonblank texts under a key. -/
def Scope.texts (scope : Scope) (key : String) : Option (List String) :=
  match scope.get key with
  | some (.items l) => if l = [] then none else nonblankTexts l
  | _ => none

/-- `_validate_scope_values` for files: an absolute root. -/
def validateRoot (scope : Scope) : Except CapabilityError Unit :=
  match scope.get "root" with
  | some (.text root) =>
    raiseIf (strip root = "" ∨ root.toList.head? ≠ some '/')
      (.valueError "filesystem capability scope requires an absolute root")
  | _ => .error (.valueError "filesystem capability scope requires an absolute root")

/-- `_validate_scope_values` for the web. -/
def validateWeb (scope : Scope) (allowLegacyWildcard : Bool) : Except CapabilityError Unit := do
  raiseIf ((scope.get "public_https").any (fun v => v ≠ .flag true && v ≠ .flag false))
    (.valueError "web capability public_https scope must be boolean")
  if (scope.get "hosts").isSome then
    let hosts ← orRaise (scope.texts "hosts") (.valueError "web capability scope requires one or more hosts")
    raiseIf ("*" ∈ hosts ∧ ¬(allowLegacyWildcard = true ∧ hosts = ["*"] ∧ scope.get "public_https" = none))
      (.valueError "web capability host scopes cannot use wildcard hosts; use public_https instead")
  else
    raiseIf (scope.get "public_https" ≠ some (.flag true))
      (.valueError "web capability scope requires public_https or one or more hosts")

/-- `_validate_scope_values`. -/
def validateScopeValues (type : CapabilityType) (scope : Scope) (allowLegacyWildcard : Bool) :
    Except CapabilityError Unit :=
  if type.filesystem then validateRoot scope
  else if type = .webRead then validateWeb scope allowLegacyWildcard
  else raiseIf (scope.texts "exact" = none) (.valueError "capability scope requires one or more exact resources")

/-- `_validate_scope`. -/
def validateScope (p : CapabilityGrant) : Except CapabilityError Unit := do
  validateScopeValues p.capabilityType p.scope false
  raiseIf ((p.capabilityType = .filesystemWrite ∨ p.capabilityType = .publish ∨ p.capabilityType = .message ∨
    p.capabilityType = .wallet) ∧ p.sideEffect = false)
    (.valueError "side-effect capability grants must enable side effects")

/-- `target == root_path or root_path in target.parents`. -/
def rootMatches (view : ResourceView) (scope : Scope) (resource : String) : Bool :=
  match scope.get "root" with
  | some (.text root) =>
    match view.normalizedRoot root, view.resolve resource with
    | some rootPath, some target => rootPath.isPrefixOf target
    | _, _ => false
  | _ => false

/-- `hostname.split("%", 1)[0]`. -/
def withoutZone (hostname : String) : String := String.ofList (hostname.toList.takeWhile (fun c => c ≠ '%'))

/-- A public HTTPS address, or one of a host in the scope. -/
def webMatches (view : ResourceView) (scope : Scope) (resource : String) : Bool :=
  match view.urlsplit resource with
  | none => false
  | some url =>
    match url.hostname with
    | none => false
    | some hostname =>
      if view.lower url.scheme ≠ "https" ∨ url.username ≠ none ∨ url.password ≠ none ∨ url.fragment ≠ "" then false
      else if url.port ≠ none ∧ url.port ≠ some 443 then false
      else if view.isGlobal (withoutZone hostname) = some false then false
      else if scope.get "public_https" = some (.flag true) then true
      else
        match scope.texts "hosts" with
        | none => false
        | some hosts => hosts ≠ ["*"] && view.lower hostname ∈ hosts.map (fun h => view.lower (strip h))

/-- `_scope_matches`. -/
def scopeMatches (view : ResourceView) (type : CapabilityType) (scope : Scope) (resource : String) :
    Except CapabilityError Bool :=
  match validateScopeValues type scope true with
  | .error _ => .error (.integrityError "capability scope is invalid")
  | .ok _ =>
    .ok (if type.filesystem then rootMatches view scope resource
      else if type = .webRead then webMatches view scope resource
      else (scope.texts "exact").any (fun texts => resource ∈ texts))

variable (cfg : CapabilityConfig)

def GrantRow.proposal (row : GrantRow) : CapabilityGrant :=
  ⟨row.capabilityType, row.scope, row.issuer, row.rateLimitPerHour, row.sideEffect, row.requiresApproval, row.expiresAt⟩

/-- `_from_row`. -/
def fromRow (row : GrantRow) : Except CapabilityError Unit := do
  match validateScopeValues row.capabilityType row.scope true with
  | .error _ => .error (.integrityError "capability scope is invalid")
  | .ok _ =>
    raiseIf (cfg.stateHash row.subjectId row.proposal row.status row.createdAt row.revokedAt row.revokeReason ≠
      row.stateHash)
      (.integrityError "capability grant state hash mismatch")

/-- An `expires_at` that is given can be read. -/
def checkExpiry : Option Timestamp → Except CapabilityError Unit
  | none => .ok ()
  | some text => (cfg.parseTime text).map (fun _ => ())

/-- `grant`, at a reading of the clock. -/
def grant (subjectId : Nat) (p : CapabilityGrant) (actor : String) (clock : Moment) (s : CapabilityState) :
    Except CapabilityError CapabilityState := do
  raiseIf (p.valid = false) (.valueError "capability grant is invalid")
  raiseIf (strip actor = "" ∨ actor = "subject")
    (.permissionError "capabilities are granted by an operator, not by the subject")
  raiseIf (p.requiresApproval = true)
    (.valueError "per-use approvals are not supported; revoke the capability grant instead")
  checkExpiry cfg p.expiresAt
  validateScope p
  let now := clock.isoformatMillis
  let row : GrantRow := ⟨s.nextId, subjectId, p.capabilityType, p.scope, p.issuer, p.rateLimitPerHour, p.sideEffect,
    p.requiresApproval, .active, cfg.stateHash subjectId p .active now none none, now, p.expiresAt, none, none⟩
  let table ← orRaise (s.grants.insert? row) (.integrityError "capability grant exists")
  fromRow cfg row
  .ok { s with grants := table, nextId := s.nextId + 1 }

/-- `revoke`. -/
def revoke (grantId : Nat) (reason actor : String) (subjectId : Nat) (clock : Moment) (s : CapabilityState) :
    Except CapabilityError CapabilityState := do
  raiseIf (strip actor = "" ∨ actor = "subject" ∨ strip reason = "")
    (.permissionError "only an operator can revoke a grant with a reason")
  let row ← orRaise ((s.grants.find? grantId).filter (fun r => r.subjectId = subjectId)) .notFoundError
  if row.status = .revoked then
    fromRow cfg row
    .ok s
  else
    let now := clock.isoformatMillis
    let hash := cfg.stateHash row.subjectId row.proposal .revoked row.createdAt (some now) (some reason)
    let revoked :=
      { row with status := .revoked, stateHash := hash, revokedAt := some now, revokeReason := some reason }
    fromRow cfg revoked
    .ok { s with grants := s.grants.replace revoked }

/-- The arguments of `use` and `allows`, with what they read: the clock, paths and addresses, and the subject of the
action. -/
structure UseRequest where
  subjectId : Nat
  capabilityType : CapabilityType
  resource : String
  sideEffect : Bool
  actionId : Option Nat
  now : Option Timestamp
  clock : Moment
  view : ResourceView
  actionSubject : Option Nat

/-- `now or utc_now()`. -/
def UseRequest.timestamp (q : UseRequest) : Timestamp :=
  match q.now with
  | some (c :: cs) => c :: cs
  | _ => q.clock.isoformatMillis

/-- Uses of a grant after a time, as the texts compare. -/
def usedAfter (s : CapabilityState) (grantId : Nat) (cutoff : Timestamp) : Nat :=
  s.uses.countP (fun u => u.grantId = grantId && decide (cutoff < u.createdAt))

/-- Whether the hour before `current` leaves the grant a use. -/
def withinRate (s : CapabilityState) (current : Moment) (row : GrantRow) : Except CapabilityError Bool :=
  if 0 < row.rateLimitPerHour then do
    let cutoff ← orRaise (current.sub? hour) .overflowError
    .ok (decide (usedAfter s row.grantId cutoff.isoformatMillis < row.rateLimitPerHour))
  else .ok true

/-- `expires_at` has passed. -/
def expired (current : Moment) (row : GrantRow) : Except CapabilityError Bool :=
  match row.expiresAt with
  | none => .ok false
  | some text => do
    let t ← cfg.parseTime text
    .ok (decide (t.micros ≤ current.micros))

/-- One row of the loop: whether it authorizes the use. -/
def authorizes (s : CapabilityState) (q : UseRequest) (current : Moment) (row : GrantRow) :
    Except CapabilityError Bool := do
  fromRow cfg row
  if ← expired cfg current row then .ok false
  else if q.sideEffect && !row.sideEffect then .ok false
  else if row.requiresApproval then .ok false
  else if ← scopeMatches q.view row.capabilityType row.scope q.resource then withinRate s current row
  else .ok false

/-- The loop of `_select_connection`. -/
def selectLoop (s : CapabilityState) (q : UseRequest) (current : Moment) :
    List GrantRow → Except CapabilityError (Option GrantRow)
  | [] => .ok none
  | row :: rows => do
    if ← authorizes cfg s q current row then .ok (some row) else selectLoop s q current rows

/-- The active grants of a capability, oldest first. -/
def candidates (s : CapabilityState) (q : UseRequest) : List GrantRow :=
  (s.grants.rows.filter (fun r => r.subjectId = q.subjectId && r.capabilityType = q.capabilityType &&
    r.status = .active)).insertionSort (fun a b => a.createdAt ≤ b.createdAt)

/-- `_select_connection`. -/
def selectConnection (s : CapabilityState) (q : UseRequest) (current : Moment) :
    Except CapabilityError (Option GrantRow) :=
  selectLoop cfg s q current (candidates s q)

/-- The row a use adds. -/
def chargedUse (s : CapabilityState) (q : UseRequest) (row : GrantRow) : UseRow :=
  ⟨s.nextId, row.grantId, q.subjectId, q.resource, q.actionId, q.timestamp⟩

/-- `use`. -/
def use (q : UseRequest) (s : CapabilityState) : Except CapabilityError (CapabilityState × GrantRow) := do
  raiseIf (strip q.resource = "") (.valueError "capability resource cannot be blank")
  let current ← cfg.parseTime q.timestamp
  let selected ← selectConnection cfg s q current
  let row ← orRaise selected (.denied q.capabilityType q.resource)
  raiseIf (q.actionId ≠ none ∧ q.actionSubject ≠ some q.subjectId) .actionDenied
  .ok ({ s with uses := s.uses ++ [chargedUse s q row], nextId := s.nextId + 1 }, row)

/-- `allows`. -/
def allows (q : UseRequest) (s : CapabilityState) : Except CapabilityError Bool := do
  if strip q.resource = "" then .ok false
  else
    let current ← cfg.parseTime q.timestamp
    let selected ← selectConnection cfg s q current
    .ok selected.isSome

inductive CapabilityAction
  | grant (subjectId : Nat) (p : CapabilityGrant) (actor : String) (clock : Moment)
  | revoke (grantId : Nat) (reason actor : String) (subjectId : Nat) (clock : Moment)
  | use (q : UseRequest)
  | allows (q : UseRequest)

/-- A call that raises leaves the tables as they are. -/
def capabilityStep (s : CapabilityState) : CapabilityAction → CapabilityState
  | .grant subjectId p actor clock => ((grant cfg subjectId p actor clock s).toOption).getD s
  | .revoke grantId reason actor subjectId clock =>
    ((revoke cfg grantId reason actor subjectId clock s).toOption).getD s
  | .use q => ((use cfg q s).toOption.map Prod.fst).getD s
  | .allows _ => s

def capabilityMachine : Machine CapabilityState CapabilityAction where
  init s := s.grants.rows = [] ∧ s.uses = []
  step := capabilityStep cfg

end Noyra.Capability
