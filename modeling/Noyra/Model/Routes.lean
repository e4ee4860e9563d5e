import Mathlib.Data.Char
import Mathlib.Data.List.Lex
import Mathlib.Data.List.Sort
import Noyra.Lib.Base64
import Noyra.Lib.Outcome

/-!
# Routed idempotency keys

The physical key of a model call names the logical request, the pool, the group and key it is routed to and the
selection count. `_route_metadata` reads the route back, in the current format and in the one before it.
-/

namespace Noyra.Model
open Noyra.Lib

abbrev Text := List Char

inductive CognitivePool
  | economy | deep
  deriving DecidableEq

def CognitivePool.text : CognitivePool → Text
  | .economy => "economy".toList
  | .deep => "deep".toList

/-- The identifier of a group or of a key. -/
structure RouteId where
  text : Text
  nonempty : text ≠ []
  delimiterFree : ':' ∉ text

inductive RouteError
  | modelCallStateError (message : String)
  | integrityError (message : String)
  deriving DecidableEq

/-- `text.partition(marker)`: before and after its first occurrence. -/
def partition (marker : Text) : Text → Option (Text × Text)
  | [] => if marker = [] then some ([], []) else none
  | c :: text =>
    if marker.isPrefixOf (c :: text) then some ([], (c :: text).drop marker.length)
    else (partition marker text).map (fun p => (c :: p.1, p.2))

/-- `text.rpartition(marker)`: before and after its last occurrence. -/
def rpartition (marker : Text) : Text → Option (Text × Text)
  | [] => if marker = [] then some ([], []) else none
  | c :: text =>
    match rpartition marker text with
    | some p => some (c :: p.1, p.2)
    | none => if marker.isPrefixOf (c :: text) then some ([], (c :: text).drop marker.length) else none

/-- `str.isdigit` of a text of ASCII: the other digits of Unicode, which no written selection has, are refused here. -/
def isDigits (text : Text) : Bool := text ≠ [] && text.all Char.isDigit

def poolMarker (pool : CognitivePool) : Text := ":pool:".toList ++ pool.text ++ ":group:".toList

def routeVersion : Text := "noyra-route-v2:".toList

/-- The part of a physical key before its pool. -/
def routeHead (idempotencyKey : Text) : Text := routeVersion ++ Base64.encode (utf8Encode idempotencyKey)

/-- `_route_prefix`. -/
def routePrefix (idempotencyKey : Text) (pool : CognitivePool) : Text := routeHead idempotencyKey ++ poolMarker pool

/-- `_legacy_route_prefix`. -/
def legacyRoutePrefix (idempotencyKey : Text) (pool : CognitivePool) : Text := idempotencyKey ++ poolMarker pool

/-- What follows the group marker. -/
def routeSuffix (group key : RouteId) (selection : Nat) : Text :=
  group.text ++ ":key:".toList ++ key.text ++ ":selection:".toList ++ Nat.toDigits 10 selection

/-- The physical key of a routed request. -/
def physicalKey (idempotencyKey : Text) (pool : CognitivePool) (group key : RouteId) (selection : Nat) : Text :=
  routePrefix idempotencyKey pool ++ routeSuffix group key selection

/-- `_parse_route_suffix`. -/
def parseRouteSuffix (remainder : Text) : Option (Text × Text) :=
  match partition ":key:".toList remainder with
  | none => none
  | some (group, remainder) =>
    if group = [] then none
    else
      match rpartition ":selection:".toList remainder with
      | none => none
      | some (key, selection) => if key = [] ∨ isDigits selection = false then none else some (group, key)

/-- `_route_metadata`. -/
def routeMetadata (physical idempotencyKey : Text) (pool : CognitivePool) : Bool × Option (Text × Text) :=
  let current := routePrefix idempotencyKey pool
  if current.isPrefixOf physical then (true, parseRouteSuffix (physical.drop current.length))
  else if (legacyRoutePrefix idempotencyKey pool).isPrefixOf physical = false then (false, none)
  else
    match rpartition (poolMarker pool) physical, partition (poolMarker pool) physical with
    | some (head, remainder), some (first, _) =>
      -- the last marker is the first one, and the requested key stands before it
      if head ≠ idempotencyKey ∨ first.length ≠ head.length then (true, none) else (true, parseRouteSuffix remainder)
    | _, _ => (true, none)

/-- `logical_key_from_route`. -/
def logicalKeyFromRoute (physical : Text) (pool : CognitivePool) : Except RouteError Text :=
  match rpartition (poolMarker pool) physical with
  | none => .ok physical
  | some (head, _) =>
    if routeVersion.isPrefixOf head then do
      let encoded := head.drop routeVersion.length
      let value ← orRaise ((Base64.decode encoded).bind utf8Decode)
        (.modelCallStateError "invalid routed logical identity")
      raiseIf (Base64.encode (utf8Encode value) ≠ encoded)
        (.modelCallStateError "noncanonical routed logical identity")
      .ok value
    else .ok head

inductive CallStatus
  | prepared | executing | succeeded | failed | unknown
  deriving DecidableEq

/-- The columns of `model_calls` that `_recover_existing` reads. -/
structure CallRow where
  callId : Nat
  subjectId : Text
  purpose : Text
  resourcePool : CognitivePool
  idempotencyKey : Text
  status : CallStatus
  completedAt : Text
  deriving DecidableEq

/-- The succeeded rows of the query of `_recover_existing`, latest first. -/
def recoverableRows (rows : List CallRow) (subjectId purpose : Text) (pool : CognitivePool) (idempotencyKey : Text) :
    List CallRow :=
  ((rows.filter (fun r => r.subjectId = subjectId && r.purpose = purpose && r.resourcePool = pool &&
    ((routePrefix idempotencyKey pool).isPrefixOf r.idempotencyKey ||
      (legacyRoutePrefix idempotencyKey pool).isPrefixOf r.idempotencyKey) &&
    r.status = .succeeded)).insertionSort (fun a b => b.completedAt ≤ a.completedAt)).take 257

/-- `_recover_existing`: the call whose response answers the request. -/
def recoverExisting (rows : List CallRow) (subjectId purpose : Text) (pool : CognitivePool) (idempotencyKey : Text) :
    Option CallRow :=
  (recoverableRows rows subjectId purpose pool idempotencyKey).find? (fun r =>
    match routeMetadata r.idempotencyKey idempotencyKey pool with
    | (matched, metadata) => matched && metadata.isSome)

end Noyra.Model
