import MultipathFabric.Identity
import MultipathFabric.Lifecycle

namespace MultipathFabric

inductive PathAuthorityState
  | authorized | conditionallyAuthorized | revalidationRequired | rejected | revoked | stale | retired
  deriving DecidableEq

namespace PathAuthorityState

def raw : PathAuthorityState → UInt8
  | .authorized => 1
  | .conditionallyAuthorized => 2
  | .revalidationRequired => 3
  | .rejected => 4
  | .revoked => 5
  | .stale => 6
  | .retired => 7

def all : List PathAuthorityState :=
  [.authorized, .conditionallyAuthorized, .revalidationRequired, .rejected, .revoked, .stale, .retired]

def fromRaw (r : UInt8) : Option PathAuthorityState := all.find? fun x => x.raw == r

theorem fromRaw_raw (x : PathAuthorityState) : fromRaw x.raw = some x := by
  cases x <;> rfl

def toString : PathAuthorityState → Bytes
  | .authorized => text "AUTHORIZED"
  | .conditionallyAuthorized => text "CONDITIONALLY_AUTHORIZED"
  | .revalidationRequired => text "REVALIDATION_REQUIRED"
  | .rejected => text "REJECTED"
  | .revoked => text "REVOKED"
  | .stale => text "STALE"
  | .retired => text "RETIRED"

end PathAuthorityState

structure PathAuthorityView where
  path : PathId
  generation : PathAuthorityGeneration
  state : PathAuthorityState
  deriving DecidableEq

abbrev PathAuthorityDirectory := Std.ExtTreeMap PathId PathAuthorityView

namespace PathAuthorityDirectory

def set (directory : PathAuthorityDirectory) (view : PathAuthorityView) : PathAuthorityDirectory :=
  directory.insert view.path view

def lookup (directory : PathAuthorityDirectory) (path : PathId) : Option PathAuthorityView :=
  directory[path]?

end PathAuthorityDirectory

/-- Generation currency comes first: an authorization of a superseded generation is never current. -/
def classifyPathAuthority (view : Option PathAuthorityView) (boundGeneration : PathAuthorityGeneration)
    (conditionalAuthorityPermitted : Bool) : MemberCurrentness :=
  match view with
  | none => .pathAuthorityUnknown
  | some view =>
      if view.generation ≠ boundGeneration then .stalePathAuthority
      else
        match view.state with
        | .authorized => .current
        | .conditionallyAuthorized =>
            if conditionalAuthorityPermitted then .current else .pathConditionallyNotPermitted
        | .revalidationRequired => .pathRevalidationRequired
        | .rejected => .pathRejected
        | .revoked => .pathRevoked
        | .stale => .pathStale
        | .retired => .pathRetired

def PathAuthorityState.authorizes (state : PathAuthorityState) : Prop :=
  state = .authorized ∨ state = .conditionallyAuthorized

end MultipathFabric
