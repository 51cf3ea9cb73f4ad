import MultipathFabric.Text

namespace MultipathFabric

inductive SetLifecycle
  | declared | active | degraded | exhausted | adminDisabled | withdrawing | withdrawn | superseded
  | revoked | retired
  deriving DecidableEq

namespace SetLifecycle

def raw : SetLifecycle → UInt8
  | .declared => 1
  | .active => 2
  | .degraded => 3
  | .exhausted => 4
  | .adminDisabled => 5
  | .withdrawing => 6
  | .withdrawn => 7
  | .superseded => 8
  | .revoked => 9
  | .retired => 10

def all : List SetLifecycle :=
  [.declared, .active, .degraded, .exhausted, .adminDisabled, .withdrawing, .withdrawn, .superseded,
  .revoked, .retired]

def fromRaw (r : UInt8) : Option SetLifecycle := all.find? fun x => x.raw == r

theorem fromRaw_raw (x : SetLifecycle) : fromRaw x.raw = some x := by
  cases x <;> rfl

def toString : SetLifecycle → Bytes
  | .declared => text "DECLARED"
  | .active => text "ACTIVE"
  | .degraded => text "DEGRADED"
  | .exhausted => text "EXHAUSTED"
  | .adminDisabled => text "ADMIN_DISABLED"
  | .withdrawing => text "WITHDRAWING"
  | .withdrawn => text "WITHDRAWN"
  | .superseded => text "SUPERSEDED"
  | .revoked => text "REVOKED"
  | .retired => text "RETIRED"

end SetLifecycle

inductive SetEvent
  | declare | publish | memberAdded | memberRemoved | memberReplaced | membershipRecheck
  | minimumChanged | policyChanged | adminDisabled | adminEnabled | revalidateSet | epochAdvance
  | beginWithdraw | completeWithdraw | supersede | revoke | retire | dependencyInvalidated
  deriving DecidableEq

namespace SetEvent

def raw : SetEvent → UInt8
  | .declare => 1
  | .publish => 2
  | .memberAdded => 3
  | .memberRemoved => 4
  | .memberReplaced => 5
  | .membershipRecheck => 6
  | .minimumChanged => 7
  | .policyChanged => 8
  | .adminDisabled => 9
  | .adminEnabled => 10
  | .revalidateSet => 11
  | .epochAdvance => 12
  | .beginWithdraw => 13
  | .completeWithdraw => 14
  | .supersede => 15
  | .revoke => 16
  | .retire => 17
  | .dependencyInvalidated => 18

def all : List SetEvent :=
  [.declare, .publish, .memberAdded, .memberRemoved, .memberReplaced, .membershipRecheck,
  .minimumChanged, .policyChanged, .adminDisabled, .adminEnabled, .revalidateSet, .epochAdvance,
  .beginWithdraw, .completeWithdraw, .supersede, .revoke, .retire, .dependencyInvalidated]

def fromRaw (r : UInt8) : Option SetEvent := all.find? fun x => x.raw == r

theorem fromRaw_raw (x : SetEvent) : fromRaw x.raw = some x := by
  cases x <;> rfl

def toString : SetEvent → Bytes
  | .declare => text "DECLARE"
  | .publish => text "PUBLISH"
  | .memberAdded => text "MEMBER_ADDED"
  | .memberRemoved => text "MEMBER_REMOVED"
  | .memberReplaced => text "MEMBER_REPLACED"
  | .membershipRecheck => text "MEMBERSHIP_RECHECK"
  | .minimumChanged => text "MINIMUM_CHANGED"
  | .policyChanged => text "POLICY_CHANGED"
  | .adminDisabled => text "ADMIN_DISABLED"
  | .adminEnabled => text "ADMIN_ENABLED"
  | .revalidateSet => text "REVALIDATE_SET"
  | .epochAdvance => text "EPOCH_ADVANCE"
  | .beginWithdraw => text "BEGIN_WITHDRAW"
  | .completeWithdraw => text "COMPLETE_WITHDRAW"
  | .supersede => text "SUPERSEDE"
  | .revoke => text "REVOKE"
  | .retire => text "RETIRE"
  | .dependencyInvalidated => text "DEPENDENCY_INVALIDATED"

end SetEvent

inductive SetTransitionAction
  | reject | stay | recompute | becomePublished | becomeAdminDisabled | becomeWithdrawing
  | becomeWithdrawn | becomeSuperseded | becomeRevoked | becomeRetired
  deriving DecidableEq

def setTransitionRow : SetLifecycle → List SetTransitionAction
  | .declared =>
     [.reject, .becomePublished, .stay, .stay, .stay, .stay, .stay, .stay, .stay, .stay, .stay, .stay,
      .recompute, .reject, .becomeSuperseded, .becomeRevoked, .becomeRetired, .stay]
  | .active =>
     [.reject, .reject, .recompute, .recompute, .recompute, .recompute, .recompute, .recompute,
      .becomeAdminDisabled, .recompute, .recompute, .stay, .becomeWithdrawing, .reject,
      .becomeSuperseded, .becomeRevoked, .becomeRetired, .recompute]
  | .degraded =>
     [.reject, .reject, .recompute, .recompute, .recompute, .recompute, .recompute, .recompute,
      .becomeAdminDisabled, .recompute, .recompute, .stay, .becomeWithdrawing, .reject,
      .becomeSuperseded, .becomeRevoked, .becomeRetired, .recompute]
  | .exhausted =>
     [.reject, .reject, .recompute, .recompute, .recompute, .recompute, .recompute, .recompute,
      .becomeAdminDisabled, .recompute, .recompute, .stay, .becomeWithdrawing, .reject,
      .becomeSuperseded, .becomeRevoked, .becomeRetired, .recompute]
  | .adminDisabled =>
     [.reject, .reject, .stay, .stay, .stay, .stay, .stay, .stay, .reject, .recompute, .stay, .stay,
      .becomeWithdrawing, .reject, .becomeSuperseded, .becomeRevoked, .becomeRetired, .stay]
  | .withdrawing =>
     [.reject, .reject, .reject, .stay, .reject, .stay, .reject, .reject, .reject, .reject, .reject,
      .stay, .reject, .becomeWithdrawn, .becomeSuperseded, .becomeRevoked, .becomeRetired, .stay]
  | .withdrawn =>
     [.reject, .reject, .reject, .reject, .reject, .reject, .reject, .reject, .reject, .reject, .reject,
      .stay, .reject, .reject, .reject, .becomeRevoked, .becomeRetired, .reject]
  | .superseded =>
     [.reject, .reject, .reject, .reject, .reject, .reject, .reject, .reject, .reject, .reject, .reject,
      .stay, .reject, .reject, .reject, .reject, .becomeRetired, .reject]
  | .revoked =>
     [.reject, .reject, .reject, .reject, .reject, .reject, .reject, .reject, .reject, .reject, .reject,
      .stay, .reject, .reject, .reject, .reject, .becomeRetired, .reject]
  | .retired =>
     [.reject, .reject, .reject, .reject, .reject, .reject, .reject, .reject, .reject, .reject, .reject,
      .stay, .reject, .reject, .reject, .reject, .reject, .reject]

def setTransition (state : SetLifecycle) (event : SetEvent) : SetTransitionAction :=
  ((setTransitionRow state)[event.raw.toNat - 1]?).getD .reject

def derivePublishedLifecycle (usableMembers : Nat) (minimumUsable : UInt64) (adminEnabled : Bool) :
    SetLifecycle :=
  if !adminEnabled then .adminDisabled
  else if minimumUsable.toNat ≤ usableMembers then .active
  else if 1 ≤ usableMembers then .degraded
  else .exhausted

inductive SetCurrentness
  | current | revalidationRequired
  deriving DecidableEq

namespace SetCurrentness

def raw : SetCurrentness → UInt8
  | .current => 1
  | .revalidationRequired => 2

def all : List SetCurrentness :=
  [.current, .revalidationRequired]

def fromRaw (r : UInt8) : Option SetCurrentness := all.find? fun x => x.raw == r

theorem fromRaw_raw (x : SetCurrentness) : fromRaw x.raw = some x := by
  cases x <;> rfl

def toString : SetCurrentness → Bytes
  | .current => text "CURRENT"
  | .revalidationRequired => text "REVALIDATION_REQUIRED"

end SetCurrentness

inductive MemberLifecycle
  | pending | current | revalidationRequired | unusable | withdrawn | superseded | retired
  deriving DecidableEq

namespace MemberLifecycle

def raw : MemberLifecycle → UInt8
  | .pending => 1
  | .current => 2
  | .revalidationRequired => 3
  | .unusable => 4
  | .withdrawn => 5
  | .superseded => 6
  | .retired => 7

def all : List MemberLifecycle :=
  [.pending, .current, .revalidationRequired, .unusable, .withdrawn, .superseded, .retired]

def fromRaw (r : UInt8) : Option MemberLifecycle := all.find? fun x => x.raw == r

theorem fromRaw_raw (x : MemberLifecycle) : fromRaw x.raw = some x := by
  cases x <;> rfl

def toString : MemberLifecycle → Bytes
  | .pending => text "PENDING"
  | .current => text "CURRENT"
  | .revalidationRequired => text "REVALIDATION_REQUIRED"
  | .unusable => text "UNUSABLE"
  | .withdrawn => text "WITHDRAWN"
  | .superseded => text "SUPERSEDED"
  | .retired => text "RETIRED"

end MemberLifecycle

inductive MemberEvent
  | admitted | inputsUsable | inputsStaleAuthority | inputsNotUsable | revalidatedOk | revalidatedStale
  | withdraw | supersede | retire
  deriving DecidableEq

def MemberEvent.raw : MemberEvent → UInt8
  | .admitted => 1
  | .inputsUsable => 2
  | .inputsStaleAuthority => 3
  | .inputsNotUsable => 4
  | .revalidatedOk => 5
  | .revalidatedStale => 6
  | .withdraw => 7
  | .supersede => 8
  | .retire => 9

def memberTransitionRow : MemberLifecycle → List (Option MemberLifecycle)
  | .pending =>
     [some .pending, some .current, some .revalidationRequired, some .unusable, some .current,
      some .revalidationRequired, some .withdrawn, some .superseded, some .retired]
  | .current =>
     [none, some .current, some .revalidationRequired, some .unusable, some .current,
      some .revalidationRequired, some .withdrawn, some .superseded, some .retired]
  | .revalidationRequired =>
     [none, none, some .revalidationRequired, some .unusable, some .current, some .revalidationRequired,
      some .withdrawn, some .superseded, some .retired]
  | .unusable =>
     [none, none, some .revalidationRequired, some .unusable, some .current, some .revalidationRequired,
      some .withdrawn, some .superseded, some .retired]
  | .withdrawn =>
     [none, none, none, none, none, none, none, some .superseded, some .retired]
  | .superseded =>
     [none, none, none, none, none, none, none, none, some .retired]
  | .retired =>
     [none, none, none, none, none, none, none, none, none]

def memberTransition (state : MemberLifecycle) (event : MemberEvent) : Option MemberLifecycle :=
  ((memberTransitionRow state)[event.raw.toNat - 1]?).join

inductive MemberCurrentness
  | current | stalePathAuthority | pathConditionallyNotPermitted | pathRevalidationRequired
  | pathRejected | pathRevoked | pathStale | pathRetired | pathAuthorityUnknown | adminDisabled
  | setNotUsable | epochStale | authorityFenced | pendingEvaluation
  deriving DecidableEq

namespace MemberCurrentness

def raw : MemberCurrentness → UInt8
  | .current => 1
  | .stalePathAuthority => 2
  | .pathConditionallyNotPermitted => 3
  | .pathRevalidationRequired => 4
  | .pathRejected => 5
  | .pathRevoked => 6
  | .pathStale => 7
  | .pathRetired => 8
  | .pathAuthorityUnknown => 9
  | .adminDisabled => 10
  | .setNotUsable => 11
  | .epochStale => 12
  | .authorityFenced => 13
  | .pendingEvaluation => 14

def all : List MemberCurrentness :=
  [.current, .stalePathAuthority, .pathConditionallyNotPermitted, .pathRevalidationRequired,
  .pathRejected, .pathRevoked, .pathStale, .pathRetired, .pathAuthorityUnknown, .adminDisabled,
  .setNotUsable, .epochStale, .authorityFenced, .pendingEvaluation]

def fromRaw (r : UInt8) : Option MemberCurrentness := all.find? fun x => x.raw == r

theorem fromRaw_raw (x : MemberCurrentness) : fromRaw x.raw = some x := by
  cases x <;> rfl

def toString : MemberCurrentness → Bytes
  | .current => text "CURRENT"
  | .stalePathAuthority => text "STALE_PATH_AUTHORITY"
  | .pathConditionallyNotPermitted => text "PATH_CONDITIONALLY_NOT_PERMITTED"
  | .pathRevalidationRequired => text "PATH_REVALIDATION_REQUIRED"
  | .pathRejected => text "PATH_REJECTED"
  | .pathRevoked => text "PATH_REVOKED"
  | .pathStale => text "PATH_STALE"
  | .pathRetired => text "PATH_RETIRED"
  | .pathAuthorityUnknown => text "PATH_AUTHORITY_UNKNOWN"
  | .adminDisabled => text "ADMIN_DISABLED"
  | .setNotUsable => text "SET_NOT_USABLE"
  | .epochStale => text "EPOCH_STALE"
  | .authorityFenced => text "AUTHORITY_FENCED"
  | .pendingEvaluation => text "PENDING_EVALUATION"

end MemberCurrentness

def memberIsUsable (lifecycle : MemberLifecycle) (currentness : MemberCurrentness) : Bool :=
  lifecycle == .current && currentness == .current

inductive RouteReadiness
  | ready | degradedButReady | insufficientMembers | revalidationRequired | notPublished | adminDisabled
  | withdrawn | superseded | revoked | retired
  deriving DecidableEq

namespace RouteReadiness

def raw : RouteReadiness → UInt8
  | .ready => 1
  | .degradedButReady => 2
  | .insufficientMembers => 3
  | .revalidationRequired => 4
  | .notPublished => 5
  | .adminDisabled => 6
  | .withdrawn => 7
  | .superseded => 8
  | .revoked => 9
  | .retired => 10

def all : List RouteReadiness :=
  [.ready, .degradedButReady, .insufficientMembers, .revalidationRequired, .notPublished, .adminDisabled,
  .withdrawn, .superseded, .revoked, .retired]

def fromRaw (r : UInt8) : Option RouteReadiness := all.find? fun x => x.raw == r

theorem fromRaw_raw (x : RouteReadiness) : fromRaw x.raw = some x := by
  cases x <;> rfl

def toString : RouteReadiness → Bytes
  | .ready => text "READY"
  | .degradedButReady => text "DEGRADED_BUT_READY"
  | .insufficientMembers => text "INSUFFICIENT_MEMBERS"
  | .revalidationRequired => text "REVALIDATION_REQUIRED"
  | .notPublished => text "NOT_PUBLISHED"
  | .adminDisabled => text "ADMIN_DISABLED"
  | .withdrawn => text "WITHDRAWN"
  | .superseded => text "SUPERSEDED"
  | .revoked => text "REVOKED"
  | .retired => text "RETIRED"

end RouteReadiness

def routeReadiness (lifecycle : SetLifecycle) (currentness : SetCurrentness) : RouteReadiness :=
  match lifecycle with
  | .retired => .retired
  | .revoked => .revoked
  | .superseded => .superseded
  | .withdrawn => .withdrawn
  | .withdrawing => .withdrawn
  | .declared => .notPublished
  | .adminDisabled => .adminDisabled
  | .exhausted => if currentness = .current then .insufficientMembers else .revalidationRequired
  | .degraded => if currentness = .current then .degradedButReady else .revalidationRequired
  | .active => if currentness = .current then .ready else .revalidationRequired

end MultipathFabric
