import MultipathFabric.Identity

namespace MultipathFabric

structure AuthorityScope where
  fabric : FabricId
  nameSpace : MultipathNamespace
  setIds : List MultipathSetId
  deriving DecidableEq

def orUnset (t : Bytes) : Bytes := if t.isEmpty then text "<unset>" else t

def commaSeparated : List Bytes → Bytes
  | [] => []
  | [t] => t
  | t :: rest => t ++ text "," ++ commaSeparated rest

namespace AuthorityScope

def scopeWellFormed (s : AuthorityScope) : Bool := s.fabric.valid && s.nameSpace.valid

def coversNamespace (s : AuthorityScope) (fabricId : FabricId) (namespaceId : MultipathNamespace) : Bool :=
  s.scopeWellFormed && s.setIds.isEmpty && s.fabric == fabricId && s.nameSpace == namespaceId

def covers (s : AuthorityScope) (fabricId : FabricId) (namespaceId : MultipathNamespace)
    (setId : MultipathSetId) : Bool :=
  s.scopeWellFormed && setId.valid && s.fabric == fabricId && s.nameSpace == namespaceId &&
    (s.setIds.isEmpty || s.setIds.contains setId)

def coversAllInScope (s : AuthorityScope) : Bool := s.setIds.isEmpty

def sortedSetIds (s : AuthorityScope) : List MultipathSetId :=
  s.setIds.mergeSort fun a b => (compare a b).isLE

def render (s : AuthorityScope) : Bytes :=
  orUnset s.fabric.view ++ text "/" ++ orUnset s.nameSpace.view ++ text " sets=" ++
    if s.setIds.isEmpty then text "*" else commaSeparated (s.sortedSetIds.map StrongId.view)

end AuthorityScope

structure PublisherRegistration where
  publisher : PublisherId
  workerBoot : WorkerBootId
  scope : AuthorityScope
  epoch : CoordinatorEpoch
  authorityGeneration : MultipathAuthorityGeneration
  session : SessionId
  deriving DecidableEq

def PublisherRegistration.render (r : PublisherRegistration) : Bytes :=
  text "publisher=" ++ r.publisher.view ++ text " boot=" ++ r.workerBoot.view ++ text " epoch=" ++
    decimal r.epoch.value.toNat ++ text " authority_gen=" ++ decimal r.authorityGeneration.value.toNat ++
    text " session=" ++ r.session.view ++ text " scope=" ++ r.scope.render

structure FenceRecord where
  publisher : PublisherId
  workerBoot : WorkerBootId
  epoch : CoordinatorEpoch
  cause : Bytes
  deriving DecidableEq

def FenceRecord.render (f : FenceRecord) : Bytes :=
  text "publisher=" ++ f.publisher.view ++ text " boot=" ++ f.workerBoot.view ++ text " epoch=" ++
    decimal f.epoch.value.toNat ++ text " cause=" ++ f.cause

inductive RevocationReason
  | administrative | security | policyViolation | authorityRevoked | operatorRequest
  deriving DecidableEq

namespace RevocationReason

def raw : RevocationReason → UInt8
  | .administrative => 1
  | .security => 2
  | .policyViolation => 3
  | .authorityRevoked => 4
  | .operatorRequest => 5

def all : List RevocationReason :=
  [.administrative, .security, .policyViolation, .authorityRevoked, .operatorRequest]

def fromRaw (r : UInt8) : Option RevocationReason := all.find? fun x => x.raw == r

theorem fromRaw_raw (x : RevocationReason) : fromRaw x.raw = some x := by
  cases x <;> rfl

def toString : RevocationReason → Bytes
  | .administrative => text "ADMINISTRATIVE"
  | .security => text "SECURITY"
  | .policyViolation => text "POLICY_VIOLATION"
  | .authorityRevoked => text "AUTHORITY_REVOKED"
  | .operatorRequest => text "OPERATOR_REQUEST"

end RevocationReason

structure RevocationRecord where
  setId : MultipathSetId
  generation : MultipathSetGeneration
  authorityGeneration : MultipathAuthorityGeneration
  epoch : CoordinatorEpoch
  publisher : PublisherId
  reason : RevocationReason
  detail : Bytes
  deriving DecidableEq

inductive MembershipCause
  | declared | memberAdded | memberRevalidated | memberReplaced | memberRemoved | pathInvalidated
  | minimumChanged | policyChanged | adminEnabled | adminDisabled | setPublished | setRevalidated
  | setWithdrawn | setSuperseded | setRevoked | setRetired | epochAdvance | recovered
  deriving DecidableEq

namespace MembershipCause

def raw : MembershipCause → UInt8
  | .declared => 1
  | .memberAdded => 2
  | .memberRevalidated => 3
  | .memberReplaced => 4
  | .memberRemoved => 5
  | .pathInvalidated => 6
  | .minimumChanged => 7
  | .policyChanged => 8
  | .adminEnabled => 9
  | .adminDisabled => 10
  | .setPublished => 11
  | .setRevalidated => 12
  | .setWithdrawn => 13
  | .setSuperseded => 14
  | .setRevoked => 15
  | .setRetired => 16
  | .epochAdvance => 17
  | .recovered => 18

def all : List MembershipCause :=
  [.declared, .memberAdded, .memberRevalidated, .memberReplaced, .memberRemoved, .pathInvalidated,
  .minimumChanged, .policyChanged, .adminEnabled, .adminDisabled, .setPublished, .setRevalidated,
  .setWithdrawn, .setSuperseded, .setRevoked, .setRetired, .epochAdvance, .recovered]

def fromRaw (r : UInt8) : Option MembershipCause := all.find? fun x => x.raw == r

theorem fromRaw_raw (x : MembershipCause) : fromRaw x.raw = some x := by
  cases x <;> rfl

def toString : MembershipCause → Bytes
  | .declared => text "DECLARED"
  | .memberAdded => text "MEMBER_ADDED"
  | .memberRevalidated => text "MEMBER_REVALIDATED"
  | .memberReplaced => text "MEMBER_REPLACED"
  | .memberRemoved => text "MEMBER_REMOVED"
  | .pathInvalidated => text "PATH_INVALIDATED"
  | .minimumChanged => text "MINIMUM_CHANGED"
  | .policyChanged => text "POLICY_CHANGED"
  | .adminEnabled => text "ADMIN_ENABLED"
  | .adminDisabled => text "ADMIN_DISABLED"
  | .setPublished => text "SET_PUBLISHED"
  | .setRevalidated => text "SET_REVALIDATED"
  | .setWithdrawn => text "SET_WITHDRAWN"
  | .setSuperseded => text "SET_SUPERSEDED"
  | .setRevoked => text "SET_REVOKED"
  | .setRetired => text "SET_RETIRED"
  | .epochAdvance => text "EPOCH_ADVANCE"
  | .recovered => text "RECOVERED"

end MembershipCause

structure MembershipProvenance where
  publisher : PublisherId
  workerBoot : WorkerBootId
  epoch : CoordinatorEpoch
  attempt : MutationAttemptId
  setGeneration : MultipathSetGeneration
  cause : MembershipCause
  deriving DecidableEq

def MembershipProvenance.unset : MembershipProvenance where
  publisher := .unset
  workerBoot := .unset
  epoch := .unset
  attempt := .unset
  setGeneration := .unset
  cause := .declared

structure MutationContext where
  epoch : CoordinatorEpoch
  publisher : PublisherId
  workerBoot : WorkerBootId
  session : SessionId
  attempt : MutationAttemptId
  expectedSetGeneration : Option MultipathSetGeneration
  expectedMemberGeneration : Option MultipathMemberGeneration
  deriving DecidableEq

namespace MutationContext

def unset : MutationContext where
  epoch := .unset
  publisher := .unset
  workerBoot := .unset
  session := .unset
  attempt := .unset
  expectedSetGeneration := none
  expectedMemberGeneration := none

def hasCallerIdentity (c : MutationContext) : Bool :=
  c.epoch.valid && c.publisher.valid && c.workerBoot.valid && c.session.valid && c.attempt.valid

def render (c : MutationContext) : Bytes :=
  text "epoch=" ++ (if c.epoch.valid then decimal c.epoch.value.toNat else text "<unset>") ++
    text " publisher=" ++ orUnset c.publisher.view ++ text " boot=" ++ orUnset c.workerBoot.view ++
    text " session=" ++ orUnset c.session.view ++ text " attempt=" ++ orUnset c.attempt.view ++
    (match c.expectedSetGeneration with
      | some g => text " expected_set_gen=" ++ decimal g.value.toNat
      | none => []) ++
    (match c.expectedMemberGeneration with
      | some g => text " expected_member_gen=" ++ decimal g.value.toNat
      | none => [])

end MutationContext

end MultipathFabric
