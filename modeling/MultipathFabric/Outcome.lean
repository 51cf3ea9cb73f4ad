import MultipathFabric.Lifecycle
import MultipathFabric.Identity
import MultipathFabric.Digest

namespace MultipathFabric

inductive OutcomeCode
  | ok | created | updated | idempotent | memberAdded | memberRemoved | memberReplaced
  | memberRevalidated | setRevalidated | setPublished | setDegraded | setExhausted | setActive
  | setWithdrawing | setWithdrawn | setSuperseded | setRevoked | setRetired | publisherRegistered
  | publisherUnregistered | workerFenced | epochAdvanced | pathInvalidated | memberWithdrawn | recovered
  | storeSaved | memberRevalidationNegative | setRevalidationIncomplete | malformedRequest
  | unauthorizedCaller | unknownPublisher | staleEpoch | staleWorker | unauthorizedScope
  | attemptConflict | setNotFound | memberNotFound | setKeyConflict | staleSetGeneration
  | staleMemberGeneration | invalidLifecycleTransition | revoked | retired | withdrawn | superseded
  | stalePathAuthority | pathNotUsable | duplicateMember | insufficientMembers | resourceLimit
  | generationOverflow | staleRevalidation | revalidationRequired | pathAuthorityUnknown
  | setAdminDisabled | invalidThreshold | batchAborted | unsupportedOperation | framingError
  | integrityError | unsupportedWireVersion | protocolError | sessionTimeout | sessionLimit
  | storeCorrupt | storeVersionUnsupported | storeIoError | storeDuplicateSet | storeDuplicateMember
  | storeDanglingMember | detachedAuthority | internalError
  deriving DecidableEq

namespace OutcomeCode

def raw : OutcomeCode → UInt16
  | .ok => 0
  | .created => 1
  | .updated => 2
  | .idempotent => 3
  | .memberAdded => 4
  | .memberRemoved => 5
  | .memberReplaced => 6
  | .memberRevalidated => 7
  | .setRevalidated => 8
  | .setPublished => 9
  | .setDegraded => 10
  | .setExhausted => 11
  | .setActive => 12
  | .setWithdrawing => 13
  | .setWithdrawn => 14
  | .setSuperseded => 15
  | .setRevoked => 16
  | .setRetired => 17
  | .publisherRegistered => 18
  | .publisherUnregistered => 19
  | .workerFenced => 20
  | .epochAdvanced => 21
  | .pathInvalidated => 22
  | .memberWithdrawn => 23
  | .recovered => 24
  | .storeSaved => 25
  | .memberRevalidationNegative => 26
  | .setRevalidationIncomplete => 27
  | .malformedRequest => 100
  | .unauthorizedCaller => 101
  | .unknownPublisher => 102
  | .staleEpoch => 103
  | .staleWorker => 104
  | .unauthorizedScope => 105
  | .attemptConflict => 106
  | .setNotFound => 107
  | .memberNotFound => 108
  | .setKeyConflict => 109
  | .staleSetGeneration => 110
  | .staleMemberGeneration => 111
  | .invalidLifecycleTransition => 112
  | .revoked => 113
  | .retired => 114
  | .withdrawn => 115
  | .superseded => 116
  | .stalePathAuthority => 117
  | .pathNotUsable => 118
  | .duplicateMember => 119
  | .insufficientMembers => 120
  | .resourceLimit => 121
  | .generationOverflow => 122
  | .staleRevalidation => 123
  | .revalidationRequired => 124
  | .pathAuthorityUnknown => 125
  | .setAdminDisabled => 126
  | .invalidThreshold => 127
  | .batchAborted => 128
  | .unsupportedOperation => 129
  | .framingError => 130
  | .integrityError => 131
  | .unsupportedWireVersion => 132
  | .protocolError => 133
  | .sessionTimeout => 134
  | .sessionLimit => 135
  | .storeCorrupt => 136
  | .storeVersionUnsupported => 137
  | .storeIoError => 138
  | .storeDuplicateSet => 139
  | .storeDuplicateMember => 140
  | .storeDanglingMember => 141
  | .detachedAuthority => 142
  | .internalError => 143

def all : List OutcomeCode :=
  [.ok, .created, .updated, .idempotent, .memberAdded, .memberRemoved, .memberReplaced,
  .memberRevalidated, .setRevalidated, .setPublished, .setDegraded, .setExhausted, .setActive,
  .setWithdrawing, .setWithdrawn, .setSuperseded, .setRevoked, .setRetired, .publisherRegistered,
  .publisherUnregistered, .workerFenced, .epochAdvanced, .pathInvalidated, .memberWithdrawn, .recovered,
  .storeSaved, .memberRevalidationNegative, .setRevalidationIncomplete, .malformedRequest,
  .unauthorizedCaller, .unknownPublisher, .staleEpoch, .staleWorker, .unauthorizedScope,
  .attemptConflict, .setNotFound, .memberNotFound, .setKeyConflict, .staleSetGeneration,
  .staleMemberGeneration, .invalidLifecycleTransition, .revoked, .retired, .withdrawn, .superseded,
  .stalePathAuthority, .pathNotUsable, .duplicateMember, .insufficientMembers, .resourceLimit,
  .generationOverflow, .staleRevalidation, .revalidationRequired, .pathAuthorityUnknown,
  .setAdminDisabled, .invalidThreshold, .batchAborted, .unsupportedOperation, .framingError,
  .integrityError, .unsupportedWireVersion, .protocolError, .sessionTimeout, .sessionLimit,
  .storeCorrupt, .storeVersionUnsupported, .storeIoError, .storeDuplicateSet, .storeDuplicateMember,
  .storeDanglingMember, .detachedAuthority, .internalError]

def fromRaw (r : UInt16) : Option OutcomeCode := all.find? fun x => x.raw == r

theorem fromRaw_raw (x : OutcomeCode) : fromRaw x.raw = some x := by
  cases x <;> rfl

def toString : OutcomeCode → Bytes
  | .ok => text "OK"
  | .created => text "CREATED"
  | .updated => text "UPDATED"
  | .idempotent => text "IDEMPOTENT"
  | .memberAdded => text "MEMBER_ADDED"
  | .memberRemoved => text "MEMBER_REMOVED"
  | .memberReplaced => text "MEMBER_REPLACED"
  | .memberRevalidated => text "MEMBER_REVALIDATED"
  | .setRevalidated => text "SET_REVALIDATED"
  | .setPublished => text "SET_PUBLISHED"
  | .setDegraded => text "SET_DEGRADED"
  | .setExhausted => text "SET_EXHAUSTED"
  | .setActive => text "SET_ACTIVE"
  | .setWithdrawing => text "SET_WITHDRAWING"
  | .setWithdrawn => text "SET_WITHDRAWN"
  | .setSuperseded => text "SET_SUPERSEDED"
  | .setRevoked => text "SET_REVOKED"
  | .setRetired => text "SET_RETIRED"
  | .publisherRegistered => text "PUBLISHER_REGISTERED"
  | .publisherUnregistered => text "PUBLISHER_UNREGISTERED"
  | .workerFenced => text "WORKER_FENCED"
  | .epochAdvanced => text "EPOCH_ADVANCED"
  | .pathInvalidated => text "PATH_INVALIDATED"
  | .memberWithdrawn => text "MEMBER_WITHDRAWN"
  | .recovered => text "RECOVERED"
  | .storeSaved => text "STORE_SAVED"
  | .memberRevalidationNegative => text "MEMBER_REVALIDATION_NEGATIVE"
  | .setRevalidationIncomplete => text "SET_REVALIDATION_INCOMPLETE"
  | .malformedRequest => text "MALFORMED_REQUEST"
  | .unauthorizedCaller => text "UNAUTHORIZED_CALLER"
  | .unknownPublisher => text "UNKNOWN_PUBLISHER"
  | .staleEpoch => text "STALE_EPOCH"
  | .staleWorker => text "STALE_WORKER"
  | .unauthorizedScope => text "UNAUTHORIZED_SCOPE"
  | .attemptConflict => text "ATTEMPT_CONFLICT"
  | .setNotFound => text "SET_NOT_FOUND"
  | .memberNotFound => text "MEMBER_NOT_FOUND"
  | .setKeyConflict => text "SET_KEY_CONFLICT"
  | .staleSetGeneration => text "STALE_SET_GENERATION"
  | .staleMemberGeneration => text "STALE_MEMBER_GENERATION"
  | .invalidLifecycleTransition => text "INVALID_LIFECYCLE_TRANSITION"
  | .revoked => text "REVOKED"
  | .retired => text "RETIRED"
  | .withdrawn => text "WITHDRAWN"
  | .superseded => text "SUPERSEDED"
  | .stalePathAuthority => text "STALE_PATH_AUTHORITY"
  | .pathNotUsable => text "PATH_NOT_USABLE"
  | .duplicateMember => text "DUPLICATE_MEMBER"
  | .insufficientMembers => text "INSUFFICIENT_MEMBERS"
  | .resourceLimit => text "RESOURCE_LIMIT"
  | .generationOverflow => text "GENERATION_OVERFLOW"
  | .staleRevalidation => text "STALE_REVALIDATION"
  | .revalidationRequired => text "REVALIDATION_REQUIRED"
  | .pathAuthorityUnknown => text "PATH_AUTHORITY_UNKNOWN"
  | .setAdminDisabled => text "SET_ADMIN_DISABLED"
  | .invalidThreshold => text "INVALID_THRESHOLD"
  | .batchAborted => text "BATCH_ABORTED"
  | .unsupportedOperation => text "UNSUPPORTED_OPERATION"
  | .framingError => text "FRAMING_ERROR"
  | .integrityError => text "INTEGRITY_ERROR"
  | .unsupportedWireVersion => text "UNSUPPORTED_WIRE_VERSION"
  | .protocolError => text "PROTOCOL_ERROR"
  | .sessionTimeout => text "SESSION_TIMEOUT"
  | .sessionLimit => text "SESSION_LIMIT"
  | .storeCorrupt => text "STORE_CORRUPT"
  | .storeVersionUnsupported => text "STORE_VERSION_UNSUPPORTED"
  | .storeIoError => text "STORE_IO_ERROR"
  | .storeDuplicateSet => text "STORE_DUPLICATE_SET"
  | .storeDuplicateMember => text "STORE_DUPLICATE_MEMBER"
  | .storeDanglingMember => text "STORE_DANGLING_MEMBER"
  | .detachedAuthority => text "DETACHED_AUTHORITY"
  | .internalError => text "INTERNAL_ERROR"

end OutcomeCode

inductive RejectionStage
  | none | decode | callerIdentity | epoch | workerAuthority | scope | attempt | setState | generation
  | pathAuthority | resourceLimit | semantic | commit
  deriving DecidableEq

namespace RejectionStage

def raw : RejectionStage → UInt8
  | .none => 0
  | .decode => 1
  | .callerIdentity => 2
  | .epoch => 3
  | .workerAuthority => 4
  | .scope => 5
  | .attempt => 6
  | .setState => 7
  | .generation => 8
  | .pathAuthority => 9
  | .resourceLimit => 10
  | .semantic => 11
  | .commit => 12

def all : List RejectionStage :=
  [.none, .decode, .callerIdentity, .epoch, .workerAuthority, .scope, .attempt, .setState, .generation,
  .pathAuthority, .resourceLimit, .semantic, .commit]

def fromRaw (r : UInt8) : Option RejectionStage := all.find? fun x => x.raw == r

theorem fromRaw_raw (x : RejectionStage) : fromRaw x.raw = some x := by
  cases x <;> rfl

end RejectionStage

def outcomeIsSuccess (code : OutcomeCode) : Bool := decide (code.raw < 100)

def stageOf : OutcomeCode → RejectionStage
  | .malformedRequest => .decode
  | .unauthorizedCaller => .callerIdentity
  | .staleEpoch => .epoch
  | .unknownPublisher | .staleWorker | .detachedAuthority => .workerAuthority
  | .unauthorizedScope => .scope
  | .attemptConflict => .attempt
  | .setNotFound | .memberNotFound | .setKeyConflict | .revoked | .retired | .withdrawn | .superseded
  | .invalidLifecycleTransition => .setState
  | .staleSetGeneration | .staleMemberGeneration | .generationOverflow => .generation
  | .stalePathAuthority | .pathNotUsable | .pathAuthorityUnknown | .staleRevalidation => .pathAuthority
  | .resourceLimit | .sessionLimit => .resourceLimit
  | .duplicateMember | .insufficientMembers | .invalidThreshold | .revalidationRequired
  | .setAdminDisabled | .batchAborted | .unsupportedOperation => .semantic
  | .storeIoError | .storeCorrupt | .storeVersionUnsupported | .storeDuplicateSet
  | .storeDuplicateMember | .storeDanglingMember | .internalError => .commit
  | .framingError | .integrityError | .unsupportedWireVersion | .protocolError | .sessionTimeout => .decode
  | _ => .none

structure FabricOutcome where
  code : OutcomeCode
  stage : RejectionStage
  detail : Bytes
  setId : Option MultipathSetId
  memberId : Option MultipathMemberId
  pathId : Option PathId
  setGeneration : Option MultipathSetGeneration
  membershipGeneration : Option MembershipGeneration
  memberGeneration : Option MultipathMemberGeneration
  authorityGeneration : Option MultipathAuthorityGeneration
  lifecycle : Option SetLifecycle
  currentness : Option SetCurrentness
  usableMembers : Option Nat
  minimumUsableMembers : Option UInt64
  digest : Option Digest128
  deriving DecidableEq

namespace FabricOutcome

def empty : FabricOutcome where
  code := .ok
  stage := .none
  detail := []
  setId := none
  memberId := none
  pathId := none
  setGeneration := none
  membershipGeneration := none
  memberGeneration := none
  authorityGeneration := none
  lifecycle := none
  currentness := none
  usableMembers := none
  minimumUsableMembers := none
  digest := none

def succeeded (o : FabricOutcome) : Bool := outcomeIsSuccess o.code

end FabricOutcome

def makeOutcome (code : OutcomeCode) (detail : Bytes) : FabricOutcome :=
  { FabricOutcome.empty with
    code := code
    stage := if outcomeIsSuccess code then .none else stageOf code
    detail := detail }

def makeRejection (code : OutcomeCode) (detail : Bytes) : FabricOutcome := makeOutcome code detail

@[simp] theorem makeOutcome_code (code : OutcomeCode) (detail : Bytes) :
    (makeOutcome code detail).code = code := rfl

@[simp] theorem makeRejection_code (code : OutcomeCode) (detail : Bytes) :
    (makeRejection code detail).code = code := rfl

def FabricOutcome.rejects (outcome : FabricOutcome) : Bool := !outcome.succeeded && outcome.usableMembers.isNone

theorem FabricOutcome.rejects_iff {outcome : FabricOutcome} :
    outcome.rejects = true ↔ outcome.succeeded = false ∧ outcome.usableMembers = none := by
  simp [rejects]

end MultipathFabric
