import MultipathFabric.FabricRevalidation

namespace MultipathFabric

inductive ExplanationReason
  | setPublishedAndThresholdMet | setBelowMinimum | setZeroUsableMembers | setAdminDisabled
  | setCurrentnessNotEstablished | setNotPublished | setWithdrawn | setSuperseded | setRevoked
  | setRetired | memberUsable | memberPathAuthorityGenerationStale | memberPathStateNotUsable
  | memberPathConditionallyNotPermitted | memberPathAuthorityUnknown | memberAdminDisabled
  | memberLifecycleNotCurrent | memberSetNotUsable | memberEpochStale | memberAuthorityFenced
  | memberPendingEvaluation | memberPendingRevalidation | minimumMembershipUnsatisfied
  | explanationTruncated
  deriving DecidableEq

namespace ExplanationReason

def raw : ExplanationReason → UInt8
  | .setPublishedAndThresholdMet => 1
  | .setBelowMinimum => 2
  | .setZeroUsableMembers => 3
  | .setAdminDisabled => 4
  | .setCurrentnessNotEstablished => 5
  | .setNotPublished => 6
  | .setWithdrawn => 7
  | .setSuperseded => 8
  | .setRevoked => 9
  | .setRetired => 10
  | .memberUsable => 11
  | .memberPathAuthorityGenerationStale => 12
  | .memberPathStateNotUsable => 13
  | .memberPathConditionallyNotPermitted => 14
  | .memberPathAuthorityUnknown => 15
  | .memberAdminDisabled => 16
  | .memberLifecycleNotCurrent => 17
  | .memberSetNotUsable => 18
  | .memberEpochStale => 19
  | .memberAuthorityFenced => 20
  | .memberPendingEvaluation => 21
  | .memberPendingRevalidation => 22
  | .minimumMembershipUnsatisfied => 23
  | .explanationTruncated => 24

def all : List ExplanationReason :=
  [.setPublishedAndThresholdMet, .setBelowMinimum, .setZeroUsableMembers, .setAdminDisabled,
  .setCurrentnessNotEstablished, .setNotPublished, .setWithdrawn, .setSuperseded, .setRevoked,
  .setRetired, .memberUsable, .memberPathAuthorityGenerationStale, .memberPathStateNotUsable,
  .memberPathConditionallyNotPermitted, .memberPathAuthorityUnknown, .memberAdminDisabled,
  .memberLifecycleNotCurrent, .memberSetNotUsable, .memberEpochStale, .memberAuthorityFenced,
  .memberPendingEvaluation, .memberPendingRevalidation, .minimumMembershipUnsatisfied,
  .explanationTruncated]

def fromRaw (r : UInt8) : Option ExplanationReason := all.find? fun x => x.raw == r

theorem fromRaw_raw (x : ExplanationReason) : fromRaw x.raw = some x := by
  cases x <;> rfl

end ExplanationReason

structure MemberExplanation where
  id : MultipathMemberId
  pathId : PathId
  lifecycle : MemberLifecycle
  currentness : MemberCurrentness
  adminEnabled : Bool
  usable : Bool
  boundAuthorityGeneration : PathAuthorityGeneration
  observedAuthorityGeneration : Option PathAuthorityGeneration
  observedAuthorityState : Option PathAuthorityState
  pendingRevalidations : UInt32
  reason : ExplanationReason
  deriving DecidableEq

structure SetExplanation where
  setId : MultipathSetId
  key : SetKey
  lifecycle : SetLifecycle
  currentness : SetCurrentness
  readiness : RouteReadiness
  memberCount : Nat
  usableMemberCount : Nat
  minimumUsableMembers : UInt64
  minimumSatisfied : Bool
  adminEnabled : Bool
  conditionalAuthorityPermitted : Bool
  governingEpoch : CoordinatorEpoch
  authorityGeneration : MultipathAuthorityGeneration
  lastMutatingPublisher : Option PublisherId
  lastCause : MembershipCause
  reasons : List ExplanationReason
  members : List MemberExplanation
  truncated : Bool
  deriving DecidableEq

def memberReason (m : MemberRecord) : ExplanationReason :=
  if !m.adminEnabled then .memberAdminDisabled
  else
    match m.currentness with
    | .current =>
        if m.lifecycle = .current then
          if 0 < m.pendingRevalidations then .memberPendingRevalidation else .memberUsable
        else .memberLifecycleNotCurrent
    | .stalePathAuthority => .memberPathAuthorityGenerationStale
    | .pathConditionallyNotPermitted => .memberPathConditionallyNotPermitted
    | .pathRevalidationRequired | .pathStale | .pathRejected | .pathRevoked | .pathRetired =>
        .memberPathStateNotUsable
    | .pathAuthorityUnknown => .memberPathAuthorityUnknown
    | .adminDisabled => .memberAdminDisabled
    | .setNotUsable => .memberSetNotUsable
    | .epochStale => .memberEpochStale
    | .authorityFenced => .memberAuthorityFenced
    | .pendingEvaluation => .memberPendingEvaluation

def lifecycleReasons : SetLifecycle → List ExplanationReason
  | .declared => [.setNotPublished]
  | .active => [.setPublishedAndThresholdMet]
  | .degraded => [.setBelowMinimum, .minimumMembershipUnsatisfied]
  | .exhausted => [.setZeroUsableMembers, .minimumMembershipUnsatisfied]
  | .adminDisabled => [.setAdminDisabled]
  | .withdrawing | .withdrawn => [.setWithdrawn]
  | .superseded => [.setSuperseded]
  | .revoked => [.setRevoked]
  | .retired => [.setRetired]

def explainMember (observed : ViewTable) (m : MemberRecord) : MemberExplanation :=
  let view := observed[m.pathId]?.join
  { id := m.id
    pathId := m.pathId
    lifecycle := m.lifecycle
    currentness := m.currentness
    adminEnabled := m.adminEnabled
    usable := memberInputsUsable m
    boundAuthorityGeneration := m.boundAuthorityGeneration
    observedAuthorityGeneration := view.map PathAuthorityView.generation
    observedAuthorityState := view.map PathAuthorityView.state
    pendingRevalidations := m.pendingRevalidations
    reason := memberReason m }

def liveMemberPaths (r : SetRecord) : List PathId :=
  (r.members.toList.filter fun entry => !memberIsTerminal entry.2).map Prod.fst

def lookupViews (source : PathId → Option PathAuthorityView) (paths : List PathId) : ViewTable :=
  paths.foldl (fun views path => views.insert path (source path)) ∅

structure FabricIntegrityReport where
  consistent : Bool
  problems : List Bytes
  setCount : Nat
  memberCount : Nat
  usableMemberCount : Nat
  pathIndexEntries : Nat
  keyIndexEntries : Nat
  registrationCount : Nat
  fenceCount : Nat
  retainedAttempts : Nat

def problemIf (broken : Bool) (problem : Bytes) : List Bytes := if broken then [problem] else []

namespace FabricEngine

def makeExplanation (e : FabricEngine) (r : SetRecord) (observed : ViewTable) : SetExplanation :=
  let satisfied := decide (r.minimumUsableMembers.toNat ≤ r.usableMemberCount)
  let members := r.members.toList.map fun entry => explainMember observed entry.2
  let truncated := decide (e.limits.maxExplanationEntries.toNat < members.length)
  { setId := r.id
    key := r.key
    lifecycle := r.lifecycle
    currentness := r.currentness
    readiness := routeReadiness r.lifecycle r.currentness
    memberCount := r.members.size
    usableMemberCount := r.usableMemberCount
    minimumUsableMembers := r.minimumUsableMembers
    minimumSatisfied := satisfied
    adminEnabled := r.adminEnabled
    conditionalAuthorityPermitted := r.conditionalAuthorityPermitted
    governingEpoch := r.governingEpoch
    authorityGeneration := r.authorityGeneration
    lastMutatingPublisher := if r.provenance.publisher.valid then some r.provenance.publisher else none
    lastCause := r.provenance.cause
    reasons := lifecycleReasons r.lifecycle ++
      (if r.currentness ≠ .current then [.setCurrentnessNotEstablished] else []) ++
      (if r.lifecycle = .active ∧ satisfied = false then [.minimumMembershipUnsatisfied] else []) ++
      (if truncated then [.explanationTruncated] else [])
    members := members.take e.limits.maxExplanationEntries.toNat
    truncated := truncated }

def listSets (e : FabricEngine) : List MultipathSetId := e.sets.keys

def snapshot (e : FabricEngine) (setId : MultipathSetId) : Option SetSnapshot := e.sets[setId]?.map makeSnapshot

def historicalSnapshot (e : FabricEngine) (setId : MultipathSetId) (snapshotId : SnapshotId) :
    Option SetSnapshot :=
  (e.snapshotHistory[setId]?.getD []).find? fun snapshot => snapshot.snapshotId == snapshotId

def explainSet (e : FabricEngine) (setId : MultipathSetId) (source : PathId → Option PathAuthorityView) :
    Option SetExplanation :=
  e.sets[setId]?.map fun r => e.makeExplanation r (lookupViews source (liveMemberPaths r))

def memberPath (e : FabricEngine) (setId : MultipathSetId) (memberId : MultipathMemberId) : Option PathId :=
  e.sets[setId]?.bind fun r => r.memberIndex[memberId]?

/-!
The operations that consult Path Authority, run without interruption: `source` answers every lookup.
-/

def addMembersInternal (e : FabricEngine) (source : PathId → Option PathAuthorityView)
    (context : MutationContext) (setId : MultipathSetId) (requests : List MemberRequest) (operation : Bytes)
    (bulk : Bool) : FabricEngine × FabricOutcome :=
  let looked := requests.map fun request => (request, source request.pathId)
  let result := e.addMembersLocked context setId looked operation bulk
  (if result.reconciles then
      looked.foldl (fun e request => e.reconcilePath request.1.pathId request.2 (source request.1.pathId))
        result.engine
    else result.engine,
    result.outcome)

def addMember (e : FabricEngine) (source : PathId → Option PathAuthorityView) (context : MutationContext)
    (setId : MultipathSetId) (pathId : PathId) (authorityGeneration : PathAuthorityGeneration) :
    FabricEngine × FabricOutcome :=
  e.addMembersInternal source context setId [⟨pathId, authorityGeneration⟩] (text "add_member") false

def addMembers (e : FabricEngine) (source : PathId → Option PathAuthorityView) (context : MutationContext)
    (setId : MultipathSetId) (requests : List MemberRequest) : FabricEngine × FabricOutcome :=
  e.addMembersInternal source context setId requests (text "add_members") true

def replaceMember (e : FabricEngine) (source : PathId → Option PathAuthorityView) (context : MutationContext)
    (setId : MultipathSetId) (memberId : MultipathMemberId) (successorPath : PathId)
    (successorGeneration : PathAuthorityGeneration) (reason : Bytes) : FabricEngine × FabricOutcome :=
  e.replaceMemberLocked context setId memberId ⟨successorPath, successorGeneration⟩ reason
    (source successorPath)

def setMemberAdminEnabled (e : FabricEngine) (source : PathId → Option PathAuthorityView)
    (context : MutationContext) (setId : MultipathSetId) (memberId : MultipathMemberId) (enabled : Bool) :
    FabricEngine × FabricOutcome :=
  e.setMemberAdminEnabledLocked context setId memberId enabled ((e.memberPath setId memberId).bind source)

def revalidationPaths (e : FabricEngine) (setId : MultipathSetId) : List PathId :=
  (e.sets[setId]?.map liveMemberPaths).getD []

def revalidateSet (e : FabricEngine) (source : PathId → Option PathAuthorityView) (context : MutationContext)
    (setId : MultipathSetId) : FabricEngine × FabricOutcome :=
  let paths := e.revalidationPaths setId
  let result := e.revalidateSetLocked context setId (lookupViews source paths)
  (if result.reconciles then
      paths.foldl (fun e path => e.reconcilePath path (source path) (source path)) result.engine
    else result.engine,
    result.outcome)

def revalidateMember (e : FabricEngine) (source : PathId → Option PathAuthorityView)
    (context : MutationContext) (setId : MultipathSetId) (memberId : MultipathMemberId) :
    FabricEngine × FabricOutcome :=
  let path := e.memberPath setId memberId
  let result := e.revalidateMemberLocked context setId memberId (path.map source)
  (match path with
    | some path =>
        if result.reconciles then result.engine.reconcilePath path (source path) (source path)
        else result.engine
    | none => result.engine,
    result.outcome)

def refreshPath (e : FabricEngine) (source : PathId → Option PathAuthorityView) (context : MutationContext)
    (path : PathId) : FabricEngine × FabricOutcome :=
  e.refreshPathLocked context path (source path)

def memberProblems (e : FabricEngine) (r : SetRecord) (path : PathId) (m : MemberRecord) : List Bytes :=
  let about := text "set " ++ r.id.view
  let missing :=
    match e.pathDependents[path]? with
    | none => true
    | some dependents => !dependents.contains r.id
  problemIf (m.pathId != path) (about ++ text ": member " ++ m.id.view ++ text " is stored under a different path key") ++
    problemIf (r.memberIndex[m.id]? != some path)
      (about ++ text ": member identity index does not resolve for " ++ m.id.view) ++
    problemIf missing (text "path index is missing set " ++ r.id.view ++ text " for path " ++ path.view)

def setProblems (e : FabricEngine) (r : SetRecord) : List Bytes :=
  let about := text "set " ++ r.id.view
  problemIf (r.recomputeUsableMembers != r.usableMemberCount)
      (about ++ text ": usable_member_count is stale (" ++ decimal r.usableMemberCount ++ text " recorded, " ++
        decimal r.recomputeUsableMembers ++ text " actual)") ++
    problemIf (r.members.size != r.memberIndex.size)
      (about ++ text ": member table and member index have different sizes") ++
    problemIf (decide (e.limits.maxMembersPerSet < r.minimumUsableMembers))
      (about ++ text ": minimum_usable_members exceeds max_members_per_set") ++
    problemIf (!r.published && r.lifecycle != .declared)
      (about ++ text ": impossible lifecycle/publication combination") ++
    problemIf (r.lifecycle == .retired && r.currentness == .current)
      (about ++ text ": a retired set must not report live currentness") ++
    problemIf (e.keyIndex[r.key]? != some r.id)
      (about ++ text ": semantic key index does not resolve to this set") ++
    r.members.toList.flatMap fun entry => e.memberProblems r entry.1 entry.2

def dependentProblems (e : FabricEngine) (path : PathId) (setId : MultipathSetId) : List Bytes :=
  match e.sets[setId]? with
  | none => [text "path index references unknown set " ++ setId.view]
  | some r =>
      problemIf (!r.members.contains path)
        (text "path index lists path " ++ path.view ++ text " for set " ++ setId.view ++
          text " which has no such member")

def checkIntegrity (e : FabricEngine) : FabricIntegrityReport :=
  let countedMembers := (e.sets.toList.map fun entry => entry.2.members.size).sum
  let problems :=
    (e.sets.toList.flatMap fun entry => e.setProblems entry.2) ++
      problemIf (countedMembers != e.totalMembers)
        (text "total_members counter is " ++ decimal e.totalMembers ++ text " but " ++ decimal countedMembers ++
          text " member records exist") ++
      (e.pathDependents.toList.flatMap fun entry =>
        entry.2.toList.flatMap fun setId => e.dependentProblems entry.1 setId) ++
      e.attemptIndex.toList.flatMap fun entry =>
        problemIf (!e.attempts.any fun record => record.attempt == entry.1)
          (text "attempt index references an evicted attempt record")
  { consistent := problems.isEmpty
    problems
    setCount := e.sets.size
    memberCount := countedMembers
    usableMemberCount := (e.sets.toList.map fun entry => entry.2.usableMemberCount).sum
    pathIndexEntries := e.pathDependents.size
    keyIndexEntries := e.keyIndex.size
    registrationCount := e.registrations.size
    fenceCount := e.fences.size
    retainedAttempts := e.attempts.length }

theorem reconcilePath_same (e : FabricEngine) (path : PathId) (view : Option PathAuthorityView) :
    e.reconcilePath path view view = e := by
  simp [reconcilePath]

theorem addMembersInternal_eq (e : FabricEngine) (source : PathId → Option PathAuthorityView)
    (context : MutationContext) (setId : MultipathSetId) (requests : List MemberRequest) (operation : Bytes)
    (bulk : Bool) :
    e.addMembersInternal source context setId requests operation bulk =
      (e.addMembersLocked context setId (requests.map fun request => (request, source request.pathId))
        operation bulk).answer := by
  have hfold : ∀ (l : List MemberRequest) (e : FabricEngine),
      (l.map fun request => (request, source request.pathId)).foldl
        (fun e request => e.reconcilePath request.1.pathId request.2 (source request.1.pathId)) e = e := by
    intro l
    induction l with
    | nil => intro e; rfl
    | cons request rest ih =>
        intro e
        simp only [List.map_cons, List.foldl_cons, reconcilePath_same]
        exact ih e
  simp only [addMembersInternal, hfold, ite_self]
  rfl

theorem revalidateSet_eq (e : FabricEngine) (source : PathId → Option PathAuthorityView)
    (context : MutationContext) (setId : MultipathSetId) :
    e.revalidateSet source context setId =
      (e.revalidateSetLocked context setId (lookupViews source (e.revalidationPaths setId))).answer := by
  have hfold : ∀ (l : List PathId) (e : FabricEngine),
      l.foldl (fun e path => e.reconcilePath path (source path) (source path)) e = e := by
    intro l
    induction l with
    | nil => intro e; rfl
    | cons path rest ih =>
        intro e
        rw [List.foldl_cons, reconcilePath_same]
        exact ih e
  simp only [revalidateSet, hfold, ite_self]
  rfl

theorem revalidateMember_eq (e : FabricEngine) (source : PathId → Option PathAuthorityView)
    (context : MutationContext) (setId : MultipathSetId) (memberId : MultipathMemberId) :
    e.revalidateMember source context setId memberId =
      (e.revalidateMemberLocked context setId memberId ((e.memberPath setId memberId).map source)).answer := by
  unfold revalidateMember
  cases e.memberPath setId memberId with
  | none => rfl
  | some path =>
      simp only [Option.map_some, reconcilePath_same, ite_self]
      rfl

end FabricEngine

end MultipathFabric
