import MultipathFabric.FabricMutation

namespace MultipathFabric

structure MemberRequest where
  pathId : PathId
  authorityGeneration : PathAuthorityGeneration
  deriving DecidableEq

def transitionAllowed (state : SetLifecycle) (event : SetEvent) : Bool := setTransition state event != .reject

def memberFields (operation : Bytes) (setId : MultipathSetId) (request : MemberRequest) : Bytes :=
  operation ++ text "|" ++ setId.view ++ text "|" ++ request.pathId.view ++ text "|" ++
    decimal request.authorityGeneration.value.toNat

def bulkFields (operation : Bytes) (setId : MultipathSetId) (requests : List MemberRequest) : List Bytes :=
  [operation, setId.view] ++ requests.map (memberFields operation setId)

def setGenerationsExhausted (setId : MultipathSetId) : FabricOutcome :=
  makeRejection .generationOverflow (text "generation exhausted for set " ++ setId.view)

def expectedMemberGenerationMatches (context : MutationContext) (m : MemberRecord) : Checked Unit :=
  match context.expectedMemberGeneration with
  | none => .ok ()
  | some expected =>
      Checked.require (m.generation == expected)
        (makeRejection .staleMemberGeneration
          (text "expected member generation " ++ decimal expected.value.toNat ++
            text " but the member is at " ++ decimal m.generation.value.toNat))

def memberNotFound (setId : MultipathSetId) (memberId : MultipathMemberId) : FabricOutcome :=
  makeRejection .memberNotFound (text "no member " ++ memberId.view ++ text " in set " ++ setId.view)

def indexDisagrees (memberId : MultipathMemberId) : FabricOutcome :=
  makeRejection .internalError
    (text "member index and membership table disagree for " ++ memberId.view)

def unsupportedRequest (r : SetRecord) (requests : List (MemberRequest × Option PathAuthorityView)) :
    Option FabricOutcome :=
  requests.findSome? fun request =>
    let currentness := classifyPathAuthority request.2 request.1.authorityGeneration
      r.conditionalAuthorityPermitted
    if currentness = .current then none else some (currentnessRejection currentness request.1.pathId)

def duplicateRequest (r : SetRecord) (setId : MultipathSetId) :
    List PathId → List MemberRequest → Option FabricOutcome
  | _, [] => none
  | seen, request :: rest =>
      if seen.contains request.pathId then
        some (makeRejection .duplicateMember
          (text "path " ++ request.pathId.view ++ text " appears more than once in the same batch"))
      else
        match r.members[request.pathId]? with
        | none => duplicateRequest r setId (seen ++ [request.pathId]) rest
        | some existing =>
            if memberIsTerminal existing then duplicateRequest r setId (seen ++ [request.pathId]) rest
            else
              some (makeRejection .duplicateMember
                (text "path " ++ request.pathId.view ++ text " is already a live member " ++
                  existing.id.view ++ text " of set " ++ setId.view))

/-- The requests that take a new slot; a request over a terminal relation replaces it in place. -/
def newLive (r : SetRecord) (requests : List MemberRequest) : List MemberRequest :=
  requests.filter fun request => r.members[request.pathId]?.isNone

namespace FabricEngine

def dependencyLimit (e : FabricEngine) (r : SetRecord) (requests : List MemberRequest) : Option FabricOutcome :=
  (newLive r requests).findSome? fun request =>
    match e.pathDependents[request.pathId]? with
    | none => none
    | some dependents =>
        if e.limits.maxPathDependenciesPerPath.toNat ≤ dependents.size then
          some (makeRejection .resourceLimit
            (text "max_path_dependencies_per_path limit of " ++
              decimal e.limits.maxPathDependenciesPerPath.toNat ++ text " reached for path " ++
              request.pathId.view))
        else none

def newMember (e : FabricEngine) (context : MutationContext) (r : SetRecord) (cause : MembershipCause)
    (request : MemberRequest) (view : Option PathAuthorityView) (predecessor : Option MultipathMemberId) :
    MemberRecord :=
  let member :=
    { MemberRecord.fresh with
      id := e.ids.nextMemberId.1
      pathId := request.pathId
      boundAuthorityGeneration := request.authorityGeneration
      generation := .first
      predecessor := predecessor
      provenance := makeProvenance context cause r }
  member.evaluate r.conditionalAuthorityPermitted view false

end FabricEngine

def SetRecord.installMember (r : SetRecord) (member : MemberRecord) : SetRecord :=
  let index :=
    match r.members[member.pathId]? with
    | some existing => r.memberIndex.erase existing.id
    | none => r.memberIndex
  { r with
    memberIndex := index.insert member.id member.pathId
    members := r.members.insert member.pathId member }

namespace FabricEngine

def admitPath (e : FabricEngine) (setId : MultipathSetId) (path : PathId) : FabricEngine :=
  { e with ids := e.ids.nextMemberId.2 }.indexPath setId path

def publishMembers (context : MutationContext) (setId : MultipathSetId) :
    FabricEngine → SetRecord → List (MemberRequest × Option PathAuthorityView) →
      FabricEngine × SetRecord × List MultipathMemberId
  | e, r, [] => (e, r, [])
  | e, r, (request, view) :: rest =>
      let predecessor := r.members[request.pathId]?.map MemberRecord.id
      let member := e.newMember context r .memberAdded request view predecessor
      let published :=
        publishMembers context setId (e.admitPath setId request.pathId) (r.installMember member) rest
      (published.1, published.2.1, member.id :: published.2.2)

end FabricEngine

def requestText (request : MemberRequest) : Bytes :=
  text " " ++ request.pathId.view ++ text "@" ++ decimal request.authorityGeneration.value.toNat

def publicationSummary (bulk : Bool) (requests : List MemberRequest) (before after : SetLifecycle) : Bytes :=
  (if bulk then text "bulk published " else text "added ") ++ decimal requests.length ++ text " member(s):" ++
    requests.flatMap requestText ++ text "; lifecycle " ++ before.toString ++ text " -> " ++ after.toString

def onlyElement {α : Type} : List α → Option α
  | [a] => some a
  | _ => none

namespace FabricEngine

def addMembersLocked (e : FabricEngine) (context : MutationContext) (setId : MultipathSetId)
    (requests : List (MemberRequest × Option PathAuthorityView)) (operation : Bytes) (bulk : Bool) :
    LockedResult :=
  concludeLocked e do
    let members := requests.map Prod.fst
    Checked.require setId.valid
      (makeRejection .malformedRequest (operation ++ text " requires a set identity"))
    Checked.require (!requests.isEmpty)
      (makeRejection .malformedRequest (operation ++ text " requires at least one member request"))
    Checked.require (!bulk || decide (requests.length ≤ e.limits.maxBatchSize.toNat))
      (makeRejection .resourceLimit
        (text "batch of " ++ decimal requests.length ++ text " exceeds max_batch_size " ++
          decimal e.limits.maxBatchSize.toNat))
    Checked.require (members.all fun request => request.pathId.valid && request.authorityGeneration.valid)
      (makeRejection .malformedRequest
        (text "member request requires a valid PathId and PathAuthorityGeneration"))
    let fields := bulkFields operation setId members
    let r ← e.admission context operation fields setId
    Checked.require (transitionAllowed r.lifecycle .memberAdded) (lifecycleRejection r.lifecycle setId)
    expectedSetGenerationMatches context r
    Checked.unlessAnswered (unsupportedRequest r requests)
    Checked.unlessAnswered (duplicateRequest r setId [] members)
    Checked.require
      (decide (liveMemberCount r + (newLive r members).length ≤ e.limits.maxMembersPerSet.toNat))
      (makeRejection .resourceLimit
        (text "max_members_per_set limit of " ++ decimal e.limits.maxMembersPerSet.toNat ++
          text " would be exceeded by set " ++ setId.view))
    Checked.require
      (decide (e.totalMembers + (newLive r members).length ≤ e.limits.maxTotalMembers.toNat))
      (makeRejection .resourceLimit
        (text "max_total_members limit of " ++ decimal e.limits.maxTotalMembers.toNat ++
          text " would be exceeded"))
    Checked.unlessAnswered (e.dependencyLimit r members)
    Checked.require (r.generation.next.isSome && r.membershipGeneration.next.isSome)
      (setGenerationsExhausted setId)
    let moved ← r.transition .memberAdded setId
    let published := publishMembers context setId e moved requests
    let engine := { published.1 with totalMembers := published.1.totalMembers + (newLive r members).length }
    let joined := published.2.1.recompute
    let summary := publicationSummary bulk members r.lifecycle joined.lifecycle
    pure (.committed (engine.commitLocked setId joined context operation fields
      { advanceSetGeneration := true
        advanceMembershipGeneration := true
        event := .memberAdded
        cause := .memberAdded
        memberId := onlyElement published.2.2
        pathId := onlyElement (members.map MemberRequest.pathId)
        summary := summary }
      { makeOutcome .memberAdded summary with
        memberId := onlyElement published.2.2
        pathId := onlyElement (members.map MemberRequest.pathId) }))

/-- The post-commit reconciliation: a view that differs from the one used is applied. -/
def reconcilePath (e : FabricEngine) (path : PathId) (used observed : Option PathAuthorityView) :
    FabricEngine :=
  if observed = used then e else (e.applyView path observed none .pathInvalidated).1

def removeMember (e : FabricEngine) (context : MutationContext) (setId : MultipathSetId)
    (memberId : MultipathMemberId) (reason : Bytes) : FabricEngine × FabricOutcome :=
  conclude e do
    Checked.require (setId.valid && memberId.valid)
      (makeRejection .malformedRequest
        (text "remove_member requires a set identity and a member identity"))
    Checked.require (decide (reason.length ≤ 256))
      (makeRejection .malformedRequest (text "removal reason exceeds the 256 character bound"))
    let fields := [text "remove_member", setId.view, memberId.view, reason]
    let r ← e.admission context (text "remove_member") fields setId
    let path ← Checked.present r.memberIndex[memberId]? (memberNotFound setId memberId)
    Checked.require (transitionAllowed r.lifecycle .memberRemoved) (lifecycleRejection r.lifecycle setId)
    let member ← Checked.present r.members[path]? (indexDisagrees memberId)
    expectedSetGenerationMatches context r
    expectedMemberGenerationMatches context member
    Checked.require (r.generation.next.isSome && r.membershipGeneration.next.isSome)
      (setGenerationsExhausted setId)
    let moved ← r.transition .memberRemoved setId
    let removed :=
      { moved with memberIndex := moved.memberIndex.erase memberId, members := moved.members.erase path }
    let engine := e.unindexPath setId path
    let engine := { engine with totalMembers := engine.totalMembers - 1 }
    let summary := text "removed member " ++ memberId.view ++ text " (path " ++ path.view ++ text "): " ++
      reason
    pure (engine.commitLocked setId removed.recompute context (text "remove_member") fields
      { advanceSetGeneration := true
        advanceMembershipGeneration := true
        event := .memberRemoved
        cause := .memberRemoved
        memberId := some memberId
        pathId := some path
        summary := summary }
      { makeOutcome .memberRemoved summary with memberId := some memberId, pathId := some path })

end FabricEngine

def MemberRecord.terminate (m : MemberRecord) (lifecycle : MemberLifecycle) : MemberRecord :=
  { m.bumpWatermark with
    lifecycle := lifecycle
    currentness := .setNotUsable
    generation := m.generation.next.getD m.generation }

namespace FabricEngine

def withdrawMember (e : FabricEngine) (context : MutationContext) (setId : MultipathSetId)
    (memberId : MultipathMemberId) (reason : Bytes) : FabricEngine × FabricOutcome :=
  conclude e do
    Checked.require (setId.valid && memberId.valid)
      (makeRejection .malformedRequest
        (text "withdraw_member requires a set identity and a member identity"))
    Checked.require (decide (reason.length ≤ 256))
      (makeRejection .malformedRequest (text "withdrawal reason exceeds the 256 character bound"))
    let fields := [text "withdraw_member", setId.view, memberId.view, reason]
    let r ← e.admission context (text "withdraw_member") fields setId
    let path ← Checked.present r.memberIndex[memberId]? (memberNotFound setId memberId)
    Checked.require (transitionAllowed r.lifecycle .memberRemoved) (lifecycleRejection r.lifecycle setId)
    let member ← Checked.present r.members[path]? (indexDisagrees memberId)
    if member.lifecycle = .withdrawn then
      pure (e.answerIdempotent setId r context (text "withdraw_member") fields
        (text "member " ++ memberId.view ++ text " is already withdrawn"))
    else
      expectedMemberGenerationMatches context member
      Checked.require (member.generation.next.isSome && r.generation.next.isSome &&
          r.membershipGeneration.next.isSome)
        (setGenerationsExhausted setId)
      let nextLifecycle ← Checked.present (memberTransition member.lifecycle .withdraw)
        (makeRejection .invalidLifecycleTransition
          (text "member " ++ memberId.view ++ text " cannot be withdrawn from lifecycle " ++
            member.lifecycle.toString))
      let moved ← r.transition .memberRemoved setId
      let withdrawn := { moved with members := moved.members.insert path (member.terminate nextLifecycle) }
      let summary := text "withdrew member " ++ memberId.view ++ text " (path " ++ member.pathId.view ++
        text "): " ++ reason
      pure (e.commitLocked setId withdrawn.recompute context (text "withdraw_member") fields
        { advanceSetGeneration := true
          advanceMembershipGeneration := true
          event := .memberRemoved
          cause := .memberRemoved
          memberId := some memberId
          pathId := some member.pathId
          summary := summary }
        { makeOutcome .memberWithdrawn summary with
          memberId := some memberId
          pathId := some member.pathId })

def replaceMemberLocked (e : FabricEngine) (context : MutationContext) (setId : MultipathSetId)
    (memberId : MultipathMemberId) (request : MemberRequest) (reason : Bytes)
    (view : Option PathAuthorityView) : FabricEngine × FabricOutcome :=
  conclude e do
    let successorPath := request.pathId
    Checked.require (setId.valid && memberId.valid && successorPath.valid && request.authorityGeneration.valid)
      (makeRejection .malformedRequest
        (text "replace_member requires a set, a member, a successor PathId and a successor PathAuthorityGeneration"))
    Checked.require (decide (reason.length ≤ 256))
      (makeRejection .malformedRequest (text "replacement reason exceeds the 256 character bound"))
    let fields := [text "replace_member", setId.view, memberId.view, successorPath.view,
      decimal request.authorityGeneration.value.toNat, reason]
    let r ← e.admission context (text "replace_member") fields setId
    Checked.require (transitionAllowed r.lifecycle .memberReplaced) (lifecycleRejection r.lifecycle setId)
    let predecessorPath ← Checked.present r.memberIndex[memberId]? (memberNotFound setId memberId)
    Checked.require (predecessorPath != successorPath)
      (makeRejection .malformedRequest
        (text "successor path equals the predecessor path; use revalidate_member to rebind the Path Authority generation of an existing member"))
    expectedSetGenerationMatches context r
    let predecessor ← Checked.present r.members[predecessorPath]? (indexDisagrees memberId)
    expectedMemberGenerationMatches context predecessor
    Checked.unlessAnswered (unsupportedRequest r [(request, view)])
    let existing := r.members[successorPath]?
    Checked.unlessAnswered ((existing.filter fun m => !memberIsTerminal m).map fun live =>
      makeRejection .duplicateMember
        (text "successor path " ++ successorPath.view ++ text " is already a live member " ++ live.id.view))
    let freed := if memberIsTerminal predecessor then 0 else 1
    -- A replacement that has passed the checks above always consumes a slot.
    Checked.require (decide (liveMemberCount r + 1 - freed ≤ e.limits.maxMembersPerSet.toNat))
      (makeRejection .resourceLimit
        (text "max_members_per_set limit of " ++ decimal e.limits.maxMembersPerSet.toNat ++
          text " would be exceeded by replacement in set " ++ setId.view))
    Checked.require (decide (e.totalMembers < e.limits.maxTotalMembers.toNat))
      (makeRejection .resourceLimit
        (text "max_total_members limit of " ++ decimal e.limits.maxTotalMembers.toNat ++
          text " would be exceeded by replacement"))
    Checked.require ((e.pathDependents[successorPath]?.map fun dependents =>
        decide (dependents.size < e.limits.maxPathDependenciesPerPath.toNat)).getD true)
      (makeRejection .resourceLimit
        (text "max_path_dependencies_per_path limit reached for path " ++ successorPath.view))
    Checked.require (r.generation.next.isSome && r.membershipGeneration.next.isSome &&
        predecessor.generation.next.isSome)
      (setGenerationsExhausted setId)
    let moved ← r.transition .memberReplaced setId
    let successor := e.newMember context moved .memberReplaced request view (some memberId)
    let superseded := { predecessor.terminate .superseded with successor := some successor.id }
    let replaced := { moved with members := moved.members.insert predecessorPath superseded }
    let replaced := replaced.installMember successor
    let engine := e.admitPath setId successorPath
    let engine := { engine with totalMembers := engine.totalMembers + 1 }
    let summary := text "replaced member " ++ memberId.view ++ text " (path " ++ predecessorPath.view ++
      text ") with member " ++ successor.id.view ++ text " (path " ++ successorPath.view ++ text "@" ++
      decimal request.authorityGeneration.value.toNat ++ text "): " ++ reason
    pure (engine.commitLocked setId replaced.recompute context (text "replace_member") fields
      { advanceSetGeneration := true
        advanceMembershipGeneration := true
        event := .memberReplaced
        cause := .memberReplaced
        memberId := some successor.id
        pathId := some successorPath
        summary := summary }
      (makeOutcome .memberReplaced summary))

end FabricEngine

def MemberRecord.toggled (m : MemberRecord) (permitted : Bool) (view : Option PathAuthorityView)
    (enabled : Bool) : MemberRecord :=
  let m := { m with adminEnabled := enabled, generation := m.generation.next.getD m.generation }
  m.bumpWatermark.evaluate permitted view enabled

namespace FabricEngine

def setMemberAdminEnabledLocked (e : FabricEngine) (context : MutationContext) (setId : MultipathSetId)
    (memberId : MultipathMemberId) (enabled : Bool) (view : Option PathAuthorityView) :
    FabricEngine × FabricOutcome :=
  conclude e do
    Checked.require (setId.valid && memberId.valid)
      (makeRejection .malformedRequest
        (text "set_member_admin_enabled requires a set and a member identity"))
    let fields := [text "set_member_admin_enabled", setId.view, memberId.view, flagText enabled]
    let r ← e.admission context (text "set_member_admin_enabled") fields setId
    let path ← Checked.present r.memberIndex[memberId]? (memberNotFound setId memberId)
    let member ← Checked.present r.members[path]? (indexDisagrees memberId)
    Checked.require (!memberIsTerminal member)
      (makeRejection .invalidLifecycleTransition
        (text "member " ++ memberId.view ++ text " is " ++ member.lifecycle.toString ++
          text " and cannot be administratively toggled"))
    expectedMemberGenerationMatches context member
    if member.adminEnabled = enabled then
      pure (e.answerIdempotent setId r context (text "set_member_admin_enabled") fields
        (text "member administrative enablement already " ++ boolText enabled))
    else
      Checked.require (member.generation.next.isSome && r.generation.next.isSome)
        (setGenerationsExhausted setId)
      let toggled := member.toggled r.conditionalAuthorityPermitted view enabled
      let changed := { r with members := r.members.insert path toggled }
      let summary := text "member administrative enablement -> " ++ boolText enabled ++
        text "; member lifecycle=" ++ toggled.lifecycle.toString ++ text " currentness=" ++
        toggled.currentness.toString
      pure (e.commitLocked setId changed.recompute context (text "set_member_admin_enabled") fields
        { advanceSetGeneration := true
          advanceMembershipGeneration := false
          event := .membershipRecheck
          cause := if enabled then .adminEnabled else .adminDisabled
          memberId := some memberId
          pathId := some toggled.pathId
          summary := summary }
        (makeOutcome .updated summary))

end FabricEngine

end MultipathFabric
