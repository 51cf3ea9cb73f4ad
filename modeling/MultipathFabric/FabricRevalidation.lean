import MultipathFabric.FabricMembership

namespace MultipathFabric

def MemberRecord.rebound (m : MemberRecord) (permitted : Bool) (view : Option PathAuthorityView) :
    MemberRecord :=
  let m :=
    { m with
      boundAuthorityGeneration := (view.map PathAuthorityView.generation).getD m.boundAuthorityGeneration }
  m.evaluate permitted view true

abbrev ViewTable := Std.ExtTreeMap PathId (Option PathAuthorityView)

namespace SetRecord

def revalidateMember (permitted : Bool) (views : ViewTable) (m : MemberRecord) : MemberRecord :=
  if memberIsTerminal m then m
  else
    match views[m.pathId]? with
    | none => m
    | some view => m.rebound permitted view

def revalidationComplete (r : SetRecord) (views : ViewTable) : Bool :=
  r.members.toList.all fun entry =>
    memberIsTerminal entry.2 || views[entry.2.pathId]?.isSome || entry.2.currentness == .current

end SetRecord

namespace FabricEngine

def revalidatedSet (e : FabricEngine) (r : SetRecord) (views : ViewTable) : SetRecord :=
  let evaluated :=
    { r with
      members := r.members.map fun _ m => SetRecord.revalidateMember r.conditionalAuthorityPermitted views m }
  { evaluated.recompute with
    currentness := if r.revalidationComplete views then .current else .revalidationRequired
    governingEpoch := e.currentEpoch
    authorityGeneration := e.currentAuthorityGeneration }

end FabricEngine

def setRevalidationSummary (r revalidated : SetRecord) : Bytes :=
  text "revalidated set: " ++ decimal revalidated.usableMemberCount ++ text " usable of " ++
    decimal revalidated.minimumUsableMembers.toNat ++ text " required; lifecycle " ++ r.lifecycle.toString ++
    text " -> " ++ revalidated.lifecycle.toString ++ text "; currentness " ++ r.currentness.toString ++
    text " -> " ++ revalidated.currentness.toString

namespace FabricEngine

def revalidateSetLocked (e : FabricEngine) (context : MutationContext) (setId : MultipathSetId)
    (views : ViewTable) : LockedResult :=
  concludeLocked e do
    Checked.require setId.valid
      (makeRejection .malformedRequest (text "revalidate_set requires a set identity"))
    let fields := [text "revalidate_set", setId.view]
    let r ← e.admission context (text "revalidate_set") fields setId
    Checked.require (transitionAllowed r.lifecycle .revalidateSet) (lifecycleRejection r.lifecycle setId)
    expectedSetGenerationMatches context r
    let revalidated := e.revalidatedSet r views
    if r.lifecycle = revalidated.lifecycle ∧ r.currentness = revalidated.currentness then
      pure (.answered (e.answerIdempotent setId revalidated context (text "revalidate_set") fields
        (text "revalidation changed nothing; set remains " ++ revalidated.lifecycle.toString ++ text " with " ++
          decimal revalidated.usableMemberCount ++ text " usable member(s)")))
    else if revalidated.generation.next.isNone then
      pure (.answered (e.putSet setId revalidated, generationExhausted setId))
    else
      let summary := setRevalidationSummary r revalidated
      pure (.committed (e.commitLocked setId revalidated context (text "revalidate_set") fields
        { advanceSetGeneration := true
          advanceMembershipGeneration := false
          event := .revalidateSet
          cause := .setRevalidated
          memberId := none
          pathId := none
          summary := summary }
        (makeOutcome
          (if r.revalidationComplete views then .setRevalidated else .setRevalidationIncomplete) summary)))

end FabricEngine

namespace MemberRecord

def revalidationChanged (before after : MemberRecord) : Bool :=
  before.lifecycle != after.lifecycle || before.currentness != after.currentness ||
    before.boundAuthorityGeneration != after.boundAuthorityGeneration

def revalidated (m : MemberRecord) (permitted : Bool) (view : Option PathAuthorityView) : MemberRecord :=
  let after := m.rebound permitted view
  if revalidationChanged m after then
    { after.bumpWatermark with generation := after.generation.next.getD after.generation }
  else after

end MemberRecord

def memberRevalidationSummary (memberId : MultipathMemberId) (member after : MemberRecord) : Bytes :=
  text "revalidated member " ++ memberId.view ++ text " (path " ++ after.pathId.view ++ text ") binding " ++
    decimal member.boundAuthorityGeneration.value.toNat ++ text " -> " ++
    decimal after.boundAuthorityGeneration.value.toNat ++ text "; lifecycle " ++ member.lifecycle.toString ++
    text " -> " ++ after.lifecycle.toString ++ text "; currentness " ++ member.currentness.toString ++
    text " -> " ++ after.currentness.toString

def revalidationOutcome (code : OutcomeCode) (memberId : MultipathMemberId) (m : MemberRecord)
    (outcome : FabricOutcome) : FabricOutcome :=
  { outcome with
    code := code
    memberId := some memberId
    memberGeneration := some m.generation
    pathId := some m.pathId }

namespace FabricEngine

def revalidateMemberLocked (e : FabricEngine) (context : MutationContext) (setId : MultipathSetId)
    (memberId : MultipathMemberId) (looked : Option (Option PathAuthorityView)) : LockedResult :=
  concludeLocked e do
    Checked.require (setId.valid && memberId.valid)
      (makeRejection .malformedRequest
        (text "revalidate_member requires a set identity and a member identity"))
    let fields := [text "revalidate_member", setId.view, memberId.view]
    e.authorityCheck context none (some setId)
    let view ← Checked.present looked (memberNotFound setId memberId)
    let r ← e.admission context (text "revalidate_member") fields setId
    let path ← Checked.present r.memberIndex[memberId]? (memberNotFound setId memberId)
    Checked.require (transitionAllowed r.lifecycle .membershipRecheck) (lifecycleRejection r.lifecycle setId)
    let member ← Checked.present r.members[path]? (indexDisagrees memberId)
    Checked.require (!memberIsTerminal member)
      (makeRejection .invalidLifecycleTransition
        (text "member " ++ memberId.view ++ text " is " ++ member.lifecycle.toString ++
          text " and cannot be revalidated"))
    expectedSetGenerationMatches context r
    expectedMemberGenerationMatches context member
    Checked.require (member.generation.next.isSome && r.generation.next.isSome)
      (setGenerationsExhausted setId)
    let after := member.revalidated r.conditionalAuthorityPermitted view
    let changed := { r with members := r.members.insert path after }
    let changed := changed.recompute
    if member.revalidationChanged (member.rebound r.conditionalAuthorityPermitted view) then
      let summary := memberRevalidationSummary memberId member after
      let code : OutcomeCode :=
        if memberInputsUsable after then .memberRevalidated else .memberRevalidationNegative
      pure (.committed (e.commitLocked setId changed context (text "revalidate_member") fields
        { advanceSetGeneration := true
          advanceMembershipGeneration := false
          event := .membershipRecheck
          cause := .memberRevalidated
          memberId := some memberId
          pathId := some after.pathId
          summary := summary }
        (revalidationOutcome code memberId after (makeOutcome code summary))))
    else
      let code : OutcomeCode :=
        if memberInputsUsable after then .idempotent else .memberRevalidationNegative
      let outcome := revalidationOutcome code memberId after
        (finalizeOutcome changed
          (makeOutcome code
            (text "member " ++ memberId.view ++ text " revalidation changed nothing; member remains " ++
              after.lifecycle.toString ++ text " currentness " ++ after.currentness.toString)))
      pure (.answered
        ((e.putSet setId changed).recordAttempt context (text "revalidate_member") fields outcome, outcome))

end FabricEngine

structure RevalidationTicket where
  setId : MultipathSetId
  memberId : MultipathMemberId
  attempt : RevalidationAttemptId
  memberGeneration : MultipathMemberGeneration
  setWatermark : Watermark
  memberWatermark : Watermark
  epoch : CoordinatorEpoch
  boundAuthorityGeneration : PathAuthorityGeneration
  valid : Bool
  deriving DecidableEq

namespace FabricEngine

/-- The ticket is absent when the outcome is a rejection. -/
def beginMemberRevalidation (e : FabricEngine) (context : MutationContext) (setId : MultipathSetId)
    (memberId : MultipathMemberId) (attempt : RevalidationAttemptId) :
    FabricEngine × FabricOutcome × Option RevalidationTicket :=
  let run : Checked (FabricEngine × FabricOutcome × Option RevalidationTicket) := do
    Checked.require (setId.valid && memberId.valid && attempt.valid)
      (makeRejection .malformedRequest
        (text "begin_member_revalidation requires a set, a member and a revalidation attempt identity"))
    e.authorityCheck context none (some setId)
    let r ← e.requireSet setId
    let path ← Checked.present r.memberIndex[memberId]? (memberNotFound setId memberId)
    let member ← Checked.present r.members[path]? (indexDisagrees memberId)
    Checked.require (!memberIsTerminal member)
      (makeRejection .invalidLifecycleTransition
        (text "member " ++ memberId.view ++ text " is " ++ member.lifecycle.toString ++
          text " and cannot be revalidated"))
    Checked.require
      (decide (member.pendingRevalidations.toNat < e.limits.maxPendingRevalidationsPerSet.toNat))
      (makeRejection .resourceLimit
        (text "max_pending_revalidations_per_set limit of " ++
          decimal e.limits.maxPendingRevalidationsPerSet.toNat ++ text " reached"))
    let pending := { member with pendingRevalidations := member.pendingRevalidations + 1 }
    let ticket : RevalidationTicket :=
      { setId := setId
        memberId := memberId
        attempt := attempt
        memberGeneration := member.generation
        setWatermark := r.invalidationWatermark
        memberWatermark := member.invalidationWatermark
        epoch := e.currentEpoch
        boundAuthorityGeneration := member.boundAuthorityGeneration
        valid := true }
    pure (e.putSet setId { r with members := r.members.insert path pending },
      makeOutcome .ok
        (text "revalidation ticket issued for member " ++ memberId.view ++ text " at watermark " ++
          decimal member.invalidationWatermark.value.toNat),
      some ticket)
  match run with
  | .ok result => result
  | .error rejection => (e, rejection, none)

end FabricEngine

def completionSummary (ticket : RevalidationTicket) (member after : MemberRecord) : Bytes :=
  text "completed two-phase revalidation " ++ ticket.attempt.view ++ text " for member " ++
    ticket.memberId.view ++ text "; binding " ++ decimal member.boundAuthorityGeneration.value.toNat ++
    text " -> " ++ decimal after.boundAuthorityGeneration.value.toNat ++ text "; lifecycle " ++
    member.lifecycle.toString ++ text " -> " ++ after.lifecycle.toString

def MemberRecord.release (m : MemberRecord) : MemberRecord :=
  { m with pendingRevalidations := if m.pendingRevalidations = 0 then 0 else m.pendingRevalidations - 1 }

/-- What makes a completion stale, in the order in which the checks are made. -/
def staleCompletion (e : FabricEngine) (context : MutationContext) (ticket : RevalidationTicket)
    (r : SetRecord) (member : MemberRecord) : Option FabricOutcome :=
  if r.invalidationWatermark ≠ ticket.setWatermark ∨ member.invalidationWatermark ≠ ticket.memberWatermark then
    some (makeRejection .staleRevalidation
      (text "revalidation ticket is stale: issued at set watermark " ++
        decimal ticket.setWatermark.value.toNat ++ text "/member watermark " ++
        decimal ticket.memberWatermark.value.toNat ++ text " but the member is now at " ++
        decimal r.invalidationWatermark.value.toNat ++ text "/" ++
        decimal member.invalidationWatermark.value.toNat))
  else if ticket.epoch ≠ e.currentEpoch then
    some (makeRejection .staleEpoch
      (text "revalidation ticket was issued at epoch " ++ decimal ticket.epoch.value.toNat ++
        text " but the governing epoch is now " ++ decimal e.currentEpoch.value.toNat))
  else
    match expectedMemberGenerationMatches context member with
    | .error rejection => some rejection
    | .ok _ =>
        if memberIsTerminal member then
          some (makeRejection .invalidLifecycleTransition
            (text "member " ++ ticket.memberId.view ++ text " became " ++ member.lifecycle.toString ++
              text " while revalidation was in flight"))
        else if member.generation.next.isNone || r.generation.next.isNone then
          some (setGenerationsExhausted ticket.setId)
        else none

namespace FabricEngine

def completeMemberRevalidation (e : FabricEngine) (context : MutationContext) (ticket : RevalidationTicket)
    (current : Option PathAuthorityView) : FabricEngine × FabricOutcome :=
  conclude e do
    Checked.require ticket.valid
      (makeRejection .malformedRequest (text "revalidation ticket is not valid"))
    Checked.require (ticket.setId.valid && ticket.memberId.valid)
      (makeRejection .malformedRequest (text "revalidation ticket is missing an identity"))
    let fields := [text "complete_member_revalidation", ticket.setId.view, ticket.memberId.view,
      ticket.attempt.view]
    e.authorityCheck context none (some ticket.setId)
    let r ← e.requireSet ticket.setId
    let path ← Checked.present r.memberIndex[ticket.memberId]? (memberNotFound ticket.setId ticket.memberId)
    let member ← Checked.present r.members[path]? (indexDisagrees ticket.memberId)
    Checked.require (member.pendingRevalidations != 0)
      (makeRejection .malformedRequest
        (text "no revalidation is pending for member " ++ ticket.memberId.view))
    match staleCompletion e context ticket r member with
    | some rejection =>
        pure (e.putSet ticket.setId { r with members := r.members.insert path member.release }, rejection)
    | none =>
        let after := (member.revalidated r.conditionalAuthorityPermitted current).release
        let completed := { r with members := r.members.insert path after }
        let completed := completed.recompute
        let summary := completionSummary ticket member after
        if member.revalidationChanged (member.rebound r.conditionalAuthorityPermitted current) then
          let code : OutcomeCode :=
            if memberInputsUsable after then .memberRevalidated else .memberRevalidationNegative
          pure (e.commitLocked ticket.setId completed context (text "complete_member_revalidation") fields
            { advanceSetGeneration := true
              advanceMembershipGeneration := false
              event := .membershipRecheck
              cause := .memberRevalidated
              memberId := some ticket.memberId
              pathId := some after.pathId
              summary := summary }
            (revalidationOutcome code ticket.memberId after (makeOutcome code summary)))
        else
          let code : OutcomeCode :=
            if memberInputsUsable after then .idempotent else .memberRevalidationNegative
          let outcome := revalidationOutcome code ticket.memberId after
            (finalizeOutcome completed (makeOutcome code summary))
          pure ((e.putSet ticket.setId completed).recordAttempt context
            (text "complete_member_revalidation") fields outcome, outcome)

def abandonMemberRevalidation (e : FabricEngine) (ticket : RevalidationTicket) :
    FabricEngine × FabricOutcome :=
  conclude e do
    Checked.require ticket.valid
      (makeRejection .malformedRequest (text "revalidation ticket is not valid"))
    let r ← e.requireSet ticket.setId
    let path ← Checked.present r.memberIndex[ticket.memberId]? (memberNotFound ticket.setId ticket.memberId)
    let member ← Checked.present r.members[path]? (indexDisagrees ticket.memberId)
    Checked.require (member.pendingRevalidations != 0)
      (makeRejection .malformedRequest
        (text "no revalidation is pending for member " ++ ticket.memberId.view))
    pure (e.putSet ticket.setId { r with members := r.members.insert path member.release },
      makeOutcome .ok (text "abandoned revalidation ticket " ++ ticket.attempt.view))

def pathCallerCheck (e : FabricEngine) (context : MutationContext) : Checked PublisherRegistration := do
  Checked.require context.hasCallerIdentity
    (makeRejection .unauthorizedCaller
      (text "mutation context is missing a required caller identity element: " ++ context.render))
  Checked.require (context.epoch == e.currentEpoch)
    (makeRejection .staleEpoch (text "request epoch is not the governing epoch"))
  let worker : WorkerKey := ⟨context.publisher, context.workerBoot⟩
  Checked.require e.fences[worker]?.isNone (makeRejection .staleWorker (text "worker boot is fenced"))
  Checked.present (e.registrations[worker]?.filter fun registration => registration.epoch == e.currentEpoch)
    (makeRejection .unknownPublisher (text "publisher/boot is not registered at the governing epoch"))

def uncoveredDependent (e : FabricEngine) (scope : AuthorityScope) (path : PathId) : Option FabricOutcome :=
  match e.pathDependents[path]? with
  | none => none
  | some dependents =>
      dependents.toList.findSome? fun setId =>
        match e.sets[setId]? with
        | none => none
        | some r =>
            if scope.covers r.key.fabric r.key.nameSpace r.id then none
            else
              some (makeRejection .unauthorizedScope
                (text "scope does not cover dependent set " ++ r.key.render))

def viewText (view : PathAuthorityView) (changed : Nat) : Bytes :=
  view.path.view ++ text " generation " ++ decimal view.generation.value.toNat ++ text " state " ++
    view.state.toString ++ text "; " ++ decimal changed ++ text " dependent set(s) changed"

def viewFields (operation : Bytes) (view : PathAuthorityView) : List Bytes :=
  [operation, view.path.view, decimal view.generation.value.toNat, view.state.toString]

def declarePathAuthority (e : FabricEngine) (context : MutationContext) (view : PathAuthorityView) :
    FabricEngine × FabricOutcome :=
  conclude e do
    let operation := text "declare_path_authority"
    Checked.require (view.path.valid && view.generation.valid)
      (makeRejection .malformedRequest
        (text "declare_path_authority requires a valid path and generation"))
    let registration ← e.pathCallerCheck context
    Checked.unlessAnswered (e.attemptCheck context operation (viewFields operation view))
    Checked.require (!e.externalPathAuthority)
      (makeRejection .unsupportedOperation
        (text "an external Path Authority source is installed; the coordinator does not own the Path Authority view for this path"))
    Checked.unlessAnswered (e.uncoveredDependent registration.scope view.path)
    let declared := { e with directory := e.directory.set view }
    let applied := declared.applyView view.path (some view) (some context) .pathInvalidated
    let outcome :=
      { makeOutcome (if 0 < applied.2 then .pathInvalidated else .updated)
          (text "declared Path Authority view for " ++ viewText view applied.2) with
        pathId := some view.path }
    pure (applied.1.recordAttempt context operation (viewFields operation view) outcome, outcome)

def applyPathAuthority (e : FabricEngine) (context : MutationContext) (view : PathAuthorityView) :
    FabricEngine × FabricOutcome :=
  conclude e do
    let operation := text "apply_path_authority"
    Checked.require (view.path.valid && view.generation.valid)
      (makeRejection .malformedRequest (text "apply_path_authority requires a valid path and generation"))
    let registration ← e.pathCallerCheck context
    Checked.unlessAnswered (e.attemptCheck context operation (viewFields operation view))
    Checked.unlessAnswered (e.uncoveredDependent registration.scope view.path)
    let applied := e.applyView view.path (some view) (some context) .pathInvalidated
    let outcome :=
      { makeOutcome .pathInvalidated (text "applied Path Authority view for " ++ viewText view applied.2) with
        pathId := some view.path }
    pure (applied.1.recordAttempt context operation (viewFields operation view) outcome, outcome)

/-- The refresh of a path, with the view looked up before the lock; a Path Authority source is always
bound, since unbinding one restores the directory. -/
def refreshPathLocked (e : FabricEngine) (context : MutationContext) (path : PathId)
    (view : Option PathAuthorityView) : FabricEngine × FabricOutcome :=
  if !path.valid then
    (e, makeRejection .malformedRequest (text "refresh_path requires a valid path identity"))
  else
    match view with
    | none =>
        (e, makeRejection .pathAuthorityUnknown
          (text "Path Authority has no record for path " ++ path.view))
    | some view => e.applyPathAuthority context view

end FabricEngine

end MultipathFabric
