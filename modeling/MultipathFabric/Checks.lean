import MultipathFabric.MembershipSpec
import MultipathFabric.MemberIndex
import MultipathFabric.Library.Precedence

/-!
Everything that a request violates in a state, each condition evaluated on its own: the checks of the operations in
the order in which the code makes them.
-/

namespace MultipathFabric

open OrderedMap Precedence

namespace SetRecord

def staleSet (r : SetRecord) (context : MutationContext) : Bool :=
  !context.expectedSetGeneration.all fun expected => r.generation == expected

def refuses (r : SetRecord) (event : SetEvent) : Bool := !transitionAllowed r.lifecycle event

def staleFault (r : SetRecord) (context : MutationContext) : List OutcomeCode :=
  faultIf (r.staleSet context) .staleSetGeneration

def lifecycleFault (r : SetRecord) (event : SetEvent) (setId : MultipathSetId) : List OutcomeCode :=
  faultIf (r.refuses event) (lifecycleRejection r.lifecycle setId).code

def exhaustedFault (r : SetRecord) : List OutcomeCode := faultIf (!r.generation.next.isSome) .generationOverflow

def exhaustedFaults (r : SetRecord) : List OutcomeCode :=
  faultIf (!(r.generation.next.isSome && r.membershipGeneration.next.isSome)) .generationOverflow

def unknownMember (r : SetRecord) (memberId : MultipathMemberId) : List OutcomeCode :=
  faultIf r.memberIndex[memberId]?.isNone .memberNotFound

def atMember (r : SetRecord) (memberId : MultipathMemberId) (faults : MemberRecord → List OutcomeCode) :
    List OutcomeCode :=
  match r.memberIndex[memberId]? with
  | none => []
  | some path => (r.members[path]?).elim [] faults

end SetRecord

theorem atMember_cases (r : SetRecord) (memberId : MultipathMemberId) :
    (∃ path m, r.finds memberId path m ∧ ∀ faults, r.atMember memberId faults = faults m) ∨
      ((∀ path m, ¬r.finds memberId path m) ∧ ∀ faults, r.atMember memberId faults = []) := by
  unfold SetRecord.finds SetRecord.atMember
  cases hpath : r.memberIndex[memberId]? with
  | none => simp
  | some path =>
      cases hm : r.members[path]? with
      | some m => simp [hm]
      | none =>
          refine .inr ⟨?_, fun _ => by simp [hm]⟩
          rintro other m ⟨h, h'⟩
          cases h
          rw [hm] at h'
          cases h'

theorem finds_unique {r : SetRecord} {memberId : MultipathMemberId} {path path' : PathId} {m m' : MemberRecord}
    (h : r.finds memberId path m) (h' : r.finds memberId path' m') : m' = m := by
  obtain ⟨hpath, hm⟩ := h
  obtain ⟨hpath', hm'⟩ := h'
  rw [hpath] at hpath'
  cases hpath'
  rw [hm] at hm'
  cases hm'
  rfl

theorem atMember_finds {r : SetRecord} {memberId : MultipathMemberId} {path : PathId} {m : MemberRecord}
    (finds : r.finds memberId path m) (faults : MemberRecord → List OutcomeCode) :
    r.atMember memberId faults = faults m := by
  unfold SetRecord.atMember
  rw [finds.1]
  change (r.members[path]?).elim [] faults = faults m
  rw [finds.2]
  rfl

namespace MemberRecord

def staleMember (m : MemberRecord) (context : MutationContext) : Bool :=
  !context.expectedMemberGeneration.all fun expected => m.generation == expected

def staleFault (m : MemberRecord) (context : MutationContext) : List OutcomeCode :=
  faultIf (m.staleMember context) .staleMemberGeneration

def terminalFault (m : MemberRecord) : List OutcomeCode :=
  faultIf (memberIsTerminal m) .invalidLifecycleTransition

end MemberRecord

def answerFault (answer : Option FabricOutcome) : List OutcomeCode := answer.toList.map FabricOutcome.code

namespace FabricEngine

def outOfScope (e : FabricEngine) (context : MutationContext) (covers : AuthorityScope → Bool) : Bool :=
  !e.registrations[(⟨context.publisher, context.workerBoot⟩ : WorkerKey)]?.all fun registration =>
    covers registration.scope

def callerFaults (e : FabricEngine) (context : MutationContext) (covers : AuthorityScope → Bool) :
    List OutcomeCode :=
  [faultIf (!context.hasCallerIdentity) .unauthorizedCaller, faultIf (!context.epoch == e.currentEpoch) .staleEpoch,
    faultIf e.fences[(⟨context.publisher, context.workerBoot⟩ : WorkerKey)]?.isSome .staleWorker,
    faultIf e.registrations[(⟨context.publisher, context.workerBoot⟩ : WorkerKey)]?.isNone .unknownPublisher,
    faultIf (!e.registrations[(⟨context.publisher, context.workerBoot⟩ : WorkerKey)]?.all fun registration =>
      registration.epoch == e.currentEpoch) .staleWorker,
    faultIf (e.outOfScope context covers) .unauthorizedScope].flatten

def coversSet (e : FabricEngine) (setId : MultipathSetId) (scope : AuthorityScope) : Bool :=
  match e.sets[setId]? with
  | none => scope.coversAllInScope || scope.setIds.contains setId
  | some r => scope.covers r.key.fabric r.key.nameSpace r.id

def unknownSet (e : FabricEngine) (setId : MultipathSetId) : List OutcomeCode :=
  faultIf e.sets[setId]?.isNone .setNotFound

def authorityFaults (e : FabricEngine) (context : MutationContext) (setId : MultipathSetId) : List OutcomeCode :=
  [e.callerFaults context (e.coversSet setId), e.unknownSet setId].flatten

def pathCallerFaults (e : FabricEngine) (context : MutationContext) : List OutcomeCode :=
  [faultIf (!context.hasCallerIdentity) .unauthorizedCaller, faultIf (!context.epoch == e.currentEpoch) .staleEpoch,
    faultIf (!e.fences[(⟨context.publisher, context.workerBoot⟩ : WorkerKey)]?.isNone) .staleWorker,
    faultIf (!e.registrations[(⟨context.publisher, context.workerBoot⟩ : WorkerKey)]?.any fun registration =>
      registration.epoch == e.currentEpoch) .unknownPublisher].flatten

def uncovers (e : FabricEngine) (context : MutationContext) (path : PathId) : Bool :=
  e.outOfScope context fun scope => (e.uncoveredDependent scope path).isNone

def conflicts (e : FabricEngine) (q : Request) : Bool :=
  (e.attemptCheck q.context q.operation q.fields).any fun answer => !answer.succeeded

def attemptFault (e : FabricEngine) (op : Op) : List OutcomeCode :=
  (op.request).elim [] fun q => faultIf (e.conflicts q) .attemptConflict

def atSet (e : FabricEngine) (setId : MultipathSetId) (faults : SetRecord → List OutcomeCode) : List OutcomeCode :=
  (e.sets[setId]?).elim [] faults

end FabricEngine

def MemberRequest.wellFormed (request : MemberRequest) : Bool :=
  request.pathId.valid && request.authorityGeneration.valid

namespace FabricEngine

def roomFaults (e : FabricEngine) (r : SetRecord) (requests : List MemberRequest) : List OutcomeCode :=
  [faultIf (!decide (liveMemberCount r + (newLive r requests).length ≤ e.limits.maxMembersPerSet.toNat)) .resourceLimit,
    faultIf (!decide (e.totalMembers + (newLive r requests).length ≤ e.limits.maxTotalMembers.toNat)) .resourceLimit,
    answerFault (e.dependencyLimit r requests)].flatten

def joinFaults (e : FabricEngine) (r : SetRecord) (context : MutationContext) (setId : MultipathSetId)
    (requests : List (MemberRequest × Option PathAuthorityView)) : List OutcomeCode :=
  [r.lifecycleFault .memberAdded setId, r.staleFault context, answerFault (unsupportedRequest r requests),
    answerFault (duplicateRequest r setId [] (requests.map Prod.fst)), e.roomFaults r (requests.map Prod.fst),
    r.exhaustedFaults].flatten

def publicationFaults (e : FabricEngine) (op : Op) (context : MutationContext) (setId : MultipathSetId)
    (requests : List (MemberRequest × Option PathAuthorityView)) (bulk : Bool) : List OutcomeCode :=
  [faultIf (!setId.valid) .malformedRequest, faultIf (!!requests.isEmpty) .malformedRequest,
    faultIf (!(!bulk || decide (requests.length ≤ e.limits.maxBatchSize.toNat))) .resourceLimit,
    faultIf (!(requests.map Prod.fst).all MemberRequest.wellFormed) .malformedRequest,
    e.authorityFaults context setId, e.attemptFault op,
    e.atSet setId fun r => e.joinFaults r context setId requests].flatten

def replacementRoomFaults (e : FabricEngine) (r : SetRecord) (predecessor : MemberRecord) (path : PathId) :
    List OutcomeCode :=
  [faultIf (!decide (liveMemberCount r + 1 - (if memberIsTerminal predecessor then 0 else 1) ≤
      e.limits.maxMembersPerSet.toNat)) .resourceLimit,
    faultIf (!decide (e.totalMembers < e.limits.maxTotalMembers.toNat)) .resourceLimit,
    faultIf (!(e.pathDependents[path]?.map fun dependents =>
      decide (dependents.size < e.limits.maxPathDependenciesPerPath.toNat)).getD true) .resourceLimit].flatten

def replacementFaults (e : FabricEngine) (r : SetRecord) (context : MutationContext) (setId : MultipathSetId)
    (memberId : MultipathMemberId) (request : MemberRequest) (view : Option PathAuthorityView) : List OutcomeCode :=
  [r.lifecycleFault .memberReplaced setId, r.unknownMember memberId,
    faultIf (decide (r.memberIndex[memberId]? = some request.pathId)) .malformedRequest, r.staleFault context,
    r.atMember memberId fun m => m.staleFault context, answerFault (unsupportedRequest r [(request, view)]),
    faultIf (r.members[request.pathId]?.any fun m => !memberIsTerminal m) .duplicateMember,
    r.atMember memberId fun m =>
      [e.replacementRoomFaults r m request.pathId,
        faultIf (!(r.generation.next.isSome && r.membershipGeneration.next.isSome &&
          m.generation.next.isSome)) .generationOverflow].flatten].flatten

def ticketFault (e : FabricEngine) (ticket : RevalidationTicket) : List OutcomeCode :=
  faultIf (decide (ticket.epoch ≠ e.currentEpoch)) .staleEpoch

def completionFaults (e : FabricEngine) (context : MutationContext) (ticket : RevalidationTicket) (r : SetRecord)
    (m : MemberRecord) : List OutcomeCode :=
  [faultIf (decide (r.invalidationWatermark ≠ ticket.setWatermark ∨
      m.invalidationWatermark ≠ ticket.memberWatermark)) .staleRevalidation,
    e.ticketFault ticket, m.staleFault context, m.terminalFault,
    faultIf (m.generation.next.isNone || r.generation.next.isNone) .generationOverflow].flatten

/-- Every condition of the operation that its request violates. -/
def violations (e : FabricEngine) : Op → List OutcomeCode
  | .createSet context key options =>
      [faultIf (!key.valid) .malformedRequest,
        e.callerFaults context fun scope => scope.coversNamespace key.fabric key.nameSpace,
        e.attemptFault (.createSet context key options), faultIf (!e.keyIndex[key]?.isNone) .setKeyConflict,
        faultIf (!decide (e.sets.size < e.limits.maxSets.toNat)) .resourceLimit,
        faultIf (!decide (options.minimumUsableMembers ≤ e.limits.maxMembersPerSet)) .invalidThreshold].flatten
  | .publishSet context setId =>
      [faultIf (!setId.valid) .malformedRequest, e.authorityFaults context setId,
        e.attemptFault (.publishSet context setId),
        e.atSet setId fun r =>
          [r.staleFault context, r.exhaustedFault, r.lifecycleFault .publish setId].flatten].flatten
  | .setMinimumUsableMembers context setId minimum =>
      [faultIf (!setId.valid) .malformedRequest, e.authorityFaults context setId,
        e.attemptFault (.setMinimumUsableMembers context setId minimum),
        e.atSet setId fun r =>
          [r.staleFault context, r.lifecycleFault .minimumChanged setId,
            faultIf (decide (e.limits.maxMembersPerSet < minimum)) .invalidThreshold,
            if r.minimumUsableMembers = minimum then [] else r.exhaustedFault].flatten].flatten
  | .setConditionalAuthorityPolicy context setId permitted =>
      [faultIf (!setId.valid) .malformedRequest, e.authorityFaults context setId,
        e.attemptFault (.setConditionalAuthorityPolicy context setId permitted),
        e.atSet setId fun r =>
          [r.staleFault context, r.lifecycleFault .policyChanged setId,
            if r.conditionalAuthorityPermitted = permitted then [] else r.exhaustedFault].flatten].flatten
  | .setAdminEnabled context setId enabled =>
      [faultIf (!setId.valid) .malformedRequest, e.authorityFaults context setId,
        e.attemptFault (.setAdminEnabled context setId enabled),
        e.atSet setId fun r =>
          [r.staleFault context, r.lifecycleFault (if enabled then .adminEnabled else .adminDisabled) setId,
            if r.adminEnabled = enabled then [] else r.exhaustedFault].flatten].flatten
  | .withdrawSet context setId reason =>
      [faultIf (!setId.valid) .malformedRequest, faultIf (!decide (reason.length ≤ 256)) .malformedRequest,
        e.authorityFaults context setId, e.attemptFault (.withdrawSet context setId reason),
        e.atSet setId fun r =>
          [r.staleFault context,
            if r.lifecycle = .withdrawing then
              faultIf (decide (r.withdrawalReason ≠ reason)) .invalidLifecycleTransition
            else r.exhaustedFault ++ r.lifecycleFault .beginWithdraw setId].flatten].flatten
  | .completeWithdrawal context setId =>
      [faultIf (!setId.valid) .malformedRequest, e.authorityFaults context setId,
        e.attemptFault (.completeWithdrawal context setId),
        e.atSet setId fun r => [r.exhaustedFault, r.lifecycleFault .completeWithdraw setId].flatten].flatten
  | .revokeSet context setId reason detail =>
      [faultIf (!setId.valid) .malformedRequest, faultIf (!decide (detail.length ≤ 512)) .malformedRequest,
        e.authorityFaults context setId, e.attemptFault (.revokeSet context setId reason detail),
        e.atSet setId fun r =>
          [r.staleFault context,
            match (if r.lifecycle = .revoked then r.revocation else none) with
            | some revocation => faultIf (!decide (revocation.reason = reason ∧ revocation.detail = detail)) .revoked
            | none => r.exhaustedFault ++ r.lifecycleFault .revoke setId].flatten].flatten
  | .retireSet context setId reason =>
      [faultIf (!setId.valid) .malformedRequest, faultIf (!decide (reason.length ≤ 256)) .malformedRequest,
        e.authorityFaults context setId, e.attemptFault (.retireSet context setId reason),
        e.atSet setId fun r =>
          [r.staleFault context, r.exhaustedFault, r.lifecycleFault .retire setId].flatten].flatten
  | .supersedeSet context predecessor successor =>
      [faultIf (!(predecessor.valid && successor.valid)) .malformedRequest,
        faultIf (!predecessor != successor) .malformedRequest, e.authorityFaults context predecessor,
        faultIf (e.outOfScope context (e.coversSet successor)) .unauthorizedScope, e.unknownSet successor,
        e.attemptFault (.supersedeSet context predecessor successor),
        e.atSet predecessor fun r =>
          [r.staleFault context,
            if r.supersededBy = some successor then []
            else r.exhaustedFault ++ r.lifecycleFault .supersede predecessor].flatten].flatten
  | .addMember context setId request view =>
      e.publicationFaults (.addMember context setId request view) context setId [(request, view)] false
  | .addMembers context setId requests =>
      e.publicationFaults (.addMembers context setId requests) context setId requests true
  | .removeMember context setId memberId reason =>
      [faultIf (!(setId.valid && memberId.valid)) .malformedRequest,
        faultIf (!decide (reason.length ≤ 256)) .malformedRequest, e.authorityFaults context setId,
        e.attemptFault (.removeMember context setId memberId reason),
        e.atSet setId fun r =>
          [r.unknownMember memberId, r.lifecycleFault .memberRemoved setId, r.staleFault context,
            r.atMember memberId fun m => m.staleFault context, r.exhaustedFaults].flatten].flatten
  | .withdrawMember context setId memberId reason =>
      [faultIf (!(setId.valid && memberId.valid)) .malformedRequest,
        faultIf (!decide (reason.length ≤ 256)) .malformedRequest, e.authorityFaults context setId,
        e.attemptFault (.withdrawMember context setId memberId reason),
        e.atSet setId fun r =>
          [r.unknownMember memberId, r.lifecycleFault .memberRemoved setId,
            r.atMember memberId fun m =>
              if m.lifecycle = .withdrawn then []
              else
                [m.staleFault context,
                  faultIf (!(m.generation.next.isSome && r.generation.next.isSome &&
                    r.membershipGeneration.next.isSome)) .generationOverflow,
                  faultIf (memberTransition m.lifecycle .withdraw).isNone
                    .invalidLifecycleTransition].flatten].flatten].flatten
  | .replaceMember context setId memberId request reason view =>
      [faultIf (!(setId.valid && memberId.valid && request.pathId.valid && request.authorityGeneration.valid))
          .malformedRequest,
        faultIf (!decide (reason.length ≤ 256)) .malformedRequest, e.authorityFaults context setId,
        e.attemptFault (.replaceMember context setId memberId request reason view),
        e.atSet setId fun r => e.replacementFaults r context setId memberId request view].flatten
  | .setMemberAdminEnabled context setId memberId enabled view =>
      [faultIf (!(setId.valid && memberId.valid)) .malformedRequest, e.authorityFaults context setId,
        e.attemptFault (.setMemberAdminEnabled context setId memberId enabled view),
        e.atSet setId fun r =>
          [r.unknownMember memberId,
            r.atMember memberId fun m =>
              [m.terminalFault, m.staleFault context,
                if m.adminEnabled = enabled then []
                else faultIf (!(m.generation.next.isSome && r.generation.next.isSome))
                  .generationOverflow].flatten].flatten].flatten
  | .revalidateSet context setId views =>
      [faultIf (!setId.valid) .malformedRequest, e.authorityFaults context setId,
        e.attemptFault (.revalidateSet context setId views),
        e.atSet setId fun r =>
          [r.lifecycleFault .revalidateSet setId, r.staleFault context,
            if r.lifecycle = (e.revalidatedSet r views).lifecycle ∧
                r.currentness = (e.revalidatedSet r views).currentness then []
            else r.exhaustedFault].flatten].flatten
  | .revalidateMember context setId memberId looked =>
      [faultIf (!(setId.valid && memberId.valid)) .malformedRequest, e.authorityFaults context setId,
        faultIf looked.isNone .memberNotFound, e.attemptFault (.revalidateMember context setId memberId looked),
        e.atSet setId fun r =>
          [r.unknownMember memberId, r.lifecycleFault .membershipRecheck setId,
            r.atMember memberId fun m => m.terminalFault, r.staleFault context,
            r.atMember memberId fun m =>
              [m.staleFault context,
                faultIf (!(m.generation.next.isSome && r.generation.next.isSome))
                  .generationOverflow].flatten].flatten].flatten
  | .beginMemberRevalidation context setId memberId attempt =>
      [faultIf (!(setId.valid && memberId.valid && attempt.valid)) .malformedRequest, e.authorityFaults context setId,
        e.atSet setId fun r =>
          [r.unknownMember memberId,
            r.atMember memberId fun m =>
              [m.terminalFault, faultIf (!decide (m.pendingRevalidations.toNat <
                e.limits.maxPendingRevalidationsPerSet.toNat)) .resourceLimit].flatten].flatten].flatten
  | .completeMemberRevalidation context ticket _ =>
      [faultIf (!ticket.valid) .malformedRequest,
        faultIf (!(ticket.setId.valid && ticket.memberId.valid)) .malformedRequest,
        e.authorityFaults context ticket.setId,
        match e.sets[ticket.setId]? with
        | none => e.ticketFault ticket
        | some r =>
            match r.memberIndex[ticket.memberId]? with
            | none => .memberNotFound :: e.ticketFault ticket
            | some path =>
                (r.members[path]?).elim (e.ticketFault ticket) fun m =>
                  [faultIf (!m.pendingRevalidations != 0) .malformedRequest,
                    e.completionFaults context ticket r m].flatten].flatten
  | .declarePathAuthority context view =>
      [faultIf (!(view.path.valid && view.generation.valid)) .malformedRequest, e.pathCallerFaults context,
        e.attemptFault (.declarePathAuthority context view), faultIf (!!e.externalPathAuthority) .unsupportedOperation,
        faultIf (e.uncovers context view.path) .unauthorizedScope].flatten
  | .applyPathAuthority context view =>
      [faultIf (!(view.path.valid && view.generation.valid)) .malformedRequest, e.pathCallerFaults context,
        e.attemptFault (.applyPathAuthority context view),
        faultIf (e.uncovers context view.path) .unauthorizedScope].flatten
  | .refreshPath context path (some view) =>
      [faultIf (!path.valid) .malformedRequest, faultIf (!(view.path.valid && view.generation.valid)) .malformedRequest,
        e.pathCallerFaults context, e.attemptFault (.refreshPath context path (some view)),
        faultIf (e.uncovers context view.path) .unauthorizedScope].flatten
  | .refreshPath context path none =>
      [faultIf (!path.valid) .malformedRequest, [.pathAuthorityUnknown], e.pathCallerFaults context,
        faultIf (e.uncovers context path) .unauthorizedScope].flatten
  | _ => []

end FabricEngine

end MultipathFabric
