import MultipathFabric.Operation

namespace MultipathFabric

inductive Op.Publishes (context : MutationContext) (setId : MultipathSetId) :
    Op → List (MemberRequest × Option PathAuthorityView) → Bool → Prop
  | one (request : MemberRequest) (view : Option PathAuthorityView) :
      Publishes context setId (.addMember context setId request view) [(request, view)] false
  | many (requests : List (MemberRequest × Option PathAuthorityView)) :
      Publishes context setId (.addMembers context setId requests) requests true

inductive Op.Applies : Op → PathId → Option PathAuthorityView → Option MutationContext → Prop
  | declare (context : MutationContext) (view : PathAuthorityView) :
      Applies (.declarePathAuthority context view) view.path (some view) (some context)
  | apply (context : MutationContext) (view : PathAuthorityView) :
      Applies (.applyPathAuthority context view) view.path (some view) (some context)
  | refresh (context : MutationContext) (path : PathId) (view : PathAuthorityView) :
      Applies (.refreshPath context path (some view)) view.path (some view) (some context)
  | reconcile (path : PathId) (used observed : Option PathAuthorityView) :
      Applies (.reconcilePath path used observed) path observed none

def SetRecord.withMember (r : SetRecord) (path : PathId) (m : MemberRecord) : SetRecord :=
  { r with members := r.members.insert path m }

def SetRecord.finds (r : SetRecord) (memberId : MultipathMemberId) (path : PathId) (m : MemberRecord) : Prop :=
  r.memberIndex[memberId]? = some path ∧ r.members[path]? = some m

def SetRecord.withdrawn (e : FabricEngine) (r moved : SetRecord) (context : MutationContext) (reason : Bytes) :
    SetRecord :=
  let moved := { moved with withdrawalReason := reason }
  applyMemberConsequences e moved.recompute r.lifecycle moved.recompute.lifecycle (some context)

def revocationOf (e : FabricEngine) (context : MutationContext) (setId : MultipathSetId)
    (generation : MultipathSetGeneration) (reason : RevocationReason) (detail : Bytes) : RevocationRecord where
  setId := setId
  generation := generation
  authorityGeneration := e.currentAuthorityGeneration
  epoch := context.epoch
  publisher := context.publisher
  reason := reason
  detail := detail

def revocationSummary (reason : RevocationReason) (detail : Bytes) : Bytes :=
  text "revoked: " ++ reason.toString ++ if detail.isEmpty then [] else text " (" ++ detail ++ text ")"

def SetRecord.replaced (e : FabricEngine) (moved : SetRecord) (context : MutationContext)
    (memberId : MultipathMemberId) (path : PathId) (predecessor : MemberRecord) (request : MemberRequest)
    (view : Option PathAuthorityView) : SetRecord :=
  let successor := e.newMember context moved .memberReplaced request view (some memberId)
  let superseded := { predecessor.terminate .superseded with successor := some successor.id }
  ((moved.withMember path superseded).installMember successor).recompute

/-- What a step makes of the record of one set before a commit seals it, and the text the commit records. -/
inductive RecordEdit (e : FabricEngine) (setId : MultipathSetId) (r : SetRecord) : Op → SetRecord → Bytes → Prop
  | collided (context : MutationContext) (key : SetKey) (options : SetOptions)
      (minted : e.ids.nextSetId.1 = setId) :
      RecordEdit e setId r (.createSet context key options)
        (e.appendHistory r .declare .declared (some context) none none
          (text "declared set " ++ key.render ++ text " minimum=" ++
            decimal options.minimumUsableMembers.toNat)) []
  | publish (context : MutationContext) {x : SetRecord} (moved : r.applyTransition .publish = .ok x) :
      RecordEdit e setId r (.publishSet context setId) x
        (deltaDetail (text "published set") r.lifecycle x.lifecycle)
  | minimumChecked (context : MutationContext) (minimum : UInt64) {x : SetRecord}
      (moved : r.applyTransition .minimumChanged = .ok x) :
      RecordEdit e setId r (.setMinimumUsableMembers context setId minimum) x []
  | minimumChanged (context : MutationContext) (minimum : UInt64) {x : SetRecord}
      (moved : r.applyTransition .minimumChanged = .ok x) (bound : minimum ≤ e.limits.maxMembersPerSet) :
      RecordEdit e setId r (.setMinimumUsableMembers context setId minimum)
        ({ x with minimumUsableMembers := minimum }).recompute
        (text "minimum usable members " ++ decimal x.minimumUsableMembers.toNat ++ text " -> " ++
          decimal minimum.toNat ++ text " lifecycle=" ++
          (({ x with minimumUsableMembers := minimum }).recompute).lifecycle.toString)
  | policyChecked (context : MutationContext) (permitted : Bool) {x : SetRecord}
      (moved : r.applyTransition .policyChanged = .ok x) :
      RecordEdit e setId r (.setConditionalAuthorityPolicy context setId permitted) x []
  | policyChanged (context : MutationContext) (permitted : Bool) {x : SetRecord}
      (moved : r.applyTransition .policyChanged = .ok x) :
      RecordEdit e setId r (.setConditionalAuthorityPolicy context setId permitted)
        ({ x with conditionalAuthorityPermitted := permitted }).reevaluateMembersFromObservations
        (text "conditional Path Authority policy -> " ++ permissionText permitted)
  | adminChecked (context : MutationContext) (enabled : Bool) {x : SetRecord}
      (moved : r.applyTransition (if enabled then .adminEnabled else .adminDisabled) = .ok x)
      (idle : r.adminEnabled = enabled ∨ r.generation.next = none) :
      RecordEdit e setId r (.setAdminEnabled context setId enabled) x []
  | adminChanged (context : MutationContext) (enabled : Bool) {x : SetRecord}
      (moved : r.applyTransition (if enabled then .adminEnabled else .adminDisabled) = .ok x) :
      RecordEdit e setId r (.setAdminEnabled context setId enabled) ({ x with adminEnabled := enabled }).recompute
        (text "administrative enablement -> " ++ boolText enabled ++ text " lifecycle=" ++
          (({ x with adminEnabled := enabled }).recompute).lifecycle.toString)
  | withdraw (context : MutationContext) (reason : Bytes) {x : SetRecord} (bound : reason.length ≤ 256)
      (moved : r.applyTransition .beginWithdraw = .ok x) :
      RecordEdit e setId r (.withdrawSet context setId reason) (r.withdrawn e x context reason)
        (text "withdrawal begun: " ++ reason)
  | completeWithdrawal (context : MutationContext) {x : SetRecord}
      (moved : r.applyTransition .completeWithdraw = .ok x) :
      RecordEdit e setId r (.completeWithdrawal context setId) x (text "withdrawal completed")
  | revoke (context : MutationContext) (reason : RevocationReason) (detail : Bytes) {x : SetRecord}
      {generation : MultipathSetGeneration} (bound : detail.length ≤ 512)
      (next : r.generation.next = some generation) (moved : r.applyTransition .revoke = .ok x) :
      RecordEdit e setId r (.revokeSet context setId reason detail)
        (applyMemberConsequences e
          { x with revocation := some (revocationOf e context setId generation reason detail) }
          r.lifecycle x.lifecycle (some context))
        (revocationSummary reason detail)
  | retire (context : MutationContext) (reason : Bytes) {x : SetRecord} (bound : reason.length ≤ 256)
      (moved : r.applyTransition .retire = .ok x) :
      RecordEdit e setId r (.retireSet context setId reason)
        (applyMemberConsequences e x r.lifecycle x.lifecycle (some context)) (text "retired: " ++ reason)
  | superseded (context : MutationContext) (successor : MultipathSetId) {x : SetRecord}
      (known : successor.valid = true) (moved : r.applyTransition .supersede = .ok x) :
      RecordEdit e setId r (.supersedeSet context setId successor)
        (applyMemberConsequences e { x with supersededBy := some successor } r.lifecycle x.lifecycle
          (some context))
        (text "superseded by " ++ successor.view)
  | supersedes (context : MutationContext) (predecessor : MultipathSetId) {old : SetRecord}
      (known : predecessor.valid = true) (taken : e.sets[predecessor]? = some old)
      (accepts : transitionAllowed old.lifecycle .supersede = true) (fresh : old.supersededBy ≠ some setId) :
      RecordEdit e setId r (.supersedeSet context predecessor setId)
        { r with supersedes := some predecessor } []
  | supersedesRecorded (context : MutationContext) (predecessor : MultipathSetId) {old : SetRecord}
      (known : predecessor.valid = true) (taken : e.sets[predecessor]? = some old)
      (accepts : transitionAllowed old.lifecycle .supersede = true) (fresh : old.supersededBy ≠ some setId) :
      RecordEdit e setId r (.supersedeSet context predecessor setId)
        (e.appendHistory { r with supersedes := some predecessor } .supersede .setSuperseded (some context) none
          none (text "supersedes " ++ predecessor.view)) []
  | added (context : MutationContext) {op : Op} {requests : List (MemberRequest × Option PathAuthorityView)}
      {bulk : Bool} {x : SetRecord} (publication : op.Publishes context setId requests bulk)
      (valid : ∀ request ∈ requests, request.1.pathId.valid = true ∧ request.1.authorityGeneration.valid = true)
      (allowed : transitionAllowed r.lifecycle .memberAdded = true)
      (supported : unsupportedRequest r requests = none)
      (distinct : duplicateRequest r setId [] (requests.map Prod.fst) = none)
      (moved : r.applyTransition .memberAdded = .ok x) :
      RecordEdit e setId r op (FabricEngine.publishMembers context setId e x requests).2.1.recompute
        (publicationSummary bulk (requests.map Prod.fst) r.lifecycle
          (FabricEngine.publishMembers context setId e x requests).2.1.recompute.lifecycle)
  | removed (context : MutationContext) (memberId : MultipathMemberId) (reason : Bytes) {path : PathId}
      {m : MemberRecord} {x : SetRecord} (bound : reason.length ≤ 256) (found : r.finds memberId path m)
      (allowed : transitionAllowed r.lifecycle .memberRemoved = true)
      (moved : r.applyTransition .memberRemoved = .ok x) :
      RecordEdit e setId r (.removeMember context setId memberId reason)
        ({ x with memberIndex := x.memberIndex.erase memberId, members := x.members.erase path }).recompute
        (text "removed member " ++ memberId.view ++ text " (path " ++ path.view ++ text "): " ++ reason)
  | withdrewMember (context : MutationContext) (memberId : MultipathMemberId) (reason : Bytes) {path : PathId}
      {m : MemberRecord} {lifecycle : MemberLifecycle} {x : SetRecord} (bound : reason.length ≤ 256)
      (found : r.finds memberId path m) (allowed : transitionAllowed r.lifecycle .memberRemoved = true)
      (ends : memberTransition m.lifecycle .withdraw = some lifecycle)
      (moved : r.applyTransition .memberRemoved = .ok x) :
      RecordEdit e setId r (.withdrawMember context setId memberId reason)
        (x.withMember path (m.terminate lifecycle)).recompute
        (text "withdrew member " ++ memberId.view ++ text " (path " ++ m.pathId.view ++ text "): " ++ reason)
  | replaced (context : MutationContext) (memberId : MultipathMemberId) (request : MemberRequest) (reason : Bytes)
      (view : Option PathAuthorityView) {path : PathId} {m : MemberRecord} {x : SetRecord}
      (known : memberId.valid = true)
      (valid : request.pathId.valid = true ∧ request.authorityGeneration.valid = true)
      (bound : reason.length ≤ 256) (found : r.finds memberId path m) (other : path ≠ request.pathId)
      (allowed : transitionAllowed r.lifecycle .memberReplaced = true)
      (supported : unsupportedRequest r [(request, view)] = none)
      (free : (r.members[request.pathId]?.filter fun m => !memberIsTerminal m) = none)
      (moved : r.applyTransition .memberReplaced = .ok x) :
      RecordEdit e setId r (.replaceMember context setId memberId request reason view)
        (x.replaced e context memberId path m request view)
        (text "replaced member " ++ memberId.view ++ text " (path " ++ path.view ++ text ") with member " ++
          (e.newMember context x .memberReplaced request view (some memberId)).id.view ++ text " (path " ++
          request.pathId.view ++ text "@" ++ decimal request.authorityGeneration.value.toNat ++ text "): " ++
          reason)
  | toggled (context : MutationContext) (memberId : MultipathMemberId) (enabled : Bool)
      (view : Option PathAuthorityView) {path : PathId} {m : MemberRecord} (found : r.finds memberId path m)
      (live : memberIsTerminal m = false) (changes : m.adminEnabled ≠ enabled) :
      RecordEdit e setId r (.setMemberAdminEnabled context setId memberId enabled view)
        (r.withMember path (m.toggled r.conditionalAuthorityPermitted view enabled)).recompute
        (text "member administrative enablement -> " ++ boolText enabled ++ text "; member lifecycle=" ++
          (m.toggled r.conditionalAuthorityPermitted view enabled).lifecycle.toString ++ text " currentness=" ++
          (m.toggled r.conditionalAuthorityPermitted view enabled).currentness.toString)
  | revalidatedSet (context : MutationContext) (views : ViewTable)
      (allowed : transitionAllowed r.lifecycle .revalidateSet = true) :
      RecordEdit e setId r (.revalidateSet context setId views) (e.revalidatedSet r views)
        (setRevalidationSummary r (e.revalidatedSet r views))
  | revalidatedMember (context : MutationContext) (memberId : MultipathMemberId) (view : Option PathAuthorityView)
      {path : PathId} {m : MemberRecord} (found : r.finds memberId path m)
      (allowed : transitionAllowed r.lifecycle .membershipRecheck = true) (live : memberIsTerminal m = false) :
      RecordEdit e setId r (.revalidateMember context setId memberId (some view))
        (r.withMember path (m.revalidated r.conditionalAuthorityPermitted view)).recompute
        (memberRevalidationSummary memberId m (m.revalidated r.conditionalAuthorityPermitted view))
  | begun (context : MutationContext) (memberId : MultipathMemberId) (attempt : RevalidationAttemptId)
      {path : PathId} {m : MemberRecord} (found : r.finds memberId path m) (live : memberIsTerminal m = false)
      (room : m.pendingRevalidations.toNat < e.limits.maxPendingRevalidationsPerSet.toNat) :
      RecordEdit e setId r (.beginMemberRevalidation context setId memberId attempt)
        (r.withMember path { m with pendingRevalidations := m.pendingRevalidations + 1 }) []
  | released (context : MutationContext) (ticket : RevalidationTicket) (current : Option PathAuthorityView)
      {path : PathId} {m : MemberRecord} {rejection : FabricOutcome} (names : ticket.setId = setId)
      (found : r.finds ticket.memberId path m) (pending : m.pendingRevalidations ≠ 0)
      (stale : staleCompletion e context ticket r m = some rejection) :
      RecordEdit e setId r (.completeMemberRevalidation context ticket current)
        (r.withMember path m.release) []
  | completed (context : MutationContext) (ticket : RevalidationTicket) (current : Option PathAuthorityView)
      {path : PathId} {m : MemberRecord} (names : ticket.setId = setId)
      (found : r.finds ticket.memberId path m) (pending : m.pendingRevalidations ≠ 0)
      (fresh : staleCompletion e context ticket r m = none) :
      RecordEdit e setId r (.completeMemberRevalidation context ticket current)
        (r.withMember path (m.revalidated r.conditionalAuthorityPermitted current).release).recompute
        (completionSummary ticket m (m.revalidated r.conditionalAuthorityPermitted current).release)
  | abandoned (ticket : RevalidationTicket) {path : PathId} {m : MemberRecord} (names : ticket.setId = setId)
      (found : r.finds ticket.memberId path m) (pending : m.pendingRevalidations ≠ 0) :
      RecordEdit e setId r (.abandonMemberRevalidation ticket) (r.withMember path m.release) []
  | observed {op : Op} {path : PathId} {view : Option PathAuthorityView} {context : Option MutationContext}
      {m : MemberRecord} (applied : op.Applies path view context) (open_ : setIsFrozen r = false)
      (found : r.members[path]? = some m)
      (same : (m.evaluate r.conditionalAuthorityPermitted view false).lifecycle = m.lifecycle ∧
        (m.evaluate r.conditionalAuthorityPermitted view false).currentness = m.currentness) :
      RecordEdit e setId r op (r.withMember path (m.evaluate r.conditionalAuthorityPermitted view false)) []
  | invalidated {op : Op} {path : PathId} {view : Option PathAuthorityView} {context : Option MutationContext}
      {m : MemberRecord} (applied : op.Applies path view context) (open_ : setIsFrozen r = false)
      (found : r.members[path]? = some m) :
      RecordEdit e setId r op
        (e.dependencyInvalidated r path (m.evaluate r.conditionalAuthorityPermitted view false) context
          .pathInvalidated) []

def Generation.Follows {d : GenerationDomain} (before after : Generation d) : Prop :=
  after = before ∨ before.next = some after

/-- What the step stores: the record sealed by a commit, or without one; a commit that finds the membership
generation exhausted has already advanced the set generation. -/
inductive Sealed (limits : Limits) (x : SetRecord) (summary : Bytes) : SetRecord → Prop
  | kept {generation : MultipathSetGeneration} (set : x.generation.Follows generation) :
      Sealed limits x summary { x with generation := generation }
  | committed {e : FabricEngine} {context : MutationContext} {spec : CommitSpec}
      {generation : MultipathSetGeneration} {membershipGeneration : MembershipGeneration}
      (bounds : e.limits = limits) (caller : context.hasCallerIdentity = true) (text : spec.summary = summary)
      (set : x.generation.Follows generation) (membership : x.membershipGeneration.Follows membershipGeneration) :
      Sealed limits x summary
        (SetRecord.committed e
          { x with generation := generation, membershipGeneration := membershipGeneration } context spec)

theorem Sealed.same {limits : Limits} {x : SetRecord} {summary : Bytes} : Sealed limits x summary x :=
  .kept (.inl rfl)

/-- What a step makes of one entry of the set table. -/
inductive SetStep (e : FabricEngine) (op : Op) (setId : MultipathSetId) :
    Option SetRecord → Option SetRecord → Prop
  | kept (entry : Option SetRecord) : SetStep e op setId entry entry
  | changed {r x r' : SetRecord} {summary : Bytes} (edit : RecordEdit e setId r op x summary)
      (stored : Sealed e.limits x summary r') : SetStep e op setId (some r) (some r')
  | created {context : MutationContext} {key : SetKey} {options : SetOptions}
      (creates : op = .createSet context key options) (caller : context.hasCallerIdentity = true)
      (named : key.valid = true) (bound : options.minimumUsableMembers ≤ e.limits.maxMembersPerSet)
      (minted : e.ids.nextSetId.1 = setId) :
      SetStep e op setId none
        (some (e.appendHistory (e.declaredRecord context setId key options) .declare .declared (some context)
          none none
          (text "declared set " ++ key.render ++ text " minimum=" ++
            decimal options.minimumUsableMembers.toNat)))
  | fenced {publisher : PublisherId} {workerBoot : WorkerBootId} {cause : Bytes} {r : SetRecord}
      {authority : MultipathAuthorityGeneration} (fences : op = .fenceWorker publisher workerBoot cause)
      (next : e.currentAuthorityGeneration.next = some authority) (owner : r.provenance.publisher = publisher) :
      SetStep e op setId (some r) (some (r.fenced authority e.currentEpoch))
  | epochAdvanced {publisher : PublisherId} {workerBoot : WorkerBootId} {session : SessionId}
      {expected : CoordinatorEpoch} {attempt : MutationAttemptId} {advanced : FabricEngine} {r : SetRecord}
      (advances : op = .advanceEpoch publisher workerBoot session expected attempt)
      (bounds : advanced.limits = e.limits) (epoch : e.currentEpoch.next = some advanced.currentEpoch)
      (authority : e.currentAuthorityGeneration.next = some advanced.currentAuthorityGeneration) :
      SetStep e op setId (some r) (some (advanced.epochAdvanced r))
  | cleared {path : Bytes} {files : StoreFiles} (loads : op = .loadStore path files)
      (entry : Option SetRecord) : SetStep e op setId entry none
  | recovered {path : Bytes} {files : StoreFiles} {decoded : DecodedStore} {fallback : Bool}
      {loading : FabricEngine} {r : SetRecord} (loads : op = .loadStore path files)
      (read : readAndDecode path e.limits files = .ok (decoded, fallback)) (stored : r ∈ decoded.sets)
      (named : r.id = setId) (bounds : loading.limits = e.limits)
      (epoch : decoded.epoch.next = some loading.currentEpoch)
      (authority : decoded.authorityGeneration.next = some loading.currentAuthorityGeneration)
      (entry : Option SetRecord) : SetStep e op setId entry (some (loading.recoveredSet r))

end MultipathFabric
