import MultipathFabric.WireCodec
import MultipathFabric.Operation
import MultipathFabric.Server

namespace MultipathFabric

open ByteCodec Wire

structure Client where
  session : SessionId
  epoch : CoordinatorEpoch
  publisher : PublisherId
  workerBoot : WorkerBootId

namespace Client

def stamp (client : Client) (context : MutationContext) : MutationContext :=
  { context with
    session := client.session
    epoch := if context.epoch.valid then context.epoch else client.epoch
    publisher := if context.publisher.valid then context.publisher else client.publisher
    workerBoot := if context.workerBoot.valid then context.workerBoot else client.workerBoot }

end Client

inductive ClientCall
  | registerPublisher (publisher : PublisherId) (workerBoot : WorkerBootId) (scope : AuthorityScope)
  | createSet (context : MutationContext) (key : SetKey) (options : SetOptions)
  | addMember (context : MutationContext) (setId : MultipathSetId) (path : PathId)
      (generation : PathAuthorityGeneration)
  | addMembers (context : MutationContext) (setId : MultipathSetId) (members : List MemberRequest)
  | removeMember (context : MutationContext) (setId : MultipathSetId) (memberId : MultipathMemberId)
      (reason : Bytes)
  | withdrawMember (context : MutationContext) (setId : MultipathSetId) (memberId : MultipathMemberId)
      (reason : Bytes)
  | replaceMember (context : MutationContext) (setId : MultipathSetId) (memberId : MultipathMemberId)
      (successorPath : PathId) (successorGeneration : PathAuthorityGeneration) (reason : Bytes)
  | setMemberAdminEnabled (context : MutationContext) (setId : MultipathSetId) (memberId : MultipathMemberId)
      (enabled : Bool)
  | setMinimum (context : MutationContext) (setId : MultipathSetId) (minimum : UInt64)
  | setConditionalPolicy (context : MutationContext) (setId : MultipathSetId) (permitted : Bool)
  | setAdminEnabled (context : MutationContext) (setId : MultipathSetId) (enabled : Bool)
  | publishSet (context : MutationContext) (setId : MultipathSetId)
  | withdrawSet (context : MutationContext) (setId : MultipathSetId) (reason : Bytes)
  | completeWithdrawal (context : MutationContext) (setId : MultipathSetId)
  | revokeSet (context : MutationContext) (setId : MultipathSetId) (reason : RevocationReason) (detail : Bytes)
  | retireSet (context : MutationContext) (setId : MultipathSetId) (reason : Bytes)
  | supersedeSet (context : MutationContext) (predecessor successor : MultipathSetId)
  | revalidateSet (context : MutationContext) (setId : MultipathSetId)
  | revalidateMember (context : MutationContext) (setId : MultipathSetId) (memberId : MultipathMemberId)
  | applyPathAuthority (context : MutationContext) (view : PathAuthorityView)
  | declarePathAuthority (context : MutationContext) (view : PathAuthorityView)
  | refreshPath (context : MutationContext) (path : PathId)
  | advanceEpoch (context : MutationContext) (expectedEpoch : CoordinatorEpoch)
  | listSets
  | querySet (setId : MultipathSetId)
  | requestSnapshot (setId : MultipathSetId) (snapshotId : SnapshotId)
  | explainSet (setId : MultipathSetId)

namespace ClientCall

def request (client : Client) : ClientCall → WireRequest
  | .registerPublisher publisher workerBoot scope =>
      { WireRequest.blank .registerPublisher with
        context := { MutationContext.unset with
          publisher := publisher
          workerBoot := workerBoot
          session := client.session }
        scope := scope }
  | .createSet context key options =>
      { WireRequest.blank .createSet with context := client.stamp context, key := key, options := options }
  | .addMember context setId path generation =>
      { WireRequest.blank .addMember with
        context := client.stamp context
        setId := setId
        pathId := path
        pathAuthorityGeneration := generation }
  | .addMembers context setId members =>
      { WireRequest.blank .addMembers with context := client.stamp context, setId := setId, members := members }
  | .removeMember context setId memberId reason =>
      { WireRequest.blank .removeMember with
        context := client.stamp context
        setId := setId
        memberId := memberId
        text := reason }
  | .withdrawMember context setId memberId reason =>
      { WireRequest.blank .withdrawMember with
        context := client.stamp context
        setId := setId
        memberId := memberId
        text := reason }
  | .replaceMember context setId memberId successorPath successorGeneration reason =>
      { WireRequest.blank .replaceMember with
        context := client.stamp context
        setId := setId
        memberId := memberId
        pathId := successorPath
        pathAuthorityGeneration := successorGeneration
        text := reason }
  | .setMemberAdminEnabled context setId memberId enabled =>
      { WireRequest.blank (if enabled then .memberAdminEnable else .memberAdminDisable) with
        context := client.stamp context
        setId := setId
        memberId := memberId }
  | .setMinimum context setId minimum =>
      { WireRequest.blank .setMinimum with context := client.stamp context, setId := setId, number := minimum }
  | .setConditionalPolicy context setId permitted =>
      { WireRequest.blank .setConditionalPolicy with
        context := client.stamp context
        setId := setId
        flag := permitted }
  | .setAdminEnabled context setId enabled =>
      { WireRequest.blank (if enabled then .setAdminEnable else .setAdminDisable) with
        context := client.stamp context
        setId := setId }
  | .publishSet context setId =>
      { WireRequest.blank .advanceSetState with
        context := client.stamp context
        setId := setId
        stateAction := .publish }
  | .withdrawSet context setId reason =>
      { WireRequest.blank .advanceSetState with
        context := client.stamp context
        setId := setId
        stateAction := .withdraw
        text := reason }
  | .completeWithdrawal context setId =>
      { WireRequest.blank .advanceSetState with
        context := client.stamp context
        setId := setId
        stateAction := .completeWithdrawal }
  | .revokeSet context setId reason detail =>
      { WireRequest.blank .revokeSet with
        context := client.stamp context
        setId := setId
        revocationReason := reason
        text := detail }
  | .retireSet context setId reason =>
      { WireRequest.blank .retireSet with context := client.stamp context, setId := setId, text := reason }
  -- The successor goes into the text, which the encoder does not write for this message.
  | .supersedeSet context predecessor successor =>
      { WireRequest.blank .supersedeSet with
        context := client.stamp context
        setId := predecessor
        text := successor.view }
  | .revalidateSet context setId =>
      { WireRequest.blank .revalidateSet with context := client.stamp context, setId := setId }
  | .revalidateMember context setId memberId =>
      { WireRequest.blank .revalidateMember with
        context := client.stamp context
        setId := setId
        memberId := memberId }
  | .applyPathAuthority context view =>
      { WireRequest.blank .applyPathAuthority with
        context := client.stamp context
        pathId := view.path
        pathAuthorityGeneration := view.generation
        pathState := view.state }
  | .declarePathAuthority context view =>
      { WireRequest.blank .declarePathAuthority with
        context := client.stamp context
        pathId := view.path
        pathAuthorityGeneration := view.generation
        pathState := view.state }
  | .refreshPath context path =>
      { WireRequest.blank .refreshPath with context := client.stamp context, pathId := path }
  | .advanceEpoch context expectedEpoch =>
      { WireRequest.blank .epochAdvance with context := client.stamp context, number := expectedEpoch.value }
  | .listSets => .blank .listSets
  | .querySet setId => { WireRequest.blank .querySet with setId := setId }
  | .requestSnapshot setId snapshotId =>
      { WireRequest.blank .snapshotRequest with setId := setId, snapshotId := snapshotId }
  | .explainSet setId => { WireRequest.blank .explainSet with setId := setId }

def WithinText (reason : Bytes) : Prop := reason.length ≤ maxTextLength

def Valid (client : Client) : ClientCall → Prop
  | .registerPublisher publisher workerBoot scope =>
      publisher.valid = true ∧ workerBoot.valid = true ∧ client.session.valid = true ∧
        ∀ id ∈ scope.setIds, id.valid = true
  | .createSet context key _ => (client.stamp context).Sendable ∧ key.valid = true
  | .addMember context setId path generation =>
      (client.stamp context).Sendable ∧ setId.valid = true ∧ path.valid = true ∧ generation.valid = true
  | .addMembers context setId members =>
      (client.stamp context).Sendable ∧ setId.valid = true ∧
        ∀ m ∈ members, m.pathId.valid = true ∧ m.authorityGeneration.valid = true
  | .removeMember context setId memberId reason | .withdrawMember context setId memberId reason =>
      (client.stamp context).Sendable ∧ setId.valid = true ∧ memberId.valid = true ∧ WithinText reason
  | .replaceMember context setId memberId successorPath successorGeneration reason =>
      (client.stamp context).Sendable ∧ setId.valid = true ∧ memberId.valid = true ∧
        successorPath.valid = true ∧ successorGeneration.valid = true ∧ WithinText reason
  | .setMemberAdminEnabled context setId memberId _ | .revalidateMember context setId memberId =>
      (client.stamp context).Sendable ∧ setId.valid = true ∧ memberId.valid = true
  | .setMinimum context setId _ | .setConditionalPolicy context setId _ | .setAdminEnabled context setId _
  | .publishSet context setId | .completeWithdrawal context setId | .revalidateSet context setId =>
      (client.stamp context).Sendable ∧ setId.valid = true
  | .withdrawSet context setId reason | .revokeSet context setId _ reason | .retireSet context setId reason =>
      (client.stamp context).Sendable ∧ setId.valid = true ∧ WithinText reason
  | .supersedeSet context predecessor successor =>
      (client.stamp context).Sendable ∧ predecessor.valid = true ∧ successor.valid = true
  | .applyPathAuthority context view | .declarePathAuthority context view =>
      (client.stamp context).Sendable ∧ view.path.valid = true ∧ view.generation.valid = true
  | .refreshPath context path => (client.stamp context).Sendable ∧ path.valid = true
  | .advanceEpoch context expectedEpoch => (client.stamp context).Sendable ∧ expectedEpoch.valid = true
  | .listSets => True
  | .querySet setId | .explainSet setId => setId.valid = true
  | .requestSnapshot setId snapshotId => setId.valid = true ∧ snapshotId.valid = true

end ClientCall

/-- A request cut down to the fields that the coordinator reads for its message. -/
def Wire.WireRequest.dispatched (r : WireRequest) : WireRequest :=
  let blank := WireRequest.blank r.id
  match r.id with
  | .registerPublisher =>
      { blank with
        context := { MutationContext.unset with
          publisher := r.context.publisher
          workerBoot := r.context.workerBoot }
        scope := r.scope }
  | .createSet => { blank with context := r.context, key := r.key, options := r.options }
  | .addMember =>
      { blank with
        context := r.context
        setId := r.setId
        pathId := r.pathId
        pathAuthorityGeneration := r.pathAuthorityGeneration }
  | .addMembers => { blank with context := r.context, setId := r.setId, members := r.members }
  | .removeMember | .withdrawMember =>
      { blank with context := r.context, setId := r.setId, memberId := r.memberId, text := r.text }
  | .replaceMember =>
      { blank with
        context := r.context
        setId := r.setId
        memberId := r.memberId
        pathId := r.pathId
        pathAuthorityGeneration := r.pathAuthorityGeneration
        text := r.text }
  | .setMinimum => { blank with context := r.context, setId := r.setId, number := r.number }
  | .setConditionalPolicy => { blank with context := r.context, setId := r.setId, flag := r.flag }
  | .setAdminEnable | .setAdminDisable | .revalidateSet => { blank with context := r.context, setId := r.setId }
  | .memberAdminEnable | .memberAdminDisable | .revalidateMember =>
      { blank with context := r.context, setId := r.setId, memberId := r.memberId }
  | .revokeSet =>
      { blank with
        context := r.context
        setId := r.setId
        revocationReason := r.revocationReason
        text := r.text }
  | .retireSet | .supersedeSet => { blank with context := r.context, setId := r.setId, text := r.text }
  | .advanceSetState =>
      { blank with context := r.context, setId := r.setId, stateAction := r.stateAction, text := r.text }
  | .declarePathAuthority | .applyPathAuthority =>
      { blank with
        context := r.context
        pathId := r.pathId
        pathAuthorityGeneration := r.pathAuthorityGeneration
        pathState := r.pathState }
  | .refreshPath => { blank with context := r.context, pathId := r.pathId }
  | .epochAdvance => { blank with context := r.context, number := r.number }
  | .querySet | .explainSet => { blank with setId := r.setId }
  | .snapshotRequest => { blank with setId := r.setId, snapshotId := r.snapshotId }
  | .listSets | .shutdown | .hello | .helloAck | .snapshotResponse | .fenceNotice | .result | .error => blank

theorem Connection.dispatch_dispatched (c : Connection) (external : PathId → Option PathAuthorityView)
    (r : WireRequest) : c.dispatch external r.dispatched = c.dispatch external r := by
  obtain ⟨id, _⟩ := r
  cases id <;> rfl

/-- The request is encoded, its payload is decoded to the last byte, and the coordinator reads from the
decoded request what the client has put into its own. -/
def Delivered (request : WireRequest) : Prop :=
  ∃ payload decoded, encodeRequest request = .ok payload ∧
    decodeRequest request.id payload = .ok (decoded, []) ∧ decoded.dispatched = request.dispatched

theorem Delivered.dispatch {request : WireRequest} (h : Delivered request) :
    ∃ payload decoded, encodeRequest request = .ok payload ∧
      decodeRequest request.id payload = .ok (decoded, []) ∧
      ∀ (c : Connection) external, c.dispatch external decoded = c.dispatch external request := by
  obtain ⟨payload, decoded, hencode, hdecode, hagree⟩ := h
  refine ⟨payload, decoded, hencode, hdecode, fun c external => ?_⟩
  rw [← c.dispatch_dispatched external decoded, hagree, c.dispatch_dispatched]

end MultipathFabric
