import MultipathFabric.WireResponse
import MultipathFabric.FabricAuthority

namespace MultipathFabric

open ByteCodec Wire

def FabricEngine.pathAuthority (e : FabricEngine) (external : PathId → Option PathAuthorityView) :
    PathId → Option PathAuthorityView :=
  if e.externalPathAuthority then external else e.directory.lookup

structure Session where
  id : SessionId
  publisher : PublisherId
  workerBoot : WorkerBootId
  hasRegistration : Bool
  deriving DecidableEq

def requiresSession : MessageId → Bool
  | .listSets | .querySet | .explainSet | .snapshotRequest | .shutdown | .hello | .helloAck
  | .snapshotResponse | .fenceNotice | .result | .error => false
  | _ => true

/-- What the coordinator works on for one connection: the shared engine, the session and the response object,
which lives as long as the session does. -/
structure Connection where
  engine : FabricEngine
  session : Session
  response : WireResponse

namespace Connection

def answer (c : Connection) (result : FabricEngine × FabricOutcome) : Connection :=
  { c with engine := result.1, response := { c.response with outcome := result.2 } }

def refuse (c : Connection) (outcome : FabricOutcome) : Connection :=
  { c with response := { c.response with outcome := outcome } }

def register (c : Connection) (request : WireRequest) : Connection :=
  let result := c.engine.registerPublisher request.context.publisher request.context.workerBoot request.scope
    c.session.id
  let c := c.answer result
  if result.2.succeeded then
    { c with
      session := { c.session with
        publisher := request.context.publisher
        workerBoot := request.context.workerBoot
        hasRegistration := true } }
  else c

def advanceSetState (c : Connection) (request : WireRequest) : Connection :=
  match request.stateAction with
  | .publish => c.answer (c.engine.publishSet request.context request.setId)
  | .withdraw => c.answer (c.engine.withdrawSet request.context request.setId request.text)
  | .completeWithdrawal => c.answer (c.engine.completeWithdrawal request.context request.setId)

def supersede (c : Connection) (request : WireRequest) : Connection :=
  match StrongId.parse request.text with
  | none =>
      c.refuse (makeRejection .malformedRequest (text "supersede request carries an invalid successor"))
  | some successor => c.answer (c.engine.supersedeSet request.context request.setId successor)

def epochAdvance (c : Connection) (request : WireRequest) : Connection :=
  match Generation.fromValue request.number with
  | none =>
      c.refuse (makeRejection .malformedRequest (text "epoch advance request carries an impossible epoch"))
  | some expected =>
      c.answer (c.engine.advanceEpoch request.context.publisher request.context.workerBoot
        request.context.session expected request.context.attempt)

def listSets (c : Connection) : Connection :=
  let setIds := c.engine.listSets
  { c with
    response := { c.response with
      setIds := setIds
      outcome := makeOutcome .ok (text "listed " ++ decimal setIds.length ++ text " set(s)") } }

def querySet (c : Connection) (request : WireRequest) : Connection :=
  match c.engine.snapshot request.setId with
  | none => c.refuse (makeRejection .setNotFound (text "no such set: " ++ request.setId.view))
  | some snapshot =>
      { c with
        response := { c.response with
          snapshot := some snapshot
          outcome := makeOutcome .ok (text "snapshot of " ++ request.setId.view) } }

def snapshotRequest (c : Connection) (request : WireRequest) : Connection :=
  match c.engine.historicalSnapshot request.setId request.snapshotId with
  | none =>
      c.refuse (makeRejection .setNotFound
        (text "no retained snapshot " ++ request.snapshotId.view ++ text " for set " ++ request.setId.view))
  | some snapshot =>
      { c with
        response := { c.response with
          snapshot := some snapshot
          outcome := makeOutcome .ok (text "historical snapshot") } }

def explainSet (c : Connection) (external : PathId → Option PathAuthorityView) (request : WireRequest) :
    Connection :=
  match c.engine.explainSet request.setId (c.engine.pathAuthority external) with
  | none => c.refuse (makeRejection .setNotFound (text "no such set: " ++ request.setId.view))
  | some explanation =>
      { c with
        response := { c.response with
          explanation := some explanation
          outcome := makeOutcome .ok (text "explanation of " ++ request.setId.view) } }

def perform (c : Connection) (external : PathId → Option PathAuthorityView) (request : WireRequest) :
    Connection :=
  let e := c.engine
  let source := e.pathAuthority external
  let view : PathAuthorityView := ⟨request.pathId, request.pathAuthorityGeneration, request.pathState⟩
  match request.id with
  | .createSet => c.answer (e.createSet request.context request.key request.options)
  | .addMember =>
      c.answer (e.addMember source request.context request.setId request.pathId request.pathAuthorityGeneration)
  | .addMembers => c.answer (e.addMembers source request.context request.setId request.members)
  | .removeMember => c.answer (e.removeMember request.context request.setId request.memberId request.text)
  | .withdrawMember => c.answer (e.withdrawMember request.context request.setId request.memberId request.text)
  | .replaceMember =>
      c.answer (e.replaceMember source request.context request.setId request.memberId request.pathId
        request.pathAuthorityGeneration request.text)
  | .setMinimum => c.answer (e.setMinimumUsableMembers request.context request.setId request.number)
  | .setConditionalPolicy => c.answer (e.setConditionalAuthorityPolicy request.context request.setId request.flag)
  | .setAdminEnable => c.answer (e.setAdminEnabled request.context request.setId true)
  | .setAdminDisable => c.answer (e.setAdminEnabled request.context request.setId false)
  | .memberAdminEnable =>
      c.answer (e.setMemberAdminEnabled source request.context request.setId request.memberId true)
  | .memberAdminDisable =>
      c.answer (e.setMemberAdminEnabled source request.context request.setId request.memberId false)
  | .revalidateSet => c.answer (e.revalidateSet source request.context request.setId)
  | .revalidateMember => c.answer (e.revalidateMember source request.context request.setId request.memberId)
  | .revokeSet =>
      c.answer (e.revokeSet request.context request.setId request.revocationReason request.text)
  | .retireSet => c.answer (e.retireSet request.context request.setId request.text)
  | .supersedeSet => c.supersede request
  | .advanceSetState => c.advanceSetState request
  | .declarePathAuthority => c.answer (e.declarePathAuthority request.context view)
  | .applyPathAuthority => c.answer (e.applyPathAuthority request.context view)
  | .refreshPath => c.answer (e.refreshPath source request.context request.pathId)
  | .epochAdvance => c.epochAdvance request
  | .listSets => c.listSets
  | .querySet => c.querySet request
  | .snapshotRequest => c.snapshotRequest request
  | .explainSet => c.explainSet external request
  | .hello | .helloAck | .snapshotResponse | .fenceNotice | .result | .error | .registerPublisher
  | .shutdown =>
      c.refuse (makeRejection .unsupportedOperation (text "message is not dispatched by the coordinator"))

def dispatch (c : Connection) (external : PathId → Option PathAuthorityView) (request : WireRequest) :
    Connection :=
  match request.id with
  | .shutdown => c.refuse (makeOutcome .ok (text "shutdown requested"))
  | .registerPublisher => c.register request
  | id =>
      if requiresSession id && request.context.session != c.session.id then
        c.refuse (makeRejection .unauthorizedCaller
          (text "request session identity does not match the connection session " ++ c.session.id.view))
      else c.perform external request

end Connection

inductive ReceivedFrame
  | closed
  | failed (outcome : FabricOutcome)
  | frame (id : MessageId) (payload : Bytes)

structure HandledFrame where
  connection : Connection
  reply : Option (MessageId × WireResponse)
  goesOn : Bool

namespace Connection

def handledError (c : Connection) (outcome : FabricOutcome) : HandledFrame :=
  let c := c.refuse outcome
  ⟨c, some (.error, c.response), false⟩

def handleFrame (c : Connection) (external : PathId → Option PathAuthorityView) (received : ReceivedFrame) :
    HandledFrame :=
  match received with
  | .closed => ⟨c, none, false⟩
  | .failed outcome => c.handledError outcome
  | .frame .hello _ => ⟨c, none, true⟩
  | .frame id payload =>
      match decodeRequest id payload with
      | .error outcome => c.handledError outcome
      | .ok (request, rest) =>
          if !rest.isEmpty then
            c.handledError (makeRejection .framingError
              (text "request payload has " ++ decimal rest.length ++
                text " trailing byte(s) after the declared fields"))
          else
            let c := c.dispatch external request
            ⟨c, some (.result, c.response), id != .shutdown⟩

def accepted (e : FabricEngine) (id : SessionId) : Connection :=
  ⟨e, ⟨id, .unset, .unset, false⟩, .empty⟩

end Connection

/-- The frame that carries a response, when the response can be encoded. -/
def sendFrame (limits : Limits) (id : MessageId) (response : WireResponse) : Checked Bytes := do
  let payload ← encodeResponse response
  encodeFrame id payload limits.maxFrameBytes

end MultipathFabric
