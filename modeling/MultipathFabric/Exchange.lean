import MultipathFabric.SessionLoop
import MultipathFabric.Delivery
import MultipathFabric.ResponseCodec
import MultipathFabric.ResponseIsolation

/-!
Client and coordinator over one connection. The network may cut what is sent and delay it, but it neither changes nor
repeats it.
-/

namespace MultipathFabric

open ByteCodec Wire

structure ClientConfig where
  maxFrameBytes : UInt64
  frameTotalTimeoutMs : UInt32

structure ClientState where
  client : Client
  connected : Bool

def FrameFailure.outcome : FrameFailure → FabricOutcome
  | .header _ outcome | .refused outcome | .payload outcome => outcome

namespace ClientState

/-- The publisher and the worker boot outlive the connection. -/
def close (s : ClientState) : ClientState := ⟨{ s.client with session := .unset }, false⟩

/-- The announcement that a payload carries: a session text and an epoch value, and nothing behind them. -/
def readAnnouncement (payload : Bytes) : Option (Bytes × UInt64) :=
  match (do
      let session ← Reader.string 128
      let epoch ← Reader.u64
      pure (session, epoch) : Reader (Bytes × UInt64)) payload with
  | some (announced, []) => some announced
  | _ => none

def readHelloAck (config : ClientConfig) (s : ClientState) (arrivals : List Arrival) : ClientState × Checked Unit :=
  let announces (id : MessageId) := Checked.require (id == .helloAck)
    (makeRejection .protocolError (text "coordinator did not answer with HELLO_ACK"))
  match (readMessage announces config.maxFrameBytes config.frameTotalTimeoutMs arrivals).1 with
  | .error failure => (s, .error failure.outcome)
  | .ok (_, payload) =>
      match readAnnouncement payload with
      | none =>
          (s, .error (makeRejection .protocolError (text "coordinator sent a malformed session announcement")))
      | some (session, epoch) =>
          match StrongId.parse session, Generation.fromValue epoch with
          | some session, some epoch => (⟨{ s.client with session := session, epoch := epoch }, s.connected⟩, .ok ())
          | _, _ =>
              (s, .error (makeRejection .protocolError
                (text "coordinator sent an invalid session identity or epoch")))

def connect (config : ClientConfig) (s : ClientState) (arrivals : List Arrival) : ClientState × Checked Unit :=
  let (s, result) := readHelloAck config { s.close with connected := true } arrivals
  match result with
  | .ok () => (s, .ok ())
  | .error outcome => (s.close, .error outcome)

def requestFrame (config : ClientConfig) (request : WireRequest) : Checked Bytes := do
  let payload ← encodeRequest request
  encodeFrame request.id payload config.maxFrameBytes

def exchange (config : ClientConfig) (s : ClientState) (request : WireRequest) (sends : Checked Unit)
    (arrivals : List Arrival) : ClientState × Checked WireResponse :=
  if !s.connected then (s, .error (makeRejection .protocolError (text "client is not connected")))
  else
    match requestFrame config request with
    | .error outcome => (s, .error outcome)
    | .ok _ =>
        match sends with
        | .error outcome => (s.close, .error outcome)
        | .ok () =>
            match (readMessage (fun _ => .ok ()) config.maxFrameBytes config.frameTotalTimeoutMs arrivals).1 with
            | .error failure => (s.close, .error failure.outcome)
            | .ok (_, payload) =>
                match decodeResponse payload with
                | .error outcome => (s.close, .error outcome)
                | .ok (response, rest) =>
                    if rest.isEmpty then (s, .ok response)
                    else
                      (s.close, .error (makeRejection .framingError
                        (text "response payload has trailing bytes after the declared fields")))

def adopts (s : ClientState) (call : ClientCall) (response : WireResponse) : ClientState :=
  match call with
  | .registerPublisher publisher workerBoot _ =>
      if response.outcome.succeeded then
        ⟨{ s.client with publisher := publisher, workerBoot := workerBoot }, s.connected⟩
      else s
  | _ => s

def perform (config : ClientConfig) (s : ClientState) (call : ClientCall) (sends : Checked Unit)
    (arrivals : List Arrival) : ClientState × Checked WireResponse :=
  let (s, result) := s.exchange config (call.request s.client) sends arrivals
  match result with
  | .ok response => (s.adopts call response, .ok response)
  | .error outcome => (s, .error outcome)

end ClientState

structure Network where
  up : Bytes → List Arrival
  down : Bytes → List Arrival
  sends : Checked Unit

namespace Network

/-- What arrives is a part of what has been sent, from its first byte. -/
structure Honest (net : Network) : Prop where
  up : ∀ bytes, streamed (net.up bytes) <+: bytes
  down : ∀ bytes, streamed (net.down bytes) <+: bytes

/-- All that is sent arrives, and in time. -/
structure Prompt (net : Network) : Prop where
  up : ∀ bytes, Timely (net.up bytes) ∧ streamed (net.up bytes) = bytes
  down : ∀ bytes, Timely (net.down bytes) ∧ streamed (net.down bytes) = bytes
  sends : net.sends = .ok ()

theorem Prompt.honest {net : Network} (h : net.Prompt) : net.Honest where
  up := fun bytes => ⟨[], by rw [List.append_nil, (h.up bytes).2]⟩
  down := fun bytes => ⟨[], by rw [List.append_nil, (h.down bytes).2]⟩

end Network

structure Link where
  client : ClientState
  server : Option Connection

structure LinkConfig where
  client : ClientConfig
  limits : Limits
  frameTimeoutMs : UInt32

namespace Link

def serve (config : LinkConfig) (turn : Turn) (net : Network) (c : Connection) (frame : Bytes) :
    Option Connection × FabricEngine × Bytes :=
  let (c, sent, goesOn) :=
    c.serveFrame config.limits turn
      (readFrame config.limits.maxFrameBytes config.frameTimeoutMs (net.up frame)).1
  (if goesOn then some c else none, c.engine, sent.getD [])

def call (config : LinkConfig) (turn : Turn) (net : Network) (link : Link) (call : ClientCall) :
    Link × FabricEngine × Checked WireResponse :=
  let frame := ClientState.requestFrame config.client (call.request link.client.client)
  let (server, engine, sent) :=
    match link.server, link.client.connected, frame with
    | some c, true, .ok frame => serve config turn net c frame
    | server, _, _ => (server, turn.engine, [])
  let (client, result) := link.client.perform config.client call net.sends (net.down sent)
  (⟨client, server⟩, engine, result)

end Link

theorem Refusal.wellFormed {outcome : FabricOutcome} (h : Refusal outcome) : outcome.WellFormed := by
  rw [h.2]
  exact makeRejection_wellFormed _ _

theorem sendFrame_ok {limits : Limits} {id : MessageId} {response : WireResponse} {frame : Bytes} :
    sendFrame limits id response = .ok frame ↔ ∃ payload, encodeResponse response = .ok payload ∧
      Framable limits.maxFrameBytes (id, payload) ∧ frame = frameOf (id, payload) := by
  unfold sendFrame
  simp only [Checked.bind_ok, encodeFrame_iff]

theorem requestFrame_ok {config : ClientConfig} {request : WireRequest} {frame : Bytes} :
    ClientState.requestFrame config request = .ok frame ↔ ∃ payload, encodeRequest request = .ok payload ∧
      Framable config.maxFrameBytes (request.id, payload) ∧ frame = frameOf (request.id, payload) := by
  unfold ClientState.requestFrame
  simp only [Checked.bind_ok, encodeFrame_iff]

theorem ClientCall.request_id (client : Client) (call : ClientCall) :
    (call.request client).id ≠ .hello ∧ (call.request client).id ≠ .shutdown := by
  constructor
  all_goals
    intro h
    cases call with
    | setMemberAdminEnabled context setId memberId enabled => cases enabled <;> cases h
    | setAdminEnabled context setId enabled => cases enabled <;> cases h
    | _ => cases h

namespace ClientState

variable {config : ClientConfig} {s s' : ClientState} {request : WireRequest} {sends : Checked Unit}
  {arrivals : List Arrival} {response : WireResponse} {outcome : FabricOutcome}

theorem exchange_ok : s.exchange config request sends arrivals = (s', .ok response) ↔
    s' = s ∧ s.connected = true ∧ (∃ frame, requestFrame config request = .ok frame) ∧ sends = .ok () ∧
      ∃ message, (readMessage (fun _ => .ok ()) config.maxFrameBytes config.frameTotalTimeoutMs arrivals).1 =
          .ok message ∧ decodeResponse message.2 = .ok (response, []) := by
  unfold exchange
  constructor
  · intro h
    split at h
    · cases h
    rename_i hconnected
    split at h
    · cases h
    rename_i frame hframe
    split at h
    · cases h
    split at h
    · cases h
    rename_i id payload hread
    split at h
    · cases h
    rename_i decoded rest hdecoded
    split at h
    · rename_i hrest
      cases h
      rw [List.isEmpty_iff] at hrest
      rw [hrest] at hdecoded
      refine ⟨rfl, ?_, ⟨frame, hframe⟩, rfl, (id, payload), hread, hdecoded⟩
      simpa using hconnected
    · cases h
  · rintro ⟨rfl, hconnected, ⟨frame, hframe⟩, rfl, ⟨id, payload⟩, hread, hdecoded⟩
    simp only [hconnected, Bool.not_true, Bool.false_eq_true, if_false, hframe, hread, hdecoded, List.isEmpty_nil,
      if_true]

end ClientState

namespace Connection

variable {limits : Limits} {turn : Turn} {c : Connection}

/-- The connection that a request leaves, when the engine has become what it is at the turn. -/
def atTurn (c : Connection) (turn : Turn) (request : WireRequest) : Connection :=
  { c with engine := turn.engine }.dispatch turn.external request

theorem serveFrame_request {id : MessageId} {request : WireRequest} {payload : Bytes}
    (plain : id ≠ .hello ∧ id ≠ .shutdown) (hdecoded : decodeRequest id payload = .ok (request, [])) :
    let frame := if turn.sends then (sendFrame limits .result (c.atTurn turn request).response).toOption else none
    c.serveFrame limits turn (received (id, payload)) = (c.atTurn turn request, frame, frame.isSome) := by
  have hhandled := @handleFrame_result { c with engine := turn.engine } turn.external id payload request plain.1 hdecoded
  have hanswer (before after : Connection) : answerFrame limits before
      ⟨after, some (.result, after.response), id != .shutdown⟩ (.frame id payload) =
        (sendFrame limits .result after.response).toOption := by
    unfold answerFrame
    cases id
    case hello => exact absurd rfl plain.1
    all_goals rfl
  have hgoes : (id != MessageId.shutdown) = true := by
    simpa using plain.2
  unfold serveFrame received atTurn
  dsimp only
  rw [hhandled, hanswer, hgoes, Bool.true_and]

end Connection

namespace Link

variable {config : LinkConfig} {turn : Turn} {net : Network} {link link' : Link} {call : ClientCall}
  {engine : FabricEngine} {response : WireResponse}

theorem Delivered.atTurn {request : WireRequest} (h : Delivered request) : ∃ payload decoded,
    encodeRequest request = .ok payload ∧ decodeRequest request.id payload = .ok (decoded, []) ∧
      ∀ c : Connection, c.atTurn turn decoded = c.atTurn turn request := by
  obtain ⟨payload, decoded, hencode, hdecode, hsame⟩ := h.dispatch
  exact ⟨payload, decoded, hencode, hdecode, fun c => hsame _ _⟩

structure Fits (config : LinkConfig) (request : WireRequest) (response : WireResponse) : Prop where
  request : ∀ payload, encodeRequest request = .ok payload →
    Framable config.client.maxFrameBytes (request.id, payload) ∧ Framable config.limits.maxFrameBytes (request.id, payload)
  response : ∃ payload, encodeResponse response = .ok payload ∧
    Framable config.limits.maxFrameBytes (.result, payload) ∧ Framable config.client.maxFrameBytes (.result, payload)

/-- Over a prompt network a call returns what the dispatch of its request in the coordinator gives, and leaves both
sides ready for the next call. -/
theorem call_answered {c : Connection} (prompt : net.Prompt) (connected : link.client.connected = true)
    (serves : link.server = some c) (delivered : Delivered (call.request link.client.client)) (sends : turn.sends = true)
    (fits : Fits config (call.request link.client.client) (c.atTurn turn (call.request link.client.client)).response)
    (wellFormed : (c.atTurn turn (call.request link.client.client)).response.WellFormed) :
    let after := c.atTurn turn (call.request link.client.client)
    link.call config turn net call =
      (⟨link.client.adopts call after.response, some after⟩, after.engine, .ok after.response) := by
  obtain ⟨payload, decoded, hencode, hdecode, hsame⟩ := @Delivered.atTurn turn _ delivered
  obtain ⟨hclient, hcoordinator⟩ := fits.request payload hencode
  obtain ⟨answer, hanswer, hsent, hreceived⟩ := fits.response
  have hframe : ClientState.requestFrame config.client (call.request link.client.client) =
      .ok (frameOf ((call.request link.client.client).id, payload)) :=
    requestFrame_ok.mpr ⟨payload, hencode, hclient, rfl⟩
  have hsend : sendFrame config.limits .result (c.atTurn turn (call.request link.client.client)).response =
      .ok (frameOf (.result, answer)) := sendFrame_ok.mpr ⟨answer, hanswer, hsent, rfl⟩
  have hserve : serve config turn net c (frameOf ((call.request link.client.client).id, payload)) =
      (some (c.atTurn turn (call.request link.client.client)), (c.atTurn turn (call.request link.client.client)).engine,
        frameOf (.result, answer)) := by
    obtain ⟨htimely, hall⟩ := prompt.up (frameOf ((call.request link.client.client).id, payload))
    obtain ⟨rest, hread, -⟩ := @readFrame_whole _ config.frameTimeoutMs _ _ _ htimely hcoordinator
      (hall.trans (List.append_nil _).symm)
    unfold serve
    rw [hread, Connection.serveFrame_request (call.request_id link.client.client) hdecode, hsame, sends, if_pos rfl, hsend]
    rfl
  have hexchange : link.client.exchange config.client (call.request link.client.client) net.sends
      (net.down (frameOf (.result, answer))) =
        (link.client, .ok (c.atTurn turn (call.request link.client.client)).response) := by
    obtain ⟨htimely, hall⟩ := prompt.down (frameOf (.result, answer))
    obtain ⟨rest, hread, -⟩ := @readMessage_whole _ config.client.frameTotalTimeoutMs _ _ _ (fun _ => .ok ()) rfl htimely
      hreceived (hall.trans (List.append_nil _).symm)
    rw [ClientState.exchange_ok]
    refine ⟨rfl, connected, ⟨_, hframe⟩, prompt.sends, (.result, answer), ?_, decodeResponse_encoded wellFormed hanswer⟩
    rw [hread]
  unfold Link.call ClientState.perform
  dsimp only
  rw [serves, connected, hframe]
  dsimp only
  rw [hserve]
  dsimp only
  rw [hexchange]

def arriveWhole (bytes : Bytes) : List Arrival := if bytes.isEmpty then [] else [.idle false, .bytes bytes false]

theorem arriveWhole_prompt (bytes : Bytes) : Timely (arriveWhole bytes) ∧ streamed (arriveWhole bytes) = bytes := by
  unfold arriveWhole
  cases bytes with
  | nil => exact ⟨fun _ h => absurd h List.not_mem_nil, rfl⟩
  | cons byte rest =>
      refine ⟨?_, by simp [streamed, Arrival.content]⟩
      intro arrival harrival
      simp only [List.isEmpty_cons, Bool.false_eq_true, if_false, List.mem_cons, List.not_mem_nil, or_false] at harrival
      rcases harrival with rfl | rfl
      · rfl
      · exact ⟨List.cons_ne_nil _ _, rfl⟩

def sampleNetwork : Network := ⟨arriveWhole, arriveWhole, .ok ()⟩

theorem sampleNetwork_prompt : sampleNetwork.Prompt := ⟨arriveWhole_prompt, arriveWhole_prompt, rfl⟩

def sampleLinkConfig : LinkConfig := ⟨⟨0, 0⟩, .default, 0⟩

def sampleConnection : Connection := .accepted (sampleRun []) (sampleId "sess")

def sampleTurn (c : Connection) : Turn := ⟨c.engine, fun _ => none, true⟩

def sampleRegistration : ClientCall := .registerPublisher (sampleId "pub") (sampleId "boot") sampleScope

def sampleCreation : ClientCall := .createSet ClientCall.sampleAttempt (sampleKey "set") ⟨1, true, false⟩

def sampleRegistered : Connection :=
  sampleConnection.atTurn (sampleTurn sampleConnection) (sampleRegistration.request ClientCall.sampleClient)

def sampleCreated : Connection :=
  sampleRegistered.atTurn (sampleTurn sampleRegistered) (sampleCreation.request ClientCall.sampleClient)

def sampleLink (c : Connection) : Link := ⟨⟨ClientCall.sampleClient, true⟩, some c⟩

theorem sampleRegistration_delivered : Delivered (sampleRegistration.request ClientCall.sampleClient) := by
  have hvalid : sampleRegistration.Valid ClientCall.sampleClient :=
    ⟨by decide, by decide, by decide, fun _ h => absurd h List.not_mem_nil⟩
  exact (ClientCall.delivered_iff hvalid).mpr (Nat.zero_le _)

theorem sampleCreation_delivered : Delivered (sampleCreation.request ClientCall.sampleClient) := by
  have hvalid : sampleCreation.Valid ClientCall.sampleClient := ⟨ClientCall.sampleAttempt_sendable, by decide⟩
  exact (ClientCall.delivered_iff hvalid).mpr trivial

theorem sampleLinkConfig_framable {id : MessageId} {payload : Bytes} (h : payload.length ≤ maxPayload) :
    Framable sampleLinkConfig.client.maxFrameBytes (id, payload) ∧
      Framable sampleLinkConfig.limits.maxFrameBytes (id, payload) := by
  have hcoordinator : (frameBound Limits.default.maxFrameBytes).toNat = maxPayload := by decide
  have hclient : maxPayload ≤ (frameBound 0).toNat := by decide
  exact ⟨h.trans hclient, h.trans hcoordinator.ge⟩

theorem sampleLinkConfig_fits {request : WireRequest} {response : WireResponse} {fields : List Field}
    (hfields : requestFields request = .ok fields) (hencoded : (encodeResponse response).isOk = true) :
    Fits sampleLinkConfig request response where
  request := by
    intro payload hpayload
    obtain ⟨rfl, hbound⟩ := payload_of_encode hfields hpayload
    exact sampleLinkConfig_framable hbound
  response := by
    obtain ⟨payload, hpayload⟩ := Checked.of_isOk hencoded
    obtain ⟨hclient, hcoordinator⟩ := @sampleLinkConfig_framable .result _ (encodeResponse_ok hpayload).2.2
    exact ⟨payload, hpayload, hcoordinator, hclient⟩

theorem wellFormed_plain {response : WireResponse} (outcome : response.outcome.WellFormed)
    (plain : response.snapshot.isNone = true ∧ response.explanation.isNone = true ∧ response.setIds = []) :
    response.WellFormed where
  outcome := outcome
  snapshot := by
    intro s hs
    rw [Option.isNone_iff_eq_none.mp plain.1] at hs
    cases hs
  explanation := by
    intro x hx
    rw [Option.isNone_iff_eq_none.mp plain.2.1] at hx
    cases hx
  setIds := by
    rw [plain.2.2]
    exact fun _ h => absurd h List.not_mem_nil

theorem sampleRegistered_wellFormed : sampleRegistered.response.WellFormed :=
  wellFormed_plain (by decide +kernel) (by decide +kernel)

theorem sampleCreated_wellFormed : sampleCreated.response.WellFormed :=
  wellFormed_plain (by decide +kernel) (by decide +kernel)

theorem call_answered_sample :
    (sampleLink sampleConnection).call sampleLinkConfig (sampleTurn sampleConnection) sampleNetwork sampleRegistration =
        (sampleLink sampleRegistered, sampleRegistered.engine, .ok sampleRegistered.response) ∧
      (sampleLink sampleRegistered).call sampleLinkConfig (sampleTurn sampleRegistered) sampleNetwork sampleCreation =
        (sampleLink sampleCreated, sampleCreated.engine, .ok sampleCreated.response) ∧
      sampleRegistered.response.outcome.code = .publisherRegistered ∧
      sampleCreated.response.outcome.code = .created := by
  have hadopts : (sampleLink sampleConnection).client.adopts sampleRegistration sampleRegistered.response =
      (sampleLink sampleConnection).client := by
    unfold ClientState.adopts sampleRegistration
    dsimp only
    split
    · rfl
    · rfl
  have hregistered := call_answered sampleNetwork_prompt rfl (rfl : (sampleLink sampleConnection).server = _)
    sampleRegistration_delivered (rfl : (sampleTurn sampleConnection).sends = true)
    (sampleLinkConfig_fits rfl (by decide +kernel)) sampleRegistered_wellFormed
  have hcreated := call_answered sampleNetwork_prompt rfl (rfl : (sampleLink sampleRegistered).server = _)
    sampleCreation_delivered (rfl : (sampleTurn sampleRegistered).sends = true)
    (sampleLinkConfig_fits rfl (by decide +kernel)) sampleCreated_wellFormed
  refine ⟨hregistered.trans ?_, hcreated, by decide +kernel, by decide +kernel⟩
  have hlink : (⟨(sampleLink sampleConnection).client.adopts sampleRegistration sampleRegistered.response,
      some sampleRegistered⟩ : Link) = sampleLink sampleRegistered := by
    rw [hadopts]
    rfl
  exact congrArg (fun link => (link, sampleRegistered.engine, Except.ok sampleRegistered.response)) hlink

end Link

end MultipathFabric
