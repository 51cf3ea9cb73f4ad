import MultipathFabric.Exchange
import MultipathFabric.SessionEnd
import MultipathFabric.WireSafety

namespace MultipathFabric

open ByteCodec Wire TransitionSystem

namespace IdFactory

/-- The ids that a coordinator gives to its sessions: the factory of the server carries their kind as its prefix too. -/
def composeSession (f : IdFactory) (counter : UInt64) : Bytes :=
  text "sess-sess-" ++ f.nonce ++ text "-" ++ decimal counter.toNat

theorem composeSession_length (f : IdFactory) (counter : UInt64) : (f.composeSession counter).length ≤ 47 := by
  have hkind : (text "sess-sess-").length = 10 := rfl
  have hdash : (text "-").length = 1 := rfl
  have hnonce := f.nonce_length
  have hcounter := decimal_length_of_u64 counter
  simp only [composeSession, List.length_append]
  omega

theorem composeSession_allowed (f : IdFactory) (counter : UInt64) :
    idTextAllowed .session (f.composeSession counter) = true := by
  have hhead : (f.composeSession counter).head?.all idEdgeCharAllowed = true := rfl
  have hlast : (f.composeSession counter).getLast?.all idEdgeCharAllowed = true := by
    have hne := decimal_ne_nil counter.toNat
    have hdigit : (f.composeSession counter).getLast? = some ((decimal counter.toNat).getLast hne) := by
      simp [composeSession, List.getLast?_append, List.getLast?_eq_some_getLast hne]
    rw [hdigit, Option.all_some]
    exact isDigit_edge (List.all_eq_true.mp (decimal_digits _) _ (List.getLast_mem hne))
  have hkind : (text "sess-sess-").all idCharAllowed = true := by decide +kernel
  have hdash : (text "-").all idCharAllowed = true := by decide +kernel
  have hnonce : f.nonce.all idCharAllowed = true :=
    List.all_eq_true.mpr fun c hc => isHexDigit_allowed (List.all_eq_true.mp f.nonce_hex c hc)
  have hcounter : (decimal counter.toNat).all idCharAllowed = true := by
    refine List.all_eq_true.mpr fun c hc => isHexDigit_allowed ?_
    simp [isHexDigit, List.all_eq_true.mp (decimal_digits _) c hc]
  have hall : (f.composeSession counter).all idCharAllowed = true := by
    simp only [composeSession, List.all_append, hkind, hnonce, hdash, hcounter, Bool.and_self]
  have hlength : (f.composeSession counter).length ≤ IdDomain.session.maxLength :=
    (f.composeSession_length counter).trans (by decide)
  have hsome : (f.composeSession counter).isEmpty = false := rfl
  simp only [idTextAllowed, hsome, hlength, hall, hhead, hlast, decide_true, Bool.not_false, Bool.and_self]

def nextSessionId (f : IdFactory) : SessionId × IdFactory :=
  (⟨f.composeSession (f.counter + 1), .inr (f.composeSession_allowed _)⟩, { f with counter := f.counter + 1 })

end IdFactory

def Checked.EndsWell {α : Type} (x : Checked α) : Prop := ∀ outcome, x = .error outcome → outcome.WellFormed

namespace Checked.EndsWell

variable {α β : Type}

theorem ok (a : α) : EndsWell (.ok a : Checked α) := by
  intro outcome h
  cases h

theorem bind {x : Checked α} {f : α → Checked β} (hx : x.EndsWell) (hf : ∀ a, (f a).EndsWell) : (x >>= f).EndsWell := by
  intro outcome h
  cases x with
  | error rejection =>
      cases h
      exact hx _ rfl
  | ok a => exact hf a outcome h

theorem require {condition : Bool} {rejection : FabricOutcome} (h : rejection.WellFormed) :
    (Checked.require condition rejection).EndsWell := by
  cases condition with
  | true => exact ok ()
  | false =>
      intro outcome houtcome
      cases houtcome
      exact h

theorem unlessAnswered {answer : Option FabricOutcome} (h : ∀ outcome, answer = some outcome → outcome.WellFormed) :
    (Checked.unlessAnswered answer).EndsWell := by
  cases answer with
  | none => exact ok ()
  | some outcome =>
      intro other hother
      cases hother
      exact h outcome rfl

end Checked.EndsWell

namespace Link

def welcome (config : LinkConfig) (net : Network) (link : Link) (c : Connection) : Link :=
  let announced := (c.helloAck config.limits).toOption
  ⟨(link.client.connect config.client (net.down (announced.getD []))).1, announced.map fun _ => c⟩

inductive Step (config : LinkConfig) : Link → Link → Prop
  /-- The client may have been connected before. -/
  | connects (link : Link) (e : FabricEngine) (ids : IdFactory) (net : Network) (honest : net.Honest) :
      Step config link (link.welcome config net (.accepted e ids.nextSessionId.1))
  | calls (link : Link) (turn : Turn) (net : Network) (call : ClientCall) (honest : net.Honest) :
      Step config link (link.call config turn net call).1
  | closes (link : Link) : Step config link ⟨link.client.close, link.server⟩
  /-- The coordinator stops, or what it sends is lost. -/
  | ends (link : Link) : Step config link ⟨link.client, none⟩

/-- A client holds the id of the session it talks to, and the worker that is registered there. -/
structure Agree (client : Client) (session : Session) : Prop where
  id : client.session = session.id
  worker : session.hasRegistration = true →
    client.publisher = session.publisher ∧ client.workerBoot = session.workerBoot

def Agrees (link : Link) : Prop :=
  ∀ c, link.client.connected = true → link.server = some c → Agree link.client.client c.session

theorem ClientCall.registers_iff (client : Client) (call : ClientCall) :
    (call.request client).id = .registerPublisher ↔ ∃ publisher workerBoot scope,
      call = .registerPublisher publisher workerBoot scope := by
  constructor
  · intro h
    cases call with
    | registerPublisher publisher workerBoot scope => exact ⟨publisher, workerBoot, scope, rfl⟩
    | setMemberAdminEnabled context setId memberId enabled => cases enabled <;> cases h
    | setAdminEnabled context setId enabled => cases enabled <;> cases h
    | _ => cases h
  · rintro ⟨publisher, workerBoot, scope, rfl⟩
    rfl

theorem register_parts (c : Connection) (request : WireRequest) :
    let result := c.engine.registerPublisher request.context.publisher request.context.workerBoot request.scope c.session.id
    (c.register request).response.outcome = result.2 ∧
      (c.register request).session = if result.2.succeeded then
        ⟨c.session.id, request.context.publisher, request.context.workerBoot, true⟩ else c.session := by
  unfold Connection.register
  dsimp only
  split
  · exact ⟨rfl, rfl⟩
  · exact ⟨rfl, rfl⟩

theorem Agree.adopts {s : ClientState} {c : Connection} {turn : Turn} {call : ClientCall} {payload : Bytes}
    {decoded : WireRequest} {response : WireResponse} (agree : Agree s.client c.session)
    (encoded : encodeRequest (call.request s.client) = .ok payload)
    (read : decodeRequest (call.request s.client).id payload = .ok (decoded, []))
    (answered : decoded.id = .registerPublisher →
      response.outcome.succeeded = (c.atTurn turn decoded).response.outcome.succeeded) :
    Agree (s.adopts call response).client (c.atTurn turn decoded).session := by
  have hid : decoded.id = (call.request s.client).id := decodeRequest_id _ _ _ _ read
  by_cases hregisters : (call.request s.client).id = .registerPublisher
  · replace answered := answered (hid.trans hregisters)
    obtain ⟨publisher, workerBoot, scope, rfl⟩ := (ClientCall.registers_iff s.client call).mp hregisters
    obtain ⟨rfl, -⟩ := payload_of_encode rfl encoded
    obtain ⟨rfl, rfl⟩ := decodeRegister_worker read
    obtain ⟨houtcome, hsession⟩ := register_parts { c with engine := turn.engine } decoded
    have hafter : c.atTurn turn decoded = { c with engine := turn.engine }.register decoded := by
      unfold Connection.atTurn Connection.dispatch
      rw [hid]
      rfl
    rw [hafter] at answered ⊢
    rw [houtcome] at answered
    rw [hsession, ← answered]
    unfold ClientState.adopts
    dsimp only
    split
    · exact ⟨agree.id, fun _ => ⟨rfl, rfl⟩⟩
    · exact agree
  · have hadopts : s.adopts call response = s := by
      unfold ClientState.adopts
      split
      · exact absurd rfl hregisters
      · rfl
    have hsession : (c.atTurn turn decoded).session = c.session := by
      unfold Connection.atTurn
      rw [Connection.dispatch_remembers, Connection.registers, hid, if_neg fun h => hregisters h.1]
      rfl
    rw [hadopts, hsession]
    exact agree

section Call

variable {config : LinkConfig} {turn : Turn} {net : Network} {link link' : Link} {call : ClientCall} {engine : FabricEngine}
  {response : WireResponse}

end Call

end Link

end MultipathFabric
