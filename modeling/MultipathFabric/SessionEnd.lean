import MultipathFabric.Fencing
import MultipathFabric.Server
import MultipathFabric.Library.TransitionSystem

/-!
The coordinator with all its sessions: any of them may connect, send a frame or end at any time.
-/

namespace MultipathFabric

open ByteCodec OrderedMap Wire

def sessionLost : Bytes := text "SESSION_LOST"

def FabricEngine.endSession (e : FabricEngine) (session : Session) (cause : Bytes) : FabricEngine :=
  if session.hasRegistration then (e.fenceWorker session.publisher session.workerBoot cause).1 else e

structure ServerSession where
  session : Session
  response : WireResponse
  registered : List WorkerKey

structure Coordinator where
  engine : FabricEngine
  sessions : Std.ExtTreeMap SessionId ServerSession
  ended : List WorkerKey

def ReceivedFrame.request : ReceivedFrame → Option WireRequest
  | .closed | .failed _ | .frame .hello _ => none
  | .frame id payload =>
      match decodeRequest id payload with
      | .ok (request, []) => some request
      | _ => none

namespace Connection

def registers (c : Connection) (request : WireRequest) : Option WorkerKey :=
  if request.id = .registerPublisher ∧
      (c.engine.registerPublisher request.context.publisher request.context.workerBoot request.scope
        c.session.id).2.succeeded = true then
    some request.context.worker
  else none

end Connection

namespace Session

def remembers (session : Session) (worker : Option WorkerKey) : Session :=
  match worker with
  | some worker =>
      { session with publisher := worker.publisher, workerBoot := worker.workerBoot, hasRegistration := true }
  | none => session

def remembered (session : Session) : Option WorkerKey :=
  if session.hasRegistration then some ⟨session.publisher, session.workerBoot⟩ else none

theorem remembered_remembers (session : Session) (worker : Option WorkerKey) :
    (session.remembers worker).remembered = worker.or session.remembered := by
  cases worker with
  | none => rfl
  | some worker => rfl

end Session

namespace Connection

variable {c : Connection} {external : PathId → Option PathAuthorityView} {request : WireRequest}

theorem perform_session (c : Connection) (external : PathId → Option PathAuthorityView) (request : WireRequest) :
    (c.perform external request).session = c.session := by
  unfold perform
  cases request.id
  case supersedeSet =>
    unfold supersede
    dsimp only
    split <;> rfl
  case advanceSetState =>
    unfold advanceSetState
    dsimp only
    split <;> rfl
  case epochAdvance =>
    unfold epochAdvance
    dsimp only
    split <;> rfl
  case querySet =>
    unfold querySet
    dsimp only
    split <;> rfl
  case snapshotRequest =>
    unfold snapshotRequest
    dsimp only
    split <;> rfl
  case explainSet =>
    unfold explainSet
    dsimp only
    split <;> rfl
  all_goals rfl

theorem dispatch_remembers (c : Connection) (external : PathId → Option PathAuthorityView) (request : WireRequest) :
    (c.dispatch external request).session = c.session.remembers (c.registers request) := by
  unfold dispatch registers
  split
  · rename_i hid
    rw [hid, if_neg (by simp)]
    rfl
  · rename_i hid
    unfold register
    dsimp only
    split
    · rename_i haccepted
      rw [if_pos ⟨hid, haccepted⟩]
      rfl
    · rename_i hrejected
      rw [if_neg fun h => hrejected h.2]
      rfl
  · rename_i hid
    have hnone : ¬(request.id = .registerPublisher ∧ (c.engine.registerPublisher request.context.publisher
        request.context.workerBoot request.scope c.session.id).2.succeeded = true) := fun h => hid h.1
    rw [if_neg hnone]
    split
    · rfl
    · exact perform_session c external request

theorem perform_engine (c : Connection) (external : PathId → Option PathAuthorityView) (request : WireRequest) :
    (c.perform external request).engine = c.engine ∨
      ∃ op : Op, op.loads = false ∧ (c.perform external request).engine = c.engine.after op := by
  unfold perform
  cases request.id
  case createSet => exact .inr ⟨.createSet _ _ _, rfl, rfl⟩
  case addMember =>
    refine .inr ⟨.addMember request.context request.setId ⟨request.pathId, request.pathAuthorityGeneration⟩
      (c.engine.pathAuthority external request.pathId), rfl, ?_⟩
    exact congrArg Prod.fst (FabricEngine.addMembersInternal_eq _ _ _ _ _ _ _)
  case addMembers =>
    refine .inr ⟨.addMembers request.context request.setId
      (request.members.map fun member => (member, c.engine.pathAuthority external member.pathId)), rfl, ?_⟩
    exact congrArg Prod.fst (FabricEngine.addMembersInternal_eq _ _ _ _ _ _ _)
  case removeMember => exact .inr ⟨.removeMember _ _ _ _, rfl, rfl⟩
  case withdrawMember => exact .inr ⟨.withdrawMember _ _ _ _, rfl, rfl⟩
  case replaceMember => exact .inr ⟨.replaceMember _ _ _ _ _ _, rfl, rfl⟩
  case setMinimum => exact .inr ⟨.setMinimumUsableMembers _ _ _, rfl, rfl⟩
  case setConditionalPolicy => exact .inr ⟨.setConditionalAuthorityPolicy _ _ _, rfl, rfl⟩
  case setAdminEnable => exact .inr ⟨.setAdminEnabled _ _ _, rfl, rfl⟩
  case setAdminDisable => exact .inr ⟨.setAdminEnabled _ _ _, rfl, rfl⟩
  case memberAdminEnable => exact .inr ⟨.setMemberAdminEnabled _ _ _ _ _, rfl, rfl⟩
  case memberAdminDisable => exact .inr ⟨.setMemberAdminEnabled _ _ _ _ _, rfl, rfl⟩
  case revalidateSet =>
    refine .inr ⟨.revalidateSet request.context request.setId
      (lookupViews (c.engine.pathAuthority external) (c.engine.revalidationPaths request.setId)), rfl, ?_⟩
    exact congrArg Prod.fst (FabricEngine.revalidateSet_eq _ _ _ _)
  case revalidateMember =>
    refine .inr ⟨.revalidateMember request.context request.setId request.memberId
      ((c.engine.memberPath request.setId request.memberId).map (c.engine.pathAuthority external)), rfl, ?_⟩
    exact congrArg Prod.fst (FabricEngine.revalidateMember_eq _ _ _ _ _)
  case revokeSet => exact .inr ⟨.revokeSet _ _ _ _, rfl, rfl⟩
  case retireSet => exact .inr ⟨.retireSet _ _ _, rfl, rfl⟩
  case supersedeSet =>
    unfold supersede
    dsimp only
    split
    · exact .inl rfl
    · exact .inr ⟨.supersedeSet _ _ _, rfl, rfl⟩
  case advanceSetState =>
    unfold advanceSetState
    dsimp only
    split
    · exact .inr ⟨.publishSet _ _, rfl, rfl⟩
    · exact .inr ⟨.withdrawSet _ _ _, rfl, rfl⟩
    · exact .inr ⟨.completeWithdrawal _ _, rfl, rfl⟩
  case declarePathAuthority => exact .inr ⟨.declarePathAuthority _ _, rfl, rfl⟩
  case applyPathAuthority => exact .inr ⟨.applyPathAuthority _ _, rfl, rfl⟩
  case refreshPath => exact .inr ⟨.refreshPath _ _ _, rfl, rfl⟩
  case epochAdvance =>
    unfold epochAdvance
    dsimp only
    split
    · exact .inl rfl
    · exact .inr ⟨.advanceEpoch _ _ _ _ _, rfl, rfl⟩
  case querySet =>
    unfold querySet
    dsimp only
    split <;> exact .inl rfl
  case snapshotRequest =>
    unfold snapshotRequest
    dsimp only
    split <;> exact .inl rfl
  case explainSet =>
    unfold explainSet
    dsimp only
    split <;> exact .inl rfl
  all_goals exact .inl rfl

theorem dispatch_engine (c : Connection) (external : PathId → Option PathAuthorityView) (request : WireRequest) :
    (c.dispatch external request).engine = c.engine ∨
      ∃ op : Op, op.loads = false ∧ (c.dispatch external request).engine = c.engine.after op := by
  unfold dispatch
  split
  · exact .inl rfl
  · refine .inr ⟨.registerPublisher request.context.publisher request.context.workerBoot request.scope c.session.id,
      rfl, ?_⟩
    unfold register
    dsimp only
    split <;> rfl
  · split
    · exact .inl rfl
    · exact perform_engine c external request

theorem request_frame {received : ReceivedFrame} (h : received.request = some request) :
    ∃ id payload, received = .frame id payload ∧ id ≠ .hello ∧ decodeRequest id payload = .ok (request, []) := by
  cases received with
  | closed => cases h
  | failed outcome => cases h
  | frame id payload =>
      have hhello : id ≠ .hello := by
        rintro rfl
        cases h
      refine ⟨id, payload, rfl, hhello, ?_⟩
      have hmatch : (match decodeRequest id payload with
          | .ok (request, []) => some request
          | _ => none) = some request := by
        cases id <;> first | exact absurd rfl hhello | exact h
      split at hmatch
      · rename_i hdecoded
        rw [hdecoded, Option.some.inj hmatch]
      · cases hmatch

theorem handleFrame_request {received : ReceivedFrame} (h : received.request = some request) :
    (c.handleFrame external received).connection = c.dispatch external request := by
  obtain ⟨id, payload, rfl, hhello, hdecoded⟩ := request_frame h
  unfold handleFrame
  cases id <;> first
    | exact absurd rfl hhello
    | dsimp only
      rw [hdecoded]
      rfl

theorem handleFrame_other {received : ReceivedFrame} (h : received.request = none) :
    (c.handleFrame external received).connection.engine = c.engine ∧
      (c.handleFrame external received).connection.session = c.session := by
  unfold ReceivedFrame.request at h
  unfold handleFrame
  split
  · exact ⟨rfl, rfl⟩
  · exact ⟨rfl, rfl⟩
  · exact ⟨rfl, rfl⟩
  · rename_i id payload hhello
    split
    · exact ⟨rfl, rfl⟩
    · rename_i request rest hdecoded
      cases rest with
      | cons byte rest => exact ⟨rfl, rfl⟩
      | nil =>
          simp only [hdecoded] at h
          cases id <;> cases h

end Connection

theorem FabricEngine.registerPublisher_valid {e : FabricEngine} {publisher : PublisherId} {workerBoot : WorkerBootId}
    {scope : AuthorityScope} {session : SessionId}
    (accepted : (e.registerPublisher publisher workerBoot scope session).2.succeeded = true) :
    publisher.valid = true ∧ workerBoot.valid = true := by
  by_contra hinvalid
  have hrefused : (publisher.valid && workerBoot.valid && session.valid) = false := by
    rw [Bool.eq_false_iff]
    intro hvalid
    rw [Bool.and_eq_true, Bool.and_eq_true] at hvalid
    exact hinvalid hvalid.1
  unfold registerPublisher at accepted
  rw [hrefused] at accepted
  cases accepted

theorem FabricEngine.fenceWorker_fences_iff {e : FabricEngine} {worker other : WorkerKey}
    (publisher : worker.publisher.valid = true) (workerBoot : worker.workerBoot.valid = true) :
    (e.fenceWorker worker.publisher worker.workerBoot sessionLost).1.fences[other]?.isSome = true ↔
      e.fences[other]?.isSome = true ∨ worker = other ∧ e.currentAuthorityGeneration.next.isSome = true := by
  constructor
  · intro hfenced
    rcases fenceWorker_cases e worker.publisher worker.workerBoot sessionLost with h | ⟨authority, hnext, _, _, _, h⟩
    · rw [h] at hfenced
      exact .inl hfenced
    · rw [h] at hfenced
      unfold fenceSets at hfenced
      rw [(rewriteSets_keeps _ _ _).fences] at hfenced
      dsimp only at hfenced
      rw [getElem?_insert_eq] at hfenced
      split at hfenced
      · rename_i hkey
        exact .inr ⟨hkey, by rw [hnext]; rfl⟩
      · exact .inl hfenced
  · rintro (hfenced | ⟨rfl, hnext⟩)
    · exact (fenceWorker_gates e _ _ _).kept other hfenced
    · obtain ⟨authority, hauthority⟩ := Option.isSome_iff_exists.mp hnext
      have hcause : (!sessionLost.isEmpty && decide (sessionLost.length ≤ 64)) = true := by decide +kernel
      apply fenceWorker_fences
      unfold fenceWorker
      dsimp only
      rw [publisher, workerBoot, hauthority, hcause]
      cases hfence : e.fences[(⟨worker.publisher, worker.workerBoot⟩ : WorkerKey)]? with
      | none => rfl
      | some fence => rfl

namespace Coordinator

def connected (s : Coordinator) (id : SessionId) : Coordinator :=
  let c := Connection.accepted s.engine id
  { s with sessions := s.sessions.insert id ⟨c.session, c.response, []⟩ }

def served (s : Coordinator) (id : SessionId) (session : ServerSession)
    (external : PathId → Option PathAuthorityView) (received : ReceivedFrame) : Coordinator :=
  let c : Connection := ⟨s.engine, session.session, session.response⟩
  let handled := (c.handleFrame external received).connection
  { s with
    engine := handled.engine
    sessions := s.sessions.insert id
      ⟨handled.session, handled.response, (received.request.bind c.registers).toList ++ session.registered⟩ }

def finished (s : Coordinator) (id : SessionId) (session : ServerSession) : Coordinator where
  engine := s.engine.endSession session.session sessionLost
  sessions := s.sessions.erase id
  ended := session.registered ++ s.ended

def Starts (config : FabricConfig) (s : Coordinator) : Prop :=
  Reachable config s.engine ∧ s.sessions = ∅ ∧ s.ended = []

/-- One step of some session thread, or of anything else that works on the engine: a frame that another session
interrupts is a locked section and what remains of it. -/
inductive Step (ends : Coordinator → ServerSession → Prop) : Coordinator → Coordinator → Prop
  | connect {s : Coordinator} {id : SessionId} (fresh : s.sessions[id]? = none) : Step ends s (s.connected id)
  | frame {s : Coordinator} {id : SessionId} {session : ServerSession}
      (external : PathId → Option PathAuthorityView) (received : ReceivedFrame)
      (serves : s.sessions[id]? = some session) : Step ends s (s.served id session external received)
  | inner {s : Coordinator} (op : Op) (kept : op.loads = false) : Step ends s { s with engine := s.engine.after op }
  | finish {s : Coordinator} {id : SessionId} {session : ServerSession} (serves : s.sessions[id]? = some session)
      (h : ends s session) : Step ends s (s.finished id session)

/-- Every worker boot that was registered on the session is fenced already, or is the one registered last. -/
def EndsWell (s : Coordinator) (session : ServerSession) : Prop :=
  ∀ worker ∈ session.registered, s.engine.fences[worker]?.isSome = true ∨
    session.registered.head? = some worker ∧ s.engine.currentAuthorityGeneration.next.isSome = true

structure Remembers (session : ServerSession) : Prop where
  last : session.registered.head? = session.session.remembered
  valid : ∀ worker ∈ session.registered, worker.publisher.valid = true ∧ worker.workerBoot.valid = true

structure Sound (s : Coordinator) : Prop where
  gated : s.engine.Gated
  ended : ∀ worker ∈ s.ended, s.engine.fences[worker]?.isSome = true
  sessions : ∀ (id : SessionId) (session : ServerSession), s.sessions[id]? = some session → Remembers session

variable {s : Coordinator}

theorem Remembers.served {session : ServerSession} (h : Remembers session) (e : FabricEngine)
    (external : PathId → Option PathAuthorityView) (received : ReceivedFrame) {c : Connection}
    (hc : c = ⟨e, session.session, session.response⟩) :
    Remembers ⟨(c.handleFrame external received).connection.session,
      (c.handleFrame external received).connection.response,
      (received.request.bind c.registers).toList ++ session.registered⟩ := by
  have hsession : c.session = session.session := by rw [hc]
  cases hrequest : received.request with
  | none =>
      constructor
      · dsimp only
        rw [(Connection.handleFrame_other hrequest).2, hsession]
        exact h.last
      · exact h.valid
  | some request =>
      constructor
      · dsimp only
        rw [Connection.handleFrame_request hrequest, Connection.dispatch_remembers, Session.remembered_remembers, hsession,
          ← h.last, Option.bind_some]
        cases c.registers request <;> rfl
      · intro worker hworker
        dsimp only [Option.bind_some] at hworker
        rcases List.mem_append.mp hworker with hnew | hold
        · have hregisters := Option.mem_toList.mp hnew
          unfold Connection.registers at hregisters
          split at hregisters
          · rename_i haccepted
            cases hregisters
            exact FabricEngine.registerPublisher_valid haccepted.2
          · cases hregisters
        · exact h.valid worker hold

theorem handleFrame_gates (c : Connection) (external : PathId → Option PathAuthorityView) (received : ReceivedFrame) :
    FabricEngine.GateStep c.engine (c.handleFrame external received).connection.engine := by
  cases hrequest : received.request with
  | none =>
      rw [(Connection.handleFrame_other hrequest).1]
      exact .same rfl rfl
  | some request =>
      rw [Connection.handleFrame_request hrequest]
      rcases Connection.dispatch_engine c external request with h | ⟨op, kept, h⟩
      · rw [h]
        exact .same rfl rfl
      · rw [h]
        exact FabricEngine.after_gates c.engine kept

theorem finished_fenced {id : SessionId} {session : ServerSession} (h : Remembers session) (worker : WorkerKey) :
    (s.finished id session).engine.fences[worker]?.isSome = true ↔ s.engine.fences[worker]?.isSome = true ∨
      session.registered.head? = some worker ∧ s.engine.currentAuthorityGeneration.next.isSome = true := by
  have hlast := h.last
  have hvalid := h.valid
  unfold finished FabricEngine.endSession
  unfold Session.remembered at hlast
  dsimp only
  split at hlast
  · rename_i hregistration
    rw [if_pos hregistration, hlast]
    obtain ⟨hpublisher, hboot⟩ := hvalid _ (List.mem_of_head? hlast)
    rw [Option.some_inj]
    exact @FabricEngine.fenceWorker_fences_iff s.engine ⟨session.session.publisher, session.session.workerBoot⟩ worker
      hpublisher hboot
  · rename_i hregistration
    rw [if_neg hregistration, hlast]
    simp

theorem finished_gates {id : SessionId} {session : ServerSession} :
    FabricEngine.GateStep s.engine (s.finished id session).engine := by
  unfold finished FabricEngine.endSession
  dsimp only
  split
  · exact FabricEngine.fenceWorker_gates _ _ _ _
  · exact .same rfl rfl

theorem finished_iff {id : SessionId} {session : ServerSession} (h : Remembers session) :
    (∀ worker ∈ session.registered, (s.finished id session).engine.fences[worker]?.isSome = true) ↔
      EndsWell s session := by
  unfold EndsWell
  simp only [finished_fenced h]

theorem sound {config : FabricConfig} :
    TransitionSystem.Invariant (Starts config) (Step EndsWell) Sound := by
  constructor
  · rintro s ⟨hreachable, hsessions, hended⟩
    refine ⟨FabricEngine.gated_of_run hreachable, fun worker hworker => ?_, fun id session hsession => ?_⟩
    · rw [hended] at hworker
      cases hworker
    · rw [hsessions, Std.ExtTreeMap.getElem?_empty] at hsession
      cases hsession
  · intro s s' _ h hstep
    cases hstep with
    | @connect id fresh =>
        refine ⟨h.gated, h.ended, fun other session hsession => ?_⟩
        dsimp only [connected] at hsession
        rw [getElem?_insert_eq] at hsession
        split at hsession
        · cases hsession
          exact ⟨rfl, fun _ hworker => by cases hworker⟩
        · exact h.sessions other session hsession
    | @frame id session external received serves =>
        have hgates := handleFrame_gates ⟨s.engine, session.session, session.response⟩ external received
        refine ⟨h.gated.step hgates, fun worker hworker => hgates.kept worker (h.ended worker hworker),
          fun other entry hentry => ?_⟩
        dsimp only [served] at hentry
        rw [getElem?_insert_eq] at hentry
        split at hentry
        · cases hentry
          exact (h.sessions id session serves).served s.engine external received rfl
        · exact h.sessions other entry hentry
    | inner op kept =>
        exact ⟨h.gated.after op, fun worker hworker => (FabricEngine.after_gates _ kept).kept worker (h.ended worker hworker),
          h.sessions⟩
    | @finish id session serves ends =>
        refine ⟨h.gated.step finished_gates, fun worker hworker => ?_, fun other entry hentry => ?_⟩
        · rcases List.mem_append.mp hworker with hnew | hold
          · exact (finished_iff (h.sessions id session serves)).mpr ends worker hnew
          · exact finished_gates.kept worker (h.ended worker hold)
        · dsimp only [finished] at hentry
          rw [getElem?_erase_eq] at hentry
          split at hentry
          · cases hentry
          · exact h.sessions other entry hentry

/-- In a run whose sessions all end well, every worker boot that was registered on a session that has ended is shut
out, in every state from then on. -/
theorem session_end_fences {config : FabricConfig}
    (run : TransitionSystem.Reaches (Starts config) (Step EndsWell) s) (worker : WorkerKey) (h : worker ∈ s.ended) :
    s.engine.ShutOut worker := by
  have hsound := sound.reached run
  exact hsound.gated.shutOut (hsound.ended worker h)

def registerFrame (boot : String) : ReceivedFrame :=
  .frame .registerPublisher
    (encode ([idField (sampleId "pub" : PublisherId), idField (sampleId boot : WorkerBootId),
      idField (sampleId "sess" : SessionId)] ++ scopeFields sampleScope))

def registerOn (s : Coordinator) (boot : String) : Coordinator :=
  match s.sessions[(sampleId "sess" : SessionId)]? with
  | some session => s.served (sampleId "sess") session (fun _ => none) (registerFrame boot)
  | none => s

def registeredRun (boots : List String) : Coordinator :=
  boots.foldl registerOn (connected ⟨.init sampleConfig sampleIds, ∅, []⟩ (sampleId "sess"))

theorem registeredRun_reached (ends : Coordinator → ServerSession → Prop) (boots : List String) :
    TransitionSystem.Reaches (Starts sampleConfig) (Step ends) (registeredRun boots) := by
  have hconnected : TransitionSystem.Reaches (Starts sampleConfig) (Step ends)
      (connected ⟨.init sampleConfig sampleIds, ∅, []⟩ (sampleId "sess")) := by
    refine .step (.init ⟨.init sampleIds, rfl, rfl⟩) (.connect ?_)
    exact Std.ExtTreeMap.getElem?_empty
  unfold registeredRun
  generalize connected _ _ = s at hconnected
  induction boots generalizing s with
  | nil => exact hconnected
  | cons boot rest ih =>
      apply ih
      unfold registerOn
      split
      · rename_i session hserves
        exact .step hconnected (.frame _ _ hserves)
      · exact hconnected

instance (s : Coordinator) (session : ServerSession) : Decidable (EndsWell s session) :=
  inferInstanceAs (Decidable (∀ worker ∈ session.registered, s.engine.fences[worker]?.isSome = true ∨
    session.registered.head? = some worker ∧ s.engine.currentAuthorityGeneration.next.isSome = true))

theorem session_end_fences_one : ∃ session,
    (registeredRun ["bootA"]).sessions[(sampleId "sess" : SessionId)]? = some session ∧
      ((registeredRun ["bootA"]).finished (sampleId "sess") session).engine.ShutOut ⟨sampleId "pub", sampleId "bootA"⟩ := by
  have hrun := registeredRun_reached EndsWell ["bootA"]
  have hends : ((registeredRun ["bootA"]).sessions[(sampleId "sess" : SessionId)]?.map fun session =>
      (decide (EndsWell (registeredRun ["bootA"]) session),
        decide ((⟨sampleId "pub", sampleId "bootA"⟩ : WorkerKey) ∈ session.registered))) = some (true, true) := by
    decide +kernel
  generalize registeredRun ["bootA"] = s at *
  obtain ⟨session, hserves, hwell⟩ := Option.map_eq_some_iff.mp hends
  obtain ⟨hwell, hregistered⟩ := Prod.mk.inj hwell
  exact ⟨session, hserves, session_end_fences (.step hrun (.finish hserves (of_decide_eq_true hwell))) _
    (List.mem_append_left _ (of_decide_eq_true hregistered))⟩

/-- A session on which two boots have registered ends with one fence: the first boot may come back. -/
theorem session_end_fences_fails : ¬∀ config s (worker : WorkerKey),
    TransitionSystem.Reaches (Starts config) (Step fun _ _ => True) s → worker ∈ s.ended → s.engine.ShutOut worker := by
  intro h
  have hrun := registeredRun_reached (fun _ _ => True) ["bootA", "bootB"]
  have hends : ((registeredRun ["bootA", "bootB"]).sessions[(sampleId "sess" : SessionId)]?.map fun session =>
      (((registeredRun ["bootA", "bootB"]).finished (sampleId "sess") session).engine.fences[
        (⟨sampleId "pub", sampleId "bootA"⟩ : WorkerKey)]?.isSome,
        decide ((⟨sampleId "pub", sampleId "bootA"⟩ : WorkerKey) ∈ session.registered))) = some (false, true) := by
    decide +kernel
  generalize registeredRun ["bootA", "bootB"] = s at *
  obtain ⟨session, hserves, hlost⟩ := Option.map_eq_some_iff.mp hends
  obtain ⟨hunfenced, hregistered⟩ := Prod.mk.inj hlost
  have hshut := h sampleConfig _ _ (.step hrun (.finish hserves trivial))
    (List.mem_append_left _ (of_decide_eq_true hregistered))
  rw [hshut.fenced] at hunfenced
  cases hunfenced

end Coordinator

end MultipathFabric
