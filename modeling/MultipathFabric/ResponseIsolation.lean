import MultipathFabric.Operation
import MultipathFabric.Server

namespace MultipathFabric

open ByteCodec Wire

namespace Wire.WireRequest

def snapshotIn (request : WireRequest) (e : FabricEngine) : Option SetSnapshot :=
  match request.id with
  | .querySet => e.snapshot request.setId
  | .snapshotRequest => e.historicalSnapshot request.setId request.snapshotId
  | _ => none

def explanationIn (request : WireRequest) (e : FabricEngine) (external : PathId → Option PathAuthorityView) :
    Option SetExplanation :=
  match request.id with
  | .explainSet => e.explainSet request.setId (e.pathAuthority external)
  | _ => none

def listingIn (request : WireRequest) (e : FabricEngine) : Option (List MultipathSetId) :=
  match request.id with
  | .listSets => some e.listSets
  | _ => none

end Wire.WireRequest

structure Overlays (before after : WireResponse) (snapshot : Option SetSnapshot)
    (explanation : Option SetExplanation) (listing : Option (List MultipathSetId)) : Prop where
  snapshot : after.snapshot = snapshot.or before.snapshot
  explanation : after.explanation = explanation.or before.explanation
  setIds : after.setIds = listing.getD before.setIds

namespace Connection

variable {c c' : Connection} {external : PathId → Option PathAuthorityView} {request : WireRequest}

theorem dispatch_outcome (hengine : c.engine = c'.engine) (hsession : c.session.id = c'.session.id) :
    (c.dispatch external request).response.outcome = (c'.dispatch external request).response.outcome := by
  obtain ⟨e, ⟨id, publisher, workerBoot, registered⟩, r⟩ := c
  obtain ⟨e', ⟨id', publisher', workerBoot', registered'⟩, r'⟩ := c'
  cases hengine
  cases hsession
  unfold dispatch
  split
  · rfl
  · unfold register
    dsimp only
    split <;> rfl
  · dsimp only
    split
    · rfl
    · unfold perform
      dsimp only
      split
      all_goals first | rfl | skip
      · unfold supersede
        dsimp only
        split <;> rfl
      · unfold advanceSetState
        dsimp only
        split <;> rfl
      · unfold epochAdvance
        dsimp only
        split <;> rfl
      · unfold querySet
        dsimp only
        split <;> rfl
      · unfold snapshotRequest
        dsimp only
        split <;> rfl
      · unfold explainSet
        dsimp only
        split <;> rfl

theorem perform_parts (c : Connection) (external : PathId → Option PathAuthorityView) (request : WireRequest) :
    Overlays c.response (c.perform external request).response (request.snapshotIn c.engine)
      (request.explanationIn c.engine external) (request.listingIn c.engine) := by
  unfold perform WireRequest.snapshotIn WireRequest.explanationIn WireRequest.listingIn
  cases request.id
  case supersedeSet =>
    unfold supersede
    dsimp only
    split <;> exact ⟨rfl, rfl, rfl⟩
  case advanceSetState =>
    unfold advanceSetState
    dsimp only
    split <;> exact ⟨rfl, rfl, rfl⟩
  case epochAdvance =>
    unfold epochAdvance
    dsimp only
    split <;> exact ⟨rfl, rfl, rfl⟩
  case querySet =>
    unfold querySet
    dsimp only
    cases c.engine.snapshot request.setId <;> exact ⟨rfl, rfl, rfl⟩
  case snapshotRequest =>
    unfold snapshotRequest
    dsimp only
    cases c.engine.historicalSnapshot request.setId request.snapshotId <;> exact ⟨rfl, rfl, rfl⟩
  case explainSet =>
    unfold explainSet
    dsimp only
    cases c.engine.explainSet request.setId (c.engine.pathAuthority external) <;> exact ⟨rfl, rfl, rfl⟩
  all_goals exact ⟨rfl, rfl, rfl⟩

theorem dispatch_parts (c : Connection) (external : PathId → Option PathAuthorityView) (request : WireRequest) :
    Overlays c.response (c.dispatch external request).response (request.snapshotIn c.engine)
      (request.explanationIn c.engine external) (request.listingIn c.engine) := by
  unfold dispatch
  split
  · rename_i hid
    simp only [WireRequest.snapshotIn, WireRequest.explanationIn, WireRequest.listingIn, hid]
    exact ⟨rfl, rfl, rfl⟩
  · rename_i hid
    simp only [WireRequest.snapshotIn, WireRequest.explanationIn, WireRequest.listingIn, hid]
    unfold register
    dsimp only
    split <;> exact ⟨rfl, rfl, rfl⟩
  · split
    · rename_i hrefused
      rw [Bool.and_eq_true] at hrefused
      have hnone : request.snapshotIn c.engine = none ∧ request.explanationIn c.engine external = none ∧
          request.listingIn c.engine = none := by
        unfold WireRequest.snapshotIn WireRequest.explanationIn WireRequest.listingIn
        cases hid : request.id
        all_goals first | exact ⟨rfl, rfl, rfl⟩ | (rw [hid] at hrefused; cases hrefused.1)
      rw [hnone.1, hnone.2.1, hnone.2.2]
      exact ⟨rfl, rfl, rfl⟩
    · exact c.perform_parts external request

theorem dispatch_session (c : Connection) (external : PathId → Option PathAuthorityView) (request : WireRequest) :
    (c.dispatch external request).session.id = c.session.id := by
  unfold dispatch
  split
  · rfl
  · unfold register
    dsimp only
    split <;> rfl
  · split
    · rfl
    · unfold perform supersede advanceSetState epochAdvance querySet snapshotRequest explainSet
      dsimp only
      cases request.id
      all_goals first | rfl | (dsimp only; split <;> rfl)

end Connection

structure Answered where
  engine : FabricEngine
  external : PathId → Option PathAuthorityView
  request : WireRequest

/-- The states of a session, with what it has answered so far, last request first. Between two of its frames the
other sessions may bring the engine to any state. -/
inductive SessionRun (id : SessionId) : List Answered → Connection → Prop
  | accepted (e : FabricEngine) : SessionRun id [] (.accepted e id)
  | elsewhere {past : List Answered} {c : Connection} (run : SessionRun id past c) (e : FabricEngine) :
      SessionRun id past { c with engine := e }
  | answered {past : List Answered} {c : Connection} (run : SessionRun id past c)
      (external : PathId → Option PathAuthorityView) {message : MessageId} {payload : Bytes}
      {request : WireRequest} (dispatched : message ≠ .hello ∧ message ≠ .shutdown)
      (decoded : decodeRequest message payload = .ok (request, [])) :
      SessionRun id (⟨c.engine, external, request⟩ :: past)
        (c.handleFrame external (.frame message payload)).connection

def leftSnapshot (past : List Answered) : Option SetSnapshot :=
  past.findSome? fun answered => answered.request.snapshotIn answered.engine

def leftExplanation (past : List Answered) : Option SetExplanation :=
  past.findSome? fun answered => answered.request.explanationIn answered.engine answered.external

def leftSetIds (past : List Answered) : List MultipathSetId :=
  (past.findSome? fun answered => answered.request.listingIn answered.engine).getD []

theorem handleFrame_result (c : Connection) (external : PathId → Option PathAuthorityView) {message : MessageId}
    {payload : Bytes} {request : WireRequest} (hello : message ≠ .hello)
    (decoded : decodeRequest message payload = .ok (request, [])) :
    c.handleFrame external (.frame message payload) =
      ⟨c.dispatch external request, some (.result, (c.dispatch external request).response),
        message != .shutdown⟩ := by
  unfold Connection.handleFrame
  cases message
  case hello => exact absurd rfl hello
  all_goals
    dsimp only
    rw [decoded]
    rfl

theorem findSome?_cons_or {α β : Type} (f : α → Option β) (a : α) (l : List α) :
    (a :: l).findSome? f = (f a).or (l.findSome? f) := by
  rw [List.findSome?_cons]
  cases f a <;> rfl

theorem WireResponse.eq_of_parts {a b : WireResponse} (houtcome : a.outcome = b.outcome)
    (hsnapshot : a.snapshot = b.snapshot) (hexplanation : a.explanation = b.explanation)
    (hsetIds : a.setIds = b.setIds) : a = b := by
  cases a
  cases b
  simp_all

structure LeftBy (past : List Answered) (response : WireResponse) : Prop where
  snapshot : response.snapshot = leftSnapshot past
  explanation : response.explanation = leftExplanation past
  setIds : response.setIds = leftSetIds past

theorem LeftBy.answered {past : List Answered} {answered : Answered} {before after : WireResponse}
    (h : LeftBy past before)
    (parts : Overlays before after (answered.request.snapshotIn answered.engine)
      (answered.request.explanationIn answered.engine answered.external)
      (answered.request.listingIn answered.engine)) : LeftBy (answered :: past) after where
  snapshot := by
    rw [parts.snapshot, h.snapshot]
    exact (findSome?_cons_or (fun answered => answered.request.snapshotIn answered.engine) answered past).symm
  explanation := by
    rw [parts.explanation, h.explanation]
    exact (findSome?_cons_or
      (fun answered => answered.request.explanationIn answered.engine answered.external) answered past).symm
  setIds := by
    rw [parts.setIds, h.setIds, leftSetIds, leftSetIds, findSome?_cons_or]
    cases answered.request.listingIn answered.engine <;> rfl

theorem response_left {id : SessionId} {past : List Answered} {c : Connection} (run : SessionRun id past c) :
    c.session.id = id ∧ LeftBy past c.response := by
  induction run with
  | accepted e => exact ⟨rfl, rfl, rfl, rfl⟩
  | elsewhere run e ih => exact ih
  | @answered past c run external message payload request dispatched decoded ih =>
      rw [handleFrame_result c external dispatched.1 decoded]
      have hanswered : LeftBy (⟨c.engine, external, request⟩ :: past) (c.dispatch external request).response :=
        ih.2.answered (c.dispatch_parts external request)
      exact ⟨(c.dispatch_session external request).trans ih.1, hanswered⟩

/-- When nothing of an earlier answer is left in the answer to a request. -/
structure OwnAnswer (past : List Answered) (answered : Answered) : Prop where
  snapshot : (answered.request.snapshotIn answered.engine).isSome = true ∨ leftSnapshot past = none
  explanation : (answered.request.explanationIn answered.engine answered.external).isSome = true ∨
    leftExplanation past = none
  setIds : (answered.request.listingIn answered.engine).isSome = true ∨ leftSetIds past = []

theorem or_eq_self_iff {α : Type} (x y : Option α) : x.or y = x ↔ x.isSome = true ∨ y = none := by
  cases x <;> cases y <;> simp

theorem getD_eq_nil_iff {α : Type} (x : Option (List α)) (l : List α) :
    x.getD l = x.getD [] ↔ x.isSome = true ∨ l = [] := by
  cases x <;> simp

/-- The RESULT of a request is what a session that has answered nothing would send, given the same engine and
session id, exactly when the request itself sets every part that earlier requests have left behind. -/
theorem result_own_iff {id : SessionId} {past : List Answered} {c : Connection} (run : SessionRun id past c)
    (external : PathId → Option PathAuthorityView) {message : MessageId} {payload : Bytes}
    {request : WireRequest} (hello : message ≠ .hello)
    (decoded : decodeRequest message payload = .ok (request, [])) :
    (c.handleFrame external (.frame message payload)).reply =
        ((Connection.accepted c.engine id).handleFrame external (.frame message payload)).reply ↔
      OwnAnswer past ⟨c.engine, external, request⟩ := by
  obtain ⟨hsession, hleft⟩ := response_left run
  have hparts := c.dispatch_parts external request
  have hfresh := (Connection.accepted c.engine id).dispatch_parts external request
  have houtcome : (c.dispatch external request).response.outcome =
      ((Connection.accepted c.engine id).dispatch external request).response.outcome :=
    Connection.dispatch_outcome rfl hsession
  rw [handleFrame_result c external hello decoded, handleFrame_result _ external hello decoded]
  have hsnapshot := hparts.snapshot
  have hexplanation := hparts.explanation
  have hsetIds := hparts.setIds
  rw [hleft.snapshot] at hsnapshot
  rw [hleft.explanation] at hexplanation
  rw [hleft.setIds] at hsetIds
  have hfreshSnapshot : _ = request.snapshotIn c.engine := hfresh.snapshot.trans (Option.or_none ..)
  have hfreshExplanation : _ = request.explanationIn c.engine external :=
    hfresh.explanation.trans (Option.or_none ..)
  have hfreshSetIds : _ = (request.listingIn c.engine).getD [] := hfresh.setIds
  constructor
  · intro h
    have hsame := (Prod.mk.inj (Option.some.inj h)).2
    refine ⟨?_, ?_, ?_⟩
    · rw [← or_eq_self_iff, ← hsnapshot, ← hfreshSnapshot, hsame]
    · rw [← or_eq_self_iff, ← hexplanation, ← hfreshExplanation, hsame]
    · rw [← getD_eq_nil_iff, ← hsetIds, ← hfreshSetIds, hsame]
  · rintro ⟨hown, hown', hown''⟩
    rw [← or_eq_self_iff, ← hsnapshot, ← hfreshSnapshot] at hown
    rw [← or_eq_self_iff, ← hexplanation, ← hfreshExplanation] at hown'
    rw [← getD_eq_nil_iff, ← hsetIds, ← hfreshSetIds] at hown''
    rw [WireResponse.eq_of_parts houtcome hown hown' hown'']

def sampleQuery : WireRequest := { WireRequest.blank .querySet with setId := sampleSet }

def sampleAsked : Answered := ⟨sampleRun sampleSteps, fun _ => none, sampleQuery⟩

def sampleQueried : Connection :=
  ((Connection.accepted (sampleRun sampleSteps) (sampleId "sess")).handleFrame (fun _ => none)
    (.frame .querySet (encode [idField sampleSet]))).connection

theorem sampleQuery_decoded : decodeRequest .querySet (encode [idField sampleSet]) = .ok (sampleQuery, []) := by
  decide +kernel

theorem sampleQuery_answered : ((sampleRun sampleSteps).snapshot sampleSet).isSome = true := by decide +kernel

theorem result_own_iff_listing :
    ((sampleQueried.handleFrame (fun _ => none) (.frame .querySet (encode [idField sampleSet]))).reply =
        ((Connection.accepted sampleQueried.engine (sampleId "sess")).handleFrame (fun _ => none)
          (.frame .querySet (encode [idField sampleSet]))).reply ↔
      OwnAnswer [sampleAsked] ⟨sampleQueried.engine, fun _ => none, sampleQuery⟩) ∧
    ((sampleQueried.handleFrame (fun _ => none) (.frame .listSets [])).reply =
        ((Connection.accepted sampleQueried.engine (sampleId "sess")).handleFrame (fun _ => none)
          (.frame .listSets [])).reply ↔
      OwnAnswer [sampleAsked] ⟨sampleQueried.engine, fun _ => none, .blank .listSets⟩) ∧
    ¬OwnAnswer [sampleAsked] ⟨sampleQueried.engine, fun _ => none, .blank .listSets⟩ := by
  have hrun : SessionRun (sampleId "sess") [sampleAsked] sampleQueried :=
    .answered (.accepted (sampleRun sampleSteps)) (fun _ => none) (by decide) sampleQuery_decoded
  refine ⟨result_own_iff hrun _ (by decide) sampleQuery_decoded, result_own_iff hrun _ (by decide) rfl, ?_⟩
  intro hown
  rcases hown.snapshot with hshown | hleft
  · cases hshown
  · have hsnapshot := sampleQuery_answered
    have hasked : leftSnapshot [sampleAsked] = (sampleRun sampleSteps).snapshot sampleSet := by
      rw [leftSnapshot, findSome?_cons_or]
      exact Option.or_none ..
    rw [← hasked, hleft] at hsnapshot
    cases hsnapshot

/-- A listing asked for after a query carries the snapshot that the query returned. -/
theorem result_own_fails :
    ¬∀ (id : SessionId) (past₁ past₂ : List Answered) (c₁ c₂ : Connection), SessionRun id past₁ c₁ →
      SessionRun id past₂ c₂ → c₁.engine = c₂.engine →
      ∀ (external : PathId → Option PathAuthorityView) (message : MessageId) (payload : Bytes)
        (request : WireRequest), message ≠ .hello → decodeRequest message payload = .ok (request, []) →
        (c₁.handleFrame external (.frame message payload)).reply =
          (c₂.handleFrame external (.frame message payload)).reply := by
  intro h
  have hsnapshot := sampleQuery_answered
  generalize sampleRun sampleSteps = e at hsnapshot
  have hqueried : SessionRun (sampleId "sess") _ _ :=
    .answered (.accepted e) (fun _ => none) (by decide) sampleQuery_decoded
  have hrun := hqueried.elsewhere e
  have hreply := h _ _ _ _ _ (.accepted e) hrun rfl (fun _ => none) .listSets [] _ (by decide) rfl
  rw [handleFrame_result _ _ (by decide) rfl, handleFrame_result _ _ (by decide) rfl] at hreply
  have hsame := congrArg WireResponse.snapshot (Prod.mk.inj (Option.some.inj hreply)).2
  rw [(Connection.dispatch_parts _ _ _).snapshot, (Connection.dispatch_parts _ _ _).snapshot,
    (response_left hrun).2.snapshot] at hsame
  have hleft : none = e.snapshot sampleSet := hsame.trans (by rw [leftSnapshot, findSome?_cons_or]; exact Option.or_none ..)
  rw [← hleft] at hsnapshot
  cases hsnapshot

end MultipathFabric
