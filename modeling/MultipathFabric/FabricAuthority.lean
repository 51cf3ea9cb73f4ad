import MultipathFabric.Engine

namespace MultipathFabric

namespace FabricEngine

def releaseSession (e : FabricEngine) (key : WorkerKey) (session : SessionId) :
    Std.ExtTreeMap WorkerKey PublisherRegistration :=
  e.registrations.filter fun other registration => !(registration.session == session && other != key)

def registrationCheck (e : FabricEngine) (key : WorkerKey) (scope : AuthorityScope) (session : SessionId) :
    Checked Unit :=
  match e.registrations[key]? with
  | some current =>
      Checked.require (!(current.epoch == e.currentEpoch && current.session == session &&
          current.scope == scope))
        (makeOutcome .idempotent
          (text "publisher/boot is already registered with the same scope: " ++ current.render))
  | none =>
      Checked.require (decide (e.registrations.size < e.limits.maxPublishers.toNat))
        (makeRejection .resourceLimit
          (text "max_publishers limit of " ++ decimal e.limits.maxPublishers.toNat ++ text " reached"))

def registerPublisher (e : FabricEngine) (publisher : PublisherId) (workerBoot : WorkerBootId)
    (scope : AuthorityScope) (session : SessionId) : FabricEngine × FabricOutcome :=
  conclude e do
    Checked.require (publisher.valid && workerBoot.valid && session.valid)
      (makeRejection .malformedRequest
        (text "register_publisher requires a publisher, a worker boot and a session identity"))
    Checked.require scope.scopeWellFormed
      (makeRejection .unauthorizedScope
        (text "authority scope must name a fabric and a multipath namespace; default deny"))
    Checked.require (decide (scope.setIds.length ≤ e.limits.maxScopeSetIds.toNat))
      (makeRejection .resourceLimit
        (text "scope lists " ++ decimal scope.setIds.length ++
          text " set ids which exceeds max_scope_set_ids " ++ decimal e.limits.maxScopeSetIds.toNat))
    Checked.require (scope.setIds.all StrongId.valid)
      (makeRejection .malformedRequest (text "authority scope contains an invalid set identity"))
    let key : WorkerKey := ⟨publisher, workerBoot⟩
    Checked.unlessAnswered (e.fences[key]?.map fun fence =>
      makeRejection .staleWorker (text "worker boot is permanently fenced: " ++ fence.render))
    e.registrationCheck key scope session
    let released := { e with registrations := e.releaseSession key session }
    match e.currentAuthorityGeneration.next with
    | none =>
        pure (released, makeRejection .generationOverflow (text "multipath authority generation is exhausted"))
    | some nextAuthority =>
        let registration : PublisherRegistration :=
          { publisher := publisher
            workerBoot := workerBoot
            scope := scope
            epoch := e.currentEpoch
            authorityGeneration := nextAuthority
            session := session }
        pure
          ({ released with
              currentAuthorityGeneration := nextAuthority
              registrations := released.registrations.insert key registration },
            { makeOutcome .publisherRegistered (text "registered " ++ registration.render) with
              authorityGeneration := some nextAuthority })

def unregisterPublisher (e : FabricEngine) (publisher : PublisherId) (workerBoot : WorkerBootId) :
    FabricEngine × FabricOutcome :=
  conclude e do
    Checked.require (publisher.valid && workerBoot.valid)
      (makeRejection .malformedRequest
        (text "unregister_publisher requires a publisher and a worker boot identity"))
    let key : WorkerKey := ⟨publisher, workerBoot⟩
    let _ ← Checked.present e.registrations[key]?
      (makeRejection .unknownPublisher
        (text "publisher/boot is not registered: " ++ publisher.view ++ text "/" ++ workerBoot.view))
    let authority := e.currentAuthorityGeneration.next.getD e.currentAuthorityGeneration
    pure
      ({ e with
          registrations := e.registrations.erase key
          currentAuthorityGeneration := authority },
        { makeOutcome .publisherUnregistered
            (text "unregistered " ++ publisher.view ++ text "/" ++ workerBoot.view) with
          authorityGeneration := some authority })

end FabricEngine

def SetRecord.fenced (r : SetRecord) (authority : MultipathAuthorityGeneration) (epoch : CoordinatorEpoch) :
    SetRecord :=
  let r :=
    { r with
      currentness := .revalidationRequired
      authorityGeneration := authority
      governingEpoch := epoch }
  r.bumpWatermark

namespace FabricEngine

def rewriteSets (f : FabricEngine → SetRecord → Option SetRecord) :
    FabricEngine → List (MultipathSetId × SetRecord) → FabricEngine
  | e, [] => e
  | e, (setId, r) :: rest =>
      match f e r with
      | none => rewriteSets f e rest
      | some r => rewriteSets f ((e.captureSnapshot r).putSet setId r) rest

def fenceSets (e : FabricEngine) (publisher : PublisherId) : FabricEngine :=
  rewriteSets
    (fun e r =>
      if r.provenance.publisher = publisher then
        some (r.fenced e.currentAuthorityGeneration e.currentEpoch)
      else none)
    e e.sets.toList

def fenceAffected (e : FabricEngine) (publisher : PublisherId) : Nat :=
  (e.sets.filter fun _ r =>
    r.provenance.publisher == publisher && r.currentness != .revalidationRequired).size

def fenceWorker (e : FabricEngine) (publisher : PublisherId) (workerBoot : WorkerBootId) (cause : Bytes) :
    FabricEngine × FabricOutcome :=
  conclude e do
    Checked.require (publisher.valid && workerBoot.valid)
      (makeRejection .malformedRequest (text "fence_worker requires a publisher and a worker boot identity"))
    Checked.require (!cause.isEmpty && decide (cause.length ≤ 64))
      (makeRejection .malformedRequest
        (text "fence cause must be a non-empty string of at most 64 characters"))
    let key : WorkerKey := ⟨publisher, workerBoot⟩
    Checked.unlessAnswered (e.fences[key]?.map fun fence =>
      makeOutcome .idempotent (text "worker boot is already fenced: " ++ fence.render))
    let nextAuthority ← Checked.present e.currentAuthorityGeneration.next
      (makeRejection .generationOverflow (text "multipath authority generation is exhausted"))
    let fence : FenceRecord :=
      { publisher := publisher, workerBoot := workerBoot, epoch := e.currentEpoch, cause := cause }
    let fenced :=
      { e with
        fences := e.fences.insert key fence
        registrations := e.registrations.erase key
        currentAuthorityGeneration := nextAuthority }
    pure
      (fenced.fenceSets publisher,
        { makeOutcome .workerFenced
            (text "fenced " ++ publisher.view ++ text "/" ++ workerBoot.view ++ text " cause=" ++ cause ++
              text "; " ++ decimal (e.fenceAffected publisher) ++
              text " set(s) moved to currentness REVALIDATION_REQUIRED") with
          authorityGeneration := some nextAuthority })

end FabricEngine

def epochFence (epoch : CoordinatorEpoch) (key : WorkerKey) : FenceRecord :=
  { publisher := key.publisher, workerBoot := key.workerBoot, epoch := epoch, cause := text "EPOCH_ADVANCE" }

namespace FabricEngine

def fenceRegistrations (e : FabricEngine) (epoch : CoordinatorEpoch) :
    Std.ExtTreeMap WorkerKey FenceRecord :=
  e.registrations.toList.foldl (fun fences entry => fences.insert entry.1 (epochFence epoch entry.1)) e.fences

def epochAdvanced (e : FabricEngine) (r : SetRecord) : SetRecord :=
  let r :=
    { r with
      authorityGeneration := e.currentAuthorityGeneration
      governingEpoch := e.currentEpoch
      currentness := .revalidationRequired }
  e.appendHistory r.bumpWatermark .epochAdvance .epochAdvance none none none
    (text "epoch advanced to " ++ decimal e.currentEpoch.value.toNat)

def advanceEpoch (e : FabricEngine) (publisher : PublisherId) (workerBoot : WorkerBootId)
    (session : SessionId) (expectedEpoch : CoordinatorEpoch) (attempt : MutationAttemptId) :
    FabricEngine × FabricOutcome :=
  conclude e do
    Checked.require (publisher.valid && workerBoot.valid && session.valid && attempt.valid &&
        expectedEpoch.valid)
      (makeRejection .unauthorizedCaller
        (text "advance_epoch requires a publisher, worker boot, session, expected epoch and attempt identity"))
    let key : WorkerKey := ⟨publisher, workerBoot⟩
    Checked.unlessAnswered (e.fences[key]?.map fun fence =>
      makeRejection .staleWorker (text "worker boot is fenced: " ++ fence.render))
    let registration ← Checked.present e.registrations[key]?
      (makeRejection .unknownPublisher (text "publisher/boot is not registered at the governing epoch"))
    Checked.require (registration.session == session)
      (makeRejection .unauthorizedCaller
        (text "session does not own the registration for " ++ publisher.view ++ text "/" ++ workerBoot.view))
    Checked.require (expectedEpoch == e.currentEpoch)
      (makeRejection .staleEpoch
        (text "expected epoch " ++ decimal expectedEpoch.value.toNat ++
          text " is not the governing epoch " ++ decimal e.currentEpoch.value.toNat))
    let nextEpoch ← Checked.present e.currentEpoch.next
      (makeRejection .generationOverflow (text "coordinator epoch is exhausted"))
    let nextAuthority ← Checked.present e.currentAuthorityGeneration.next
      (makeRejection .generationOverflow (text "multipath authority generation is exhausted"))
    let advanced :=
      { e with
        fences := e.fenceRegistrations nextEpoch
        registrations := ∅
        currentEpoch := nextEpoch
        currentAuthorityGeneration := nextAuthority }
    pure
      (rewriteSets (fun e r => some (e.epochAdvanced r)) advanced advanced.sets.toList,
        { makeOutcome .epochAdvanced
            (text "epoch advanced to " ++ decimal nextEpoch.value.toNat ++ text "; authority generation " ++
              decimal nextAuthority.value.toNat ++ text "; all registrations fenced and " ++
              decimal e.sets.size ++ text " set(s) moved to currentness REVALIDATION_REQUIRED") with
          authorityGeneration := some nextAuthority })

end FabricEngine

end MultipathFabric
