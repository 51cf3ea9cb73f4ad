import MultipathFabric.AuthoritySpec

namespace MultipathFabric

open OrderedMap

/-- All that a step may do to the engine. -/
inductive EngineStep (e : FabricEngine) (op : Op) : FabricEngine → Prop
  | unchanged : EngineStep e op e
  | answered {q : Request} {result : FabricEngine × FabricOutcome} (request : op.request = some q)
      (answer : Answer e op q result) : EngineStep e op result.1
  | worked {setId : MultipathSetId} {r x : SetRecord} (request : op.request = none) (found : e.sets[setId]? = some r)
      (edit : RecordEdit e setId r op x []) : EngineStep e op (e.putSet setId x)
  | viewed {path : PathId} {view : Option PathAuthorityView} (applied : op.Applies path view none) :
      EngineStep e op (e.applyView path view none .pathInvalidated).1
  | released {key : WorkerKey} {session : SessionId} (unrequested : op.request = none) :
      EngineStep e op { e with registrations := e.releaseSession key session }
  | registered {key : WorkerKey} {scope : AuthorityScope} {session : SessionId}
      {authority : MultipathAuthorityGeneration} {registration : PublisherRegistration}
      (unrequested : op.request = none)
      (check : e.registrationCheck key scope session = .ok ()) :
      EngineStep e op
        { e with
          currentAuthorityGeneration := authority
          registrations := (e.releaseSession key session).insert key registration }
  | unregistered {key : WorkerKey} {authority : MultipathAuthorityGeneration} (unrequested : op.request = none) :
      EngineStep e op
        { e with registrations := e.registrations.erase key, currentAuthorityGeneration := authority }
  | fenced {key : WorkerKey} {fence : FenceRecord} {authority : MultipathAuthorityGeneration}
      (unrequested : op.request = none) :
      EngineStep e op
        (FabricEngine.fenceSets
          { e with
            fences := e.fences.insert key fence
            registrations := e.registrations.erase key
            currentAuthorityGeneration := authority } key.publisher)
  | epochAdvanced {epoch : CoordinatorEpoch} {authority : MultipathAuthorityGeneration}
      (unrequested : op.request = none) :
      EngineStep e op
        (FabricEngine.rewriteSets (fun e r => some (e.epochAdvanced r))
          { e with
            fences := e.fenceRegistrations epoch
            registrations := ∅
            currentEpoch := epoch
            currentAuthorityGeneration := authority } e.sets.toList)
  | bound {external : Bool} (unrequested : op.request = none) :
      EngineStep e op { e with externalPathAuthority := external }
  | loaded {path : Bytes} {files : StoreFiles} {decoded : DecodedStore} {fallback : Bool} {epoch : CoordinatorEpoch}
      {authority : MultipathAuthorityGeneration} (loads : op = .loadStore path files)
      (read : readAndDecode path e.limits files = .ok (decoded, fallback))
      (nextEpoch : decoded.epoch.next = some epoch) (nextAuthority : decoded.authorityGeneration.next = some authority) :
      EngineStep e op ((e.clearedForLoad decoded.fences epoch authority).installSets decoded.sets).1

namespace FabricEngine

theorem registerPublisher_engineStep (e : FabricEngine) (publisher : PublisherId) (workerBoot : WorkerBootId)
    (scope : AuthorityScope) (session : SessionId) :
    EngineStep e (.registerPublisher publisher workerBoot scope session)
      (e.registerPublisher publisher workerBoot scope session).1 := by
  unfold registerPublisher
  generalize hresult : conclude e _ = result
  rcases conclude_cases hresult with h | h
  · rw [h]
    exact .unchanged
  · simp only [Checked.bind_ok] at h
    obtain ⟨_, _, _, _, _, _, _, _, _, _, _, hcheck, h⟩ := h
    split at h
    · rw [Checked.pure_ok] at h
      subst h
      exact .released rfl
    · rw [Checked.pure_ok] at h
      subst h
      exact .registered rfl hcheck

theorem after_engineStep (e : FabricEngine) (op : Op) : EngineStep e op (e.after op) := by
  cases hrequest : op.request with
  | some q => exact .answered hrequest (exec_answer e hrequest)
  | none =>
      cases op with
      | registerPublisher publisher workerBoot scope session =>
          exact registerPublisher_engineStep e publisher workerBoot scope session
      | unregisterPublisher publisher workerBoot =>
          change EngineStep e _ (e.unregisterPublisher publisher workerBoot).1
          rcases unregisterPublisher_cases e publisher workerBoot with h | h
          · rw [h]
            exact .unchanged
          · rw [h]
            exact .unregistered rfl
      | fenceWorker publisher workerBoot cause =>
          change EngineStep e _ (e.fenceWorker publisher workerBoot cause).1
          rcases fenceWorker_cases e publisher workerBoot cause with h | ⟨authority, _, _, _, _, h⟩
          · rw [h]
            exact .unchanged
          · rw [h]
            exact @EngineStep.fenced e _ ⟨publisher, workerBoot⟩ _ authority rfl
      | advanceEpoch publisher workerBoot session expected attempt =>
          change EngineStep e _ (e.advanceEpoch publisher workerBoot session expected attempt).1
          rcases advanceEpoch_cases e publisher workerBoot session expected attempt with h | ⟨_, _, _, _, h⟩
          · rw [h]
            exact .unchanged
          · rw [h]
            exact .epochAdvanced rfl
      | beginMemberRevalidation context setId memberId attempt =>
          change EngineStep e _ (e.beginMemberRevalidation context setId memberId attempt).1
          rcases beginMemberRevalidation_cases e context setId memberId attempt with ⟨h, _⟩ | ⟨_, _, _, hfound, hedit, h, _⟩
          · rw [h]
            exact .unchanged
          · rw [h]
            exact .worked hrequest hfound hedit
      | abandonMemberRevalidation ticket =>
          change EngineStep e _ (e.abandonMemberRevalidation ticket).1
          rcases abandonMemberRevalidation_cases e ticket with ⟨h, _⟩ | ⟨_, _, hfound, hedit, h, _⟩
          · rw [h]
            exact .unchanged
          · rw [h]
            exact .worked hrequest hfound hedit
      | refreshPath context path view =>
          cases view with
          | none =>
              change EngineStep e _ (e.refreshPathLocked context path none).1
              rw [(refreshPathLocked_unknown e context path).1]
              exact .unchanged
          | some view => cases hrequest
      | reconcilePath path used observed =>
          change EngineStep e _ (e.reconcilePath path used observed)
          unfold reconcilePath
          split
          · exact .unchanged
          · exact .viewed (.reconcile path used observed)
      | bindPathAuthority external => exact .bound rfl
      | loadStore path files =>
          change EngineStep e _ (e.loadStore path files).1
          rcases loadStore_cases e path files with h | ⟨decoded, fallback, epoch, authority, hread, hepoch, hauthority, h⟩
          · rw [h]
            exact .unchanged
          · rw [h]
            exact .loaded rfl hread hepoch hauthority
      | _ => cases hrequest

variable {p : FabricEngine → Prop}

inductive Observes (e : FabricEngine) (path : PathId) (view : Option PathAuthorityView)
    (context : Option MutationContext) (cause : MembershipCause) (r : SetRecord) : SetRecord → Prop
  | observed {m : MemberRecord} (found : r.members[path]? = some m)
      (same : (m.evaluate r.conditionalAuthorityPermitted view false).lifecycle = m.lifecycle ∧
        (m.evaluate r.conditionalAuthorityPermitted view false).currentness = m.currentness) :
      Observes e path view context cause r (r.withMember path (m.evaluate r.conditionalAuthorityPermitted view false))
  | invalidated {stamp : FabricEngine} {m : MemberRecord} (bounds : stamp.limits = e.limits)
      (found : r.members[path]? = some m) :
      Observes e path view context cause r
        (stamp.dependencyInvalidated r path (m.evaluate r.conditionalAuthorityPermitted view false) context cause)

theorem applyView_preserves {path : PathId} {view : Option PathAuthorityView} {context : Option MutationContext}
    {cause : MembershipCause}
    (put : ∀ e setId r x, p e → e.sets[setId]? = some r → Observes e path view context cause r x → p (e.putSet setId x))
    (capture : ∀ e r, p e → p (e.captureSnapshot r)) {e : FabricEngine} (h : p e) :
    p (e.applyView path view context cause).1 := by
  have hset : ∀ e setId, p e → p (e.applyViewToSet setId path view context cause).1 := by
    intro e setId h
    unfold applyViewToSet
    split
    · exact h
    · rename_i r hfound
      split
      · exact h
      · split
        · exact h
        · rename_i m hm
          dsimp only
          split
          · rename_i hsame
            exact put e setId r _ h hfound (.observed hm hsame)
          · refine put _ setId r _ (capture e _ h) ?_ ?_
            · rw [captureSnapshot_sets]
              exact hfound
            · exact .invalidated (captureSnapshot_keeps e _).limits.symm hm
  have hsets : ∀ (dependents : List MultipathSetId) (e : FabricEngine), p e →
      p (applyViewToSets path view context cause e dependents).1 := by
    intro dependents
    induction dependents with
    | nil => exact fun _ h => h
    | cons setId rest ih => exact fun e h => ih _ (hset e setId h)
  unfold applyView
  split
  · exact h
  · exact hsets _ e h

theorem rewriteSets_preserves {f : FabricEngine → SetRecord → Option SetRecord}
    (put : ∀ e setId r x, p e → e.sets[setId]? = some r → f e r = some x → p ((e.captureSnapshot x).putSet setId x))
    {entries : List (MultipathSetId × SetRecord)} (distinct : (entries.map Prod.fst).Nodup) {e : FabricEngine}
    (found : ∀ entry ∈ entries, e.sets[entry.1]? = some entry.2) (h : p e) : p (rewriteSets f e entries) := by
  induction entries generalizing e with
  | nil => exact h
  | cons entry rest ih =>
      obtain ⟨setId, r⟩ := entry
      rw [List.map_cons, List.nodup_cons] at distinct
      unfold rewriteSets
      split
      · exact ih distinct.2 (fun entry hentry => found entry (List.mem_cons_of_mem _ hentry)) h
      · rename_i x hx
        refine ih distinct.2 (fun entry hentry => ?_) (put e setId r x h (found _ List.mem_cons_self) hx)
        rw [putSet, captureSnapshot_sets, getElem?_insert_eq, if_neg]
        · exact found entry (List.mem_cons_of_mem _ hentry)
        · intro heq
          apply distinct.1
          change setId = entry.1 at heq
          rw [heq]
          exact List.mem_map.mpr ⟨entry, hentry, rfl⟩

theorem rewriteAll_preserves {f : FabricEngine → SetRecord → Option SetRecord}
    (put : ∀ e setId r x, p e → e.sets[setId]? = some r → f e r = some x → p ((e.captureSnapshot x).putSet setId x))
    {e : FabricEngine} (h : p e) : p (rewriteSets f e e.sets.toList) :=
  rewriteSets_preserves put (nodup_keys e.sets)
    (fun _ hentry => Std.ExtTreeMap.mem_toList_iff_getElem?_eq_some.mp hentry) h

theorem installSets_preserves {stored : List SetRecord}
    (install : ∀ e, ∀ r ∈ stored, p e → e.keyIndex[r.key]? = none → e.sets[r.id]? = none → p (e.installSet r))
    {e : FabricEngine} (h : p e) : p (e.installSets stored).1 := by
  induction stored generalizing e with
  | nil => exact h
  | cons r rest ih =>
      unfold installSets
      split
      · exact h
      · rename_i hkey
        split
        · exact h
        · rename_i hid
          rw [Option.not_isSome_iff_eq_none] at hkey hid
          exact ih (fun e s hs => install e s (List.mem_cons_of_mem _ hs)) (install e r List.mem_cons_self h hkey hid)

end FabricEngine

end MultipathFabric
