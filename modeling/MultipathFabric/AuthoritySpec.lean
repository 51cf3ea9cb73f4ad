import MultipathFabric.RevalidationSpec

namespace MultipathFabric

open OrderedMap

namespace FabricEngine

structure SameStamp (e e' : FabricEngine) : Prop where
  limits : e'.limits = e.limits
  epoch : e'.currentEpoch = e.currentEpoch
  authority : e'.currentAuthorityGeneration = e.currentAuthorityGeneration

theorem SameStamp.refl (e : FabricEngine) : SameStamp e e := ⟨rfl, rfl, rfl⟩

theorem Keeps.stamp {e e' : FabricEngine} (h : Keeps e e') : SameStamp e e' := ⟨h.limits, h.epoch, h.authority⟩

theorem SameStamp.trans {a b c : FabricEngine} (h : SameStamp a b) (h' : SameStamp b c) : SameStamp a c :=
  ⟨h'.limits.trans h.limits, h'.epoch.trans h.epoch, h'.authority.trans h.authority⟩

theorem rewriteSets_keeps (f : FabricEngine → SetRecord → Option SetRecord) (e : FabricEngine)
    (entries : List (MultipathSetId × SetRecord)) : Keeps e (rewriteSets f e entries) := by
  induction entries generalizing e with
  | nil => exact .refl e
  | cons entry rest ih =>
      simp only [rewriteSets]
      split
      · exact ih e
      · exact (captureSnapshot_keeps _ _).trans ((putSet_keeps _ _ _).trans (ih _))

theorem rewriteSets_sets {f : FabricEngine → SetRecord → Option SetRecord} {base : FabricEngine}
    (hstamp : ∀ e, SameStamp base e → f e = f base) (entries : List (MultipathSetId × SetRecord))
    (hdistinct : (entries.map Prod.fst).Nodup) {e : FabricEngine} (hbase : SameStamp base e)
    (other : MultipathSetId) :
    (∀ r, (other, r) ∈ entries → e.sets[other]? = some r →
      (rewriteSets f e entries).sets[other]? = some ((f base r).getD r)) ∧
    (other ∉ entries.map Prod.fst → (rewriteSets f e entries).sets[other]? = e.sets[other]?) := by
  induction entries generalizing e with
  | nil => exact ⟨fun r h => (List.not_mem_nil h).elim, fun _ => rfl⟩
  | cons entry rest ih =>
      obtain ⟨setId, r⟩ := entry
      rw [List.map_cons, List.nodup_cons] at hdistinct
      obtain ⟨hnotin, hrest⟩ := hdistinct
      simp only [rewriteSets, hstamp e hbase]
      cases hf : f base r with
      | none =>
          obtain ⟨hin, hout⟩ := ih hrest hbase
          refine ⟨fun s hmem hfound => ?_, fun hnot => hout fun hmem => hnot (List.mem_cons_of_mem _ hmem)⟩
          rcases List.mem_cons.mp hmem with heq | hmem
          · obtain ⟨rfl, rfl⟩ := Prod.mk.inj heq
            rw [hout hnotin, hfound, hf]
            rfl
          · exact hin s hmem hfound
      | some r' =>
          have hkeeps : Keeps e ((e.captureSnapshot r').putSet setId r') :=
            (captureSnapshot_keeps _ _).trans (putSet_keeps _ _ _)
          have hsets : ((e.captureSnapshot r').putSet setId r').sets[other]? =
              if setId = other then some r' else e.sets[other]? := by
            rw [putSet, captureSnapshot_sets, getElem?_insert_eq]
          obtain ⟨hin, hout⟩ := ih hrest (hbase.trans hkeeps.stamp)
          refine ⟨fun s hmem hfound => ?_, fun hnot => ?_⟩
          · rcases List.mem_cons.mp hmem with heq | hmem
            · obtain ⟨rfl, rfl⟩ := Prod.mk.inj heq
              rw [hout hnotin, hsets, if_pos rfl, hf]
              rfl
            · have hne : setId ≠ other := by
                rintro rfl
                exact hnotin (List.mem_map.mpr ⟨_, hmem, rfl⟩)
              refine hin s hmem ?_
              rw [hsets, if_neg hne, hfound]
          · rw [List.map_cons, List.mem_cons, not_or] at hnot
            rw [hout hnot.2, hsets, if_neg fun h => hnot.1 h.symm]

theorem rewriteSets_step {f : FabricEngine → SetRecord → Option SetRecord} {base : FabricEngine}
    (hstamp : ∀ e, SameStamp base e → f e = f base) (other : MultipathSetId) :
    (rewriteSets f base base.sets.toList).sets[other]? =
      base.sets[other]?.map fun r => (f base r).getD r := by
  obtain ⟨hin, hout⟩ :=
    rewriteSets_sets hstamp base.sets.toList (nodup_keys base.sets) (SameStamp.refl base) other
  cases hfound : base.sets[other]? with
  | none =>
      rw [hout, hfound]
      · rfl
      · intro hmem
        obtain ⟨⟨setId, r⟩, hentry, rfl⟩ := List.mem_map.mp hmem
        have hsome := Std.ExtTreeMap.mem_toList_iff_getElem?_eq_some.mp hentry
        rw [hfound] at hsome
        cases hsome
  | some r => exact hin r (Std.ExtTreeMap.mem_toList_iff_getElem?_eq_some.mpr hfound) hfound

theorem registerPublisher_cases (e : FabricEngine) (publisher : PublisherId) (workerBoot : WorkerBootId)
    (scope : AuthorityScope) (session : SessionId) :
    (e.registerPublisher publisher workerBoot scope session).1 = e ∨
    (publisher.valid = true ∧ workerBoot.valid = true ∧ scope.setIds.length ≤ e.limits.maxScopeSetIds.toNat ∧
      ((e.registerPublisher publisher workerBoot scope session).1 =
          { e with registrations := e.releaseSession ⟨publisher, workerBoot⟩ session } ∨
        ∃ authority, e.currentAuthorityGeneration.next = some authority ∧
          (e.registerPublisher publisher workerBoot scope session).1 =
            { e with
              currentAuthorityGeneration := authority
              registrations := (e.releaseSession ⟨publisher, workerBoot⟩ session).insert ⟨publisher, workerBoot⟩
                { publisher := publisher
                  workerBoot := workerBoot
                  scope := scope
                  epoch := e.currentEpoch
                  authorityGeneration := authority
                  session := session } })) := by
  unfold registerPublisher
  generalize hresult : conclude e _ = result
  rcases conclude_cases hresult with h | h
  · exact .inl h
  · simp only [Checked.bind_ok, Checked.require_ok, Bool.and_eq_true, decide_eq_true_eq] at h
    obtain ⟨_, ⟨⟨hpublisher, hboot⟩, _⟩, _, _, _, hscope, _, _, _, _, _, _, h⟩ := h
    refine .inr ⟨hpublisher, hboot, hscope, ?_⟩
    split at h
    · rw [Checked.pure_ok] at h
      subst h
      exact .inl rfl
    · rename_i authority hnext
      rw [Checked.pure_ok] at h
      subst h
      exact .inr ⟨authority, hnext, rfl⟩

theorem unregisterPublisher_cases (e : FabricEngine) (publisher : PublisherId) (workerBoot : WorkerBootId) :
    (e.unregisterPublisher publisher workerBoot).1 = e ∨
      (e.unregisterPublisher publisher workerBoot).1 =
        { e with
          registrations := e.registrations.erase ⟨publisher, workerBoot⟩
          currentAuthorityGeneration := e.currentAuthorityGeneration.next.getD e.currentAuthorityGeneration } := by
  unfold unregisterPublisher
  generalize hresult : conclude e _ = result
  rcases conclude_cases hresult with h | h
  · exact .inl h
  · simp only [Checked.bind_ok, Checked.pure_ok] at h
    obtain ⟨_, _, _, _, rfl⟩ := h
    exact .inr rfl

theorem fenceWorker_cases (e : FabricEngine) (publisher : PublisherId) (workerBoot : WorkerBootId)
    (cause : Bytes) :
    (e.fenceWorker publisher workerBoot cause).1 = e ∨
    ∃ authority, e.currentAuthorityGeneration.next = some authority ∧ publisher.valid = true ∧
      workerBoot.valid = true ∧ cause.length ≤ 64 ∧
      (e.fenceWorker publisher workerBoot cause).1 =
        fenceSets
          { e with
            fences := e.fences.insert ⟨publisher, workerBoot⟩
              { publisher := publisher, workerBoot := workerBoot, epoch := e.currentEpoch, cause := cause }
            registrations := e.registrations.erase ⟨publisher, workerBoot⟩
            currentAuthorityGeneration := authority }
          publisher := by
  unfold fenceWorker
  generalize hresult : conclude e _ = result
  rcases conclude_cases hresult with h | h
  · exact .inl h
  · simp only [Checked.bind_ok, Checked.require_ok, Checked.present_ok, Checked.pure_ok, Bool.and_eq_true,
      decide_eq_true_eq] at h
    obtain ⟨_, ⟨hpublisher, hboot⟩, _, ⟨_, hcause⟩, _, _, authority, hnext, rfl⟩ := h
    exact .inr ⟨authority, hnext, hpublisher, hboot, hcause, rfl⟩

theorem fenceSets_step (e : FabricEngine) (publisher : PublisherId) (other : MultipathSetId) :
    (e.fenceSets publisher).sets[other]? = e.sets[other]?.map fun r =>
      if r.provenance.publisher = publisher then r.fenced e.currentAuthorityGeneration e.currentEpoch else r := by
  have hstamp : ∀ e', SameStamp e e' →
      (fun r : SetRecord =>
        if r.provenance.publisher = publisher then
          some (r.fenced e'.currentAuthorityGeneration e'.currentEpoch)
        else none) =
      (fun r : SetRecord =>
        if r.provenance.publisher = publisher then
          some (r.fenced e.currentAuthorityGeneration e.currentEpoch)
        else none) := by
    intro e' h
    rw [h.authority, h.epoch]
  rw [fenceSets, rewriteSets_step hstamp]
  congr 1
  funext r
  split <;> rfl

theorem fenceWorker_step (e : FabricEngine) (publisher : PublisherId) (workerBoot : WorkerBootId)
    (cause : Bytes) (other : MultipathSetId) :
    SetStep e (.fenceWorker publisher workerBoot cause) other e.sets[other]?
      (e.fenceWorker publisher workerBoot cause).1.sets[other]? := by
  rcases fenceWorker_cases e publisher workerBoot cause with h | ⟨authority, hnext, _, _, _, h⟩
  · rw [h]
    exact .kept _
  · rw [h, fenceSets_step]
    cases e.sets[other]? with
    | none => exact .kept _
    | some r =>
        rw [Option.map_some]
        split
        · rename_i howner
          exact .fenced rfl hnext howner
        · exact .kept _

theorem advanceEpoch_cases (e : FabricEngine) (publisher : PublisherId) (workerBoot : WorkerBootId)
    (session : SessionId) (expected : CoordinatorEpoch) (attempt : MutationAttemptId) :
    (e.advanceEpoch publisher workerBoot session expected attempt).1 = e ∨
    ∃ epoch authority, e.currentEpoch.next = some epoch ∧ e.currentAuthorityGeneration.next = some authority ∧
      (e.advanceEpoch publisher workerBoot session expected attempt).1 =
        rewriteSets (fun e r => some (e.epochAdvanced r))
          { e with
            fences := e.fenceRegistrations epoch
            registrations := ∅
            currentEpoch := epoch
            currentAuthorityGeneration := authority } e.sets.toList := by
  unfold advanceEpoch
  generalize hresult : conclude e _ = result
  rcases conclude_cases hresult with h | h
  · exact .inl h
  · simp only [Checked.bind_ok, Checked.present_ok, Checked.pure_ok] at h
    obtain ⟨_, _, _, _, _, _, _, _, _, _, epoch, hepoch, authority, hauthority, rfl⟩ := h
    exact .inr ⟨epoch, authority, hepoch, hauthority, rfl⟩

theorem epochAdvanced_congr {base e : FabricEngine} (h : SameStamp base e) :
    (fun r => some (e.epochAdvanced r)) = fun r => some (base.epochAdvanced r) := by
  funext r
  simp only [epochAdvanced, appendHistory, h.limits, h.epoch, h.authority]

theorem advanceEpoch_step (e : FabricEngine) (publisher : PublisherId) (workerBoot : WorkerBootId)
    (session : SessionId) (expected : CoordinatorEpoch) (attempt : MutationAttemptId) (other : MultipathSetId) :
    SetStep e (.advanceEpoch publisher workerBoot session expected attempt) other e.sets[other]?
      (e.advanceEpoch publisher workerBoot session expected attempt).1.sets[other]? := by
  rcases advanceEpoch_cases e publisher workerBoot session expected attempt with
    h | ⟨epoch, authority, hepoch, hauthority, h⟩
  · rw [h]
    exact .kept _
  · have hrewrite : (e.advanceEpoch publisher workerBoot session expected attempt).1.sets[other]? =
        e.sets[other]?.map fun r =>
          ({ e with
            fences := e.fenceRegistrations epoch
            registrations := ∅
            currentEpoch := epoch
            currentAuthorityGeneration := authority } : FabricEngine).epochAdvanced r := by
      rw [h]
      exact rewriteSets_step (fun _ => epochAdvanced_congr) other
    rw [hrewrite]
    cases e.sets[other]? with
    | none => exact .kept _
    | some r =>
        exact .epochAdvanced rfl rfl hepoch hauthority

theorem createSet_cases (e : FabricEngine) (context : MutationContext) (key : SetKey) (options : SetOptions) :
    (e.createSet context key options).1 = e ∨
    (context.hasCallerIdentity = true ∧ key.valid = true ∧ e.keyIndex[key]? = none ∧
      e.sets.size < e.limits.maxSets.toNat ∧ options.minimumUsableMembers ≤ e.limits.maxMembersPerSet ∧
      ∃ stored, stored = e.appendHistory
          (e.sets[e.ids.nextSetId.1]?.getD (e.declaredRecord context e.ids.nextSetId.1 key options)) .declare
          .declared (some context) none none
          (text "declared set " ++ key.render ++ text " minimum=" ++
            decimal options.minimumUsableMembers.toNat) ∧
        (e.createSet context key options).1.sets = e.sets.insert e.ids.nextSetId.1 stored ∧
        (e.createSet context key options).1.keyIndex = e.keyIndex.insert key e.ids.nextSetId.1 ∧
        SameStamp e (e.createSet context key options).1 ∧
        (e.createSet context key options).1.fences = e.fences ∧
        (e.createSet context key options).1.registrations = e.registrations) := by
  unfold createSet
  generalize hresult : conclude e _ = result
  rcases conclude_cases hresult with h | h
  · exact .inl h
  · simp only [Checked.bind_ok, Checked.require_ok, Checked.pure_ok, decide_eq_true_eq,
      Option.isNone_iff_eq_none] at h
    obtain ⟨_, hkey, _, hauthority, _, _, _, hfresh, _, hroom, _, hbound, rfl⟩ := h
    have hcapture := captureSnapshot_keeps { e with
      ids := e.ids.nextSetId.2
      keyIndex := e.keyIndex.insert key e.ids.nextSetId.1 }
    refine .inr ⟨(authorityCheck_ok hauthority).1, hkey, hfresh, hroom, hbound, _, rfl, ?_, ?_, ?_, ?_, ?_⟩
    · simp only [recordAttempt, putSet, captureSnapshot_sets]
    · exact (hcapture _).keyIndex
    · exact ⟨(hcapture _).limits, (hcapture _).epoch, (hcapture _).authority⟩
    · exact (hcapture _).fences
    · exact (hcapture _).registrations

theorem createSet_step (e : FabricEngine) (context : MutationContext) (key : SetKey) (options : SetOptions)
    (other : MultipathSetId) :
    SetStep e (.createSet context key options) other e.sets[other]?
      (e.createSet context key options).1.sets[other]? := by
  rcases createSet_cases e context key options with
    h | ⟨hcaller, hkey, _, _, hbound, stored, hstored, hsets, _⟩
  · rw [h]
    exact .kept _
  · rw [hsets, getElem?_insert_eq]
    split
    · rename_i hminted
      rw [hminted] at hstored
      rw [hstored]
      cases e.sets[other]? with
      | none => exact .created rfl hcaller hkey hbound hminted
      | some r => exact .changed (.collided context key options hminted) .same
    · exact .kept _

theorem declarePathAuthority_cases (e : FabricEngine) (context : MutationContext) (view : PathAuthorityView) :
    (e.declarePathAuthority context view).1 = e ∨
    ∃ operation fields outcome,
      (e.declarePathAuthority context view).1 =
        (FabricEngine.applyView { e with directory := e.directory.set view } view.path (some view) (some context)
          .pathInvalidated).1.recordAttempt context operation fields outcome := by
  unfold declarePathAuthority
  generalize hresult : conclude e _ = result
  rcases conclude_cases hresult with h | h
  · exact .inl h
  · simp only [Checked.bind_ok, Checked.pure_ok] at h
    obtain ⟨_, _, _, _, _, _, _, _, _, _, rfl⟩ := h
    exact .inr ⟨_, _, _, rfl⟩

theorem declarePathAuthority_step (e : FabricEngine) (context : MutationContext) (view : PathAuthorityView)
    (other : MultipathSetId) :
    SetStep e (.declarePathAuthority context view) other e.sets[other]?
      (e.declarePathAuthority context view).1.sets[other]? := by
  rcases declarePathAuthority_cases e context view with h | ⟨operation, fields, outcome, h⟩
  · rw [h]
    exact .kept _
  · obtain ⟨declared, hdeclared⟩ : ∃ declared : FabricEngine, declared =
        { e with directory := e.directory.set view } := ⟨_, rfl⟩
    have hsets : declared.sets = e.sets := by rw [hdeclared]
    rw [h, ← hdeclared, ← hsets]
    exact applyView_step (by rw [hdeclared]) (by rw [hdeclared]) (.declare context view) other

theorem indexPaths_sets (setId : MultipathSetId) (paths : List PathId) (e : FabricEngine) :
    (paths.foldl (fun e path => e.indexPath setId path) e).sets = e.sets := by
  induction paths generalizing e with
  | nil => rfl
  | cons path rest ih => exact ih _

theorem indexPaths_keeps (setId : MultipathSetId) (paths : List PathId) (e : FabricEngine) :
    Keeps e (paths.foldl (fun e path => e.indexPath setId path) e) := by
  induction paths generalizing e with
  | nil => exact .refl e
  | cons path rest ih => exact (indexPath_keeps e setId path).trans (ih _)

def installSet (e : FabricEngine) (r : SetRecord) : FabricEngine :=
  let recovered := e.recoveredSet r
  let installed := e.putSet recovered.id recovered
  let installed := { installed with keyIndex := installed.keyIndex.insert recovered.key recovered.id }
  let installed := recovered.members.keys.foldl (fun e path => e.indexPath recovered.id path) installed
  let installed := { installed with totalMembers := installed.totalMembers + recovered.members.size }
  installed.captureSnapshot recovered

theorem installSet_sets (e : FabricEngine) (r : SetRecord) :
    (e.installSet r).sets = e.sets.insert r.id (e.recoveredSet r) := by
  simp only [installSet, captureSnapshot_sets, indexPaths_sets]
  rfl

theorem installSet_stamp (e : FabricEngine) (r : SetRecord) : SameStamp e (e.installSet r) := by
  have hindex := indexPaths_keeps (e.recoveredSet r).id (e.recoveredSet r).members.keys
    { e.putSet (e.recoveredSet r).id (e.recoveredSet r) with
      keyIndex := e.keyIndex.insert (e.recoveredSet r).key (e.recoveredSet r).id }
  refine SameStamp.trans ⟨hindex.limits, hindex.epoch, hindex.authority⟩ (SameStamp.trans ?_
    (captureSnapshot_keeps _ _).stamp)
  exact ⟨rfl, rfl, rfl⟩

theorem recoveredSet_congr {base e : FabricEngine} (h : SameStamp base e) (r : SetRecord) :
    e.recoveredSet r = base.recoveredSet r := by
  simp only [recoveredSet, appendHistory, h.limits, h.epoch, h.authority]

theorem installSets_stamp (e : FabricEngine) (stored : List SetRecord) : SameStamp e (e.installSets stored).1 := by
  induction stored generalizing e with
  | nil => exact .refl e
  | cons r rest ih =>
      unfold installSets
      split
      · exact .refl e
      · split
        · exact .refl e
        · exact (e.installSet_stamp r).trans (ih _)

theorem installSets_sets (e : FabricEngine) (stored : List SetRecord) (other : MultipathSetId) :
    (e.installSets stored).1.sets[other]? = e.sets[other]? ∨
      ∃ r ∈ stored, r.id = other ∧ (e.installSets stored).1.sets[other]? = some (e.recoveredSet r) := by
  induction stored generalizing e with
  | nil => exact .inl rfl
  | cons r rest ih =>
      unfold installSets
      split
      · exact .inl rfl
      · split
        · exact .inl rfl
        · rcases ih (e.installSet r) with h | ⟨s, hmem, hid, h⟩
          · rw [installSet_sets, getElem?_insert_eq] at h
            split at h
            · rename_i hid
              exact .inr ⟨r, List.mem_cons_self, hid, h⟩
            · exact .inl h
          · rw [recoveredSet_congr (e.installSet_stamp r)] at h
            exact .inr ⟨s, List.mem_cons_of_mem _ hmem, hid, h⟩

theorem loadStore_cases (e : FabricEngine) (path : Bytes) (files : StoreFiles) :
    (e.loadStore path files).1 = e ∨
    ∃ decoded fallback epoch authority,
      readAndDecode path e.limits files = .ok (decoded, fallback) ∧
      decoded.epoch.next = some epoch ∧ decoded.authorityGeneration.next = some authority ∧
      (e.loadStore path files).1 =
        ((e.clearedForLoad decoded.fences epoch authority).installSets decoded.sets).1 := by
  unfold loadStore
  split
  · exact .inl rfl
  · split
    · exact .inl rfl
    · rename_i decoded fallback hread
      unfold loadDecoded
      generalize hresult : conclude e _ = result
      rcases conclude_cases hresult with h | h
      · exact .inl h
      · simp only [Checked.bind_ok, Checked.present_ok, Checked.pure_ok] at h
        obtain ⟨epoch, hepoch, authority, hauthority, rfl⟩ := h
        refine .inr ⟨decoded, fallback, epoch, authority, hread, hepoch, hauthority, ?_⟩
        split <;> rfl

theorem loadStore_step (e : FabricEngine) (path : Bytes) (files : StoreFiles) (other : MultipathSetId) :
    SetStep e (.loadStore path files) other e.sets[other]? (e.loadStore path files).1.sets[other]? := by
  rcases loadStore_cases e path files with h | ⟨decoded, fallback, epoch, authority, hread, hepoch, hauthority, h⟩
  · rw [h]
    exact .kept _
  · rw [h]
    rcases installSets_sets (e.clearedForLoad decoded.fences epoch authority) decoded.sets other with
      hempty | ⟨r, hmem, hid, hrecovered⟩
    · rw [hempty]
      exact .cleared rfl _
    · rw [hrecovered]
      have hbounds : (e.clearedForLoad decoded.fences epoch authority).limits = e.limits := rfl
      exact .recovered rfl hread hmem hid hbounds hepoch hauthority _

end FabricEngine

def Op.administers : Op → Bool
  | .registerPublisher _ _ _ _ | .unregisterPublisher _ _ | .fenceWorker _ _ _ | .advanceEpoch _ _ _ _ _
  | .createSet _ _ _ | .declarePathAuthority _ _ | .bindPathAuthority _ | .loadStore _ _ => true
  | _ => false

namespace FabricEngine

theorem after_effect (e : FabricEngine) {op : Op} (h : op.administers = false) : Effect e op (e.after op) := by
  cases op with
  | registerPublisher | unregisterPublisher | fenceWorker | advanceEpoch | createSet | declarePathAuthority
  | bindPathAuthority | loadStore => cases h
  | beginMemberRevalidation context setId memberId attempt =>
      change Effect e _ (e.beginMemberRevalidation context setId memberId attempt).1
      rcases beginMemberRevalidation_cases e context setId memberId attempt with
        ⟨hsame, _⟩ | ⟨_, r, x, hfound, hedit, hput, _⟩
      · rw [hsame]
        exact .none e _
      · rw [hput]
        exact .put hfound hedit
  | abandonMemberRevalidation ticket =>
      change Effect e _ (e.abandonMemberRevalidation ticket).1
      rcases abandonMemberRevalidation_cases e ticket with ⟨hsame, _⟩ | ⟨r, x, hfound, hedit, hput, _⟩
      · rw [hsame]
        exact .none e _
      · rw [hput]
        exact .put hfound hedit
  | reconcilePath path used observed => exact reconcilePath_effect e path used observed
  | refreshPath context path view =>
      cases view with
      | none =>
          change Effect e _ (e.refreshPathLocked context path none).1
          rw [(refreshPathLocked_unknown e context path).1]
          exact .none e _
      | some view => exact (exec_answer e rfl).effect rfl (fun _ _ h => by cases h) fun _ h => by cases h
  | _ => exact (exec_answer e rfl).effect rfl (fun _ _ h => by cases h) fun _ h => by cases h

theorem registerPublisher_sets (e : FabricEngine) (publisher : PublisherId) (workerBoot : WorkerBootId)
    (scope : AuthorityScope) (session : SessionId) :
    (e.registerPublisher publisher workerBoot scope session).1.sets = e.sets := by
  rcases registerPublisher_cases e publisher workerBoot scope session with h | ⟨_, _, _, h | ⟨_, _, h⟩⟩ <;> rw [h]

theorem unregisterPublisher_sets (e : FabricEngine) (publisher : PublisherId) (workerBoot : WorkerBootId) :
    (e.unregisterPublisher publisher workerBoot).1.sets = e.sets := by
  rcases unregisterPublisher_cases e publisher workerBoot with h | h <;> rw [h]

theorem after_sets (e : FabricEngine) (op : Op) (other : MultipathSetId) :
    SetStep e op other e.sets[other]? (e.after op).sets[other]? := by
  by_cases h : op.administers = true
  · cases op with
    | registerPublisher publisher workerBoot scope session =>
        have hsets := registerPublisher_sets e publisher workerBoot scope session
        change SetStep e _ other e.sets[other]?
          (e.registerPublisher publisher workerBoot scope session).1.sets[other]?
        rw [hsets]
        exact .kept _
    | unregisterPublisher publisher workerBoot =>
        have hsets := unregisterPublisher_sets e publisher workerBoot
        change SetStep e _ other e.sets[other]? (e.unregisterPublisher publisher workerBoot).1.sets[other]?
        rw [hsets]
        exact .kept _
    | fenceWorker publisher workerBoot cause => exact fenceWorker_step e publisher workerBoot cause other
    | advanceEpoch publisher workerBoot session expected attempt =>
        exact advanceEpoch_step e publisher workerBoot session expected attempt other
    | createSet context key options => exact createSet_step e context key options other
    | declarePathAuthority context view => exact declarePathAuthority_step e context view other
    | bindPathAuthority external => exact .kept _
    | loadStore path files => exact loadStore_step e path files other
    | _ => cases h
  · exact (after_effect e (by simpa using h)).sets other

theorem after_limits (e : FabricEngine) (op : Op) : (e.after op).limits = e.limits := by
  by_cases h : op.administers = true
  · cases op with
    | registerPublisher publisher workerBoot scope session =>
        change (e.registerPublisher publisher workerBoot scope session).1.limits = _
        rcases registerPublisher_cases e publisher workerBoot scope session with
          h | ⟨_, _, _, h | ⟨_, _, h⟩⟩ <;> rw [h]
    | unregisterPublisher publisher workerBoot =>
        change (e.unregisterPublisher publisher workerBoot).1.limits = _
        rcases unregisterPublisher_cases e publisher workerBoot with h | h <;> rw [h]
    | fenceWorker publisher workerBoot cause =>
        change (e.fenceWorker publisher workerBoot cause).1.limits = _
        rcases fenceWorker_cases e publisher workerBoot cause with h | ⟨_, _, _, _, _, h⟩
        · rw [h]
        · rw [h]
          exact (rewriteSets_keeps _ _ _).limits
    | advanceEpoch publisher workerBoot session expected attempt =>
        change (e.advanceEpoch publisher workerBoot session expected attempt).1.limits = _
        rcases advanceEpoch_cases e publisher workerBoot session expected attempt with h | ⟨_, _, _, _, h⟩
        · rw [h]
        · rw [h]
          exact (rewriteSets_keeps _ _ _).limits
    | createSet context key options =>
        change (e.createSet context key options).1.limits = _
        rcases createSet_cases e context key options with h | ⟨_, _, _, _, _, _, _, _, _, hstamp, _⟩
        · rw [h]
        · exact hstamp.limits
    | declarePathAuthority context view =>
        change (e.declarePathAuthority context view).1.limits = _
        rcases declarePathAuthority_cases e context view with h | ⟨_, _, _, h⟩
        · rw [h]
        · rw [h]
          exact (applyView_keeps _ _).limits
    | bindPathAuthority external => rfl
    | loadStore path files =>
        change (e.loadStore path files).1.limits = _
        rcases loadStore_cases e path files with h | ⟨_, _, _, _, _, _, _, h⟩
        · rw [h]
        · rw [h]
          exact (installSets_stamp _ _).limits
    | _ => cases h
  · exact (after_effect e (by simpa using h)).keeps.limits

theorem after_epoch (e : FabricEngine) {op : Op} (kept : op.loads = false) :
    (e.after op).currentEpoch = e.currentEpoch ∨ e.currentEpoch.next = some (e.after op).currentEpoch := by
  by_cases h : op.administers = true
  · cases op with
    | registerPublisher publisher workerBoot scope session =>
        left
        change (e.registerPublisher publisher workerBoot scope session).1.currentEpoch = _
        rcases registerPublisher_cases e publisher workerBoot scope session with h | ⟨_, _, _, h | ⟨_, _, h⟩⟩ <;> rw [h]
    | unregisterPublisher publisher workerBoot =>
        left
        change (e.unregisterPublisher publisher workerBoot).1.currentEpoch = _
        rcases unregisterPublisher_cases e publisher workerBoot with h | h <;> rw [h]
    | fenceWorker publisher workerBoot cause =>
        left
        change (e.fenceWorker publisher workerBoot cause).1.currentEpoch = _
        rcases fenceWorker_cases e publisher workerBoot cause with h | ⟨_, _, _, _, _, h⟩
        · rw [h]
        · rw [h]
          exact (rewriteSets_keeps _ _ _).epoch
    | advanceEpoch publisher workerBoot session expected attempt =>
        change (e.advanceEpoch publisher workerBoot session expected attempt).1.currentEpoch = _ ∨
          _ = some (e.advanceEpoch publisher workerBoot session expected attempt).1.currentEpoch
        rcases advanceEpoch_cases e publisher workerBoot session expected attempt with h | ⟨epoch, _, hepoch, _, h⟩
        · rw [h]
          exact .inl rfl
        · right
          rw [h, (rewriteSets_keeps _ _ _).epoch]
          exact hepoch
    | createSet context key options =>
        left
        change (e.createSet context key options).1.currentEpoch = _
        rcases createSet_cases e context key options with h | ⟨_, _, _, _, _, _, _, _, _, hstamp, _⟩
        · rw [h]
        · exact hstamp.epoch
    | declarePathAuthority context view =>
        left
        change (e.declarePathAuthority context view).1.currentEpoch = _
        rcases declarePathAuthority_cases e context view with h | ⟨_, _, _, h⟩
        · rw [h]
        · rw [h]
          exact (applyView_keeps _ _).epoch
    | bindPathAuthority external => exact .inl rfl
    | loadStore path files => cases kept
    | _ => cases h
  · exact .inl (after_effect e (by simpa using h)).keeps.epoch

theorem after_authority (e : FabricEngine) {op : Op} (plain : op.loads = false) :
    (e.after op).currentAuthorityGeneration = e.currentAuthorityGeneration ∨
      (e.after op).currentAuthorityGeneration = e.currentAuthorityGeneration.next.getD e.currentAuthorityGeneration := by
  by_cases h : op.administers = true
  · cases op with
    | registerPublisher publisher workerBoot scope session =>
        change (e.registerPublisher publisher workerBoot scope session).1.currentAuthorityGeneration = _ ∨
          (e.registerPublisher publisher workerBoot scope session).1.currentAuthorityGeneration = _
        rcases registerPublisher_cases e publisher workerBoot scope session with h | ⟨_, _, _, h | ⟨authority, hnext, h⟩⟩
        · rw [h]
          exact .inl rfl
        · rw [h]
          exact .inl rfl
        · rw [h, hnext]
          exact .inr rfl
    | unregisterPublisher publisher workerBoot =>
        change (e.unregisterPublisher publisher workerBoot).1.currentAuthorityGeneration = _ ∨
          (e.unregisterPublisher publisher workerBoot).1.currentAuthorityGeneration = _
        rcases unregisterPublisher_cases e publisher workerBoot with h | h
        · rw [h]
          exact .inl rfl
        · rw [h]
          exact .inr rfl
    | fenceWorker publisher workerBoot cause =>
        change (e.fenceWorker publisher workerBoot cause).1.currentAuthorityGeneration = _ ∨
          (e.fenceWorker publisher workerBoot cause).1.currentAuthorityGeneration = _
        rcases fenceWorker_cases e publisher workerBoot cause with h | ⟨authority, hnext, _, _, _, h⟩
        · rw [h]
          exact .inl rfl
        · right
          rw [h, fenceSets, (rewriteSets_keeps _ _ _).authority, hnext]
          rfl
    | advanceEpoch publisher workerBoot session expected attempt =>
        change (e.advanceEpoch publisher workerBoot session expected attempt).1.currentAuthorityGeneration = _ ∨
          (e.advanceEpoch publisher workerBoot session expected attempt).1.currentAuthorityGeneration = _
        rcases advanceEpoch_cases e publisher workerBoot session expected attempt with h | ⟨_, authority, _, hnext, h⟩
        · rw [h]
          exact .inl rfl
        · right
          rw [h, (rewriteSets_keeps _ _ _).authority, hnext]
          rfl
    | createSet context key options =>
        left
        change (e.createSet context key options).1.currentAuthorityGeneration = _
        rcases createSet_cases e context key options with h | ⟨_, _, _, _, _, _, _, _, _, hstamp, _⟩
        · rw [h]
        · exact hstamp.authority
    | declarePathAuthority context view =>
        left
        change (e.declarePathAuthority context view).1.currentAuthorityGeneration = _
        rcases declarePathAuthority_cases e context view with h | ⟨_, _, _, h⟩
        · rw [h]
        · rw [h]
          exact (applyView_keeps _ _).authority
    | bindPathAuthority external => exact .inl rfl
    | loadStore path files => cases plain
    | _ => cases h
  · exact .inl (after_effect e (by simpa using h)).keeps.authority

end FabricEngine

end MultipathFabric
