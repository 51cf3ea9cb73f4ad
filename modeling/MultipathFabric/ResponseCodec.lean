import MultipathFabric.WellFormedRuns

namespace MultipathFabric

open OrderedMap

theorem lookupViews_found {source : PathId → Option PathAuthorityView} {paths : List PathId} {path : PathId}
    {looked : Option PathAuthorityView} (h : (lookupViews source paths)[path]? = some looked) :
    looked = source path := by
  have hfold : ∀ (paths : List PathId) (views : ViewTable),
      (∀ looked, views[path]? = some looked → looked = source path) →
        ∀ looked, (paths.foldl (fun views path => views.insert path (source path)) views)[path]? = some looked →
          looked = source path := by
    intro paths
    induction paths with
    | nil => exact fun _ hviews => hviews
    | cons first rest ih =>
        intro views hviews
        apply ih
        intro looked hlooked
        rw [getElem?_insert_eq] at hlooked
        split at hlooked
        · rename_i hfirst
          cases hlooked
          rw [hfirst]
        · exact hviews looked hlooked
  apply hfold paths ∅ _ looked h
  intro looked hlooked
  cases (Std.ExtTreeMap.getElem?_empty.symm.trans hlooked : none = some looked)

variable {config : FabricConfig} {e : FabricEngine} {r : SetRecord} {source : PathId → Option PathAuthorityView}

theorem MemberRecord.WellFormed.explained {m : MemberRecord} (h : m.WellFormed) {paths : List PathId}
    (reports : ∀ path view, source path = some view → view.generation.valid = true) :
    (explainMember (lookupViews source paths) m).WellFormed := by
  refine ⟨h.id, h.pathId, h.boundAuthorityGeneration, fun g hg => ?_⟩
  obtain ⟨view, hview, rfl⟩ := Option.map_eq_some_iff.mp hg
  apply reports m.pathId view
  exact (lookupViews_found (Option.join_eq_some_iff.mp hview)).symm

theorem SetRecord.WellFormed.explained (h : r.WellFormed) {paths : List PathId}
    (reports : ∀ path view, source path = some view → view.generation.valid = true) (members : r.members.size < 2 ^ 64)
    (usable : r.usableMemberCount < 2 ^ 64) : (e.makeExplanation r (lookupViews source paths)).WellFormed where
  setId := h.id
  key := h.key
  memberCount := members
  usableMemberCount := usable
  governingEpoch := h.governingEpoch
  authorityGeneration := h.authorityGeneration
  lastMutatingPublisher := by
    intro id hid
    simp only [FabricEngine.makeExplanation] at hid
    split at hid
    · cases hid
      assumption
    · cases hid
  reasons := by
    have hlifecycle : (lifecycleReasons r.lifecycle).length ≤ 2 := by
      cases r.lifecycle <;> decide
    simp only [FabricEngine.makeExplanation, List.length_append]
    split_ifs
    all_goals
      simp only [List.length_cons, List.length_nil]
      omega
  members := by
    intro m hm
    obtain ⟨entry, hentry, rfl⟩ := List.mem_map.mp (List.mem_of_mem_take hm)
    have hfound := Std.ExtTreeMap.mem_toList_iff_getElem?_eq_some.mp hentry
    exact (h.members entry.1 entry.2 hfound).2.explained reports

namespace Wire

structure WireResponse.Sized (response : WireResponse) : Prop where
  snapshot : ∀ s, response.snapshot = some s → s.usableMemberCount < 2 ^ 64
  explanation : ∀ x, response.explanation = some x → x.memberCount < 2 ^ 64 ∧ x.usableMemberCount < 2 ^ 64

theorem WireResponse.Sized.of_all {response : WireResponse}
    (h : (response.snapshot.all (fun s => decide (s.usableMemberCount < 2 ^ 64)) && response.explanation.all fun x =>
      decide (x.memberCount < 2 ^ 64) && decide (x.usableMemberCount < 2 ^ 64)) = true) : response.Sized := by
  rw [Bool.and_eq_true, Option.all_eq_true, Option.all_eq_true] at h
  constructor
  · intro s hs
    exact of_decide_eq_true (h.1 s hs)
  · intro x hx
    have hcounts := h.2 x hx
    rw [Bool.and_eq_true] at hcounts
    exact ⟨of_decide_eq_true hcounts.1, of_decide_eq_true hcounts.2⟩

/-- The parts of a response come from engines in the states of allowed runs. An explanation is given with the views that
its source reports at that time. -/
structure WireResponse.Produced (allowed : FabricEngine → Op → Prop) (reports : PathAuthorityView → Prop)
    (response : WireResponse) : Prop where
  outcome : response.outcome.WellFormed
  snapshot : ∀ s, response.snapshot = some s → ∃ config e setId, Run allowed config e ∧
    (e.snapshot setId = some s ∨ ∃ snapshotId, e.historicalSnapshot setId snapshotId = some s)
  explanation : ∀ x, response.explanation = some x → ∃ config e setId source, Run allowed config e ∧
    (∀ path view, source path = some view → reports view) ∧ e.explainSet setId source = some x
  setIds : ∀ id ∈ response.setIds, id.valid = true

theorem WireResponse.Produced.wellFormed {response : WireResponse}
    (h : response.Produced (FabricEngine.TakenUp fun _ op => op.BindsSet) fun view => view.generation.valid = true)
    (sized : response.Sized) : response.WellFormed where
  outcome := h.outcome
  snapshot := by
    intro s hs
    obtain ⟨config, e, setId, run, hfound⟩ := h.snapshot s hs
    obtain ⟨r, hr, rfl⟩ := snapshot_of_run run hfound
    exact hr.snapshot (sized.snapshot _ hs)
  explanation := by
    intro x hx
    obtain ⟨config, e, setId, source, run, hreports, hexplained⟩ := h.explanation x hx
    obtain ⟨r, hr, rfl⟩ := Option.map_eq_some_iff.mp hexplained
    obtain ⟨hmembers, husable⟩ := sized.explanation _ hx
    exact ((wellFormed_of_run run).sets setId r hr).explained hreports hmembers husable
  setIds := h.setIds

/-- Where every view that Path Authority has reported carries a set generation, a response that was encoded is decoded
to itself. -/
theorem response_round_trip {response : WireResponse} {bytes : Bytes}
    (produced : response.Produced (FabricEngine.TakenUp fun _ op => op.BindsSet) fun view => view.generation.valid = true)
    (sized : response.Sized) (encoded : encodeResponse response = .ok bytes) :
    decodeResponse bytes = .ok (response, []) :=
  decodeResponse_encoded (produced.wellFormed sized) encoded

def sampleExplained (ops : List Op) (view : PathAuthorityView) : WireResponse where
  outcome := .empty
  snapshot := (sampleRun ops).snapshot sampleSet
  explanation := (sampleRun ops).explainSet sampleSet fun _ => some view
  setIds := (sampleRun ops).listSets

theorem sampleExplained_produced {allowed : FabricEngine → Op → Prop} {reports : PathAuthorityView → Prop} {ops : List Op}
    {view : PathAuthorityView} (run : Run allowed sampleConfig (sampleRun ops)) (reported : reports view)
    (ids : ∀ id ∈ (sampleRun ops).listSets, id.valid = true) :
    (sampleExplained ops view).Produced allowed reports where
  outcome := by
    constructor
    all_goals
      intro x hx
      cases hx
  snapshot := fun s hs => ⟨sampleConfig, sampleRun ops, sampleSet, run, .inl hs⟩
  explanation := by
    intro x hx
    refine ⟨sampleConfig, sampleRun ops, sampleSet, fun _ => some view, run, ?_, hx⟩
    intro path other hother
    cases hother
    exact reported
  setIds := ids

theorem response_round_trip_sample : ∃ bytes, encodeResponse (sampleExplained sampleSteps sampleView) = .ok bytes ∧
    decodeResponse bytes = .ok (sampleExplained sampleSteps sampleView, []) := by
  have hrun : BindingRun sampleConfig (sampleRun sampleSteps) := by
    refine Run.afterAll (fun op hop e => ?_) (.init sampleIds)
    simp only [sampleSteps, List.mem_cons, List.not_mem_nil, or_false] at hop
    rcases hop with rfl | rfl | rfl | rfl
    all_goals exact fun _ => trivial
  have hsized : (sampleExplained sampleSteps sampleView).Sized := .of_all (by decide +kernel)
  have hencoded : (encodeResponse (sampleExplained sampleSteps sampleView)).isOk = true := by decide +kernel
  cases hbytes : encodeResponse (sampleExplained sampleSteps sampleView) with
  | error error =>
      rw [hbytes] at hencoded
      cases hencoded
  | ok bytes =>
      have hproduced := @sampleExplained_produced (FabricEngine.TakenUp fun _ op => op.BindsSet) (fun view => view.generation.valid = true)
        sampleSteps sampleView hrun (by decide) (by decide +kernel)
      exact ⟨bytes, rfl, response_round_trip hproduced hsized hbytes⟩

def unsetView : PathAuthorityView := ⟨samplePath, .unset, .stale⟩

theorem response_round_trip_fails : ¬∀ (response : WireResponse) (bytes : Bytes),
    response.Produced (fun _ _ => True) (fun _ => True) → response.Sized → encodeResponse response = .ok bytes →
      decodeResponse bytes = .ok (response, []) := by
  intro h
  have hproduced := @sampleExplained_produced (fun _ _ => True) (fun _ => True) sampleSteps unsetView
    (sampleRun_reachable sampleSteps) trivial (by decide +kernel)
  have hsized : (sampleExplained sampleSteps unsetView).Sized := .of_all (by decide +kernel)
  have hlost : ((encodeResponse (sampleExplained sampleSteps unsetView)).toOption.map fun bytes =>
      (decodeResponse bytes).isOk) = some false := by
    decide +kernel
  cases hbytes : encodeResponse (sampleExplained sampleSteps unsetView) with
  | error error =>
      rw [hbytes] at hlost
      cases hlost
  | ok bytes =>
      have hdecoded := h _ bytes hproduced hsized hbytes
      rw [hbytes, Except.toOption, Option.map_some, hdecoded] at hlost
      cases hlost

end Wire

end MultipathFabric
