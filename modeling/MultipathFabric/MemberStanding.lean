import MultipathFabric.DerivedState
import MultipathFabric.Frozen

namespace MultipathFabric

open OrderedMap MemberRecord

namespace MemberRecord

variable {m m' : MemberRecord}

def shown (m : MemberRecord) (permitted : Bool) : MemberCurrentness := m.observe permitted m.observationOf

theorem observe_generation {v w : PathAuthorityView} (permitted : Bool)
    (h : (v.generation, v.state) = (w.generation, w.state)) :
    m.observe permitted (some v) = m.observe permitted (some w) := by
  obtain ⟨hgeneration, hstate⟩ := Prod.mk.inj h
  unfold observe classifyPathAuthority
  simp only [hgeneration, hstate]

theorem observe_observed {view : Option PathAuthorityView} (permitted : Bool)
    (h : m.observed = view.map fun view => (view.generation, view.state)) : m.shown permitted = m.observe permitted view := by
  unfold shown
  unfold observed at h
  cases hrecorded : m.observationOf with
  | none =>
      cases view with
      | none => rfl
      | some v =>
          rw [hrecorded] at h
          cases h
  | some w =>
      cases view with
      | none =>
          rw [hrecorded] at h
          cases h
      | some v =>
          rw [hrecorded] at h
          exact observe_generation permitted (Option.some.inj h)

theorem shown_standing (permitted : Bool) (h : m'.standing = m.standing) : m'.shown permitted = m.shown permitted := by
  have hobserved : m'.observed = m.observationOf.map fun view => (view.generation, view.state) :=
    congrArg Standing.observation h
  rw [observe_observed permitted hobserved]
  have henabled : m'.adminEnabled = m.adminEnabled := congrArg Standing.adminEnabled h
  have hbound : m'.boundAuthorityGeneration = m.boundAuthorityGeneration := congrArg Standing.boundAuthorityGeneration h
  unfold shown observe
  rw [henabled, hbound]

structure Stands (permitted revoked : Bool) (m : MemberRecord) : Prop where
  shown : m.currentness = m.shown permitted ∨ (revoked = true ∧ m.currentness = .setNotUsable)
  current : m.lifecycle = .current → m.currentness = .current ∨ (revoked = true ∧ m.currentness = .setNotUsable)
  evaluated : m.lifecycle ≠ .pending

theorem Stands.congr {permitted revoked revoked' : Bool} (h : m.Stands permitted revoked)
    (same : m'.standing = m.standing) (later : revoked = true → revoked' = true) : m'.Stands permitted revoked' := by
  have hlifecycle := standing_lifecycle same
  have hcurrentness := standing_currentness same
  constructor
  · rw [hcurrentness, shown_standing permitted same]
    exact h.shown.imp_right fun hmarked => ⟨later hmarked.1, hmarked.2⟩
  · rw [hlifecycle, hcurrentness]
    intro hcurrent
    exact (h.current hcurrent).imp_right fun hmarked => ⟨later hmarked.1, hmarked.2⟩
  · rw [hlifecycle]
    exact h.evaluated

theorem transition_current {lifecycle : MemberLifecycle} {currentness : MemberCurrentness} {explicit : Bool}
    (live : lifecycle ≠ .withdrawn ∧ lifecycle ≠ .superseded ∧ lifecycle ≠ .retired)
    (h : (memberTransition lifecycle (evaluationEvent currentness explicit)).getD lifecycle = .current) :
    currentness = .current := by
  by_contra hnot
  unfold evaluationEvent at h
  rw [if_neg hnot] at h
  split at h
  · cases explicit <;> cases lifecycle <;> simp_all [memberTransition, memberTransitionRow, MemberEvent.raw]
  · cases lifecycle <;> simp_all [memberTransition, memberTransitionRow, MemberEvent.raw]

theorem transition_evaluated {lifecycle : MemberLifecycle} {currentness : MemberCurrentness} {explicit : Bool} :
    (memberTransition lifecycle (evaluationEvent currentness explicit)).getD lifecycle ≠ .pending := by
  unfold evaluationEvent
  split
  · cases explicit <;> cases lifecycle <;> decide
  · split
    · cases explicit <;> cases lifecycle <;> decide
    · cases lifecycle <;> decide

theorem memberTransition_ends {event : MemberEvent} {p : Prop}
    (ends : event = .withdraw ∨ event = .supersede ∨ event = .retire ∧ p)
    (moved : memberTransition m.lifecycle event = some m'.lifecycle) : memberIsTerminal m' = true := by
  unfold memberIsTerminal
  generalize m'.lifecycle = next at moved
  revert moved
  rcases ends with rfl | rfl | ⟨rfl, _⟩ <;> cases m.lifecycle <;> cases next <;> decide

theorem evaluate_stands {permitted explicit : Bool} {view : Option PathAuthorityView} (revoked : Bool)
    (live : memberIsTerminal m = false) (same : m'.standing = (m.evaluate permitted view explicit).standing) :
    m'.Stands permitted revoked := by
  rw [evaluate_standing permitted view explicit live] at same
  have hlifecycle : m'.lifecycle = _ := congrArg Standing.lifecycle same
  have hcurrentness : m'.currentness = m.observe permitted view := congrArg Standing.currentness same
  have henabled : m'.adminEnabled = m.adminEnabled := congrArg Standing.adminEnabled same
  have hbound : m'.boundAuthorityGeneration = m.boundAuthorityGeneration := congrArg Standing.boundAuthorityGeneration same
  have hobserved : m'.observed = view.map fun view => (view.generation, view.state) := congrArg Standing.observation same
  constructor
  · left
    rw [observe_observed permitted hobserved, hcurrentness]
    unfold observe
    rw [henabled, hbound]
  · intro hcurrent
    left
    rw [hcurrentness]
    rw [hlifecycle] at hcurrent
    refine transition_current ?_ hcurrent
    simpa [memberIsTerminal, and_assoc] using live
  · rw [hlifecycle]
    exact transition_evaluated

end MemberRecord

structure SetRecord.Stands (r : SetRecord) : Prop where
  members : ∀ (path : PathId) (m : MemberRecord), r.members[path]? = some m → memberIsTerminal m = false →
    m.Stands r.conditionalAuthorityPermitted r.revocation.isSome
  revoked : r.revocation.isSome = true → r.lifecycle = .revoked ∨ r.lifecycle = .retired

theorem applyTransition_revocation {r x : SetRecord} {event : SetEvent} (h : r.applyTransition event = .ok x) :
    x.revocation = r.revocation := by
  rw [SetRecord.applyTransition_frame h]

theorem consequences_revocation (e : FabricEngine) (r : SetRecord) (source target : SetLifecycle)
    (context : Option MutationContext) : (applyMemberConsequences e r source target context).revocation = r.revocation := by
  rw [SetRecord.consequences_frame]

theorem publishMembers_revocation (context : MutationContext) (setId : MultipathSetId) (e : FabricEngine) (r : SetRecord)
    (requests : List (MemberRequest × Option PathAuthorityView)) :
    (FabricEngine.publishMembers context setId e r requests).2.1.revocation = r.revocation := by
  rw [SetRecord.publishMembers_frame]

section

variable {e : FabricEngine} {setId : MultipathSetId} {r x : SetRecord} {op : Op} {summary : Bytes}

theorem RecordEdit.revocation (edit : RecordEdit e setId r op x summary) :
    x.revocation = r.revocation ∨ (x.revocation.isSome = true ∧ x.lifecycle = .revoked) := by
  cases edit with
  | collided | supersedes | supersedesRecorded | begun | released | abandoned | observed | toggled | revalidatedSet
  | revalidatedMember | completed => exact .inl rfl
  | publish _ moved | minimumChecked _ _ moved | policyChecked _ _ moved | adminChecked _ _ moved
  | completeWithdrawal _ moved | minimumChanged _ _ moved | policyChanged _ _ moved | adminChanged _ _ moved
  | removed _ _ _ _ _ _ moved | withdrewMember _ _ _ _ _ _ _ moved | replaced _ _ _ _ _ _ _ _ _ _ _ _ _ moved =>
      have hsame := applyTransition_revocation moved
      exact .inl hsame
  | withdraw _ _ _ moved | retire _ _ _ moved | superseded _ _ _ moved =>
      have hsame := applyTransition_revocation moved
      exact .inl ((consequences_revocation _ _ _ _ _).trans hsame)
  | revoke _ _ _ _ _ moved =>
      right
      rw [consequences_revocation, (SetRecord.consequences_cases _ _ _ _ _).1, (SetRecord.applyTransition_revoke moved).2]
      exact ⟨rfl, rfl⟩
  | added _ _ _ _ _ _ moved =>
      exact .inl ((publishMembers_revocation _ _ _ _ _).trans (applyTransition_revocation moved))
  | invalidated =>
      left
      unfold FabricEngine.dependencyInvalidated
      dsimp only
      split <;> rfl

theorem RecordEdit.stands (edit : RecordEdit e setId r op x summary) (h : r.Stands) : x.Stands := by
  have hrevocation : r.revocation.isSome = true → x.revocation.isSome = true := by
    intro hsome
    rcases edit.revocation with hsame | ⟨hset, _⟩
    · rw [hsame]
      exact hsome
    · exact hset
  constructor
  · intro path m' hm hlive
    cases edit.member hm with
    | @kept m found same policy =>
        have hkept := (live_of_lifecycle (standing_lifecycle same)).symm.trans hlive
        rcases policy with hpolicy | hterminal
        · rw [hpolicy]
          exact (h.members path m found hkept).congr same hrevocation
        · rw [hkept] at hterminal
          cases hterminal
    | refreshed found terminal same =>
        rw [live_of_lifecycle (congrArg Standing.lifecycle same), terminal] at hlive
        cases hlive
    | evaluated found live from_ _ same =>
        exact evaluate_stands _ ((live_of_lifecycle (congrArg Standing.lifecycle from_)).trans live) same
    | @marked m found revoked _ same =>
        have hlifecycle : m'.lifecycle = m.lifecycle := congrArg Standing.lifecycle same
        have hcurrentness : m'.currentness = .setNotUsable := congrArg Standing.currentness same
        have hstood := h.members path m found ((live_of_lifecycle hlifecycle).symm.trans hlive)
        refine ⟨.inr ⟨revoked, hcurrentness⟩, fun _ => .inr ⟨revoked, hcurrentness⟩, ?_⟩
        rw [hlifecycle]
        exact hstood.evaluated
    | ended found ends moved =>
        rw [memberTransition_ends ends moved] at hlive
        cases hlive
    | replaced found _ lifecycle =>
        rw [memberIsTerminal, lifecycle] at hlive
        cases hlive
    | admitted admits =>
        obtain ⟨base, view, hpending, _, hsame⟩ := admits.standing
        exact evaluate_stands _ (by rw [memberIsTerminal, hpending]; rfl) hsame
  · intro hsome
    rcases edit.revocation with hsame | ⟨_, hrevoked⟩
    · rw [hsame] at hsome
      have hfinal := h.revoked hsome
      have hclosed : r.lifecycle.isFinal = true := by
        rcases hfinal with hl | hl <;> rw [hl] <;> rfl
      rcases edit.final hclosed with hkept | hretired
      · rw [hkept]
        exact hfinal
      · exact .inr hretired
    · exact .inl hrevoked

theorem SetRecord.Stands.framed (h : r.Stands) (members : ∀ (path : PathId) (m' : MemberRecord),
      x.members[path]? = some m' → ∃ m, r.members[path]? = some m ∧ m'.standing = m.standing)
    (policy : x.conditionalAuthorityPermitted = r.conditionalAuthorityPermitted)
    (revocation : x.revocation.isSome = r.revocation.isSome) (lifecycle : x.lifecycle = r.lifecycle) : x.Stands := by
  constructor
  · intro path m' hm hlive
    obtain ⟨m, hfound, hsame⟩ := members path m' hm
    rw [policy, revocation]
    exact (h.members path m hfound ((live_of_lifecycle (standing_lifecycle hsame)).symm.trans hlive)).congr hsame fun h => h
  · rw [revocation, lifecycle]
    exact h.revoked

theorem sealed_standing {limits : Limits} {path : PathId} {m' : MemberRecord} (stored : Sealed limits r summary x)
    (hm : x.members[path]? = some m') : ∃ m, r.members[path]? = some m ∧ m'.standing = m.standing := by
  obtain ⟨m, hfound, rfl | ⟨pruned, rfl⟩⟩ := sealed_member stored hm
  · exact ⟨_, hfound, rfl⟩
  · exact ⟨m, hfound, rfl⟩

theorem sealed_policy {limits : Limits} (stored : Sealed limits r summary x) :
    x.conditionalAuthorityPermitted = r.conditionalAuthorityPermitted := by
  cases stored with
  | kept => rfl
  | committed => exact (SetRecord.committed_settings _ _ _ _).2.2

theorem bumped_standing {members : MemberMap} {path : PathId} {m' : MemberRecord}
    (hm : (members.map fun _ m => m.bumpWatermark)[path]? = some m') :
    ∃ m, members[path]? = some m ∧ m'.standing = m.standing := by
  obtain ⟨m, hfound, rfl⟩ := member_map hm
  exact ⟨m, hfound, rfl⟩

theorem restored_standing (m : MemberRecord) : m.restored.standing = m.standing := by
  have hobserved : m.restored.observed = m.observed := by
    unfold observed observationOf restored storedObservation
    cases m.observedAuthorityGeneration <;> cases m.observedAuthorityState <;> rfl
  unfold standing
  rw [hobserved]
  rfl

theorem stands_rule (allowed : FabricEngine → Op → Prop) : RecordRule allowed SetRecord.Stands where
  declared e context setId key options summary := by
    constructor
    · intro path m hm
      change (∅ : MemberMap)[path]? = some m at hm
      rw [Std.ExtTreeMap.getElem?_empty] at hm
      cases hm
    · intro hrevoked
      cases hrevoked
  edited e op setId r x summary _ _ stands edit := edit.stands stands
  sealed_ limits x summary r' stands stored := by
    have hrevocation := (SetRecord.sealed_lineage stored).2.2
    exact stands.framed (fun path m' hm => sealed_standing stored hm) (sealed_policy stored) (by rw [hrevocation])
      (sealed_lifecycle stored)
  fenced r authority epoch stands := stands.framed (fun path m' hm => bumped_standing hm) rfl rfl rfl
  epochAdvanced e r stands := stands.framed (fun path m' hm => bumped_standing hm) rfl rfl rfl
  restored r stands := by
    refine stands.framed ?_ rfl ?_ rfl
    · intro path m' hm
      obtain ⟨m, hfound, rfl⟩ := member_map hm
      exact ⟨m, hfound, restored_standing m⟩
    · change (r.revocation.map _).isSome = _
      rw [Option.isSome_map]
  recovered e r stands := by
    refine stands.framed ?_ rfl rfl rfl
    intro path m' hm
    obtain ⟨m₁, hfound, hsame⟩ := bumped_standing hm
    obtain ⟨m, hfound, hsame'⟩ := bumped_standing hfound
    exact ⟨m, hfound, hsame.trans hsame'⟩

end

/-- What a member says of its last observation, in a set of the given policy and revocation. -/
structure MemberRecord.Exact (r : SetRecord) (m : MemberRecord) : Prop where
  observed : memberIsTerminal m = false → r.revocation = none →
    m.currentness = (if m.adminEnabled then
        classifyPathAuthority m.observationOf m.boundAuthorityGeneration r.conditionalAuthorityPermitted
      else .adminDisabled) ∧ (m.lifecycle = .current → m.currentness = .current)
  usable : m.usable = true → m.adminEnabled = true ∧ m.observedAuthorityGeneration = some m.boundAuthorityGeneration ∧
    (m.observedAuthorityState = some .authorized ∨
      (m.observedAuthorityState = some .conditionallyAuthorized ∧ r.conditionalAuthorityPermitted = true))
  inputs : memberInputsUsable m = m.usable

theorem classifyPathAuthority_current_iff {view : PathAuthorityView} {bound : PathAuthorityGeneration} {permitted : Bool} :
    classifyPathAuthority (some view) bound permitted = .current ↔ view.generation = bound ∧
      (view.state = .authorized ∨ (view.state = .conditionallyAuthorized ∧ permitted = true)) := by
  obtain ⟨path, generation, state⟩ := view
  unfold classifyPathAuthority
  by_cases hbound : generation = bound
  · cases state <;> cases permitted <;> simp [hbound]
  · simp [hbound]

theorem usable_iff (m : MemberRecord) : m.usable = true ↔ m.lifecycle = .current ∧ m.currentness = .current := by
  unfold usable memberIsUsable
  simp

theorem SetRecord.Stands.exact {r : SetRecord} {path : PathId} {m : MemberRecord} (h : r.Stands)
    (found : r.members[path]? = some m) : m.Exact r := by
  have husable : m.usable = true → m.adminEnabled = true ∧
      m.observedAuthorityGeneration = some m.boundAuthorityGeneration ∧
      (m.observedAuthorityState = some .authorized ∨
        (m.observedAuthorityState = some .conditionallyAuthorized ∧ r.conditionalAuthorityPermitted = true)) := by
    intro hm
    obtain ⟨hlifecycle, hcurrent⟩ := (usable_iff m).mp hm
    have hstood := h.members path m found (by rw [memberIsTerminal, hlifecycle]; rfl)
    have hshown : m.shown r.conditionalAuthorityPermitted = .current := by
      rcases hstood.shown with hshown | ⟨_, hmarked⟩
      · rw [← hshown, hcurrent]
      · rw [hcurrent] at hmarked
        cases hmarked
    unfold shown observe at hshown
    split at hshown
    · cases hshown
    · rename_i henabled
      unfold observationOf at hshown
      split at hshown
      · rename_i generation state hgeneration hstate
        obtain ⟨hbound, hauthorized⟩ := classifyPathAuthority_current_iff.mp hshown
        rw [hgeneration, hstate]
        refine ⟨by simpa using henabled, congrArg some hbound, ?_⟩
        exact hauthorized.imp (congrArg some) fun hconditional => ⟨congrArg some hconditional.1, hconditional.2⟩
      · cases hshown
  constructor
  · intro hlive hnone
    have hstood := h.members path m found hlive
    rw [hnone] at hstood
    constructor
    · rcases hstood.shown with hshown | ⟨hrevoked, _⟩
      · rw [hshown]
        unfold shown observe
        cases m.adminEnabled <;> rfl
      · cases hrevoked
    · intro hcurrent
      rcases hstood.current hcurrent with hcurrentness | ⟨hrevoked, _⟩
      · exact hcurrentness
      · cases hrevoked
  · exact husable
  · unfold memberInputsUsable
    cases hm : m.usable with
    | true =>
        rw [(husable hm).1, Bool.and_true]
        exact hm
    | false =>
        unfold usable at hm
        rw [hm]
        rfl

/-- In every state of an engine that loads only saved stores, every member says exactly what was last observed. -/
theorem members_exact {e : FabricEngine} (h : Lived (fun _ _ => True) e) (setId : MultipathSetId) (r : SetRecord)
    (path : PathId) (m : MemberRecord) (found : e.sets[setId]? = some r) (member : r.members[path]? = some m) :
    m.Exact r :=
  ((stands_rule _).holds h found).exact member

theorem members_exact_sample : ∃ r m, (sampleRun sampleSteps).sets[sampleSet]? = some r ∧
    r.members[samplePath]? = some m ∧ m.Exact r := by
  have hlived : Lived (fun _ _ => True) (sampleRun sampleSteps) := by
    exact Lived.afterAll (.init sampleConfig sampleIds) (by decide) fun _ _ _ _ => trivial
  have hfound : ((sampleRun sampleSteps).sets[sampleSet]?.bind fun r => r.members[samplePath]?).isSome = true := by
    decide +kernel
  obtain ⟨m, hbind⟩ := Option.isSome_iff_exists.mp hfound
  obtain ⟨r, hr, hm⟩ := Option.bind_eq_some_iff.mp hbind
  exact ⟨r, m, hr, hm, members_exact hlived sampleSet r samplePath m hr hm⟩

def disabledStore : StoreFiles where
  target :=
    let e := sampleRun sampleSteps
    (encodeStore { e with
      sets := e.sets.map fun _ (r : SetRecord) =>
        { r with members := r.members.map fun _ (m : MemberRecord) => { m with adminEnabled := false } } }).toOption
  temporary := none
  backup := none

/-- A load takes the member as the store has it. -/
theorem members_exact_fails : ¬∀ config e, Reachable config e → ∀ (setId : MultipathSetId) (r : SetRecord) (path : PathId)
    (m : MemberRecord), e.sets[setId]? = some r → r.members[path]? = some m → m.Exact r := by
  intro h
  have hloaded : (((FabricEngine.init sampleConfig sampleIds).after (.loadStore (text "store") disabledStore)).sets[sampleSet]?.bind
      fun r => r.members[samplePath]?.map fun m => (m.usable, m.adminEnabled)) = some (true, false) := by decide +kernel
  have hrun : Reachable sampleConfig ((FabricEngine.init sampleConfig sampleIds).after (.loadStore (text "store") disabledStore)) :=
    Reachable.afterAll (.init sampleIds) [.loadStore (text "store") disabledStore]
  generalize (FabricEngine.init sampleConfig sampleIds).after (.loadStore (text "store") disabledStore) = e at hloaded hrun
  obtain ⟨r, hr, hbind⟩ := Option.bind_eq_some_iff.mp hloaded
  obtain ⟨m, hm, hfields⟩ := Option.map_eq_some_iff.mp hbind
  obtain ⟨husable, hdisabled⟩ := Prod.mk.inj hfields
  have hexact := h sampleConfig e hrun sampleSet r samplePath m hr hm
  rw [(hexact.usable husable).1] at hdisabled
  cases hdisabled

end MultipathFabric
