import MultipathFabric.DerivedState
import MultipathFabric.DigestSeparation
import MultipathFabric.EngineStep
import MultipathFabric.Provenance
import MultipathFabric.TransitionTables

namespace MultipathFabric

open OrderedMap MemberRecord

namespace MemberRecord

variable {m : MemberRecord} {permitted explicit : Bool} {view : Option PathAuthorityView}

def noted (m : MemberRecord) (view : Option PathAuthorityView) : MemberRecord :=
  if memberIsTerminal m then m
  else
    { m with
      observedAuthorityGeneration := view.map PathAuthorityView.generation
      observedAuthorityState := view.map PathAuthorityView.state }

def sighted (views : ViewTable) (m : MemberRecord) : MemberRecord :=
  match views[m.pathId]? with
  | none => m
  | some view => m.noted view

theorem applyEvent_same {event : MemberEvent} (same : (m.applyEvent event).lifecycle = m.lifecycle) :
    m.applyEvent event = m := by
  unfold applyEvent at same ⊢
  split
  · rfl
  · rename_i next hnext
    rw [hnext] at same
    dsimp only at same
    rw [if_neg (by rw [same]; exact not_not_intro rfl), same]

theorem applyEvent_currentness (m : MemberRecord) (event : MemberEvent) :
    (m.applyEvent event).currentness = m.currentness :=
  congrArg CoveredMember.currentness (applyEvent_covered m event)

theorem evaluate_noted (same : (m.evaluate permitted view explicit).lifecycle = m.lifecycle ∧
    (m.evaluate permitted view explicit).currentness = m.currentness) :
    m.evaluate permitted view explicit = m.noted view := by
  obtain ⟨hlifecycle, hcurrentness⟩ := same
  unfold evaluate at hlifecycle hcurrentness ⊢
  unfold noted
  by_cases hterminal : memberIsTerminal m = true
  · rw [if_pos hterminal] at hcurrentness
    rw [if_pos hterminal, if_pos hterminal]
    dsimp only at hcurrentness
    rw [hcurrentness]
  · rw [if_neg hterminal] at hlifecycle hcurrentness
    rw [if_neg hterminal, if_neg hterminal]
    dsimp only at hlifecycle hcurrentness ⊢
    have hobserved : m.observe permitted view = m.currentness := by
      rw [applyEvent_currentness] at hcurrentness
      exact hcurrentness
    rw [hobserved, if_neg (not_not_intro rfl)] at hlifecycle ⊢
    exact applyEvent_same hlifecycle

theorem rebound_noted (steady : m.revalidationChanged (m.rebound permitted view) = false) :
    m.rebound permitted view = m.noted view := by
  simp only [revalidationChanged, Bool.or_eq_false_iff, bne_eq_false_iff_eq] at steady
  obtain ⟨⟨hlifecycle, hcurrentness⟩, hbound⟩ := steady
  have hkept : (view.map PathAuthorityView.generation).getD m.boundAuthorityGeneration = m.boundAuthorityGeneration := by
    refine Eq.trans ?_ hbound.symm
    exact (congrArg CoveredMember.boundAuthorityGeneration (evaluate_frame { m with
      boundAuthorityGeneration := (view.map PathAuthorityView.generation).getD m.boundAuthorityGeneration } permitted view
        true)).symm
  unfold rebound at hlifecycle hcurrentness ⊢
  rw [hkept] at hlifecycle hcurrentness ⊢
  exact evaluate_noted ⟨hlifecycle.symm, hcurrentness.symm⟩

theorem steady_of_covered (same : (m.rebound permitted view).covered = m.covered) :
    m.revalidationChanged (m.rebound permitted view) = false := by
  simp only [revalidationChanged, Bool.or_eq_false_iff, bne_eq_false_iff_eq]
  exact ⟨⟨(congrArg CoveredMember.lifecycle same).symm, (congrArg CoveredMember.currentness same).symm⟩,
    (congrArg CoveredMember.boundAuthorityGeneration same).symm⟩

theorem noted_usable : (m.noted view).usable = m.usable := by
  unfold noted
  split <;> rfl

theorem sighted_usable (views : ViewTable) (m : MemberRecord) : (m.sighted views).usable = m.usable := by
  unfold sighted
  split
  · rfl
  · exact noted_usable

end MemberRecord

namespace SetRecord

variable {e : FabricEngine} {r x : SetRecord} {views : ViewTable} {event : SetEvent} {path : PathId} {m m' : MemberRecord}

theorem transition_kept (plain : event.isPlain = true) (moved : r.applyTransition event = .ok x)
    (counted : r.usableMemberCount = usableCount r.members) (stays : x.lifecycle = r.lifecycle) : x = r := by
  have hcount : x.usableMemberCount = r.usableMemberCount := by
    rw [counted_transition counted moved, applyTransition_members moved, counted]
  rw [transition_rest plain moved, stays, applyTransition_members moved, hcount]

theorem revalidateMember_sighted {permitted : Bool} (steady : ∀ view, memberIsTerminal m = false →
    views[m.pathId]? = some view → (m.rebound permitted view).covered = m.covered) :
    revalidateMember permitted views m = m.sighted views := by
  unfold revalidateMember sighted
  by_cases hterminal : memberIsTerminal m = true
  · rw [if_pos hterminal]
    cases views[m.pathId]? with
    | none => rfl
    | some view => exact (if_pos hterminal).symm
  · rw [if_neg hterminal]
    cases hview : views[m.pathId]? with
    | none => rfl
    | some view =>
        apply rebound_noted
        apply steady_of_covered
        exact steady view (Bool.eq_false_iff.mpr hterminal) hview

theorem revalidatedSet_sighted (steady : r.Steady views) (abreast : ¬Trails e r views)
    (counted : r.usableMemberCount = usableCount r.members) :
    e.revalidatedSet r views = { r with members := r.members.map fun _ m => m.sighted views } := by
  obtain ⟨hlifecycle, hcurrentness⟩ := (steady_iff (e := e)).mp steady
  rw [Trails, not_or, not_or, not_not, not_not] at abreast
  obtain ⟨hepoch, hauthority, hmembers⟩ := abreast
  have hsighted : (r.members.map fun _ m => revalidateMember r.conditionalAuthorityPermitted views m) =
      r.members.map fun _ m => m.sighted views := by
    refine Std.ExtTreeMap.ext_getElem? fun path => ?_
    rw [getElem?_mapValues, getElem?_mapValues]
    cases hm : r.members[path]? with
    | none => rfl
    | some m =>
        rw [Option.map_some, Option.map_some]
        congr 1
        apply revalidateMember_sighted
        intro view hlive hview
        by_contra hdiffers
        exact hmembers ⟨path, m, view, hm, hlive, hview, hdiffers⟩
  have hcount : (e.revalidatedSet r views).usableMemberCount = r.usableMemberCount := by
    rw [counted]
    change usableCount (r.members.map fun _ m => revalidateMember r.conditionalAuthorityPermitted views m) = _
    rw [hsighted]
    exact count_map_eq r.members (sighted_usable views)
  have hrest : e.revalidatedSet r views =
      { r with
        members := r.members.map fun _ m => revalidateMember r.conditionalAuthorityPermitted views m
        usableMemberCount := (e.revalidatedSet r views).usableMemberCount
        lifecycle := (e.revalidatedSet r views).lifecycle
        currentness := (e.revalidatedSet r views).currentness
        governingEpoch := e.currentEpoch
        authorityGeneration := e.currentAuthorityGeneration } := rfl
  rw [hrest, hsighted, hcount, ← hlifecycle, ← hcurrentness, ← hepoch, ← hauthority]

theorem recompute_withMember (found : r.members[path]? = some m) (same : m'.usable = m.usable)
    (counted : r.usableMemberCount = usableCount r.members) (stays : r.recompute.lifecycle = r.lifecycle) :
    (r.withMember path m').recompute = r.withMember path m' := by
  have husable : usableCount (r.withMember path m').members = usableCount r.members := usableCount_insert_same found same
  have hlifecycle : (r.withMember path m').recompute.lifecycle = r.lifecycle := by
    rw [← stays]
    unfold recompute recomputeUsableMembers
    rw [husable]
    rfl
  have hrest : (r.withMember path m').recompute =
      { r.withMember path m' with
        usableMemberCount := usableCount (r.withMember path m').members
        lifecycle := (r.withMember path m').recompute.lifecycle } := rfl
  rw [hrest, hlifecycle, husable, ← counted]
  rfl

end SetRecord

def Op.Notes (r x : SetRecord) : Op → Prop
  | .revalidateSet _ _ views => x = { r with members := r.members.map fun _ m => m.sighted views }
  | .revalidateMember _ _ memberId looked => ∃ view path m, looked = some view ∧ r.finds memberId path m ∧
      x = r.withMember path (m.noted view)
  | .completeMemberRevalidation _ ticket current => ∃ path m, r.finds ticket.memberId path m ∧
      x = r.withMember path (m.noted current).release
  | _ => x = r

namespace MemberRecord

theorem noted_covered {m : MemberRecord} {view : Option PathAuthorityView} : (m.noted view).covered = m.covered := by
  unfold noted
  split <;> rfl

theorem sighted_covered (views : ViewTable) (m : MemberRecord) : (m.sighted views).covered = m.covered := by
  unfold sighted
  split
  · rfl
  · exact noted_covered

end MemberRecord

theorem Op.Notes.covered {op : Op} {r x : SetRecord} (notes : op.Notes r x) : x.covered = r.covered := by
  cases op with
  | revalidateSet context setId views =>
      obtain rfl := notes
      refine SetRecord.covered_congr rfl rfl (coveredMembers_congr fun path => ?_)
      rw [getElem?_mapValues, Option.map_map]
      congr 1
      exact funext fun m => sighted_covered views m
  | revalidateMember context setId memberId looked =>
      obtain ⟨view, path, m, _, hfinds, rfl⟩ := notes
      exact SetRecord.withMember_covered hfinds.2 noted_covered
  | completeMemberRevalidation context ticket current =>
      obtain ⟨path, m, hfinds, rfl⟩ := notes
      exact SetRecord.withMember_covered hfinds.2 (@noted_covered m current)
  | _ => rw [show x = r from notes]

open FabricEngine

theorem Answer.answered_notes {e : FabricEngine} {op : Op} {q : Request} {setId : MultipathSetId} {r x : SetRecord}
    (request : op.request = some q) (abreast : ¬Lags e op) (admitted : Admitted e op q)
    (named : op.subject = some setId) (found : e.sets[setId]? = some r) (expects : op.Expects q.context r)
    (stored : (e.after op).sets[setId]? = some x) (idle : (e.exec op).2.code = .idempotent) (idles : op.Idles e r x)
    (counted : r.usableMemberCount = usableCount r.members) : op.Notes r x := by
  have hengages : Engages e op q setId r := ⟨request, named, admitted, found, expects⟩
  have hsettled (settles : (∃ context minimum, op = .setMinimumUsableMembers context setId minimum) ∨
      (∃ context permitted, op = .setConditionalAuthorityPolicy context setId permitted) ∨
        ∃ context enabled, op = .setAdminEnabled context setId enabled) : x = r := by
    rcases setting_moved abreast found stored (.inr idle) settles with hkept | ⟨_, hplain, hmoved, hstays⟩
    · exact hkept
    · exact SetRecord.transition_kept hplain hmoved counted hstays
  cases op with
  | setMinimumUsableMembers context other minimum =>
      cases named
      exact hsettled (.inl ⟨context, minimum, rfl⟩)
  | setConditionalAuthorityPolicy context other permitted =>
      cases named
      exact hsettled (.inr (.inl ⟨context, permitted, rfl⟩))
  | setAdminEnabled context other enabled =>
      cases named
      exact hsettled (.inr (.inr ⟨context, enabled, rfl⟩))
  | revalidateSet context other views =>
      cases named
      obtain ⟨rfl, hlifecycle, hcurrentness⟩ := idles
      have hsteady : r.Steady views := SetRecord.steady_iff.mpr ⟨hlifecycle, hcurrentness⟩
      apply SetRecord.revalidatedSet_sighted hsteady _ counted
      exact fun htrails => abreast (.set hengages (.inl ⟨hsteady, htrails⟩))
  | revalidateMember context other memberId looked =>
      cases named
      obtain ⟨view, path, m, rfl, hfinds, hsteady, rfl⟩ := idles
      rw [revalidated_steady hsteady, rebound_noted hsteady]
      refine ⟨view, path, m, rfl, hfinds, SetRecord.recompute_withMember hfinds.2 noted_usable counted ?_⟩
      by_contra hshifts
      exact abreast (.member hengages hfinds hsteady hshifts)
  | completeMemberRevalidation context ticket current =>
      cases named
      obtain ⟨path, m, hfinds, hpending, hsteady, rfl⟩ := idles
      rw [revalidated_steady hsteady, rebound_noted hsteady]
      have hreleased : (m.noted current).release.usable = m.usable := @noted_usable m current
      refine ⟨path, m, hfinds, SetRecord.recompute_withMember hfinds.2 hreleased counted ?_⟩
      by_contra hshifts
      exact abreast (.completion hengages hfinds hpending hsteady hshifts)
  | _ => exact idles

namespace FabricEngine

variable {e : FabricEngine} {op : Op}

theorem installSets_code (stored : List SetRecord) (e : FabricEngine) (rejection : FabricOutcome)
    (rejects : (e.installSets stored).2 = some rejection) : rejection.code ≠ .idempotent := by
  induction stored generalizing e with
  | nil => cases rejects
  | cons r rest ih =>
      unfold installSets at rejects
      split at rejects
      · cases rejects
        exact fun h => by cases h
      · split at rejects
        · cases rejects
          exact fun h => by cases h
        · exact ih _ rejects

theorem loadStore_idempotent {path : Bytes} {files : StoreFiles} (idle : (e.loadStore path files).2.code = .idempotent) :
    (e.loadStore path files).1 = e := by
  unfold loadStore at idle ⊢
  split
  · rfl
  · rename_i hpath
    rw [if_neg hpath] at idle
    cases hread : readAndDecode path e.limits files with
    | error rejection => rfl
    | ok result =>
        rw [hread] at idle
        dsimp only at idle ⊢
        unfold loadDecoded at idle ⊢
        generalize hresult : conclude e _ = loaded at idle ⊢
        rcases conclude_cases hresult with h | h
        · exact h
        · simp only [Checked.bind_ok, Checked.present_ok, Checked.pure_ok] at h
          obtain ⟨epoch, _, authority, _, rfl⟩ := h
          split at idle
          · rename_i rejection hrejects
            exact absurd idle (installSets_code _ _ _ hrejects)
          · cases idle

theorem idempotent_unrequested (request : op.request = none) (idle : (e.exec op).2.code = .idempotent) :
    e.after op = e := by
  cases op with
  | registerPublisher publisher workerBoot scope session =>
      change (e.registerPublisher publisher workerBoot scope session).1 = e
      replace idle : (e.registerPublisher publisher workerBoot scope session).2.code = .idempotent := idle
      generalize hresult : e.registerPublisher publisher workerBoot scope session = result at idle ⊢
      rcases conclude_cases hresult with h | h
      · exact h
      · simp only [Checked.bind_ok] at h
        obtain ⟨_, _, _, _, _, _, _, _, _, _, _, _, h⟩ := h
        split at h
        all_goals
          cases h
          cases idle
  | unregisterPublisher publisher workerBoot =>
      change (e.unregisterPublisher publisher workerBoot).1 = e
      replace idle : (e.unregisterPublisher publisher workerBoot).2.code = .idempotent := idle
      generalize hresult : e.unregisterPublisher publisher workerBoot = result at idle ⊢
      rcases conclude_cases hresult with h | h
      · exact h
      · simp only [Checked.bind_ok, Checked.pure_ok] at h
        obtain ⟨_, _, _, _, rfl⟩ := h
        cases idle
  | fenceWorker publisher workerBoot cause =>
      change (e.fenceWorker publisher workerBoot cause).1 = e
      replace idle : (e.fenceWorker publisher workerBoot cause).2.code = .idempotent := idle
      generalize hresult : e.fenceWorker publisher workerBoot cause = result at idle ⊢
      rcases conclude_cases hresult with h | h
      · exact h
      · simp only [Checked.bind_ok, Checked.pure_ok] at h
        obtain ⟨_, _, _, _, _, _, _, _, rfl⟩ := h
        cases idle
  | advanceEpoch publisher workerBoot session expected attempt =>
      change (e.advanceEpoch publisher workerBoot session expected attempt).1 = e
      replace idle : (e.advanceEpoch publisher workerBoot session expected attempt).2.code = .idempotent := idle
      generalize hresult : e.advanceEpoch publisher workerBoot session expected attempt = result at idle ⊢
      rcases conclude_cases hresult with h | h
      · exact h
      · simp only [Checked.bind_ok, Checked.pure_ok] at h
        obtain ⟨_, _, _, _, _, _, _, _, _, _, _, _, _, _, rfl⟩ := h
        cases idle
  | beginMemberRevalidation context setId memberId attempt =>
      change (e.beginMemberRevalidation context setId memberId attempt).1 = e
      replace idle : (e.beginMemberRevalidation context setId memberId attempt).2.1.code = .idempotent := idle
      unfold beginMemberRevalidation at idle ⊢
      dsimp only at idle ⊢
      split at idle
      · rename_i h
        simp only [Checked.bind_ok, Checked.pure_ok] at h
        obtain ⟨_, _, _, _, _, _, _, _, _, _, _, _, _, _, rfl⟩ := h
        cases idle
      · rfl
  | abandonMemberRevalidation ticket =>
      change (e.abandonMemberRevalidation ticket).1 = e
      replace idle : (e.abandonMemberRevalidation ticket).2.code = .idempotent := idle
      generalize hresult : e.abandonMemberRevalidation ticket = result at idle ⊢
      rcases conclude_cases hresult with h | h
      · exact h
      · simp only [Checked.bind_ok, Checked.pure_ok] at h
        obtain ⟨_, _, _, _, _, _, _, _, _, _, rfl⟩ := h
        cases idle
  | refreshPath context path view =>
      cases view with
      | none => exact (refreshPathLocked_unknown e context path).1
      | some view => cases request
  | loadStore path files => exact loadStore_idempotent idle
  | reconcilePath | bindPathAuthority => cases idle
  | _ => cases request

/-- A step that has left the engine as it was, but for the log of the attempts and for what it has noted of the set
that it names. -/
structure Rests (e : FabricEngine) (op : Op) : Prop where
  rest : e.after op = { e with
    sets := (e.after op).sets
    attempts := (e.after op).attempts
    attemptIndex := (e.after op).attemptIndex }
  sets : (e.after op).sets = e.sets ∨ ∃ setId r x, op.subject = some setId ∧ e.sets[setId]? = some r ∧ op.Notes r x ∧
    (e.after op).sets = e.sets.insert setId x
  digests : ∀ setId : MultipathSetId, (e.after op).sets[setId]?.map computeSetDigest = e.sets[setId]?.map computeSetDigest

theorem Rests.of_same (h : e.after op = e) : e.Rests op where
  rest := by rw [h]
  sets := .inl (by rw [h])
  digests setId := by rw [h]

/-- In every state, an operation that answers that there was nothing to do has done nothing, unless it lags. -/
theorem idempotent_rests {config : FabricConfig} (h : Reachable config e) (idle : (e.exec op).2.code = .idempotent)
    (abreast : ¬Lags e op) : e.Rests op := by
  have haccepted : (e.exec op).2.succeeded = true := by
    unfold FabricOutcome.succeeded
    rw [idle]
    rfl
  cases hrequest : op.request with
  | none => exact .of_same (idempotent_unrequested hrequest idle)
  | some q =>
      have hanswer := exec_answer e hrequest
      generalize hresult : e.exec op = result at hanswer
      rw [hresult] at idle haccepted
      cases hanswer with
      | refused rejects | left _ _ _ _ _ rejects =>
          rw [show _ = false from rejects] at haccepted
          cases haccepted
      | replayed => exact .of_same (congrArg Prod.fst hresult)
      | @answered setId r x outcome admitted named found edit expects accepted reports code idles =>
          have hafter : e.after op = (e.putSet setId x).recordAttempt q.context q.operation q.fields outcome :=
            congrArg Prod.fst hresult
          have hsets : (e.after op).sets = e.sets.insert setId x := by rw [hafter]; rfl
          have hnotes : op.Notes r x := by
            refine Answer.answered_notes hrequest abreast admitted named found expects ?_ ?_ idles
              (counted_of_run h setId r found)
            · rw [hsets, Std.ExtTreeMap.getElem?_insert_self]
            · rw [hresult]
              exact idle
          refine ⟨by rw [hafter]; rfl, .inr ⟨setId, r, x, named, found, hnotes, hsets⟩, fun other => ?_⟩
          rw [hsets, getElem?_insert_eq]
          split
          · rename_i heq
            rw [← heq, found, Option.map_some, Option.map_some, digest_of_covered hnotes.covered]
          · rfl
      | committed _ _ _ _ _ _ _ _ _ _ code | superseded _ _ _ _ _ _ _ _ _ _ _ _ _ code | viewed _ _ _ _ _ _ _ code
      | created _ _ _ _ _ _ _ _ code => exact absurd idle code

end FabricEngine

theorem idempotent_rests_sample : (sampleRun begunSteps).Rests (completion "a5") := by
  have hrun : ((sampleRun begunSteps).exec (completion "a5")).2.code = .idempotent ∧
      ((sampleRun begunSteps).sets[sampleSet]?.all fun r => r.recompute.lifecycle == r.lifecycle) = true := by
    decide +kernel
  obtain ⟨hidle, hderived⟩ := hrun
  refine FabricEngine.idempotent_rests (sampleRun_reachable begunSteps) hidle ?_
  intro hlags
  cases hlags with
  | completion engages finds pending steady shifts =>
      obtain rfl : sampleSet = _ := Option.some.inj engages.named
      rw [engages.found, Option.all_some, beq_iff_eq] at hderived
      exact shifts hderived

def degradedSteps : List Op := reloads (alteredStore sampleSteps fun r => { r with lifecycle := .degraded, minimumUsableMembers := 1 })

/-- A completion uses a ticket up, and a revalidation notes another state of the path; the revalidation of a set stamps
it anew, and a setting derives the lifecycle of a stored set. -/
theorem idempotent_rests_fails :
    ((completion "a5").subject = some sampleSet ∧ ¬∀ config e, Reachable config e →
        (e.exec (completion "a5")).2.code = .idempotent → (e.after (completion "a5")).sets = e.sets) ∧
      (¬∀ config e context setId memberId looked, Reachable config e →
        (e.exec (.revalidateMember context setId memberId looked)).2.code = .idempotent →
          (e.after (.revalidateMember context setId memberId looked)).sets = e.sets) ∧
      (¬∀ config e context setId views, Reachable config e →
        (e.exec (.revalidateSet context setId views)).2.code = .idempotent →
          (e.after (.revalidateSet context setId views)).sets[setId]?.map computeSetDigest =
            e.sets[setId]?.map computeSetDigest) ∧
      ¬∀ config e context setId minimum, Reachable config e →
        (e.exec (.setMinimumUsableMembers context setId minimum)).2.code = .idempotent →
          (e.after (.setMinimumUsableMembers context setId minimum)).sets[setId]?.map computeSetDigest =
            e.sets[setId]?.map computeSetDigest := by
  refine ⟨⟨rfl, fun h => ?_⟩, fun h => ?_, fun h => ?_, fun h => ?_⟩
  · have hrun : ((sampleRun begunSteps).exec (completion "a5")).2.code = .idempotent ∧
        ((sampleRun begunSteps).after (completion "a5")).sets[sampleSet]?.map
            (fun r => r.members[samplePath]?.map MemberRecord.pendingRevalidations) ≠
          (sampleRun begunSteps).sets[sampleSet]?.map
            fun r => r.members[samplePath]?.map MemberRecord.pendingRevalidations := by
      decide +kernel
    rw [h sampleConfig _ (sampleRun_reachable begunSteps) hrun.1] at hrun
    exact hrun.2 rfl
  · have hrun : ((sampleRun (conditionalSteps ++ [.bindPathAuthority true])).exec
          (.revalidateMember (sampleContext "a9") sampleSet sampleMember (some (some conditionalView)))).2.code = .idempotent ∧
        ((sampleRun (conditionalSteps ++ [.bindPathAuthority true])).after
            (.revalidateMember (sampleContext "a9") sampleSet sampleMember (some (some conditionalView)))).sets[sampleSet]?.map
            (fun r => r.members[samplePath]?.map MemberRecord.observedAuthorityState) ≠
          (sampleRun (conditionalSteps ++ [.bindPathAuthority true])).sets[sampleSet]?.map
            fun r => r.members[samplePath]?.map MemberRecord.observedAuthorityState := by
      decide +kernel
    rw [h sampleConfig _ _ _ _ _ (sampleRun_reachable _) hrun.1] at hrun
    exact hrun.2 rfl
  · have hrun : ((sampleRun (restampedSteps.take 5)).exec
          (.revalidateSet (sampleContext "a9") sampleSet (sampleLookup (some sampleView)))).2.code = .idempotent ∧
        ((sampleRun (restampedSteps.take 5)).after
            (.revalidateSet (sampleContext "a9") sampleSet (sampleLookup (some sampleView)))).sets[sampleSet]?.map
              computeSetDigest ≠
          (sampleRun (restampedSteps.take 5)).sets[sampleSet]?.map computeSetDigest := by
      decide +kernel
    exact hrun.2 (h sampleConfig _ _ _ _ (sampleRun_reachable _) hrun.1)
  · have hrun : ((sampleRun degradedSteps).exec
          (.setMinimumUsableMembers (reloadedContext "b1") sampleSet 1)).2.code = .idempotent ∧
        ((sampleRun degradedSteps).after
            (.setMinimumUsableMembers (reloadedContext "b1") sampleSet 1)).sets[sampleSet]?.map
              computeSetDigest ≠
          (sampleRun degradedSteps).sets[sampleSet]?.map computeSetDigest := by
      decide +kernel
    exact hrun.2 (h sampleConfig _ _ _ _ (sampleRun_reachable _) hrun.1)

end MultipathFabric
