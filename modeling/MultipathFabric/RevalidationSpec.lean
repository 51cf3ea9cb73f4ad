import MultipathFabric.MembershipSpec

namespace MultipathFabric

open OrderedMap Checked

theorem MemberRecord.revalidated_pathId (m : MemberRecord) (permitted : Bool) (view : Option PathAuthorityView) :
    (m.revalidated permitted view).pathId = m.pathId := by
  unfold revalidated rebound
  dsimp only
  split
  · rw [evaluate_rest]
    rfl
  · rw [evaluate_rest]

namespace FabricEngine

theorem revalidateSetLocked_answer (e : FabricEngine) (context : MutationContext) (setId : MultipathSetId)
    (views : ViewTable) :
    Answer e (.revalidateSet context setId views) (.onSet context (text "revalidate_set") setId [])
      (e.revalidateSetLocked context setId views).answer := by
  refine .concludeLocked ?_ fun result h => ?_
  · exact .bind (.require rfl) fun _ _ => .bind (admission_replays rfl rfl) fun _ _ =>
      .bind (.require (lifecycleRejection_rejects _ _)) fun _ _ =>
        .bind (expectedSetGenerationMatches_refuses _ _) fun _ _ => .ite (.pure _) (.ite (.pure _) (.pure _))
  · simp only [Checked.bind_ok, Checked.require_ok] at h
    obtain ⟨_, _, r, hadmitted, _, hallowed, _, hexpected, h⟩ := h
    split at h
    · rename_i hsteady
      rw [Checked.pure_ok] at h
      subst h
      exact .answered (admission_admitted rfl rfl hadmitted) rfl (admission_found hadmitted)
        (.inr ⟨rfl, _, .revalidatedSet context views hallowed⟩) (expects_set rfl fun _ => hexpected) rfl
        (.inr ⟨rfl, rfl⟩) (fun _ => rfl) ⟨rfl, hsteady⟩
    · split at h
      · rename_i hexhausted
        rw [Checked.pure_ok] at h
        subst h
        exact .left rfl (admission_admitted rfl rfl hadmitted) rfl (admission_found hadmitted)
          (.revalidatedSet context views hallowed) rfl (.inl (Option.isNone_iff_eq_none.mp hexhausted)) rfl
          (.inr (expects_set rfl fun _ => hexpected))
      · rename_i hnext
        rw [Checked.pure_ok] at h
        subst h
        rw [Option.isNone_iff_eq_none] at hnext
        refine .commit (admission_admitted rfl rfl hadmitted) rfl (admission_found hadmitted)
          (.revalidatedSet context views hallowed) (expects_set rfl fun _ => hexpected) trivial rfl rfl rfl
          (Option.isSome_iff_ne_none.mpr hnext) (absurd · Bool.false_ne_true) rfl ?_ ?_ (.none rfl rfl)
        · rw [makeOutcome_succeeded]
          split <;> rfl
        · change (if r.revalidationComplete views then OutcomeCode.setRevalidated else .setRevalidationIncomplete) ≠ _
          split <;> exact fun h => by cases h

theorem revalidationOutcome_succeeded (code : OutcomeCode) (memberId : MultipathMemberId) (m : MemberRecord)
    (outcome : FabricOutcome) :
    (revalidationOutcome code memberId m outcome).succeeded = outcomeIsSuccess code := rfl

theorem recheckCode_ne (usable : Bool) :
    (if usable then OutcomeCode.memberRevalidated else .memberRevalidationNegative) ≠ .idempotent := by
  cases usable <;> exact fun h => by cases h

theorem revalidateMemberLocked_answer (e : FabricEngine) (context : MutationContext) (setId : MultipathSetId)
    (memberId : MultipathMemberId) (looked : Option (Option PathAuthorityView)) :
    Answer e (.revalidateMember context setId memberId looked)
      (.onSet context (text "revalidate_member") setId [memberId.view])
      (e.revalidateMemberLocked context setId memberId looked).answer := by
  refine .concludeLocked ?_ fun result h => ?_
  · exact .bind (.require rfl) fun _ _ => .bind (authorityCheck_refuses _ _ _ _) fun _ _ =>
      .bind (.present rfl) fun _ _ => .bind (admission_replays rfl rfl) fun _ _ => .bind (.present rfl) fun _ _ =>
        .bind (.require (lifecycleRejection_rejects _ _)) fun _ _ => .bind (.present rfl) fun _ _ =>
          .bind (.require rfl) fun _ _ => .bind (expectedSetGenerationMatches_refuses _ _) fun _ _ =>
            .bind (expectedMemberGenerationMatches_refuses _ _) fun _ _ => .bind (.require rfl) fun _ _ =>
              .ite (.pure _) (.pure _)
  · simp only [Checked.bind_ok, Checked.require_ok, Checked.present_ok, Bool.not_eq_true', Bool.and_eq_true] at h
    obtain ⟨_, ⟨_, hknown⟩, _, _, view, rfl, r, hadmitted, path, hpath, _, hallowed, m, hmember, _, hlive, _, hset, _,
      hexpected, _, ⟨_, hnext⟩, h⟩ := h
    have hedit : RecordEdit e setId r (.revalidateMember context setId memberId (some view)) _ _ :=
      .revalidatedMember context memberId view ⟨hpath, hmember⟩ hallowed hlive
    have hexpects : (Op.revalidateMember context setId memberId (some view)).Expects context r :=
      expects_found rfl ⟨hpath, hmember⟩ (fun _ => hset) fun _ => hexpected
    split at h
    · rw [Checked.pure_ok] at h
      subst h
      refine .commit (admission_admitted rfl rfl hadmitted) rfl (admission_found hadmitted) hedit
        hexpects trivial rfl rfl rfl hnext (absurd · Bool.false_ne_true) rfl ?_ (recheckCode_ne _)
        (.one rfl hknown rfl (.inr ⟨path, m, hmember, .inr (m.revalidated_pathId _ _)⟩))
      rw [revalidationOutcome_succeeded]
      split <;> rfl
    · rename_i hsteady
      rw [Checked.pure_ok] at h
      subst h
      refine .answered (admission_admitted rfl rfl hadmitted) rfl (admission_found hadmitted)
        (.inr ⟨rfl, _, hedit⟩) hexpects ?_ (.inr ⟨rfl, rfl⟩) (fun h => by cases h)
        ⟨view, path, m, rfl, ⟨hpath, hmember⟩, Bool.eq_false_iff.mpr hsteady, rfl⟩
      rw [revalidationOutcome_succeeded]
      split <;> rfl

theorem beginMemberRevalidation_cases (e : FabricEngine) (context : MutationContext) (setId : MultipathSetId)
    (memberId : MultipathMemberId) (attempt : RevalidationAttemptId) :
    ((e.beginMemberRevalidation context setId memberId attempt).1 = e ∧
        (e.beginMemberRevalidation context setId memberId attempt).2.1.succeeded = false) ∨
      (e.authorityCheck context none (some setId) = .ok () ∧
        ∃ r x, e.sets[setId]? = some r ∧
          RecordEdit e setId r (.beginMemberRevalidation context setId memberId attempt) x [] ∧
          (e.beginMemberRevalidation context setId memberId attempt).1 = e.putSet setId x ∧
          (e.beginMemberRevalidation context setId memberId attempt).2.1.succeeded = true) := by
  unfold beginMemberRevalidation
  dsimp only
  split
  · rename_i result h
    simp only [Checked.bind_ok, Checked.require_ok, Checked.present_ok, Checked.pure_ok, decide_eq_true_eq,
      Bool.not_eq_true'] at h
    obtain ⟨_, _, _, hauthority, r, hset, path, hpath, m, hmember, _, hlive, _, hroom, rfl⟩ := h
    exact .inr ⟨hauthority, r, _, requireSet_ok hset, .begun context memberId attempt ⟨hpath, hmember⟩ hlive hroom,
      rfl, rfl⟩
  · rename_i rejection h
    have hrefuses : Refuses (fun _ => False) (α := FabricEngine × FabricOutcome × Option RevalidationTicket)
        (.error rejection) := by
      rw [← h]
      exact .bind (.require rfl) fun _ _ => .bind (authorityCheck_refuses _ _ _ _) fun _ _ =>
        .bind (requireSet_refuses _ _) fun _ _ => .bind (.present rfl) fun _ _ => .bind (.present rfl) fun _ _ =>
          .bind (.require rfl) fun _ _ => .bind (.require rfl) fun _ _ => .pure _
    exact .inl ⟨rfl, (FabricOutcome.rejects_iff.mp ((hrefuses rejection rfl).resolve_right fun h => h)).1⟩

theorem staleCompletion_rejects {e : FabricEngine} {context : MutationContext} {ticket : RevalidationTicket}
    {r : SetRecord} {m : MemberRecord} {outcome : FabricOutcome}
    (h : staleCompletion e context ticket r m = some outcome) : outcome.rejects = true := by
  unfold staleCompletion at h
  split at h
  · cases h
    rfl
  · split at h
    · cases h
      rfl
    · split at h
      · rename_i rejection hmismatch
        cases h
        have hrefuses : Refuses (fun _ => False) (expectedMemberGenerationMatches context m) :=
          expectedMemberGenerationMatches_refuses context m
        exact (hrefuses _ hmismatch).resolve_right fun h => h
      · split at h
        · cases h
          rfl
        · split at h
          · cases h
            rfl
          · cases h

theorem staleCompletion_none {e : FabricEngine} {context : MutationContext} {ticket : RevalidationTicket}
    {r : SetRecord} {m : MemberRecord} (h : staleCompletion e context ticket r m = none) :
    expectedMemberGenerationMatches context m = .ok () ∧ memberIsTerminal m = false ∧
      r.generation.next.isSome = true := by
  unfold staleCompletion at h
  split at h
  · cases h
  · split at h
    · cases h
    · split at h
      · cases h
      · rename_i hmatches
        split at h
        · cases h
        · rename_i hlive
          split at h
          · cases h
          · rename_i hnext
            rw [Bool.or_eq_true, not_or, Option.isNone_iff_eq_none, Option.isNone_iff_eq_none] at hnext
            exact ⟨hmatches, Bool.not_eq_true _ ▸ hlive, Option.isSome_iff_ne_none.mpr hnext.2⟩

theorem completeMemberRevalidation_answer (e : FabricEngine) (context : MutationContext)
    (ticket : RevalidationTicket) (current : Option PathAuthorityView) :
    Answer e (.completeMemberRevalidation context ticket current)
      (.onSet context (text "complete_member_revalidation") ticket.setId [ticket.memberId.view, ticket.attempt.view])
      (e.completeMemberRevalidation context ticket current) := by
  refine .conclude ?_ fun result h => ?_
  · refine .bind (.require rfl) fun _ _ => .bind (.require rfl) fun _ _ =>
      .bind (authorityCheck_refuses _ _ _ _) fun _ _ => .bind (requireSet_refuses _ _) fun _ _ =>
        .bind (.present rfl) fun _ _ => .bind (.present rfl) fun _ _ => .bind (.require rfl) fun _ _ => ?_
    split
    · exact .pure _
    · exact .ite (.pure _) (.pure _)
  · simp only [Checked.bind_ok, Checked.present_ok, Checked.require_ok, bne_iff_ne, Bool.and_eq_true] at h
    obtain ⟨_, _, _, ⟨_, hknown⟩, _, hauthority, r, hset, path, hpath, m, hmember, _, hpending, h⟩ := h
    have hadmitted : Admitted e (.completeMemberRevalidation context ticket current)
        (.onSet context (text "complete_member_revalidation") ticket.setId
          [ticket.memberId.view, ticket.attempt.view]) :=
      ⟨authorizes_named rfl rfl hauthority, .inl rfl⟩
    have hfound := requireSet_ok hset
    split at h
    · rename_i rejection hstale
      rw [Checked.pure_ok] at h
      subst h
      obtain ⟨hrejected, hsilent⟩ := FabricOutcome.rejects_iff.mp (staleCompletion_rejects hstale)
      refine .left rfl hadmitted rfl hfound (.released context ticket current rfl ⟨hpath, hmember⟩ hpending hstale)
        hrejected (.inr fun other m' hm' => ?_) hsilent (.inl rfl)
      rcases member_insert hm' with ⟨rfl, rfl⟩ | ⟨_, hkept⟩
      · exact ⟨m, hmember, rfl, rfl⟩
      · exact ⟨m', hkept, rfl, rfl⟩
    · rename_i hfresh
      obtain ⟨hexpected, _, hnext⟩ := staleCompletion_none hfresh
      have hedit : RecordEdit e ticket.setId r (.completeMemberRevalidation context ticket current) _ _ :=
        .completed context ticket current rfl ⟨hpath, hmember⟩ hpending hfresh
      have hexpects : (Op.completeMemberRevalidation context ticket current).Expects context r :=
        expects_found rfl ⟨hpath, hmember⟩ (absurd · Bool.false_ne_true) fun _ => hexpected
      split at h
      · rw [Checked.pure_ok] at h
        subst h
        refine .commit hadmitted rfl hfound hedit hexpects trivial rfl rfl rfl hnext (absurd · Bool.false_ne_true) rfl ?_
          (recheckCode_ne _) (.one rfl hknown rfl (.inr ⟨path, m, hmember, .inr (m.revalidated_pathId _ _)⟩))
        rw [revalidationOutcome_succeeded]
        split <;> rfl
      · rename_i hsteady
        rw [Checked.pure_ok] at h
        subst h
        refine .answered hadmitted rfl hfound (.inr ⟨rfl, _, hedit⟩) hexpects ?_ (.inr ⟨rfl, rfl⟩) (fun h => by cases h)
          ⟨path, m, ⟨hpath, hmember⟩, hpending, Bool.eq_false_iff.mpr hsteady, rfl⟩
        rw [revalidationOutcome_succeeded]
        split <;> rfl

theorem abandonMemberRevalidation_cases (e : FabricEngine) (ticket : RevalidationTicket) :
    ((e.abandonMemberRevalidation ticket).1 = e ∧ (e.abandonMemberRevalidation ticket).2.succeeded = false) ∨
      ∃ r x, e.sets[ticket.setId]? = some r ∧
        RecordEdit e ticket.setId r (.abandonMemberRevalidation ticket) x [] ∧
        (e.abandonMemberRevalidation ticket).1 = e.putSet ticket.setId x ∧
        (e.abandonMemberRevalidation ticket).2.succeeded = true := by
  refine conclude_elim (fun result => (result.1 = e ∧ result.2.succeeded = false) ∨
    ∃ r x, e.sets[ticket.setId]? = some r ∧
      RecordEdit e ticket.setId r (.abandonMemberRevalidation ticket) x [] ∧
      result.1 = e.putSet ticket.setId x ∧ result.2.succeeded = true) ?_ (fun _ h _ => .inl ⟨rfl, h⟩) fun result h => ?_
  · exact .bind (.require rfl) fun _ _ => .bind (requireSet_refuses _ _) fun _ _ => .bind (.present rfl) fun _ _ =>
      .bind (.present rfl) fun _ _ => .bind (.require rfl) fun _ _ => .pure _
  · simp only [Checked.bind_ok, Checked.present_ok, Checked.pure_ok, Checked.require_ok, bne_iff_ne] at h
    obtain ⟨_, _, r, hset, path, hpath, m, hmember, _, hpending, rfl⟩ := h
    exact .inr ⟨r, _, requireSet_ok hset, .abandoned ticket rfl ⟨hpath, hmember⟩ hpending, rfl, rfl⟩

theorem dependencyInvalidated_congr {e base : FabricEngine} (hlimits : e.limits = base.limits)
    (hepoch : e.currentEpoch = base.currentEpoch) (r : SetRecord) (path : PathId) (m : MemberRecord)
    (context : Option MutationContext) (cause : MembershipCause) :
    e.dependencyInvalidated r path m context cause = base.dependencyInvalidated r path m context cause := by
  simp only [dependencyInvalidated, appendHistory, hlimits, hepoch]

variable {base : FabricEngine} {op : Op} {path : PathId} {view : Option PathAuthorityView}
  {context : Option MutationContext}

theorem applyViewToSet_keeps (e : FabricEngine) (setId : MultipathSetId) (path : PathId)
    (view : Option PathAuthorityView) (context : Option MutationContext) (cause : MembershipCause) :
    Keeps e (e.applyViewToSet setId path view context cause).1 := by
  unfold applyViewToSet
  split
  · exact .refl e
  · split
    · exact .refl e
    · split
      · exact .refl e
      · dsimp only
        split
        · exact putSet_keeps _ _ _
        · exact (captureSnapshot_keeps _ _).trans (putSet_keeps _ _ _)

theorem applyViewToSet_step {e : FabricEngine} (hlimits : e.limits = base.limits)
    (hepoch : e.currentEpoch = base.currentEpoch) (applied : op.Applies path view context)
    (setId other : MultipathSetId) :
    (setId = other → SetStep base op other e.sets[other]?
      (e.applyViewToSet setId path view context .pathInvalidated).1.sets[other]?) ∧
    (setId ≠ other →
      (e.applyViewToSet setId path view context .pathInvalidated).1.sets[other]? = e.sets[other]?) := by
  unfold applyViewToSet
  split
  · exact ⟨fun _ => .kept _, fun _ => rfl⟩
  · rename_i r hfound
    split
    · exact ⟨fun _ => .kept _, fun _ => rfl⟩
    · rename_i hopen
      split
      · exact ⟨fun _ => .kept _, fun _ => rfl⟩
      · rename_i m hmember
        have hunfrozen : setIsFrozen r = false := by simpa using hopen
        dsimp only
        split
        · rename_i hsame
          rw [putSet, getElem?_insert_eq]
          refine ⟨fun h => ?_, fun h => if_neg h⟩
          rw [if_pos h, ← h, hfound]
          exact .changed (.observed applied hunfrozen hmember hsame) .same
        · rw [putSet, captureSnapshot_sets, getElem?_insert_eq]
          refine ⟨fun h => ?_, fun h => if_neg h⟩
          rw [if_pos h, ← h, hfound, dependencyInvalidated_congr hlimits hepoch]
          exact .changed (.invalidated applied hunfrozen hmember) .same

theorem applyViewToSets_step (applied : op.Applies path view context) (dependents : List MultipathSetId)
    (hdistinct : dependents.Nodup) {e : FabricEngine} (hlimits : e.limits = base.limits)
    (hepoch : e.currentEpoch = base.currentEpoch) (other : MultipathSetId) :
    (other ∈ dependents → SetStep base op other e.sets[other]?
      (applyViewToSets path view context .pathInvalidated e dependents).1.sets[other]?) ∧
    (other ∉ dependents →
      (applyViewToSets path view context .pathInvalidated e dependents).1.sets[other]? = e.sets[other]?) := by
  induction dependents generalizing e with
  | nil => exact ⟨fun h => (List.not_mem_nil h).elim, fun _ => rfl⟩
  | cons setId rest ih =>
      obtain ⟨hnotin, hrest⟩ := List.nodup_cons.mp hdistinct
      have hkeeps := e.applyViewToSet_keeps setId path view context .pathInvalidated
      obtain ⟨hin, hout⟩ := ih hrest (hkeeps.limits.trans hlimits) (hkeeps.epoch.trans hepoch)
      obtain ⟨hself, hother⟩ := applyViewToSet_step hlimits hepoch applied setId other
      simp only [applyViewToSets]
      by_cases h : setId = other
      · have hlater : other ∉ rest := by rwa [← h]
        rw [hout hlater]
        exact ⟨fun _ => hself h, fun hnot => absurd (h ▸ List.mem_cons_self) hnot⟩
      · rw [hother h] at hin hout
        refine ⟨fun hmem => hin ?_, fun hnot => hout fun hmem => hnot (List.mem_cons_of_mem _ hmem)⟩
        exact (List.mem_cons.mp hmem).resolve_left fun heq => h heq.symm

theorem applyViewToSets_keeps (dependents : List MultipathSetId) (e : FabricEngine) (cause : MembershipCause) :
    Keeps e (applyViewToSets path view context cause e dependents).1 := by
  induction dependents generalizing e with
  | nil => exact .refl e
  | cons setId rest ih => exact (e.applyViewToSet_keeps setId path view context cause).trans (ih _)

theorem applyView_keeps (e : FabricEngine) (cause : MembershipCause) :
    Keeps e (e.applyView path view context cause).1 := by
  unfold applyView
  split
  · exact .refl e
  · exact applyViewToSets_keeps _ _ _

theorem applyView_step {e : FabricEngine} (hlimits : e.limits = base.limits)
    (hepoch : e.currentEpoch = base.currentEpoch) (applied : op.Applies path view context)
    (other : MultipathSetId) :
    SetStep base op other e.sets[other]? (e.applyView path view context .pathInvalidated).1.sets[other]? := by
  unfold applyView
  split
  · exact .kept _
  · rename_i dependents _
    have hdistinct : dependents.toList.Nodup := by
      refine Std.ExtTreeSet.distinct_toList.imp fun {a b} h heq => h ?_
      rw [heq, Std.compare_self]
    obtain ⟨hin, hout⟩ := applyViewToSets_step applied dependents.toList hdistinct hlimits hepoch other
    by_cases h : other ∈ dependents.toList
    · exact hin h
    · rw [hout h]
      exact .kept _

theorem reconcilePath_effect (e : FabricEngine) (path : PathId) (used observed : Option PathAuthorityView) :
    Effect e (.reconcilePath path used observed) (e.reconcilePath path used observed) := by
  unfold reconcilePath
  split
  · exact .none e _
  · exact ⟨applyView_step rfl rfl (.reconcile path used observed), applyView_keeps e _⟩

theorem applyPathAuthority_answer (e : FabricEngine) (context : MutationContext) (view : PathAuthorityView)
    {op : Op} (applied : op.Applies view.path (some view) (some context))
    (hcaller : ∀ registration, e.pathCallerCheck context = .ok registration → e.Authorizes op) :
    Answer e op (.view context (text "apply_path_authority") view) (e.applyPathAuthority context view) := by
  refine .conclude ?_ fun result h => ?_
  · refine .bind (.require rfl) fun _ _ => .bind (pathCallerCheck_refuses _ _) fun registration hregistered =>
      .bind (.unlessAnswered ?_) fun _ _ => .bind (.unlessAnswered ?_) fun _ _ => .pure _
    · exact fun outcome hknown => .inr ⟨hcaller registration hregistered, hknown⟩
    · exact fun outcome h => .inl (uncoveredDependent_rejects h)
  · simp only [Checked.bind_ok, Checked.unlessAnswered_ok, Checked.pure_ok] at h
    obtain ⟨_, _, registration, hregistered, _, hfresh, _, hcovered, rfl⟩ := h
    exact .viewed ⟨hcaller registration hregistered, .inr hfresh⟩ hregistered applied hcovered (.inr rfl) rfl rfl fun h => by cases h

theorem declarePathAuthority_answer (e : FabricEngine) (context : MutationContext) (view : PathAuthorityView) :
    Answer e (.declarePathAuthority context view) (.view context (text "declare_path_authority") view)
      (e.declarePathAuthority context view) := by
  refine .conclude ?_ fun result h => ?_
  · refine .bind (.require rfl) fun _ _ => .bind (pathCallerCheck_refuses _ _) fun registration hregistered =>
      .bind (.unlessAnswered ?_) fun _ _ => .bind (.require rfl) fun _ _ => .bind (.unlessAnswered ?_) fun _ _ =>
        .pure _
    · exact fun outcome hknown => .inr ⟨⟨registration, hregistered⟩, hknown⟩
    · exact fun outcome h => .inl (uncoveredDependent_rejects h)
  · simp only [Checked.bind_ok, Checked.unlessAnswered_ok, Checked.pure_ok] at h
    obtain ⟨_, _, registration, hregistered, _, hfresh, _, _, _, hcovered, rfl⟩ := h
    refine .viewed ⟨⟨registration, hregistered⟩, .inr hfresh⟩ hregistered (.declare context view) hcovered (.inl rfl)
      ?_ rfl ?_
    · change outcomeIsSuccess (if 0 < _ then OutcomeCode.pathInvalidated else .updated) = true
      split <;> rfl
    · change (if 0 < _ then OutcomeCode.pathInvalidated else .updated) ≠ _
      split <;> exact fun h => by cases h

theorem refreshPathLocked_answer (e : FabricEngine) (context : MutationContext) (path : PathId)
    (view : PathAuthorityView) :
    Answer e (.refreshPath context path (some view)) (.view context (text "apply_path_authority") view)
      (e.refreshPathLocked context path (some view)) := by
  unfold refreshPathLocked
  split
  · exact .refused rfl rfl
  · exact applyPathAuthority_answer e context view (.refresh context path view) fun registration h =>
      ⟨registration, h⟩

theorem refreshPathLocked_unknown (e : FabricEngine) (context : MutationContext) (path : PathId) :
    (e.refreshPathLocked context path none).1 = e ∧ (e.refreshPathLocked context path none).2.succeeded = false := by
  unfold refreshPathLocked
  split <;> exact ⟨rfl, rfl⟩

theorem createSet_answer (e : FabricEngine) (context : MutationContext) (key : SetKey) (options : SetOptions) :
    Answer e (.createSet context key options)
      ⟨context, text "create_set",
        [text "create_set", key.render, decimal options.minimumUsableMembers.toNat,
          flagText options.adminEnabled, flagText options.conditionalAuthorityPermitted]⟩
      (e.createSet context key options) := by
  refine .conclude ?_ fun result h => ?_
  · refine .bind (.require rfl) fun _ _ => .bind (authorityCheck_refuses _ _ _ _) fun _ hcaller =>
      .bind (.unlessAnswered ?_) fun _ _ => .bind (.require rfl) fun _ _ => .bind (.require rfl) fun _ _ =>
        .bind (.require rfl) fun _ _ => .pure _
    exact fun outcome hknown => .inr ⟨hcaller, hknown⟩
  · simp only [Checked.bind_ok, Checked.require_ok, Checked.unlessAnswered_ok, Checked.pure_ok, decide_eq_true_eq,
      Option.isNone_iff_eq_none] at h
    obtain ⟨_, hkey, _, hcaller, _, hfresh, _, hfree, _, hroom, _, hbound, rfl⟩ := h
    exact .created rfl ⟨hcaller, .inr hfresh⟩ hkey hfree hroom hbound rfl (.inr ⟨rfl, rfl⟩) (fun h => by cases h)

theorem exec_answer (e : FabricEngine) {op : Op} {q : Request} (h : op.request = some q) :
    Answer e op q (e.exec op) := by
  cases op with
  | createSet context key options =>
      cases h
      exact createSet_answer e context key options
  | publishSet context setId =>
      cases h
      exact publishSet_answer e context setId
  | setMinimumUsableMembers context setId minimum =>
      cases h
      exact setMinimumUsableMembers_answer e context setId minimum
  | setConditionalAuthorityPolicy context setId permitted =>
      cases h
      exact setConditionalAuthorityPolicy_answer e context setId permitted
  | setAdminEnabled context setId enabled =>
      cases h
      exact setAdminEnabled_answer e context setId enabled
  | withdrawSet context setId reason =>
      cases h
      exact withdrawSet_answer e context setId reason
  | completeWithdrawal context setId =>
      cases h
      exact completeWithdrawal_answer e context setId
  | revokeSet context setId reason detail =>
      cases h
      exact revokeSet_answer e context setId reason detail
  | retireSet context setId reason =>
      cases h
      exact retireSet_answer e context setId reason
  | supersedeSet context predecessor successor =>
      cases h
      exact supersedeSet_answer e context predecessor successor
  | addMember context setId request view =>
      cases h
      exact addMembersLocked_answer e context setId _ (.one request view)
  | addMembers context setId requests =>
      cases h
      exact addMembersLocked_answer e context setId _ (.many requests)
  | removeMember context setId memberId reason =>
      cases h
      exact removeMember_answer e context setId memberId reason
  | withdrawMember context setId memberId reason =>
      cases h
      exact withdrawMember_answer e context setId memberId reason
  | replaceMember context setId memberId request reason view =>
      cases h
      exact replaceMemberLocked_answer e context setId memberId request reason view
  | setMemberAdminEnabled context setId memberId enabled view =>
      cases h
      exact setMemberAdminEnabledLocked_answer e context setId memberId enabled view
  | revalidateSet context setId views =>
      cases h
      exact revalidateSetLocked_answer e context setId views
  | revalidateMember context setId memberId looked =>
      cases h
      exact revalidateMemberLocked_answer e context setId memberId looked
  | completeMemberRevalidation context ticket current =>
      cases h
      exact completeMemberRevalidation_answer e context ticket current
  | declarePathAuthority context view =>
      cases h
      exact declarePathAuthority_answer e context view
  | applyPathAuthority context view =>
      cases h
      exact applyPathAuthority_answer e context view (.apply context view) fun registration h => ⟨registration, h⟩
  | refreshPath context path view =>
      cases view with
      | none => cases h
      | some view =>
          cases h
          exact refreshPathLocked_answer e context path view
  | _ => cases h

theorem request_context {op : Op} {q : Request} (h : op.request = some q) : op.context = some q.context := by
  cases op with
  | refreshPath context path view =>
      cases view with
      | none => cases h
      | some view =>
          cases h
          rfl
  | _ => cases h <;> rfl

theorem named_plain {op : Op} {setId : MultipathSetId} (h : setId ∈ op.names) : op.views = false := by
  cases op with
  | declarePathAuthority | applyPathAuthority | refreshPath | reconcilePath => cases h
  | _ => rfl

theorem authorizes_caller {e : FabricEngine} {op : Op} {context : MutationContext} {setId : MultipathSetId}
    (h : e.Authorizes op) (hcontext : op.context = some context) (hnamed : setId ∈ op.names) :
    e.authorityCheck context none (some setId) = .ok () := by
  cases op with
  | createSet | declarePathAuthority | applyPathAuthority | refreshPath => cases hnamed
  | _ => exact h context setId hcontext hnamed

theorem prepared_sets (e : FabricEngine) (r : SetRecord) (op : Op) : (e.prepared r op).sets = e.sets := by
  cases op with
  | addMember | addMembers => exact admitPaths_sets _ _ _
  | removeMember =>
      simp only [prepared]
      split
      · rfl
      · exact unindexPath_sets _ _ _
  | _ => rfl

theorem prepared_keeps (e : FabricEngine) (r : SetRecord) (op : Op) : Keeps e (e.prepared r op) := by
  cases op with
  | addMember | addMembers => exact (admitPaths_keeps _ _ _).trans ⟨rfl, rfl, rfl, rfl, rfl, rfl, rfl, rfl⟩
  | removeMember =>
      simp only [prepared]
      split
      · exact .refl e
      · exact (unindexPath_keeps _ _ _).trans ⟨rfl, rfl, rfl, rfl, rfl, rfl, rfl, rfl⟩
  | replaceMember => exact ⟨rfl, rfl, rfl, rfl, rfl, rfl, rfl, rfl⟩
  | _ => exact .refl e

theorem supersedeSuccessor_sets (e : FabricEngine) (context : MutationContext)
    (predecessor successor : MultipathSetId) (newRecord : SetRecord) :
    (e.supersedeSuccessor context predecessor successor newRecord).sets =
      e.sets.insert successor (e.appendHistory newRecord .supersede .setSuperseded (some context) none none
        (text "supersedes " ++ predecessor.view)) := by
  simp only [supersedeSuccessor, putSet, captureSnapshot_sets]

theorem supersedeSuccessor_keeps (e : FabricEngine) (context : MutationContext)
    (predecessor successor : MultipathSetId) (newRecord : SetRecord) :
    Keeps e (e.supersedeSuccessor context predecessor successor newRecord) :=
  (captureSnapshot_keeps _ _).trans (putSet_keeps _ _ _)

theorem appendHistory_congr {e e' : FabricEngine} (h : e'.limits = e.limits) (r : SetRecord) (event : SetEvent)
    (cause : MembershipCause) (context : MutationContext) (memberId : Option MultipathMemberId)
    (pathId : Option PathId) (summary : Bytes) :
    e'.appendHistory r event cause (some context) memberId pathId summary =
      e.appendHistory r event cause (some context) memberId pathId summary := by
  simp only [appendHistory, h, Option.map_some, Option.getD_some]

theorem Effect.pair {op : Op} {e' : FabricEngine} {a b : MultipathSetId} {ra rb ra' rb' : SetRecord}
    (hfoundA : e.sets[a]? = some ra) (hfoundB : e.sets[b]? = some rb)
    (hstepA : SetStep e op a (some ra) (some ra')) (hstepB : SetStep e op b (some rb) (some rb'))
    (hsets : ∀ other, e'.sets[other]? =
      if a = other then some ra' else if b = other then some rb' else e.sets[other]?)
    (keeps : Keeps e e') : Effect e op e' := by
  refine ⟨fun other => ?_, keeps⟩
  rw [hsets]
  split
  · rename_i h
    rw [← h, hfoundA]
    exact hstepA
  · split
    · rename_i h
      rw [← h, hfoundB]
      exact hstepB
    · exact .kept _

theorem Effect.replaced {e e' : FabricEngine} {op : Op} {setId : MultipathSetId} {r x : SetRecord}
    (found : e.sets[setId]? = some r) (edit : x = r ∨ ∃ summary, RecordEdit e setId r op x summary)
    (sets : e'.sets = e.sets.insert setId x) (keeps : Keeps e e') : Effect e op e' := by
  rcases edit with rfl | ⟨summary, hedit⟩
  · refine ⟨fun other => ?_, keeps⟩
    rw [sets, getElem?_insert_eq]
    split
    · rename_i h
      rw [← h, found]
      exact .kept _
    · exact .kept _
  · exact .store found hedit .same sets keeps

theorem sealedCommit_sets (e : FabricEngine) (setId : MultipathSetId) (y : SetRecord) (q : Request)
    (spec : CommitSpec) (outcome : FabricOutcome) :
    (e.sealedCommit setId y q spec outcome).sets = e.sets.insert setId (y.committed e q.context spec) :=
  storeCommitted_sets _ _ _ _

theorem sealedCommit_keeps (e : FabricEngine) (setId : MultipathSetId) (y : SetRecord) (q : Request)
    (spec : CommitSpec) (outcome : FabricOutcome) : Keeps e (e.sealedCommit setId y q spec outcome) :=
  (storeCommitted_keeps _ _ _ _).trans (recordAttempt_keeps _ _ _ _ _)

end FabricEngine

open FabricEngine

theorem Answer.effect {e : FabricEngine} {op : Op} {q : Request} {result : FabricEngine × FabricOutcome}
    (answer : Answer e op q result) (h : op.request = some q)
    (hcreate : ∀ key options, op ≠ .createSet q.context key options)
    (hdeclare : ∀ view, op ≠ .declarePathAuthority q.context view) : Effect e op result.1 := by
  have hidentity : ∀ {setId : MultipathSetId}, Admitted e op q → setId ∈ op.names →
      q.context.hasCallerIdentity = true := by
    intro setId hadmitted hnamed
    exact (authorityCheck_ok (authorizes_caller hadmitted.caller (request_context h) hnamed)).1
  cases answer with
  | refused => exact .none e op
  | replayed => exact .none e op
  | left _ _ _ found edit => exact .put found edit
  | answered _ _ found edit =>
      exact .replaced found (edit.imp_right And.right) rfl ((putSet_keeps _ _ _).trans (recordAttempt_keeps _ _ _ _ _))
  | @committed setId r x spec outcome generation membershipGeneration admitted named found edit _ _ next follows =>
      have hkeeps := prepared_keeps e r op
      have hset : x.generation.Follows generation := .inr (by rw [edit.generation (named_plain (Op.subject_named named)), next])
      have hmembership : x.membershipGeneration.Follows membershipGeneration := by
        rw [edit.sameHead.membershipGeneration]
        exact follows
      have hsealed : Sealed e.limits x spec.summary
          ((x.advanced generation membershipGeneration).committed (e.prepared r op) q.context spec) :=
        .committed hkeeps.limits (hidentity admitted (Op.subject_named named)) rfl hset hmembership
      refine .store found edit hsealed ?_ (hkeeps.trans (sealedCommit_keeps _ _ _ _ _ _))
      rw [sealedCommit_sets, prepared_sets]
  | @superseded predecessor successor old new x spec outcome generation supersedes admitted distinct known foundOld
      foundNew accepts first edit _ next =>
      have hplain : op.views = false := by rw [supersedes]; rfl
      have hnamed : predecessor ∈ op.names := by rw [supersedes]; exact List.mem_cons_self
      have hcommit := (putSet_keeps e successor { new with supersedes := some predecessor }).trans
        (sealedCommit_keeps _ predecessor (x.advanced generation old.membershipGeneration) q spec outcome)
      have hset : x.generation.Follows generation := .inr (by rw [edit.generation hplain, next])
      have hsealed : Sealed e.limits x spec.summary
          ((x.advanced generation old.membershipGeneration).committed
            (e.putSet successor { new with supersedes := some predecessor }) q.context spec) :=
        .committed rfl (hidentity admitted hnamed) rfl hset (.inl edit.sameHead.membershipGeneration.symm)
      subst supersedes
      refine .pair foundOld foundNew (.changed edit hsealed)
        (.changed (.supersedesRecorded q.context predecessor known foundOld accepts first) .same) (fun other => ?_)
        (hcommit.trans (supersedeSuccessor_keeps _ _ _ _ _))
      rw [supersedeSuccessor_sets, sealedCommit_sets, appendHistory_congr hcommit.limits, putSet,
        getElem?_insert_eq, getElem?_insert_eq, getElem?_insert_eq]
      split_ifs with hsecond hfirst
      · exact absurd (hfirst.trans hsecond.symm) distinct
      all_goals rfl
  | @viewed _ directory _ view _ _ _ applied _ declares =>
      rcases declares with hop | rfl
      · exact absurd hop (hdeclare view)
      · exact ⟨applyView_step rfl rfl applied, (applyView_keeps _ _).trans (recordAttempt_keeps _ _ _ _ _)⟩
  | @created key options _ creates => exact absurd creates (hcreate key options)

end MultipathFabric
