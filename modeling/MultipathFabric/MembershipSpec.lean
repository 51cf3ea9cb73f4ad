import MultipathFabric.MutationSpec

namespace MultipathFabric

open OrderedMap Checked

namespace FabricEngine

variable {e : FabricEngine} {op : Op} {context : MutationContext} {setId : MultipathSetId}

theorem publishMembers_engine (context : MutationContext) (setId : MultipathSetId) (e : FabricEngine) (r : SetRecord)
    (requests : List (MemberRequest × Option PathAuthorityView)) :
    (publishMembers context setId e r requests).1 = e.admitPaths setId (requests.map Prod.fst) := by
  induction requests generalizing e r with
  | nil => rfl
  | cons request rest ih => exact ih _ _

theorem admitPaths_totalMembers (e : FabricEngine) (setId : MultipathSetId) (requests : List MemberRequest) :
    (e.admitPaths setId requests).totalMembers = e.totalMembers := by
  induction requests generalizing e with
  | nil => rfl
  | cons request rest ih => exact ih _

theorem admitPaths_sets (e : FabricEngine) (setId : MultipathSetId) (requests : List MemberRequest) :
    (e.admitPaths setId requests).sets = e.sets := by
  induction requests generalizing e with
  | nil => rfl
  | cons request rest ih => exact ih _

theorem admitPaths_keeps (e : FabricEngine) (setId : MultipathSetId) (requests : List MemberRequest) :
    Keeps e (e.admitPaths setId requests) := by
  induction requests generalizing e with
  | nil => exact .refl e
  | cons request rest ih =>
      have hadmitted : Keeps e (e.admitPath setId request.pathId) := ⟨rfl, rfl, rfl, rfl, rfl, rfl, rfl, rfl⟩
      exact hadmitted.trans (ih _)

theorem publication_prepared {requests : List (MemberRequest × Option PathAuthorityView)} {bulk : Bool}
    (publication : op.Publishes context setId requests bulk) (e : FabricEngine) (r x : SetRecord) :
    e.prepared r op =
      { (publishMembers context setId e x requests).1 with
        totalMembers := (publishMembers context setId e x requests).1.totalMembers +
          (newLive r (requests.map Prod.fst)).length } := by
  rw [publishMembers_engine, admitPaths_totalMembers]
  cases publication <;> rfl

theorem publication_hasRoom {requests : List (MemberRequest × Option PathAuthorityView)} {bulk : Bool}
    (publication : op.Publishes context setId requests bulk) {r : SetRecord}
    (h : e.HasRoomFor r (requests.map Prod.fst)) : e.HasRoom r op := by
  cases publication <;> exact h

theorem addMembersLocked_cases (e : FabricEngine) (context : MutationContext) (setId : MultipathSetId)
    {requests : List (MemberRequest × Option PathAuthorityView)} (operation : Bytes) {bulk : Bool}
    (publication : op.Publishes context setId requests bulk) :
    (∃ outcome, (outcome.rejects = true ∨
        e.Replays op ⟨context, operation, bulkFields operation setId (requests.map Prod.fst)⟩ outcome) ∧
      e.addMembersLocked context setId requests operation bulk = ⟨e, outcome, false⟩) ∨
    ∃ (r x : SetRecord) (spec : CommitSpec) (outcome : FabricOutcome),
      e.admission context operation (bulkFields operation setId (requests.map Prod.fst)) setId = .ok r ∧
      requests ≠ [] ∧
      (∀ request ∈ requests, request.1.pathId.valid = true ∧ request.1.authorityGeneration.valid = true) ∧
      transitionAllowed r.lifecycle .memberAdded = true ∧ expectedSetGenerationMatches context r = .ok () ∧
      unsupportedRequest r requests = none ∧ duplicateRequest r setId [] (requests.map Prod.fst) = none ∧
      e.HasRoomFor r (requests.map Prod.fst) ∧ r.generation.next.isSome = true ∧
      r.membershipGeneration.next.isSome = true ∧ r.applyTransition .memberAdded = .ok x ∧
      spec.advanceSetGeneration = true ∧ spec.advanceMembershipGeneration = true ∧
      spec.summary = publicationSummary bulk (requests.map Prod.fst) r.lifecycle
        (publishMembers context setId e x requests).2.1.recompute.lifecycle ∧
      spec.memberId = onlyElement (publishMembers context setId e x requests).2.2 ∧
      spec.pathId = onlyElement ((requests.map Prod.fst).map MemberRequest.pathId) ∧ outcome.code = .memberAdded ∧
      e.addMembersLocked context setId requests operation bulk =
        .committed ((e.prepared r op).commitLocked setId (publishMembers context setId e x requests).2.1.recompute
          context operation (bulkFields operation setId (requests.map Prod.fst)) spec outcome) := by
  have hcontext : op.context = some context := by cases publication <;> rfl
  have hnames : op.names = [setId] := by cases publication <;> rfl
  refine (concludeLocked_refuses ?_).imp_right ?_
  · refine .bind (.require rfl) fun _ _ => .bind (.require rfl) fun _ _ => .bind (.require rfl) fun _ _ =>
      .bind (.require rfl) fun _ _ => .bind (admission_replays hcontext hnames) fun r _ =>
        .bind (.require (lifecycleRejection_rejects _ _)) fun _ _ =>
          .bind (expectedSetGenerationMatches_refuses _ _) fun _ _ => .bind (.unlessAnswered ?_) fun _ _ =>
            .bind (.unlessAnswered ?_) fun _ _ => .bind (.require rfl) fun _ _ => .bind (.require rfl) fun _ _ =>
              .bind (.unlessAnswered ?_) fun _ _ => .bind (.require rfl) fun _ _ =>
                .bind (r.transition_refuses _ _) fun _ _ => .pure _
    · exact fun outcome h => .inl (unsupportedRequest_rejects h)
    · exact fun outcome h => .inl (duplicateRequest_rejects h)
    · exact fun outcome h => .inl (dependencyLimit_rejects h)
  · rintro ⟨result, h, hresult⟩
    simp only [Checked.bind_ok, Checked.require_ok, Checked.unlessAnswered_ok, Checked.pure_ok,
      List.all_eq_true, Bool.and_eq_true, decide_eq_true_eq] at h
    obtain ⟨_, _, _, hnonempty, _, _, _, hvalid, r, hadmitted, _, hallowed, _, hexpected, _, hsupported, _, hdistinct,
      _, hlive, _, htotal, _, hdependents, _, ⟨hnext, hmembership⟩, x, hmoved, hcommitted⟩ := h
    rw [← hcommitted, ← publication_prepared publication e r x] at hresult
    refine ⟨r, x, _, _, hadmitted, ?_, fun request hrequest => ?_, hallowed, hexpected, hsupported, hdistinct,
      ⟨hlive, htotal, hdependents⟩, hnext, hmembership, SetRecord.transition_ok hmoved, ?_, ?_, ?_, ?_, ?_, ?_, hresult⟩
    · intro hempty
      rw [hempty] at hnonempty
      cases hnonempty
    · exact hvalid request.1 (List.mem_map_of_mem hrequest)
    all_goals rfl

theorem onlyElement_mem {α : Type} {l : List α} {a : α} (h : onlyElement l = some a) : a ∈ l := by
  cases l with
  | nil => cases h
  | cons b rest =>
      cases rest with
      | nil =>
          cases h
          exact List.mem_cons_self
      | cons c rest => cases h

theorem published_valid (context : MutationContext) (setId : MultipathSetId) (e : FabricEngine) (r : SetRecord)
    (requests : List (MemberRequest × Option PathAuthorityView)) :
    ∀ id ∈ (publishMembers context setId e r requests).2.2, id.valid = true := by
  induction requests generalizing e r with
  | nil =>
      intro id hid
      cases hid
  | cons request rest ih =>
      intro id hid
      rcases List.mem_cons.mp hid with rfl | hid
      · rw [newMember, MemberRecord.evaluate_rest]
        exact e.ids.nextMemberId_valid
      · exact ih _ _ id hid

theorem requested_valid {requests : List (MemberRequest × Option PathAuthorityView)}
    (h : ∀ request ∈ requests, request.1.pathId.valid = true ∧ request.1.authorityGeneration.valid = true) {path : PathId}
    (hpath : path ∈ (requests.map Prod.fst).map MemberRequest.pathId) : path.valid = true := by
  obtain ⟨request, hrequest, rfl⟩ := List.mem_map.mp hpath
  obtain ⟨pair, hpair, rfl⟩ := List.mem_map.mp hrequest
  exact (h pair hpair).1

theorem addMembersLocked_answer (e : FabricEngine) (context : MutationContext) (setId : MultipathSetId)
    {requests : List (MemberRequest × Option PathAuthorityView)} (operation : Bytes) {bulk : Bool}
    (publication : op.Publishes context setId requests bulk) :
    Answer e op ⟨context, operation, bulkFields operation setId (requests.map Prod.fst)⟩
      (e.addMembersLocked context setId requests operation bulk).answer := by
  have hcontext : op.context = some context := by cases publication <;> rfl
  have hnames : op.names = [setId] := by cases publication <;> rfl
  have hmember : op.member = none := by cases publication <;> rfl
  have hplain : op.views = false := by cases publication <;> rfl
  have hgrows : op.changesMembership = true := by cases publication <;> rfl
  rcases addMembersLocked_cases e context setId operation publication with ⟨outcome, hrefuses, hanswered⟩ |
    ⟨r, x, spec, outcome, hadmitted, _, hvalid, hallowed, hexpected, hsupported, hdistinct, hroom, hnext, hmembership,
      hmoved, hadvances, hchanges, hsummary, hminted, hplaces, hcode, hcommitted⟩
  · rw [hanswered]
    rcases hrefuses with hrejected | hknown
    · obtain ⟨hfailed, hsilent⟩ := FabricOutcome.rejects_iff.mp hrejected
      exact .refused hfailed hsilent
    · exact .replayed hknown
  · have haccepted : outcome.succeeded = true := by
      unfold FabricOutcome.succeeded
      rw [hcode]
      rfl
    have hedit : RecordEdit e setId r op _ _ := .added context publication hvalid hallowed hsupported hdistinct hmoved
    rw [← hsummary] at hedit
    rw [hcommitted]
    exact .commit (admission_admitted hcontext hnames hadmitted) (by rw [Op.subject, hnames]; rfl)
      (admission_found hadmitted) hedit (expects_set hmember fun _ => hexpected)
      (publication_hasRoom publication hroom) rfl hplain hadvances hnext (fun _ => hmembership) (hchanges.trans hgrows.symm)
      haccepted (fun hidempotent => by rw [hcode] at hidempotent; cases hidempotent)
      ⟨fun id hid => published_valid context setId e x requests id (onlyElement_mem (hminted.symm.trans hid)), fun path hpath =>
        .inl (requested_valid hvalid (onlyElement_mem (hplaces.symm.trans hpath)))⟩

theorem expects_found {context : MutationContext} {r : SetRecord} {memberId : MultipathMemberId} {path : PathId}
    {m : MemberRecord} (hmember : op.member = some memberId) (hfound : r.finds memberId path m)
    (hset : op.comparesSet = true → expectedSetGenerationMatches context r = .ok ())
    (h : op.comparesMember = true → expectedMemberGenerationMatches context m = .ok ()) : op.Expects context r where
  set := hset
  member other hother := by
    rw [hmember] at hother
    cases hother
    exact ⟨path, m, hfound, h⟩

theorem removeMember_answer (e : FabricEngine) (context : MutationContext) (setId : MultipathSetId)
    (memberId : MultipathMemberId) (reason : Bytes) :
    Answer e (.removeMember context setId memberId reason)
      (.onSet context (text "remove_member") setId [memberId.view, reason])
      (e.removeMember context setId memberId reason) := by
  refine .conclude ?_ fun result h => ?_
  · exact .bind (.require rfl) fun _ _ => .bind (.require rfl) fun _ _ => .bind (admission_replays rfl rfl) fun r _ =>
      .bind (.present rfl) fun _ _ => .bind (.require (lifecycleRejection_rejects _ _)) fun _ _ =>
        .bind (.present rfl) fun _ _ => .bind (expectedSetGenerationMatches_refuses _ _) fun _ _ =>
          .bind (expectedMemberGenerationMatches_refuses _ _) fun _ _ => .bind (.require rfl) fun _ _ =>
            .bind (r.transition_refuses _ _) fun _ _ => .pure _
  · simp only [Checked.bind_ok, Checked.require_ok, Checked.present_ok, Checked.pure_ok, decide_eq_true_eq,
      Bool.and_eq_true] at h
    obtain ⟨_, ⟨_, hknown⟩, _, hbound, r, hadmitted, path, hpath, _, hallowed, m, hmember, _, hset, _, hexpected, _,
      ⟨hnext, hmembership⟩, x, hmoved, rfl⟩ := h
    refine .commit (admission_admitted rfl rfl hadmitted) rfl (admission_found hadmitted)
      (.removed context memberId reason hbound ⟨hpath, hmember⟩ hallowed (SetRecord.transition_ok hmoved))
      (expects_found rfl ⟨hpath, hmember⟩ (fun _ => hset) fun _ => hexpected) trivial ?_ rfl rfl hnext
      (fun _ => hmembership) rfl rfl (fun h => by cases h)
      (.one rfl hknown rfl (.inr ⟨path, m, hmember, .inl rfl⟩))
    simp only [prepared, hpath, unindexPath]
    split <;> rfl

theorem withdrawMember_answer (e : FabricEngine) (context : MutationContext) (setId : MultipathSetId)
    (memberId : MultipathMemberId) (reason : Bytes) :
    Answer e (.withdrawMember context setId memberId reason)
      (.onSet context (text "withdraw_member") setId [memberId.view, reason])
      (e.withdrawMember context setId memberId reason) := by
  refine .conclude ?_ fun result h => ?_
  · exact .bind (.require rfl) fun _ _ => .bind (.require rfl) fun _ _ => .bind (admission_replays rfl rfl) fun r _ =>
      .bind (.present rfl) fun _ _ => .bind (.require (lifecycleRejection_rejects _ _)) fun _ _ =>
        .bind (.present rfl) fun _ _ => .ite (.pure _)
          (.bind (expectedMemberGenerationMatches_refuses _ _) fun _ _ => .bind (.require rfl) fun _ _ =>
            .bind (.present rfl) fun _ _ => .bind (r.transition_refuses _ _) fun _ _ => .pure _)
  · simp only [Checked.bind_ok, Checked.require_ok, Checked.present_ok, decide_eq_true_eq, Bool.and_eq_true] at h
    obtain ⟨_, ⟨_, hknown⟩, _, hbound, r, hadmitted, path, hpath, _, hallowed, m, hmember, h⟩ := h
    have hexpects : (Op.withdrawMember context setId memberId reason).Expects context r :=
      expects_found rfl ⟨hpath, hmember⟩ (absurd · Bool.false_ne_true) (absurd · Bool.false_ne_true)
    split at h
    · rw [Checked.pure_ok] at h
      subst h
      exact .answered (admission_admitted rfl rfl hadmitted) rfl (admission_found hadmitted)
        (.inl rfl) hexpects rfl (.inr ⟨rfl, rfl⟩) (fun _ => rfl) rfl
    · simp only [Checked.bind_ok, Checked.require_ok, Checked.present_ok, Checked.pure_ok, Bool.and_eq_true] at h
      obtain ⟨_, _, _, ⟨⟨_, hnext⟩, hmembership⟩, lifecycle, hends, x, hmoved, rfl⟩ := h
      exact .commit (admission_admitted rfl rfl hadmitted) rfl (admission_found hadmitted)
        (.withdrewMember context memberId reason hbound ⟨hpath, hmember⟩ hallowed hends
          (SetRecord.transition_ok hmoved))
        hexpects trivial rfl rfl rfl hnext (fun _ => hmembership) rfl rfl (fun h => by cases h)
        (.one rfl hknown rfl (.inr ⟨path, m, hmember, .inr rfl⟩))

theorem replaceMemberLocked_answer (e : FabricEngine) (context : MutationContext) (setId : MultipathSetId)
    (memberId : MultipathMemberId) (request : MemberRequest) (reason : Bytes) (view : Option PathAuthorityView) :
    Answer e (.replaceMember context setId memberId request reason view)
      (.onSet context (text "replace_member") setId
        [memberId.view, request.pathId.view, decimal request.authorityGeneration.value.toNat, reason])
      (e.replaceMemberLocked context setId memberId request reason view) := by
  refine .conclude ?_ fun result h => ?_
  · refine .bind (.require rfl) fun _ _ => .bind (.require rfl) fun _ _ => .bind (admission_replays rfl rfl) fun r _ =>
      .bind (.require (lifecycleRejection_rejects _ _)) fun _ _ => .bind (.present rfl) fun _ _ =>
        .bind (.require rfl) fun _ _ => .bind (expectedSetGenerationMatches_refuses _ _) fun _ _ =>
          .bind (.present rfl) fun _ _ => .bind (expectedMemberGenerationMatches_refuses _ _) fun _ _ =>
            .bind (.unlessAnswered ?_) fun _ _ => .bind (.unlessAnswered ?_) fun _ _ =>
              .bind (.require rfl) fun _ _ => .bind (.require rfl) fun _ _ => .bind (.require rfl) fun _ _ =>
                .bind (.require rfl) fun _ _ => .bind (r.transition_refuses _ _) fun _ _ => .pure _
    · exact fun outcome h => .inl (unsupportedRequest_rejects h)
    · intro outcome h
      obtain ⟨live, _, rfl⟩ := Option.map_eq_some_iff.mp h
      exact .inl rfl
  · simp only [Checked.bind_ok, Checked.require_ok, Checked.present_ok, Checked.unlessAnswered_ok, Checked.pure_ok,
      decide_eq_true_eq, Bool.and_eq_true, bne_iff_ne, Option.map_eq_none_iff] at h
    obtain ⟨_, ⟨⟨⟨_, hknown⟩, hvalid⟩, hgeneration⟩, _, hbound, r, hadmitted, _, hallowed, path, hpath, _, hother, _,
      hset, m, hmember, _, hexpected, _, hsupported, _, hfree, _, hlive, _, htotal, _, hdependents, _,
      ⟨⟨hnext, hmembership⟩, _⟩, x, hmoved, rfl⟩ := h
    refine .commit (admission_admitted rfl rfl hadmitted) rfl (admission_found hadmitted)
      (.replaced context memberId request reason view hknown ⟨hvalid, hgeneration⟩ hbound ⟨hpath, hmember⟩ hother
        hallowed hsupported hfree (SetRecord.transition_ok hmoved))
      (expects_found rfl ⟨hpath, hmember⟩ (fun _ => hset) fun _ => hexpected) ⟨?_, htotal, ?_⟩ rfl rfl rfl hnext
      (fun _ => hmembership) rfl rfl (fun h => by cases h)
      (.one rfl ?_ rfl (.inl hvalid))
    · intro other found hfound
      have hsame := hfound.1
      rw [hpath] at hsame
      cases hsame
      have hsame := hfound.2
      rw [hmember] at hsame
      cases hsame
      exact hlive
    · intro dependents hfound
      rw [hfound] at hdependents
      simpa using hdependents
    · rw [newMember, MemberRecord.evaluate_rest]
      exact e.ids.nextMemberId_valid

theorem setMemberAdminEnabledLocked_answer (e : FabricEngine) (context : MutationContext)
    (setId : MultipathSetId) (memberId : MultipathMemberId) (enabled : Bool) (view : Option PathAuthorityView) :
    Answer e (.setMemberAdminEnabled context setId memberId enabled view)
      (.onSet context (text "set_member_admin_enabled") setId [memberId.view, flagText enabled])
      (e.setMemberAdminEnabledLocked context setId memberId enabled view) := by
  refine .conclude ?_ fun result h => ?_
  · exact .bind (.require rfl) fun _ _ => .bind (admission_replays rfl rfl) fun _ _ => .bind (.present rfl) fun _ _ =>
      .bind (.present rfl) fun _ _ => .bind (.require rfl) fun _ _ =>
        .bind (expectedMemberGenerationMatches_refuses _ _) fun _ _ =>
          .ite (.pure _) (.bind (.require rfl) fun _ _ => .pure _)
  · simp only [Checked.bind_ok, Checked.require_ok, Checked.present_ok, Bool.not_eq_true', Bool.and_eq_true] at h
    obtain ⟨_, ⟨_, hknown⟩, r, hadmitted, path, hpath, m, hmember, _, hlive, _, hexpected, h⟩ := h
    have hexpects : (Op.setMemberAdminEnabled context setId memberId enabled view).Expects context r :=
      expects_found rfl ⟨hpath, hmember⟩ (absurd · Bool.false_ne_true) fun _ => hexpected
    split at h
    · rw [Checked.pure_ok] at h
      subst h
      exact .answered (admission_admitted rfl rfl hadmitted) rfl (admission_found hadmitted)
        (.inl rfl) hexpects rfl (.inr ⟨rfl, rfl⟩) (fun _ => rfl) rfl
    · rename_i hchanges
      simp only [Checked.bind_ok, Checked.require_ok, Checked.pure_ok, Bool.and_eq_true] at h
      obtain ⟨_, ⟨_, hnext⟩, rfl⟩ := h
      exact .commit (admission_admitted rfl rfl hadmitted) rfl (admission_found hadmitted)
        (.toggled context memberId enabled view ⟨hpath, hmember⟩ hlive hchanges) hexpects trivial rfl rfl rfl hnext
        (absurd · Bool.false_ne_true) rfl rfl (fun h => by cases h)
        (.one rfl hknown rfl (.inr ⟨path, m, hmember, .inr (by rw [MemberRecord.toggled, MemberRecord.evaluate_rest]; rfl)⟩))

end FabricEngine

end MultipathFabric
