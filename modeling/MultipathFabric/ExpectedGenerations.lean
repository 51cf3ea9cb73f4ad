import MultipathFabric.AuthoritySpec

namespace MultipathFabric

open OrderedMap Checked

def SetRecord.Stale (r : SetRecord) (context : MutationContext) : Prop :=
  ∃ expected, context.expectedSetGeneration = some expected ∧ r.generation ≠ expected

def MemberRecord.Stale (m : MemberRecord) (context : MutationContext) : Prop :=
  ∃ expected, context.expectedMemberGeneration = some expected ∧ m.generation ≠ expected

theorem SetRecord.stale_iff {r : SetRecord} {context : MutationContext} :
    r.Stale context ↔ expectedSetGenerationMatches context r ≠ .ok () := by
  unfold SetRecord.Stale expectedSetGenerationMatches
  cases context.expectedSetGeneration with
  | none => simp
  | some expected => simp [Checked.require_ok]

theorem MemberRecord.stale_iff {m : MemberRecord} {context : MutationContext} :
    m.Stale context ↔ expectedMemberGenerationMatches context m ≠ .ok () := by
  unfold MemberRecord.Stale expectedMemberGenerationMatches
  cases context.expectedMemberGeneration with
  | none => simp
  | some expected => simp [Checked.require_ok]

namespace FabricEngine

structure FoundExpected (e : FabricEngine) (op : Op) (context : MutationContext) (setId : MultipathSetId) : Prop where
  set : ∀ expected, context.expectedSetGeneration = some expected →
    ∃ r, e.sets[setId]? = some r ∧ r.generation = expected
  member : ∀ expected memberId, context.expectedMemberGeneration = some expected → op.member = some memberId →
    ∃ r path m, e.sets[setId]? = some r ∧ r.finds memberId path m ∧ m.generation = expected

def Optimistic (e : FabricEngine) (op : Op) : Prop :=
  ∀ q setId, op.subject = some setId → e.Accepts op q → e.FoundExpected op q.context setId

/-- The steps that are accepted although their caller expected another generation: four operations never compare
the set generation, and a withdrawal finds its member withdrawn before it compares the member's. -/
inductive Overlooks (e : FabricEngine) : Op → Prop
  | completeWithdrawal {context : MutationContext} {setId : MultipathSetId} {r x : SetRecord}
      (known : setId.valid = true)
      (admitted : e.admission context (text "complete_withdrawal") [text "complete_withdrawal", setId.view] setId =
        .ok r)
      (next : r.generation.next.isSome = true) (moved : r.applyTransition .completeWithdraw = .ok x)
      (stale : r.Stale context) : Overlooks e (.completeWithdrawal context setId)
  | alreadyWithdrawn {context : MutationContext} {setId : MultipathSetId} {memberId : MultipathMemberId}
      {reason : Bytes} {r : SetRecord} {path : PathId} {m : MemberRecord}
      (known : (setId.valid && memberId.valid) = true) (bound : reason.length ≤ 256)
      (admitted : e.admission context (text "withdraw_member")
        [text "withdraw_member", setId.view, memberId.view, reason] setId = .ok r)
      (found : r.finds memberId path m) (allowed : transitionAllowed r.lifecycle .memberRemoved = true)
      (ended : m.lifecycle = .withdrawn) (stale : r.Stale context ∨ m.Stale context) :
      Overlooks e (.withdrawMember context setId memberId reason)
  | withdrawMember {context : MutationContext} {setId : MultipathSetId} {memberId : MultipathMemberId}
      {reason : Bytes} {r x : SetRecord} {path : PathId} {m : MemberRecord}
      (known : (setId.valid && memberId.valid) = true) (bound : reason.length ≤ 256)
      (admitted : e.admission context (text "withdraw_member")
        [text "withdraw_member", setId.view, memberId.view, reason] setId = .ok r)
      (found : r.finds memberId path m) (allowed : transitionAllowed r.lifecycle .memberRemoved = true)
      (live : m.lifecycle ≠ .withdrawn) (expected : ¬m.Stale context)
      (next : (m.generation.next.isSome && r.generation.next.isSome && r.membershipGeneration.next.isSome) = true)
      (ends : (memberTransition m.lifecycle .withdraw).isSome = true)
      (moved : r.applyTransition .memberRemoved = .ok x) (stale : r.Stale context) :
      Overlooks e (.withdrawMember context setId memberId reason)
  | setMemberAdminEnabled {context : MutationContext} {setId : MultipathSetId} {memberId : MultipathMemberId}
      {enabled : Bool} {view : Option PathAuthorityView} {r : SetRecord} {path : PathId} {m : MemberRecord}
      (known : (setId.valid && memberId.valid) = true)
      (admitted : e.admission context (text "set_member_admin_enabled")
        [text "set_member_admin_enabled", setId.view, memberId.view, flagText enabled] setId = .ok r)
      (found : r.finds memberId path m) (live : memberIsTerminal m = false) (expected : ¬m.Stale context)
      (next : m.adminEnabled = enabled ∨ (m.generation.next.isSome && r.generation.next.isSome) = true)
      (stale : r.Stale context) : Overlooks e (.setMemberAdminEnabled context setId memberId enabled view)
  | completeMemberRevalidation {context : MutationContext} {ticket : RevalidationTicket}
      {current : Option PathAuthorityView} {r : SetRecord} {path : PathId} {m : MemberRecord}
      (known : ticket.valid = true ∧ (ticket.setId.valid && ticket.memberId.valid) = true)
      (authorized : e.authorityCheck context none (some ticket.setId) = .ok ())
      (taken : e.sets[ticket.setId]? = some r) (found : r.finds ticket.memberId path m)
      (pending : m.pendingRevalidations ≠ 0) (fresh : staleCompletion e context ticket r m = none)
      (stale : r.Stale context) : Overlooks e (.completeMemberRevalidation context ticket current)

variable {e : FabricEngine}

theorem admission_fresh {context : MutationContext} {operation : Bytes} {fields : List Bytes}
    {setId : MultipathSetId} {r : SetRecord} (h : e.admission context operation fields setId = .ok r) :
    e.attemptCheck context operation fields = none := by
  unfold admission at h
  simp only [Checked.bind_ok, Checked.unlessAnswered_ok] at h
  obtain ⟨_, _, _, hfresh, _⟩ := h
  exact hfresh

theorem FoundExpected.found {op : Op} {context : MutationContext} {setId : MultipathSetId} {r : SetRecord}
    (h : e.FoundExpected op context setId) (hfound : e.sets[setId]? = some r) : ¬r.Stale context := by
  rintro ⟨expected, hexpected, hne⟩
  obtain ⟨other, hother, hgeneration⟩ := h.set expected hexpected
  rw [hfound] at hother
  cases hother
  exact hne hgeneration

theorem FoundExpected.foundMember {op : Op} {context : MutationContext} {setId : MultipathSetId}
    {r : SetRecord} {memberId : MultipathMemberId} {path : PathId} {m : MemberRecord}
    (h : e.FoundExpected op context setId) (hmember : op.member = some memberId)
    (hfound : e.sets[setId]? = some r) (hfinds : r.finds memberId path m) : ¬m.Stale context := by
  rintro ⟨expected, hexpected, hne⟩
  obtain ⟨other, otherPath, otherMember, hother, ⟨hpath, hrecord⟩, hgeneration⟩ := h.member expected memberId hexpected hmember
  rw [hfound] at hother
  cases hother
  rw [hfinds.1] at hpath
  cases hpath
  rw [hfinds.2] at hrecord
  cases hrecord
  exact hne hgeneration

theorem attemptCheck_detail {context : MutationContext} {operation : Bytes} {fields : List Bytes}
    {outcome : FabricOutcome} (h : e.attemptCheck context operation fields = some outcome)
    (accepted : outcome.succeeded = true) : outcome.detail.head? = (text "e").head? := by
  unfold attemptCheck at h
  split at h
  · cases h
  · split at h
    · cases h
      cases accepted
    · split at h
      · cases h
        rfl
      · cases h
        cases accepted

theorem completion_not_replayed {context : MutationContext} {operation : Bytes} {fields : List Bytes}
    {outcome : FabricOutcome} {ticket : RevalidationTicket} {m after : MemberRecord}
    (accepted : outcome.succeeded = true) (detail : outcome.detail = completionSummary ticket m after) :
    e.attemptCheck context operation fields ≠ some outcome := by
  intro h
  have hhead := attemptCheck_detail h accepted
  have hown : (completionSummary ticket m after).head? = (text "c").head? := rfl
  rw [detail, hown] at hhead
  exact absurd hhead (by decide)

theorem completeWithdrawal_accepts {context : MutationContext} {setId : MultipathSetId} {r x : SetRecord}
    (known : setId.valid = true)
    (admitted : e.admission context (text "complete_withdrawal") [text "complete_withdrawal", setId.view] setId =
      .ok r)
    (next : r.generation.next.isSome = true) (moved : r.applyTransition .completeWithdraw = .ok x) :
    (e.completeWithdrawal context setId).2.succeeded = true := by
  have hedit : RecordEdit e setId r (.completeWithdrawal context setId) x _ := .completeWithdrawal context moved
  unfold completeWithdrawal
  simp only [known, require_true, ok_bind, admitted, next, SetRecord.transition_of_ok setId moved, conclude, pure, Except.pure]
  exact Answer.commitLocked_outcome (fun answer => answer.succeeded = true)
    (.onSet context (text "complete_withdrawal") setId []) hedit rfl rfl next (absurd · Bool.false_ne_true) fun _ => rfl

theorem withdrawMember_accepts {context : MutationContext} {setId : MultipathSetId} {memberId : MultipathMemberId}
    {reason : Bytes} {r : SetRecord} {path : PathId} {m : MemberRecord}
    (known : (setId.valid && memberId.valid) = true) (bound : reason.length ≤ 256)
    (admitted : e.admission context (text "withdraw_member")
      [text "withdraw_member", setId.view, memberId.view, reason] setId = .ok r)
    (found : r.finds memberId path m) (allowed : transitionAllowed r.lifecycle .memberRemoved = true)
    (ends : m.lifecycle = .withdrawn ∨
      ¬m.Stale context ∧ (m.generation.next.isSome && r.generation.next.isSome &&
        r.membershipGeneration.next.isSome) = true ∧ (memberTransition m.lifecycle .withdraw).isSome = true ∧
        ∃ x, r.applyTransition .memberRemoved = .ok x) :
    (e.withdrawMember context setId memberId reason).2.succeeded = true := by
  unfold withdrawMember
  simp only [known, require_true, ok_bind, bound, decide_true, admitted, found.1, found.2, Checked.present, allowed]
  by_cases hended : m.lifecycle = .withdrawn
  · rw [if_pos hended]
    rfl
  · obtain ⟨hexpected, hnext, hends, x, hmoved⟩ := ends.resolve_left hended
    rw [MemberRecord.stale_iff, not_not] at hexpected
    obtain ⟨lifecycle, hlifecycle⟩ := Option.isSome_iff_exists.mp hends
    have hedit : RecordEdit e setId r (.withdrawMember context setId memberId reason) _ _ :=
      .withdrewMember context memberId reason bound found allowed hlifecycle hmoved
    rw [if_neg hended]
    simp only [hexpected, ok_bind, hnext, require_true, hlifecycle, SetRecord.transition_of_ok setId hmoved, conclude, pure,
      Except.pure]
    simp only [Bool.and_eq_true] at hnext
    exact Answer.commitLocked_outcome (fun answer => answer.succeeded = true)
      (.onSet context (text "withdraw_member") setId [memberId.view, reason]) hedit rfl rfl hnext.1.2
      (fun _ => hnext.2) fun _ => rfl

theorem setMemberAdminEnabled_accepts {context : MutationContext} {setId : MultipathSetId}
    {memberId : MultipathMemberId} {enabled : Bool} {view : Option PathAuthorityView} {r : SetRecord} {path : PathId}
    {m : MemberRecord} (known : (setId.valid && memberId.valid) = true)
    (admitted : e.admission context (text "set_member_admin_enabled")
      [text "set_member_admin_enabled", setId.view, memberId.view, flagText enabled] setId = .ok r)
    (found : r.finds memberId path m) (live : memberIsTerminal m = false) (expected : ¬m.Stale context)
    (next : m.adminEnabled = enabled ∨ (m.generation.next.isSome && r.generation.next.isSome) = true) :
    (e.setMemberAdminEnabledLocked context setId memberId enabled view).2.succeeded = true := by
  rw [MemberRecord.stale_iff, not_not] at expected
  unfold setMemberAdminEnabledLocked
  simp only [known, require_true, ok_bind, admitted, found.1, found.2, Checked.present, live, Bool.not_false, expected]
  by_cases hsame : m.adminEnabled = enabled
  · rw [if_pos hsame]
    rfl
  · have hnext := next.resolve_left hsame
    have hedit : RecordEdit e setId r (.setMemberAdminEnabled context setId memberId enabled view) _ _ :=
      .toggled context memberId enabled view found live hsame
    rw [if_neg hsame]
    simp only [hnext, require_true, ok_bind, conclude, pure, Except.pure]
    rw [Bool.and_eq_true] at hnext
    exact Answer.commitLocked_outcome (fun answer => answer.succeeded = true)
      (.onSet context (text "set_member_admin_enabled") setId [memberId.view, flagText enabled]) hedit rfl rfl hnext.2
      (absurd · Bool.false_ne_true) fun _ => rfl

theorem completeMemberRevalidation_accepts {context : MutationContext} {ticket : RevalidationTicket}
    (current : Option PathAuthorityView) {r : SetRecord} {path : PathId} {m : MemberRecord}
    (known : ticket.valid = true ∧ (ticket.setId.valid && ticket.memberId.valid) = true)
    (authorized : e.authorityCheck context none (some ticket.setId) = .ok ())
    (taken : e.sets[ticket.setId]? = some r) (found : r.finds ticket.memberId path m)
    (pending : m.pendingRevalidations ≠ 0) (fresh : staleCompletion e context ticket r m = none) :
    (e.completeMemberRevalidation context ticket current).2.succeeded = true ∧
      ∃ after, (e.completeMemberRevalidation context ticket current).2.detail = completionSummary ticket m after := by
  have hedit : RecordEdit e ticket.setId r (.completeMemberRevalidation context ticket current) _ _ :=
    .completed context ticket current rfl found pending fresh
  have hpending : (m.pendingRevalidations != 0) = true := bne_iff_ne.mpr pending
  have hnext := (staleCompletion_none fresh).2.2
  unfold completeMemberRevalidation
  simp only [known.1, known.2, require_true, ok_bind, authorized, requireSet, taken, found.1, found.2,
    Checked.present, hpending, fresh]
  by_cases hchanged : m.revalidationChanged (m.rebound r.conditionalAuthorityPermitted current) = true
  · simp only [hchanged, if_true, conclude, pure, Except.pure]
    refine Answer.commitLocked_outcome
      (fun answer => answer.succeeded = true ∧ ∃ after, answer.detail = completionSummary ticket m after)
      (.onSet context (text "complete_member_revalidation") ticket.setId [ticket.memberId.view, ticket.attempt.view])
      hedit rfl rfl hnext (absurd · Bool.false_ne_true) fun y => ⟨?_, _, rfl⟩
    rw [finalizeOutcome_succeeded, revalidationOutcome_succeeded]
    split <;> rfl
  · simp only [hchanged, Bool.false_eq_true, if_false, conclude, pure, Except.pure]
    refine ⟨?_, _, rfl⟩
    rw [revalidationOutcome_succeeded]
    split <;> rfl

theorem accepts_of_admission {op : Op} {q : Request} {setId : MultipathSetId} {r : SetRecord}
    (hrequest : op.request = some q) (admitted : e.admission q.context q.operation q.fields setId = .ok r)
    (accepted : (e.exec op).2.succeeded = true) : e.Accepts op q := by
  refine ⟨hrequest, accepted, ?_⟩
  rw [admission_fresh admitted]
  exact Option.some_ne_none _ ∘ Eq.symm

theorem Overlooks.not_optimistic {op : Op} (h : Overlooks e op) : ¬e.Optimistic op := by
  intro hoptimistic
  cases h with
  | completeWithdrawal known admitted next moved stale =>
      have hexpected := hoptimistic _ _ rfl
        (accepts_of_admission rfl admitted (completeWithdrawal_accepts known admitted next moved))
      exact hexpected.found (admission_found admitted) stale
  | alreadyWithdrawn known bound admitted found allowed ended stale =>
      have hexpected := hoptimistic _ _ rfl (accepts_of_admission rfl admitted
        (withdrawMember_accepts known bound admitted found allowed (.inl ended)))
      rcases stale with hset | hmember
      · exact hexpected.found (admission_found admitted) hset
      · exact hexpected.foundMember rfl (admission_found admitted) found hmember
  | withdrawMember known bound admitted found allowed live expected next ends moved stale =>
      have hexpected := hoptimistic _ _ rfl (accepts_of_admission rfl admitted
        (withdrawMember_accepts known bound admitted found allowed (.inr ⟨expected, next, ends, _, moved⟩)))
      exact hexpected.found (admission_found admitted) stale
  | setMemberAdminEnabled known admitted found live expected next stale =>
      have hexpected := hoptimistic _ _ rfl
        (accepts_of_admission rfl admitted (setMemberAdminEnabled_accepts known admitted found live expected next))
      exact hexpected.found (admission_found admitted) stale
  | @completeMemberRevalidation _ _ current _ _ _ known authorized taken found pending fresh stale =>
      obtain ⟨haccepted, after, hdetail⟩ :=
        completeMemberRevalidation_accepts current known authorized taken found pending fresh
      have hexpected := hoptimistic _ _ rfl ⟨rfl, haccepted, completion_not_replayed haccepted hdetail⟩
      exact hexpected.found taken stale

end FabricEngine

theorem Answer.expects {e : FabricEngine} {op : Op} {q : Request} {setId : MultipathSetId} {result : FabricEngine × FabricOutcome}
    (h : Answer e op q result) (hsubject : op.subject = some setId) (accepted : result.2.succeeded = true)
    (own : e.attemptCheck q.context q.operation q.fields ≠ some result.2) :
    ∃ r, e.sets[setId]? = some r ∧ op.Expects q.context r := by
  cases h with
  | refused rejects =>
      rw [rejects] at accepted
      cases accepted
  | replayed known => exact absurd known.2 own
  | left _ _ _ _ _ rejects =>
      rw [rejects] at accepted
      cases accepted
  | answered _ named found _ expects =>
      rw [hsubject] at named
      cases named
      exact ⟨_, found, expects⟩
  | committed _ named found _ expects =>
      rw [hsubject] at named
      cases named
      exact ⟨_, found, expects⟩
  | superseded supersedes _ _ _ found _ _ _ _ expects =>
      subst supersedes
      cases hsubject
      exact ⟨_, found, expects⟩
  | viewed _ _ applied => cases applied <;> cases hsubject
  | created creates =>
      subst creates
      cases hsubject

namespace FabricEngine

variable {e : FabricEngine}

theorem foundExpected {op : Op} {context : MutationContext} {setId : MultipathSetId} {r : SetRecord}
    (hfound : e.sets[setId]? = some r) (hset : ¬r.Stale context)
    (hmember : ∀ memberId, op.member = some memberId → ∃ path m, r.finds memberId path m ∧ ¬m.Stale context) :
    e.FoundExpected op context setId where
  set expected hexpected := by
    refine ⟨r, hfound, ?_⟩
    by_contra hne
    exact hset ⟨expected, hexpected, hne⟩
  member expected memberId hexpected hnamed := by
    obtain ⟨path, m, hfinds, hfresh⟩ := hmember memberId hnamed
    refine ⟨r, path, m, hfound, hfinds, ?_⟩
    by_contra hne
    exact hfresh ⟨expected, hexpected, hne⟩

theorem optimistic_of_compares {op : Op} (hset : op.comparesSet = true) (hmember : op.comparesMember = true) :
    e.Optimistic op := by
  rintro q setId hsubject ⟨hrequest, haccepted, hown⟩
  obtain ⟨r, hfound, hexpects⟩ := (exec_answer e hrequest).expects hsubject haccepted hown
  apply foundExpected hfound
  · rw [SetRecord.stale_iff, not_not]
    exact hexpects.set hset
  · intro memberId hnamed
    obtain ⟨path, m, hfinds, hmatches⟩ := hexpects.member memberId hnamed
    refine ⟨path, m, hfinds, ?_⟩
    rw [MemberRecord.stale_iff, not_not]
    exact hmatches hmember

theorem completeWithdrawal_optimistic {context : MutationContext} {setId : MultipathSetId}
    (h : ¬Overlooks e (.completeWithdrawal context setId)) : e.Optimistic (.completeWithdrawal context setId) := by
  rintro _ _ ⟨⟩ ⟨⟨⟩, haccepted, hown⟩
  refine conclude_accepted (e.Replays (.completeWithdrawal context setId)
    (.onSet context (text "complete_withdrawal") setId [])) ?_ haccepted (fun hreplay => hown hreplay.2)
    fun result hrun _ => ?_
  · exact .bind (.require rfl) fun _ _ => .bind (admission_replays rfl rfl) fun r _ => .bind (.require rfl) fun _ _ =>
      .bind (r.transition_refuses _ _) fun _ _ => .pure _
  · simp only [Checked.bind_ok, Checked.require_ok, Checked.pure_ok] at hrun
    obtain ⟨_, hknown, r, hadmitted, _, hnext, x, hmoved, rfl⟩ := hrun
    apply foundExpected (admission_found hadmitted)
    · intro hstale
      exact h (.completeWithdrawal hknown hadmitted hnext (SetRecord.transition_ok hmoved) hstale)
    · intro memberId hnamed
      cases hnamed

theorem withdrawMember_optimistic {context : MutationContext} {setId : MultipathSetId}
    {memberId : MultipathMemberId} {reason : Bytes}
    (h : ¬Overlooks e (.withdrawMember context setId memberId reason)) :
    e.Optimistic (.withdrawMember context setId memberId reason) := by
  rintro _ _ ⟨⟩ ⟨⟨⟩, haccepted, hown⟩
  refine conclude_accepted (e.Replays (.withdrawMember context setId memberId reason)
    (.onSet context (text "withdraw_member") setId [memberId.view, reason])) ?_ haccepted
    (fun hreplay => hown hreplay.2) fun result hrun _ => ?_
  · exact .bind (.require rfl) fun _ _ => .bind (.require rfl) fun _ _ => .bind (admission_replays rfl rfl) fun r _ =>
      .bind (.present rfl) fun _ _ => .bind (.require (lifecycleRejection_rejects _ _)) fun _ _ =>
        .bind (.present rfl) fun _ _ => .ite (.pure _)
          (.bind (expectedMemberGenerationMatches_refuses _ _) fun _ _ => .bind (.require rfl) fun _ _ =>
            .bind (.present rfl) fun _ _ => .bind (r.transition_refuses _ _) fun _ _ => .pure _)
  · simp only [Checked.bind_ok, Checked.require_ok, Checked.present_ok, decide_eq_true_eq] at hrun
    obtain ⟨_, hknown, _, hbound, r, hadmitted, path, hpath, _, hallowed, m, hmember, hrun⟩ := hrun
    have hfinds : r.finds memberId path m := ⟨hpath, hmember⟩
    split at hrun
    · rename_i hended
      apply foundExpected (admission_found hadmitted)
      · intro hstale
        exact h (.alreadyWithdrawn hknown hbound hadmitted hfinds hallowed hended (.inl hstale))
      · intro other hnamed
        cases hnamed
        refine ⟨path, m, hfinds, fun hstale => ?_⟩
        exact h (.alreadyWithdrawn hknown hbound hadmitted hfinds hallowed hended (.inr hstale))
    · rename_i hlive
      simp only [Checked.bind_ok, Checked.require_ok, Checked.present_ok] at hrun
      obtain ⟨_, hexpected, _, hnext, lifecycle, hends, x, hmoved, _⟩ := hrun
      have hfresh : ¬m.Stale context := by
        rw [MemberRecord.stale_iff, not_not]
        exact hexpected
      apply foundExpected (admission_found hadmitted)
      · intro hstale
        exact h (.withdrawMember hknown hbound hadmitted hfinds hallowed hlive hfresh hnext
          (Option.isSome_iff_exists.mpr ⟨lifecycle, hends⟩) (SetRecord.transition_ok hmoved) hstale)
      · intro other hnamed
        cases hnamed
        exact ⟨path, m, hfinds, hfresh⟩

theorem setMemberAdminEnabled_optimistic {context : MutationContext} {setId : MultipathSetId}
    {memberId : MultipathMemberId} {enabled : Bool} {view : Option PathAuthorityView}
    (h : ¬Overlooks e (.setMemberAdminEnabled context setId memberId enabled view)) :
    e.Optimistic (.setMemberAdminEnabled context setId memberId enabled view) := by
  rintro _ _ ⟨⟩ ⟨⟨⟩, haccepted, hown⟩
  refine conclude_accepted (e.Replays (.setMemberAdminEnabled context setId memberId enabled view)
    (.onSet context (text "set_member_admin_enabled") setId [memberId.view, flagText enabled])) ?_ haccepted
    (fun hreplay => hown hreplay.2) fun result hrun _ => ?_
  · exact .bind (.require rfl) fun _ _ => .bind (admission_replays rfl rfl) fun _ _ => .bind (.present rfl) fun _ _ =>
      .bind (.present rfl) fun _ _ => .bind (.require rfl) fun _ _ =>
        .bind (expectedMemberGenerationMatches_refuses _ _) fun _ _ =>
          .ite (.pure _) (.bind (.require rfl) fun _ _ => .pure _)
  · simp only [Checked.bind_ok, Checked.require_ok, Checked.present_ok, Bool.not_eq_true'] at hrun
    obtain ⟨_, hknown, r, hadmitted, path, hpath, m, hmember, _, hlive, _, hexpected, hrun⟩ := hrun
    have hfinds : r.finds memberId path m := ⟨hpath, hmember⟩
    have hfresh : ¬m.Stale context := by
      rw [MemberRecord.stale_iff, not_not]
      exact hexpected
    have hnext : m.adminEnabled = enabled ∨ (m.generation.next.isSome && r.generation.next.isSome) = true := by
      split at hrun
      · rename_i hsame
        exact .inl hsame
      · simp only [Checked.bind_ok, Checked.require_ok] at hrun
        obtain ⟨_, hnext, _⟩ := hrun
        exact .inr hnext
    apply foundExpected (admission_found hadmitted)
    · intro hstale
      exact h (.setMemberAdminEnabled hknown hadmitted hfinds hlive hfresh hnext hstale)
    · intro other hnamed
      cases hnamed
      exact ⟨path, m, hfinds, hfresh⟩

theorem completeMemberRevalidation_optimistic {context : MutationContext} {ticket : RevalidationTicket}
    {current : Option PathAuthorityView} (h : ¬Overlooks e (.completeMemberRevalidation context ticket current)) :
    e.Optimistic (.completeMemberRevalidation context ticket current) := by
  rintro _ _ ⟨⟩ ⟨⟨⟩, haccepted, _⟩
  refine conclude_accepted (fun _ => False) ?_ haccepted id fun result hrun haccepts => ?_
  · refine .bind (.require rfl) fun _ _ => .bind (.require rfl) fun _ _ =>
      .bind (authorityCheck_refuses _ _ _ _) fun _ _ => .bind (requireSet_refuses _ _) fun _ _ =>
        .bind (.present rfl) fun _ _ => .bind (.present rfl) fun _ _ => .bind (.require rfl) fun _ _ => ?_
    split
    · exact .pure _
    · exact .ite (.pure _) (.pure _)
  · simp only [Checked.bind_ok, Checked.present_ok, Checked.require_ok, bne_iff_ne] at hrun
    obtain ⟨_, hticket, _, hids, _, hauthority, r, hset, path, hpath, m, hmember, _, hpending, hrun⟩ := hrun
    have hfinds : r.finds ticket.memberId path m := ⟨hpath, hmember⟩
    have htaken := requireSet_ok hset
    split at hrun
    · rename_i rejection hstale
      rw [Checked.pure_ok] at hrun
      subst hrun
      have hrejects := (FabricOutcome.rejects_iff.mp (staleCompletion_rejects hstale)).1
      exact absurd (hrejects.symm.trans haccepts) Bool.false_ne_true
    · rename_i hfresh
      apply foundExpected htaken
      · intro hstale
        exact h (.completeMemberRevalidation ⟨hticket, hids⟩ hauthority htaken hfinds hpending hfresh hstale)
      · intro other hnamed
        cases hnamed
        refine ⟨path, m, hfinds, ?_⟩
        rw [MemberRecord.stale_iff, not_not]
        exact (staleCompletion_none hfresh).1

theorem optimistic_iff {op : Op} : e.Optimistic op ↔ ¬Overlooks e op := by
  constructor
  · intro hoptimistic hoverlooks
    exact hoverlooks.not_optimistic hoptimistic
  · intro h
    cases op with
    | completeWithdrawal => exact completeWithdrawal_optimistic h
    | withdrawMember => exact withdrawMember_optimistic h
    | setMemberAdminEnabled => exact setMemberAdminEnabled_optimistic h
    | completeMemberRevalidation => exact completeMemberRevalidation_optimistic h
    | createSet => rintro _ _ ⟨⟩
    | _ => exact optimistic_of_compares rfl rfl

end FabricEngine

theorem Generation.Follows.le {d : GenerationDomain} {before after : Generation d} (h : before.Follows after) :
    before.value.toNat ≤ after.value.toNat := by
  rcases h with rfl | hnext
  · exact le_refl _
  · have hvalue := Generation.toNat_of_next hnext
    omega

theorem RecordEdit.generation_le {e : FabricEngine} {setId : MultipathSetId} {r x : SetRecord} {op : Op}
    {summary : Bytes} (edit : RecordEdit e setId r op x summary) :
    r.generation.value.toNat ≤ x.generation.value.toNat := by
  by_cases hviews : op.views = false
  · rw [edit.generation hviews]
  · cases edit with
    | observed => exact le_refl _
    | @invalidated _ path view context m =>
        apply Generation.Follows.le
        unfold FabricEngine.dependencyInvalidated
        dsimp only
        split
        · change r.generation.Follows (r.generation.next.getD r.generation)
          cases hnext : r.generation.next with
          | none => exact .inl rfl
          | some generation => exact .inr hnext
        · exact .inl rfl
    | added _ publication => cases publication <;> exact absurd rfl hviews
    | _ => exact absurd rfl hviews

theorem SetStep.generation_le {e : FabricEngine} {op : Op} {setId : MultipathSetId} {r : SetRecord}
    {after : Option SetRecord} (h : SetStep e op setId (some r) after) (hloads : op.loads = false) :
    ∃ r', after = some r' ∧ r.generation.value.toNat ≤ r'.generation.value.toNat := by
  cases h with
  | kept => exact ⟨r, rfl, le_refl _⟩
  | @changed _ x r' _ edit stored =>
      refine ⟨r', rfl, edit.generation_le.trans ?_⟩
      cases stored with
      | kept set => exact set.le
      | committed _ _ _ set =>
          apply set.le.trans
          unfold SetRecord.committed SetRecord.pruneArchive
          dsimp only
          split <;> exact le_refl _
  | fenced => exact ⟨_, rfl, le_refl _⟩
  | epochAdvanced => exact ⟨_, rfl, le_refl _⟩
  | cleared loads =>
      rw [loads] at hloads
      cases hloads
  | recovered loads =>
      rw [loads] at hloads
      cases hloads

namespace FabricEngine

variable {e : FabricEngine}

theorem generation_le_afterAll {ops : List Op} (hloads : ∀ op ∈ ops, op.loads = false) {setId : MultipathSetId}
    {r : SetRecord} (hfound : e.sets[setId]? = some r) :
    ∃ r', (e.afterAll ops).sets[setId]? = some r' ∧ r.generation.value.toNat ≤ r'.generation.value.toNat := by
  induction ops generalizing e r with
  | nil => exact ⟨r, hfound, le_refl _⟩
  | cons op rest ih =>
      have hstep := after_sets e op setId
      rw [hfound] at hstep
      obtain ⟨next, hnext, hle⟩ := hstep.generation_le (hloads op List.mem_cons_self)
      obtain ⟨r', hr', hle'⟩ := ih (fun other hother => hloads other (List.mem_cons_of_mem _ hother)) hnext
      exact ⟨r', hr', hle.trans hle'⟩

def Advances (e : FabricEngine) (op : Op) (setId : MultipathSetId) (expected : MultipathSetGeneration) : Prop :=
  op.subject = some setId ∧
    (∃ q, e.Accepts op q ∧ q.context.expectedSetGeneration = some expected) ∧
    (e.after op).sets[setId]?.map SetRecord.generation ≠ e.sets[setId]?.map SetRecord.generation

theorem Advances.found {op : Op} {setId : MultipathSetId} {expected : MultipathSetGeneration}
    (h : e.Advances op setId expected) (hfresh : ¬Overlooks e op) :
    ∃ r, e.sets[setId]? = some r ∧ r.generation = expected := by
  obtain ⟨hsubject, ⟨q, haccepts, hexpected⟩, _⟩ := h
  exact (optimistic_iff.mpr hfresh q setId hsubject haccepts).set expected hexpected

theorem Advances.once {op op' : Op} {later : List Op} {setId : MultipathSetId} {expected : MultipathSetGeneration}
    (hfirst : ¬Overlooks e op) (h : e.Advances op setId expected) (hloads : ∀ o ∈ op :: later, o.loads = false)
    (hsecond : ¬Overlooks (e.afterAll (op :: later)) op') :
    ¬(e.afterAll (op :: later)).Advances op' setId expected := by
  intro h'
  obtain ⟨r, hfound, hgeneration⟩ := h.found hfirst
  obtain ⟨last, hlast, hsame⟩ := h'.found hsecond
  have hstep := after_sets e op setId
  rw [hfound] at hstep
  obtain ⟨next, hnext, hle⟩ := hstep.generation_le (hloads op List.mem_cons_self)
  obtain ⟨last', hlast', hle'⟩ :=
    generation_le_afterAll (fun o ho => hloads o (List.mem_cons_of_mem _ ho)) hnext
  have heq : last' = last := Option.some.inj (hlast'.symm.trans hlast)
  apply h.2.2
  rw [hnext, hfound, Option.map_some, Option.map_some]
  congr 1
  apply Generation.ext
  apply UInt64.toNat_inj.mp
  rw [heq, hsame, ← hgeneration] at hle'
  omega

/-- Optimistic concurrency is enforced exactly by the steps that overlook nothing; and of the steps that overlook
nothing, with no load between them, one at most advances a set from the generation that its caller expects. -/
theorem optimistic_concurrency (e : FabricEngine) (op : Op) :
    (e.Optimistic op ↔ ¬Overlooks e op) ∧
      (¬Overlooks e op → ∀ setId expected, e.Advances op setId expected → ∀ later,
        (∀ o ∈ op :: later, o.loads = false) → ∀ op', ¬Overlooks (e.afterAll (op :: later)) op' →
          ¬(e.afterAll (op :: later)).Advances op' setId expected) :=
  ⟨optimistic_iff, fun hfirst _ _ h _ hloads _ hsecond => h.once hfirst hloads hsecond⟩

def lostUpdate : Op :=
  .withdrawMember { sampleContext "a4" with expectedSetGeneration := some ⟨9⟩ } sampleSet sampleMember (text "done")

theorem optimistic_fails : ¬∀ (config : FabricConfig) (e : FabricEngine) (op : Op), Reachable config e →
    e.Optimistic op := by
  intro h
  have hoptimistic := h sampleConfig (sampleRun sampleSteps) lostUpdate (sampleRun_reachable sampleSteps)
  have hfresh : ((sampleRun sampleSteps).attemptCheck (sampleContext "a4") (text "withdraw_member")
      [text "withdraw_member", sampleSet.view, sampleMember.view, text "done"]).isNone = true := by decide +kernel
  have haccepted : ((sampleRun sampleSteps).exec lostUpdate).2.succeeded = true := by decide +kernel
  have hstored : (sampleRun sampleSteps).sets[sampleSet]?.map SetRecord.generation ≠ some ⟨9⟩ := by decide +kernel
  generalize sampleRun sampleSteps = e at *
  have hown : e.attemptCheck (sampleContext "a4") (text "withdraw_member")
      [text "withdraw_member", sampleSet.view, sampleMember.view, text "done"] ≠ some (e.exec lostUpdate).2 := by
    rw [Option.isNone_iff_eq_none.mp hfresh]
    exact (Option.some_ne_none _).symm
  have hexpected := hoptimistic _ sampleSet rfl ⟨rfl, haccepted, hown⟩
  obtain ⟨r, hfound, hgeneration⟩ := hexpected.set ⟨9⟩ rfl
  apply hstored
  rw [hfound, Option.map_some, hgeneration]

end FabricEngine

end MultipathFabric
