import MultipathFabric.PathIndex
import MultipathFabric.RevalidationSpec

namespace MultipathFabric

open OrderedMap Checked

def Op.governsLifecycle : Op → Bool
  | .createSet _ _ _ | .publishSet _ _ | .setMinimumUsableMembers _ _ _ | .setConditionalAuthorityPolicy _ _ _
  | .setAdminEnabled _ _ _ | .withdrawSet _ _ _ | .completeWithdrawal _ _ | .revokeSet _ _ _ _ | .retireSet _ _ _
  | .supersedeSet _ _ _ => true
  | _ => false

/-- Whether a set of the given lifecycle is what the code announces; most codes announce no lifecycle. -/
def OutcomeCode.announces : OutcomeCode → SetLifecycle → Bool
  | .setWithdrawing, lifecycle => lifecycle == .withdrawing
  | .setWithdrawn, lifecycle => lifecycle == .withdrawn
  | .setSuperseded, lifecycle => lifecycle == .superseded
  | .setRevoked, lifecycle => lifecycle == .revoked
  | .setRetired, lifecycle => lifecycle == .retired
  | .setPublished, lifecycle =>
      lifecycle == .active || lifecycle == .degraded || lifecycle == .exhausted || lifecycle == .adminDisabled
  | _, _ => true

/-- The withdrawal of a set that has not been published. -/
def Op.WithdrawsDeclared (e : FabricEngine) : Op → Prop
  | .withdrawSet _ setId _ => ∃ r, e.sets[setId]? = some r ∧ r.lifecycle = .declared
  | _ => False

inductive Ending (e : FabricEngine) (op : Op) (q : Request) (slips : Prop) : FabricEngine × FabricOutcome → Prop
  | refused {result : FabricEngine × FabricOutcome} (rejects : result.2.succeeded = false) : Ending e op q slips result
  | replayed {result : FabricEngine × FabricOutcome} (known : e.Replays op q result.2) : Ending e op q slips result
  | reported {result : FabricEngine × FabricOutcome} {setId : MultipathSetId} {r : SetRecord} {outcome : FabricOutcome}
      (target : ∀ named, op.subject = some named → named = setId) (stored : result.1.sets[setId]? = some r)
      (reports : result.2 = finalizeOutcome r outcome)
      (announces : outcome.code.announces r.lifecycle = true ↔ ¬slips) : Ending e op q slips result

namespace Ending

variable {e : FabricEngine} {op : Op} {q : Request} {slips : Prop} {setId : MultipathSetId} {r x : SetRecord}

theorem conclude {run : Checked (FabricEngine × FabricOutcome)} (refuses : Refuses (e.Replays op q) run)
    (accepts : ∀ result, run = .ok result → Ending e op q slips result) : Ending e op q slips (conclude e run) := by
  cases run with
  | ok result => exact accepts result rfl
  | error outcome =>
      rcases refuses outcome rfl with hrejected | hknown
      · exact .refused (FabricOutcome.rejects_iff.mp hrejected).1
      · exact .replayed hknown

theorem concludeLocked {run : Checked LockedResult} (refuses : Refuses (e.Replays op q) run)
    (accepts : ∀ result, run = .ok result → Ending e op q slips result.answer) :
    Ending e op q slips (concludeLocked e run).answer := by
  cases run with
  | ok result => exact accepts result rfl
  | error outcome =>
      rcases refuses outcome rfl with hrejected | hknown
      · exact .refused (FabricOutcome.rejects_iff.mp hrejected).1
      · exact .replayed hknown

theorem target_of_named (named : op.subject = some setId) : ∀ other, op.subject = some other → other = setId := by
  intro other hother
  rw [named] at hother
  exact (Option.some.inj hother).symm

theorem idle {context : MutationContext} {operation : Bytes} {fields : List Bytes} {detail : Bytes}
    (named : op.subject = some setId) (never : ¬slips) :
    Ending e op q slips (e.answerIdempotent setId x context operation fields detail) := by
  have hreports : (e.answerIdempotent setId x context operation fields detail).2 =
      finalizeOutcome x (makeOutcome .idempotent detail) := rfl
  exact .reported (target_of_named named) Std.ExtTreeMap.getElem?_insert_self hreports (iff_of_true rfl never)

theorem commitLocked_succeeded {base : FabricEngine} {context : MutationContext} {operation : Bytes}
    {fields : List Bytes} {spec : CommitSpec} {outcome : FabricOutcome}
    (h : (base.commitLocked setId x context operation fields spec outcome).2.succeeded = true) :
    ∃ r' generation membershipGeneration, r' = (x.advanced generation membershipGeneration).committed base context spec ∧
      (base.commitLocked setId x context operation fields spec outcome).1.sets = base.sets.insert setId r' ∧
        (base.commitLocked setId x context operation fields spec outcome).2 = finalizeOutcome r' outcome := by
  unfold FabricEngine.commitLocked at h ⊢
  split at h
  · cases h
  · rename_i y hy
    split at h
    · cases h
    · rename_i z hz
      have hyx : ∃ generation, y = { x with generation := generation } := by
        split at hy
        · obtain ⟨generation, _, rfl⟩ := Option.map_eq_some_iff.mp hy
          exact ⟨generation, rfl⟩
        · cases hy
          exact ⟨x.generation, rfl⟩
      have hzy : ∃ generation, z = { y with membershipGeneration := generation } := by
        split at hz
        · obtain ⟨generation, _, rfl⟩ := Option.map_eq_some_iff.mp hz
          exact ⟨generation, rfl⟩
        · cases hz
          exact ⟨y.membershipGeneration, rfl⟩
      obtain ⟨generation, rfl⟩ := hyx
      obtain ⟨membershipGeneration, rfl⟩ := hzy
      exact ⟨_, generation, membershipGeneration, rfl, FabricEngine.storeCommitted_sets _ _ _ _, rfl⟩

theorem commit {base : FabricEngine} {context : MutationContext} {operation : Bytes} {fields : List Bytes}
    {spec : CommitSpec} {outcome : FabricOutcome} (named : op.subject = some setId)
    (announces : outcome.code.announces x.lifecycle = true ↔ ¬slips) :
    Ending e op q slips (base.commitLocked setId x context operation fields spec outcome) := by
  by_cases haccepted : (base.commitLocked setId x context operation fields spec outcome).2.succeeded = true
  · obtain ⟨r', generation, membershipGeneration, hr', hsets, hreports⟩ := commitLocked_succeeded haccepted
    refine .reported (target_of_named named) ?_ hreports ?_
    · rw [hsets]
      exact Std.ExtTreeMap.getElem?_insert_self
    · rw [hr', (SetRecord.committed_standing _ _ _ _).1]
      exact announces
  · exact .refused (Bool.not_eq_true _ ▸ haccepted)

end Ending

open FabricEngine Ending

namespace SetRecord

variable {r x : SetRecord}

theorem applyTransition_publish (h : r.applyTransition .publish = .ok x) :
    OutcomeCode.setPublished.announces x.lifecycle = true := by
  unfold applyTransition at h
  cases hl : r.lifecycle
  all_goals
    rw [hl] at h
    cases h
  change OutcomeCode.setPublished.announces (derivePublishedLifecycle _ _ _) = true
  unfold derivePublishedLifecycle
  split
  · rfl
  · split
    · rfl
    · split <;> rfl

theorem withdrawn_announces (e : FabricEngine) (context : MutationContext) (reason : Bytes)
    (h : r.applyTransition .beginWithdraw = .ok x) :
    OutcomeCode.setWithdrawing.announces (r.withdrawn e x context reason).lifecycle = true ↔ r.lifecycle ≠ .declared := by
  unfold withdrawn
  rw [(consequences_cases _ _ _ _ _).1]
  rcases applyTransition_beginWithdraw h with ⟨hdeclared, rfl⟩ | ⟨hother, _, rfl⟩
  · have hstays : ({ r.recompute with withdrawalReason := reason } : SetRecord).recompute.lifecycle = .declared :=
      recompute_declared (recompute_declared hdeclared)
    rw [hstays]
    exact iff_of_false (by decide) (not_not.mpr hdeclared)
  · exact iff_of_true rfl hother

end SetRecord

namespace FabricEngine

variable {e : FabricEngine} {op : Op} {q : Request} {setId : MultipathSetId}

theorem createSet_ending (e : FabricEngine) (context : MutationContext) (key : SetKey) (options : SetOptions) :
    Ending e (.createSet context key options)
      ⟨context, text "create_set",
        [text "create_set", key.render, decimal options.minimumUsableMembers.toNat,
          flagText options.adminEnabled, flagText options.conditionalAuthorityPermitted]⟩ False
      (e.createSet context key options) := by
  refine .conclude ?_ fun result h => ?_
  · refine .bind (.require rfl) fun _ _ => .bind (authorityCheck_refuses _ _ _ _) fun _ hcaller =>
      .bind (.unlessAnswered ?_) fun _ _ => .bind (.require rfl) fun _ _ => .bind (.require rfl) fun _ _ =>
        .bind (.require rfl) fun _ _ => .pure _
    exact fun outcome hknown => .inr ⟨hcaller, hknown⟩
  · simp only [Checked.bind_ok, Checked.pure_ok] at h
    obtain ⟨_, _, _, _, _, _, _, _, _, _, _, _, rfl⟩ := h
    exact .reported (fun named hnamed => by cases hnamed) Std.ExtTreeMap.getElem?_insert_self rfl
      (iff_of_true rfl fun h => h)

theorem publishSet_ending (e : FabricEngine) (context : MutationContext) (setId : MultipathSetId) :
    Ending e (.publishSet context setId) (.onSet context (text "publish_set") setId []) False
      (e.publishSet context setId) := by
  refine .conclude ?_ fun result h => ?_
  · exact .bind (.require rfl) fun _ _ => .bind (admission_replays rfl rfl) fun r _ =>
      .bind (expectedSetGenerationMatches_refuses _ _) fun _ _ => .bind (.require rfl) fun _ _ =>
        .bind (r.transition_refuses _ _) fun _ _ => .pure _
  · simp only [Checked.bind_ok, Checked.pure_ok] at h
    obtain ⟨_, _, r, _, _, _, _, _, x, hmoved, rfl⟩ := h
    exact .commit rfl (iff_of_true (SetRecord.applyTransition_publish (SetRecord.transition_ok hmoved)) fun h => h)

theorem setMinimumUsableMembers_ending (e : FabricEngine) (context : MutationContext) (setId : MultipathSetId)
    (minimum : UInt64) :
    Ending e (.setMinimumUsableMembers context setId minimum)
      (.onSet context (text "set_minimum_usable_members") setId [decimal minimum.toNat]) False
      (e.setMinimumUsableMembers context setId minimum) := by
  refine .conclude ?_ fun result h => ?_
  · exact .bind (.require rfl) fun _ _ => .bind (admission_replays rfl rfl) fun r _ =>
      .bind (expectedSetGenerationMatches_refuses _ _) fun _ _ => .bind (r.transition_refuses _ _) fun _ _ =>
        .ite (.pure _) (.ite (.pure _) (.ite (.pure _) (.pure _)))
  · simp only [Checked.bind_ok] at h
    obtain ⟨_, _, r, _, _, _, x, _, h⟩ := h
    split at h
    · cases h
      exact .refused rfl
    · split at h
      · cases h
        exact .idle rfl fun h => h
      · split at h
        · cases h
          exact .refused rfl
        · cases h
          exact .commit rfl (iff_of_true rfl fun h => h)

theorem setConditionalAuthorityPolicy_ending (e : FabricEngine) (context : MutationContext)
    (setId : MultipathSetId) (permitted : Bool) :
    Ending e (.setConditionalAuthorityPolicy context setId permitted)
      (.onSet context (text "set_conditional_authority_policy") setId [flagText permitted]) False
      (e.setConditionalAuthorityPolicy context setId permitted) := by
  refine .conclude ?_ fun result h => ?_
  · exact .bind (.require rfl) fun _ _ => .bind (admission_replays rfl rfl) fun r _ =>
      .bind (expectedSetGenerationMatches_refuses _ _) fun _ _ => .bind (r.transition_refuses _ _) fun _ _ =>
        .ite (.pure _) (.ite (.pure _) (.pure _))
  · simp only [Checked.bind_ok] at h
    obtain ⟨_, _, r, _, _, _, x, _, h⟩ := h
    split at h
    · cases h
      exact .idle rfl fun h => h
    · split at h
      · cases h
        exact .refused rfl
      · cases h
        exact .commit rfl (iff_of_true rfl fun h => h)

theorem setAdminEnabled_ending (e : FabricEngine) (context : MutationContext) (setId : MultipathSetId)
    (enabled : Bool) :
    Ending e (.setAdminEnabled context setId enabled)
      (.onSet context (text "set_admin_enabled") setId [flagText enabled]) False
      (e.setAdminEnabled context setId enabled) := by
  refine .conclude ?_ fun result h => ?_
  · exact .bind (.require rfl) fun _ _ => .bind (admission_replays rfl rfl) fun r _ =>
      .bind (expectedSetGenerationMatches_refuses _ _) fun _ _ => .bind (r.transition_refuses _ _) fun _ _ =>
        .ite (.pure _) (.ite (.pure _) (.pure _))
  · simp only [Checked.bind_ok] at h
    obtain ⟨_, _, r, _, _, _, x, _, h⟩ := h
    split at h
    · cases h
      exact .idle rfl fun h => h
    · split at h
      · cases h
        exact .refused rfl
      · cases h
        exact .commit rfl (iff_of_true rfl fun h => h)

theorem withdrawSet_ending (e : FabricEngine) (context : MutationContext) (setId : MultipathSetId)
    (reason : Bytes) :
    Ending e (.withdrawSet context setId reason) (.onSet context (text "withdraw_set") setId [reason])
      (∃ r, e.sets[setId]? = some r ∧ r.lifecycle = .declared) (e.withdrawSet context setId reason) := by
  refine .conclude ?_ fun result h => ?_
  · exact .bind (.require rfl) fun _ _ => .bind (.require rfl) fun _ _ => .bind (admission_replays rfl rfl) fun r _ =>
      .bind (expectedSetGenerationMatches_refuses _ _) fun _ _ =>
        .ite (.ite (.pure _) (.error rfl))
          (.bind (.require rfl) fun _ _ => .bind (r.transition_refuses _ _) fun _ _ => .pure _)
  · simp only [Checked.bind_ok] at h
    obtain ⟨_, _, _, _, r, hadmitted, _, _, h⟩ := h
    have hfound := admission_found hadmitted
    have hdeclared : (∃ r', e.sets[setId]? = some r' ∧ r'.lifecycle = .declared) ↔ r.lifecycle = .declared := by
      constructor
      · rintro ⟨r', hr', hlifecycle⟩
        rw [hfound] at hr'
        cases hr'
        exact hlifecycle
      · exact fun h => ⟨r, hfound, h⟩
    rw [hdeclared]
    split at h
    · rename_i hwithdrawing
      split at h
      · cases h
        refine .idle rfl ?_
        rw [hwithdrawing]
        decide
      · cases h
    · simp only [Checked.bind_ok, Checked.pure_ok] at h
      obtain ⟨_, _, x, hmoved, rfl⟩ := h
      exact .commit rfl (SetRecord.withdrawn_announces e context reason (SetRecord.transition_ok hmoved))

theorem completeWithdrawal_ending (e : FabricEngine) (context : MutationContext) (setId : MultipathSetId) :
    Ending e (.completeWithdrawal context setId) (.onSet context (text "complete_withdrawal") setId []) False
      (e.completeWithdrawal context setId) := by
  refine .conclude ?_ fun result h => ?_
  · exact .bind (.require rfl) fun _ _ => .bind (admission_replays rfl rfl) fun r _ => .bind (.require rfl) fun _ _ =>
      .bind (r.transition_refuses _ _) fun _ _ => .pure _
  · simp only [Checked.bind_ok, Checked.pure_ok] at h
    obtain ⟨_, _, r, _, _, _, x, hmoved, rfl⟩ := h
    obtain ⟨_, rfl⟩ := SetRecord.applyTransition_completeWithdraw (SetRecord.transition_ok hmoved)
    exact .commit rfl (iff_of_true rfl fun h => h)

theorem revokeSet_ending (e : FabricEngine) (context : MutationContext) (setId : MultipathSetId)
    (reason : RevocationReason) (detail : Bytes) :
    Ending e (.revokeSet context setId reason detail)
      (.onSet context (text "revoke_set") setId [reason.toString, detail]) False
      (e.revokeSet context setId reason detail) := by
  refine .conclude ?_ fun result h => ?_
  · refine .bind (.require rfl) fun _ _ => .bind (.require rfl) fun _ _ => .bind (admission_replays rfl rfl) fun r _ =>
      .bind (expectedSetGenerationMatches_refuses _ _) fun _ _ => ?_
    split
    · exact .ite (.pure _) (.error rfl)
    · exact .bind (.present rfl) fun _ _ => .bind (r.transition_refuses _ _) fun _ _ => .pure _
  · simp only [Checked.bind_ok] at h
    obtain ⟨_, _, _, _, r, _, _, _, h⟩ := h
    split at h
    · split at h
      · cases h
        exact .idle rfl fun h => h
      · cases h
    · simp only [Checked.bind_ok, Checked.pure_ok] at h
      obtain ⟨generation, _, x, hmoved, rfl⟩ := h
      obtain ⟨_, rfl⟩ := SetRecord.applyTransition_revoke (SetRecord.transition_ok hmoved)
      refine .commit rfl (iff_of_true ?_ fun h => h)
      rw [(SetRecord.consequences_cases _ _ _ _ _).1]
      rfl

theorem retireSet_ending (e : FabricEngine) (context : MutationContext) (setId : MultipathSetId)
    (reason : Bytes) :
    Ending e (.retireSet context setId reason) (.onSet context (text "retire_set") setId [reason]) False
      (e.retireSet context setId reason) := by
  refine .conclude ?_ fun result h => ?_
  · exact .bind (.require rfl) fun _ _ => .bind (.require rfl) fun _ _ => .bind (admission_replays rfl rfl) fun r _ =>
      .bind (expectedSetGenerationMatches_refuses _ _) fun _ _ => .bind (.require rfl) fun _ _ =>
        .bind (r.transition_refuses _ _) fun _ _ => .pure _
  · simp only [Checked.bind_ok, Checked.pure_ok] at h
    obtain ⟨_, _, _, _, r, _, _, _, _, _, x, hmoved, rfl⟩ := h
    obtain ⟨_, rfl⟩ := SetRecord.applyTransition_retire (SetRecord.transition_ok hmoved)
    refine .commit rfl (iff_of_true ?_ fun h => h)
    rw [(SetRecord.consequences_cases _ _ _ _ _).1]
    rfl

theorem supersedeSet_ending (e : FabricEngine) (context : MutationContext)
    (predecessor successor : MultipathSetId) :
    Ending e (.supersedeSet context predecessor successor)
      (.onSet context (text "supersede_set") predecessor [successor.view]) False
      (e.supersedeSet context predecessor successor) := by
  refine .conclude ?_ fun result h => ?_
  · refine .bind (.require rfl) fun _ _ => .bind (.require rfl) fun _ _ => .bind (authorityCheck_refuses _ _ _ _)
      fun _ hfirst => .bind (authorityCheck_refuses _ _ _ _) fun _ hsecond => .bind (.unlessAnswered ?_) fun _ _ =>
        .bind (requireSet_refuses _ _) fun old _ => .bind (requireSet_refuses _ _) fun _ _ =>
          .bind (expectedSetGenerationMatches_refuses _ _) fun _ _ => .ite (.pure _)
            (.bind (.require rfl) fun _ _ => .bind (old.transition_refuses _ _) fun _ _ => .pure _)
    exact fun outcome hknown => .inr ⟨authorizes_pair hfirst hsecond, hknown⟩
  · simp only [Checked.bind_ok, Checked.require_ok, bne_iff_ne] at h
    obtain ⟨_, _, _, hne, _, _, _, _, _, _, old, _, new, _, _, _, h⟩ := h
    split at h
    · cases h
      exact .idle rfl fun h => h
    · simp only [Checked.bind_ok, Checked.pure_ok] at h
      obtain ⟨_, _, x, hmoved, rfl⟩ := h
      obtain ⟨_, rfl⟩ := SetRecord.applyTransition_supersede (SetRecord.transition_ok hmoved)
      split
      · rename_i haccepted
        obtain ⟨r', generation, membershipGeneration, hr', hsets, hreports⟩ := commitLocked_succeeded haccepted
        refine .reported (target_of_named rfl) ?_ hreports (iff_of_true ?_ fun h => h)
        · unfold supersedeSuccessor
          change (Std.ExtTreeMap.insert (captureSnapshot _ _).sets successor _)[predecessor]? = _
          rw [captureSnapshot_sets, hsets, getElem?_insert_eq, if_neg (Ne.symm hne), Std.ExtTreeMap.getElem?_insert_self]
        · rw [hr', (SetRecord.committed_standing _ _ _ _).1]
          change OutcomeCode.announces .setSuperseded (applyMemberConsequences e _ _ _ _).lifecycle = true
          rw [(SetRecord.consequences_cases _ _ _ _ _).1]
          rfl
      · rename_i hrefused
        exact .refused (Bool.not_eq_true _ ▸ hrefused)

theorem exec_ending (e : FabricEngine) {op : Op} {q : Request} (lifecycle : op.governsLifecycle = true)
    (request : op.request = some q) : Ending e op q (op.WithdrawsDeclared e) (e.exec op) := by
  cases op with
  | createSet context key options =>
      cases request
      exact createSet_ending e context key options
  | publishSet context setId =>
      cases request
      exact publishSet_ending e context setId
  | setMinimumUsableMembers context setId minimum =>
      cases request
      exact setMinimumUsableMembers_ending e context setId minimum
  | setConditionalAuthorityPolicy context setId permitted =>
      cases request
      exact setConditionalAuthorityPolicy_ending e context setId permitted
  | setAdminEnabled context setId enabled =>
      cases request
      exact setAdminEnabled_ending e context setId enabled
  | withdrawSet context setId reason =>
      cases request
      exact withdrawSet_ending e context setId reason
  | completeWithdrawal context setId =>
      cases request
      exact completeWithdrawal_ending e context setId
  | revokeSet context setId reason detail =>
      cases request
      exact revokeSet_ending e context setId reason detail
  | retireSet context setId reason =>
      cases request
      exact retireSet_ending e context setId reason
  | supersedeSet context predecessor successor =>
      cases request
      exact supersedeSet_ending e context predecessor successor
  | _ => cases lifecycle

theorem addMembersLocked_ending (e : FabricEngine) (context : MutationContext) (setId : MultipathSetId)
    {requests : List (MemberRequest × Option PathAuthorityView)} (operation : Bytes) {bulk : Bool}
    (publication : op.Publishes context setId requests bulk) :
    Ending e op ⟨context, operation, bulkFields operation setId (requests.map Prod.fst)⟩ False
      (e.addMembersLocked context setId requests operation bulk).answer := by
  have hnamed : op.subject = some setId := by cases publication <;> rfl
  rcases addMembersLocked_cases e context setId operation publication with ⟨outcome, hrefuses, hanswered⟩ |
    ⟨r, x, spec, outcome, _, _, _, _, _, _, _, _, _, _, _, _, _, _, _, _, hcode, hcommitted⟩
  · rw [hanswered]
    rcases hrefuses with hrejected | hknown
    · exact .refused (FabricOutcome.rejects_iff.mp hrejected).1
    · exact .replayed hknown
  · rw [hcommitted]
    refine .commit hnamed (iff_of_true ?_ fun h => h)
    rw [hcode]
    rfl

theorem removeMember_ending (e : FabricEngine) (context : MutationContext) (setId : MultipathSetId)
    (memberId : MultipathMemberId) (reason : Bytes) :
    Ending e (.removeMember context setId memberId reason)
      (.onSet context (text "remove_member") setId [memberId.view, reason]) False
      (e.removeMember context setId memberId reason) := by
  refine .conclude ?_ fun result h => ?_
  · exact .bind (.require rfl) fun _ _ => .bind (.require rfl) fun _ _ => .bind (admission_replays rfl rfl) fun r _ =>
      .bind (.present rfl) fun _ _ => .bind (.require (lifecycleRejection_rejects _ _)) fun _ _ =>
        .bind (.present rfl) fun _ _ => .bind (expectedSetGenerationMatches_refuses _ _) fun _ _ =>
          .bind (expectedMemberGenerationMatches_refuses _ _) fun _ _ => .bind (.require rfl) fun _ _ =>
            .bind (r.transition_refuses _ _) fun _ _ => .pure _
  · simp only [Checked.bind_ok, Checked.pure_ok] at h
    obtain ⟨_, _, _, _, r, _, path, _, _, _, m, _, _, _, _, _, _, _, x, _, rfl⟩ := h
    exact .commit rfl (iff_of_true rfl fun h => h)

theorem withdrawMember_ending (e : FabricEngine) (context : MutationContext) (setId : MultipathSetId)
    (memberId : MultipathMemberId) (reason : Bytes) :
    Ending e (.withdrawMember context setId memberId reason)
      (.onSet context (text "withdraw_member") setId [memberId.view, reason]) False
      (e.withdrawMember context setId memberId reason) := by
  refine .conclude ?_ fun result h => ?_
  · exact .bind (.require rfl) fun _ _ => .bind (.require rfl) fun _ _ => .bind (admission_replays rfl rfl) fun r _ =>
      .bind (.present rfl) fun _ _ => .bind (.require (lifecycleRejection_rejects _ _)) fun _ _ =>
        .bind (.present rfl) fun _ _ => .ite (.pure _)
          (.bind (expectedMemberGenerationMatches_refuses _ _) fun _ _ => .bind (.require rfl) fun _ _ =>
            .bind (.present rfl) fun _ _ => .bind (r.transition_refuses _ _) fun _ _ => .pure _)
  · simp only [Checked.bind_ok] at h
    obtain ⟨_, _, _, _, r, _, path, _, _, _, m, _, h⟩ := h
    split at h
    · cases h
      exact .idle rfl fun h => h
    · simp only [Checked.bind_ok, Checked.pure_ok] at h
      obtain ⟨_, _, _, _, lifecycle, _, x, _, rfl⟩ := h
      exact .commit rfl (iff_of_true rfl fun h => h)

theorem replaceMemberLocked_ending (e : FabricEngine) (context : MutationContext) (setId : MultipathSetId)
    (memberId : MultipathMemberId) (request : MemberRequest) (reason : Bytes) (view : Option PathAuthorityView) :
    Ending e (.replaceMember context setId memberId request reason view)
      (.onSet context (text "replace_member") setId
        [memberId.view, request.pathId.view, decimal request.authorityGeneration.value.toNat, reason]) False
      (e.replaceMemberLocked context setId memberId request reason view) := by
  refine .conclude ?_ fun result h => ?_
  · refine .bind (.require rfl) fun _ _ => .bind (.require rfl) fun _ _ => .bind (admission_replays rfl rfl) fun r _ =>
      .bind (.require (lifecycleRejection_rejects _ _)) fun _ _ => .bind (.present rfl) fun _ _ =>
        .bind (.require rfl) fun _ _ => .bind (expectedSetGenerationMatches_refuses _ _) fun _ _ =>
          .bind (.present rfl) fun _ _ => .bind (expectedMemberGenerationMatches_refuses _ _) fun _ _ =>
            .bind (.unlessAnswered ?_) fun _ _ => .bind (.unlessAnswered ?_) fun _ _ =>
              .bind (.require rfl) fun _ _ => .bind (.require rfl) fun _ _ => .bind (.require rfl) fun _ _ =>
                .bind (.require rfl) fun _ _ => .bind (r.transition_refuses _ _) fun _ _ => .pure _
    · exact fun outcome h => .inl (unsupportedRequest_rejects h)
    · intro outcome h
      obtain ⟨live, _, rfl⟩ := Option.map_eq_some_iff.mp h
      exact .inl rfl
  · simp only [Checked.bind_ok, Checked.pure_ok] at h
    obtain ⟨_, _, _, _, r, _, _, _, path, _, _, _, _, _, m, _, _, _, _, _, _, _, _, _, _, _, _, _, _, _, x, _, rfl⟩ := h
    exact .commit rfl (iff_of_true rfl fun h => h)

theorem setMemberAdminEnabledLocked_ending (e : FabricEngine) (context : MutationContext)
    (setId : MultipathSetId) (memberId : MultipathMemberId) (enabled : Bool) (view : Option PathAuthorityView) :
    Ending e (.setMemberAdminEnabled context setId memberId enabled view)
      (.onSet context (text "set_member_admin_enabled") setId [memberId.view, flagText enabled]) False
      (e.setMemberAdminEnabledLocked context setId memberId enabled view) := by
  refine .conclude ?_ fun result h => ?_
  · exact .bind (.require rfl) fun _ _ => .bind (admission_replays rfl rfl) fun _ _ => .bind (.present rfl) fun _ _ =>
      .bind (.present rfl) fun _ _ => .bind (.require rfl) fun _ _ =>
        .bind (expectedMemberGenerationMatches_refuses _ _) fun _ _ =>
          .ite (.pure _) (.bind (.require rfl) fun _ _ => .pure _)
  · simp only [Checked.bind_ok] at h
    obtain ⟨_, _, r, _, path, _, m, _, _, _, _, _, h⟩ := h
    split at h
    · cases h
      exact .idle rfl fun h => h
    · simp only [Checked.bind_ok, Checked.pure_ok] at h
      obtain ⟨_, _, rfl⟩ := h
      exact .commit rfl (iff_of_true rfl fun h => h)

theorem revalidateSetLocked_ending (e : FabricEngine) (context : MutationContext) (setId : MultipathSetId)
    (views : ViewTable) :
    Ending e (.revalidateSet context setId views) (.onSet context (text "revalidate_set") setId []) False
      (e.revalidateSetLocked context setId views).answer := by
  refine .concludeLocked ?_ fun result h => ?_
  · exact .bind (.require rfl) fun _ _ => .bind (admission_replays rfl rfl) fun _ _ =>
      .bind (.require (lifecycleRejection_rejects _ _)) fun _ _ =>
        .bind (expectedSetGenerationMatches_refuses _ _) fun _ _ => .ite (.pure _) (.ite (.pure _) (.pure _))
  · simp only [Checked.bind_ok] at h
    obtain ⟨_, _, r, _, _, _, _, _, h⟩ := h
    split at h
    · cases h
      exact .idle rfl fun h => h
    · split at h
      · cases h
        exact .refused rfl
      · cases h
        refine .commit rfl (iff_of_true ?_ fun h => h)
        change (if r.revalidationComplete views then OutcomeCode.setRevalidated else .setRevalidationIncomplete).announces
          _ = true
        split <;> rfl

theorem recheckCode_announces (usable : Bool) (code : OutcomeCode) (lifecycle : SetLifecycle)
    (plain : code = .memberRevalidated ∨ code = .idempotent) :
    (if usable then code else .memberRevalidationNegative).announces lifecycle = true := by
  rcases plain with rfl | rfl <;> cases usable <;> rfl

theorem revalidateMemberLocked_ending (e : FabricEngine) (context : MutationContext) (setId : MultipathSetId)
    (memberId : MultipathMemberId) (looked : Option (Option PathAuthorityView)) :
    Ending e (.revalidateMember context setId memberId looked)
      (.onSet context (text "revalidate_member") setId [memberId.view]) False
      (e.revalidateMemberLocked context setId memberId looked).answer := by
  refine .concludeLocked ?_ fun result h => ?_
  · exact .bind (.require rfl) fun _ _ => .bind (authorityCheck_refuses _ _ _ _) fun _ _ =>
      .bind (.present rfl) fun _ _ => .bind (admission_replays rfl rfl) fun _ _ => .bind (.present rfl) fun _ _ =>
        .bind (.require (lifecycleRejection_rejects _ _)) fun _ _ => .bind (.present rfl) fun _ _ =>
          .bind (.require rfl) fun _ _ => .bind (expectedSetGenerationMatches_refuses _ _) fun _ _ =>
            .bind (expectedMemberGenerationMatches_refuses _ _) fun _ _ => .bind (.require rfl) fun _ _ =>
              .ite (.pure _) (.pure _)
  · simp only [Checked.bind_ok] at h
    obtain ⟨_, _, _, _, view, _, r, _, path, _, _, _, m, _, _, _, _, _, _, _, _, _, h⟩ := h
    split at h
    · cases h
      exact .commit rfl (iff_of_true (recheckCode_announces _ _ _ (.inl rfl)) fun h => h)
    · cases h
      exact .reported (target_of_named rfl) Std.ExtTreeMap.getElem?_insert_self
        (Eq.refl (finalizeOutcome _ (revalidationOutcome _ memberId _ (makeOutcome _ _))))
        (iff_of_true (recheckCode_announces _ _ _ (.inr rfl)) fun h => h)

theorem completeMemberRevalidation_ending (e : FabricEngine) (context : MutationContext)
    (ticket : RevalidationTicket) (current : Option PathAuthorityView) :
    Ending e (.completeMemberRevalidation context ticket current)
      (.onSet context (text "complete_member_revalidation") ticket.setId [ticket.memberId.view, ticket.attempt.view])
      False (e.completeMemberRevalidation context ticket current) := by
  refine .conclude ?_ fun result h => ?_
  · refine .bind (.require rfl) fun _ _ => .bind (.require rfl) fun _ _ =>
      .bind (authorityCheck_refuses _ _ _ _) fun _ _ => .bind (requireSet_refuses _ _) fun _ _ =>
        .bind (.present rfl) fun _ _ => .bind (.present rfl) fun _ _ => .bind (.require rfl) fun _ _ => ?_
    split
    · exact .pure _
    · exact .ite (.pure _) (.pure _)
  · simp only [Checked.bind_ok] at h
    obtain ⟨_, _, _, _, _, _, r, _, path, _, m, _, _, _, h⟩ := h
    split at h
    · rename_i rejection hstale
      cases h
      exact .refused (FabricOutcome.rejects_iff.mp (staleCompletion_rejects hstale)).1
    · split at h
      · cases h
        exact .commit rfl (iff_of_true (recheckCode_announces _ _ _ (.inl rfl)) fun h => h)
      · cases h
        exact .reported (target_of_named rfl) Std.ExtTreeMap.getElem?_insert_self
          (Eq.refl (finalizeOutcome _ (revalidationOutcome _ ticket.memberId _ (makeOutcome _ _))))
          (iff_of_true (recheckCode_announces _ _ _ (.inr rfl)) fun h => h)

theorem exec_reported {op : Op} {q : Request} (accepted : e.Accepts op q) (plain : op.views = false) :
    ∃ (setId : MultipathSetId) (r : SetRecord) (outcome : FabricOutcome),
      (∀ named, op.subject = some named → named = setId) ∧ (e.after op).sets[setId]? = some r ∧
        (e.exec op).2 = finalizeOutcome r outcome := by
  obtain ⟨hrequest, hsucceeded, hfresh⟩ := accepted
  have hreports : ∀ {slips : Prop}, Ending e op q slips (e.exec op) →
      ∃ (setId : MultipathSetId) (r : SetRecord) (outcome : FabricOutcome),
        (∀ named, op.subject = some named → named = setId) ∧ (e.after op).sets[setId]? = some r ∧
          (e.exec op).2 = finalizeOutcome r outcome := by
    intro slips hending
    cases hending with
    | refused rejects =>
        rw [rejects] at hsucceeded
        cases hsucceeded
    | replayed known => exact absurd known.2 hfresh
    | reported target stored reports => exact ⟨_, _, _, target, stored, reports⟩
  by_cases hlifecycle : op.governsLifecycle = true
  · exact hreports (exec_ending e hlifecycle hrequest)
  · cases op with
    | addMember context setId request view =>
        cases hrequest
        exact hreports (addMembersLocked_ending e context setId _ (.one request view))
    | addMembers context setId requests =>
        cases hrequest
        exact hreports (addMembersLocked_ending e context setId _ (.many requests))
    | removeMember context setId memberId reason =>
        cases hrequest
        exact hreports (removeMember_ending e context setId memberId reason)
    | withdrawMember context setId memberId reason =>
        cases hrequest
        exact hreports (withdrawMember_ending e context setId memberId reason)
    | replaceMember context setId memberId request reason view =>
        cases hrequest
        exact hreports (replaceMemberLocked_ending e context setId memberId request reason view)
    | setMemberAdminEnabled context setId memberId enabled view =>
        cases hrequest
        exact hreports (setMemberAdminEnabledLocked_ending e context setId memberId enabled view)
    | revalidateSet context setId views =>
        cases hrequest
        exact hreports (revalidateSetLocked_ending e context setId views)
    | revalidateMember context setId memberId looked =>
        cases hrequest
        exact hreports (revalidateMemberLocked_ending e context setId memberId looked)
    | completeMemberRevalidation context ticket current =>
        cases hrequest
        exact hreports (completeMemberRevalidation_ending e context ticket current)
    | declarePathAuthority | applyPathAuthority | refreshPath | reconcilePath => cases plain
    | createSet | publishSet | setMinimumUsableMembers | setConditionalAuthorityPolicy | setAdminEnabled | withdrawSet
    | completeWithdrawal | revokeSet | retireSet | supersedeSet => exact absurd rfl hlifecycle
    | _ => cases hrequest

theorem applyPathAuthority_undigested {context : MutationContext} {view : PathAuthorityView} {op : Op}
    (hcaller : ∀ registration, e.pathCallerCheck context = .ok registration → e.Authorizes op)
    (accepted : (e.applyPathAuthority context view).2.succeeded = true)
    (own : ¬e.Replays op (.view context (text "apply_path_authority") view) (e.applyPathAuthority context view).2) :
    (e.applyPathAuthority context view).2.digest = none := by
  refine conclude_accepted (e.Replays op (.view context (text "apply_path_authority") view)) ?_ accepted own
    fun result h _ => ?_
  · refine .bind (.require rfl) fun _ _ => .bind (pathCallerCheck_refuses _ _) fun registration hregistered =>
      .bind (.unlessAnswered ?_) fun _ _ => .bind (.unlessAnswered ?_) fun _ _ => .pure _
    · exact fun outcome hknown => .inr ⟨hcaller registration hregistered, hknown⟩
    · exact fun outcome h => .inl (uncoveredDependent_rejects h)
  · unfold applyPathAuthority
    rw [h]
    simp only [Checked.bind_ok, Checked.pure_ok] at h
    obtain ⟨_, _, _, _, _, _, _, _, rfl⟩ := h
    rfl

theorem exec_undigested {op : Op} {q : Request} (accepted : e.Accepts op q) (views : op.views = true) :
    (e.exec op).2.digest = none := by
  obtain ⟨hrequest, hsucceeded, hfresh⟩ := accepted
  have hown : ¬e.Replays op q (e.exec op).2 := fun hknown => hfresh hknown.2
  cases op with
  | declarePathAuthority context view =>
      cases hrequest
      refine conclude_accepted (e.Replays (.declarePathAuthority context view)
        (.view context (text "declare_path_authority") view)) ?_ hsucceeded hown fun result h _ => ?_
      · refine .bind (.require rfl) fun _ _ => .bind (pathCallerCheck_refuses _ _) fun registration hregistered =>
          .bind (.unlessAnswered ?_) fun _ _ => .bind (.require rfl) fun _ _ => .bind (.unlessAnswered ?_) fun _ _ =>
            .pure _
        · exact fun outcome hknown => .inr ⟨⟨registration, hregistered⟩, hknown⟩
        · exact fun outcome h => .inl (uncoveredDependent_rejects h)
      · change (e.declarePathAuthority context view).2.digest = none
        unfold declarePathAuthority
        rw [h]
        simp only [Checked.bind_ok, Checked.pure_ok] at h
        obtain ⟨_, _, _, _, _, _, _, _, _, _, rfl⟩ := h
        rfl
  | applyPathAuthority context view =>
      cases hrequest
      exact @applyPathAuthority_undigested e context view (.applyPathAuthority context view)
        (fun registration h => ⟨registration, h⟩) hsucceeded hown
  | refreshPath context path looked =>
      cases looked with
      | none => cases hrequest
      | some view =>
          cases hrequest
          change (e.refreshPathLocked context path (some view)).2.succeeded = true at hsucceeded
          change ¬e.Replays _ _ (e.refreshPathLocked context path (some view)).2 at hown
          change (e.refreshPathLocked context path (some view)).2.digest = none
          unfold refreshPathLocked at hsucceeded hown ⊢
          split
          · rfl
          · rename_i hvalid
            rw [if_neg hvalid] at hsucceeded hown
            exact @applyPathAuthority_undigested e context view (.refreshPath context path (some view))
              (fun registration h => ⟨registration, h⟩) hsucceeded hown
  | reconcilePath => cases hrequest
  | _ => cases views

/-- The answer of an operation reports the set that it has changed as it is left, and the set is what the code
announces. -/
def Announces (e : FabricEngine) (op : Op) : Prop :=
  ∃ (setId : MultipathSetId) (r : SetRecord), (∀ named, op.subject = some named → named = setId) ∧
    (e.after op).sets[setId]? = some r ∧ (e.exec op).2.setId = some setId ∧
      (e.exec op).2 = finalizeOutcome r (e.exec op).2 ∧ (e.exec op).2.code.announces r.lifecycle = true

/-- An accepted lifecycle operation leaves the set as it announces, unless it withdraws a set that was never published:
that set stays declared under the answer that it is withdrawing. -/
theorem announces_iff {config : FabricConfig} {e : FabricEngine} {op : Op} {q : Request} (run : Reachable config e)
    (lifecycle : op.governsLifecycle = true) (accepted : e.Accepts op q) :
    e.Announces op ↔ ¬op.WithdrawsDeclared e := by
  obtain ⟨hrequest, hsucceeded, hfresh⟩ := accepted
  have hlinked := linked_of_run (Run.step run op trivial)
  have hending := exec_ending e lifecycle hrequest
  cases hending with
  | refused rejects =>
      rw [rejects] at hsucceeded
      cases hsucceeded
  | replayed known => exact absurd known.2 hfresh
  | @reported setId r outcome target stored reports announces =>
      have hid : (e.exec op).2.setId = some setId := by
        rw [reports, ← hlinked.keyed setId r stored]
        rfl
      have hcode : (e.exec op).2.code = outcome.code := by rw [reports]; rfl
      rw [← announces]
      constructor
      · rintro ⟨setId', r', _, hstored', hid', _, hannounces⟩
        rw [hid] at hid'
        cases hid'
        have hsame : r' = r := Option.some.inj (hstored'.symm.trans stored)
        rw [hsame, hcode] at hannounces
        exact hannounces
      · intro hannounces
        refine ⟨setId, r, target, stored, hid, ?_, ?_⟩
        · rw [reports]
          rfl
        · rw [hcode]
          exact hannounces

theorem announces_iff_sample :
    (sampleRun sampleSteps).Announces (.publishSet (sampleContext "a4") sampleSet) ↔
      ¬(Op.publishSet (sampleContext "a4") sampleSet).WithdrawsDeclared (sampleRun sampleSteps) := by
  have hanswer : ((sampleRun sampleSteps).exec (.publishSet (sampleContext "a4") sampleSet)).2.succeeded = true ∧
      (sampleRun sampleSteps).attemptCheck (sampleContext "a4") (text "publish_set")
        [text "publish_set", sampleSet.view] = none := by
    decide +kernel
  refine announces_iff (sampleRun_reachable sampleSteps) rfl ⟨rfl, hanswer.1, ?_⟩
  intro h
  cases hanswer.2.symm.trans h

/-- The set is still declared after the answer `SET_WITHDRAWING`. -/
theorem announces_fails : ¬∀ (config : FabricConfig) (e : FabricEngine) (op : Op) (q : Request), Reachable config e →
    op.governsLifecycle = true → e.Accepts op q → e.Announces op := by
  intro h
  have hanswer : ((sampleRun sampleSteps).exec (.withdrawSet (sampleContext "a4") sampleSet [])).2.succeeded = true ∧
      (sampleRun sampleSteps).attemptCheck (sampleContext "a4") (text "withdraw_set")
        [text "withdraw_set", sampleSet.view, []] = none ∧
      ((sampleRun sampleSteps).exec (.withdrawSet (sampleContext "a4") sampleSet [])).2.code = .setWithdrawing ∧
      (((sampleRun sampleSteps).after (.withdrawSet (sampleContext "a4") sampleSet [])).sets[sampleSet]?.map
        SetRecord.lifecycle) = some .declared := by
    decide +kernel
  obtain ⟨haccepted, hfresh, hcode, hlifecycle⟩ := hanswer
  have haccepts : (sampleRun sampleSteps).Accepts (.withdrawSet (sampleContext "a4") sampleSet [])
      (.onSet (sampleContext "a4") (text "withdraw_set") sampleSet [[]]) := by
    refine ⟨rfl, haccepted, ?_⟩
    intro hreplayed
    cases hfresh.symm.trans hreplayed
  obtain ⟨setId, r, htarget, hstored, _, _, hannounces⟩ := h _ _ _ _ (sampleRun_reachable sampleSteps) rfl haccepts
  have hset : sampleSet = setId := htarget sampleSet rfl
  subst hset
  rw [hstored, Option.map_some, Option.some.injEq] at hlifecycle
  rw [hcode, hlifecycle] at hannounces
  cases hannounces

end FabricEngine

end MultipathFabric
