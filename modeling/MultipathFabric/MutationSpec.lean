import MultipathFabric.Answer

namespace MultipathFabric

open OrderedMap Checked

theorem SetRecord.next_isNone {r x : SetRecord} {event : SetEvent} (hmoved : r.applyTransition event = .ok x)
    (h : x.generation.next.isNone = true) : r.generation.next = none := by
  rw [SetRecord.applyTransition_frame hmoved, Option.isNone_iff_eq_none] at h
  exact h

theorem SetRecord.next_isSome {r x : SetRecord} {event : SetEvent} (hmoved : r.applyTransition event = .ok x)
    (h : ¬x.generation.next.isNone = true) : r.generation.next.isSome = true := by
  rw [SetRecord.applyTransition_frame hmoved, Option.isNone_iff_eq_none] at h
  exact Option.isSome_iff_ne_none.mpr h

namespace FabricEngine

variable {e : FabricEngine} {op : Op} {q : Request} {setId : MultipathSetId} {r x : SetRecord}

theorem expects_set {context : MutationContext} {r : SetRecord} (hmember : op.member = none)
    (h : op.comparesSet = true → expectedSetGenerationMatches context r = .ok ()) : op.Expects context r where
  set := h
  member _ hnamed := by
    rw [hmember] at hnamed
    cases hnamed

theorem publishSet_answer (e : FabricEngine) (context : MutationContext) (setId : MultipathSetId) :
    Answer e (.publishSet context setId) (.onSet context (text "publish_set") setId [])
      (e.publishSet context setId) := by
  refine .conclude ?_ fun result h => ?_
  · exact .bind (.require rfl) fun _ _ => .bind (admission_replays rfl rfl) fun r _ =>
      .bind (expectedSetGenerationMatches_refuses _ _) fun _ _ => .bind (.require rfl) fun _ _ =>
        .bind (r.transition_refuses _ _) fun _ _ => .pure _
  · simp only [Checked.bind_ok, Checked.pure_ok, Checked.require_ok] at h
    obtain ⟨_, _, r, hadmitted, _, hexpected, _, hnext, x, hmoved, rfl⟩ := h
    exact .commit (admission_admitted rfl rfl hadmitted) rfl (admission_found hadmitted)
      (.publish context (SetRecord.transition_ok hmoved)) (expects_set rfl fun _ => hexpected) trivial rfl rfl rfl
      hnext (absurd · Bool.false_ne_true) rfl rfl (fun h => by cases h) (.none rfl rfl)

theorem setMinimumUsableMembers_answer (e : FabricEngine) (context : MutationContext) (setId : MultipathSetId)
    (minimum : UInt64) :
    Answer e (.setMinimumUsableMembers context setId minimum)
      (.onSet context (text "set_minimum_usable_members") setId [decimal minimum.toNat])
      (e.setMinimumUsableMembers context setId minimum) := by
  refine .conclude ?_ fun result h => ?_
  · exact .bind (.require rfl) fun _ _ => .bind (admission_replays rfl rfl) fun r _ =>
      .bind (expectedSetGenerationMatches_refuses _ _) fun _ _ => .bind (r.transition_refuses _ _) fun _ _ =>
        .ite (.pure _) (.ite (.pure _) (.ite (.pure _) (.pure _)))
  · simp only [Checked.bind_ok] at h
    obtain ⟨_, _, r, hadmitted, _, hexpected, x, hmoved, h⟩ := h
    have hmove := SetRecord.transition_ok hmoved
    split at h
    · rw [Checked.pure_ok] at h
      subst h
      refine .left rfl (admission_admitted rfl rfl hadmitted) rfl (admission_found hadmitted)
        (.minimumChecked context minimum hmove) rfl (.inr fun path m hm => ?_) rfl (.inr (expects_set rfl fun _ => hexpected))
      rw [SetRecord.applyTransition_members hmove] at hm
      exact ⟨m, hm, rfl, rfl⟩
    · rename_i hbound
      split at h
      · rw [Checked.pure_ok] at h
        subst h
        exact .answered (admission_admitted rfl rfl hadmitted) rfl (admission_found hadmitted)
          (.inr ⟨rfl, _, .minimumChecked context minimum hmove⟩) (expects_set rfl fun _ => hexpected) rfl
          (.inr ⟨rfl, rfl⟩) (fun _ => rfl) hmove
      · split at h
        · rename_i hexhausted
          rw [Checked.pure_ok] at h
          subst h
          exact .left rfl (admission_admitted rfl rfl hadmitted) rfl (admission_found hadmitted)
            (.minimumChecked context minimum hmove) rfl (.inl (SetRecord.next_isNone hmove hexhausted)) rfl
            (.inr (expects_set rfl fun _ => hexpected))
        · rename_i hnext
          rw [Checked.pure_ok] at h
          subst h
          exact .commit (admission_admitted rfl rfl hadmitted) rfl (admission_found hadmitted)
            (.minimumChanged context minimum hmove (UInt64.not_lt.mp hbound)) (expects_set rfl fun _ => hexpected)
            trivial rfl rfl rfl (SetRecord.next_isSome hmove hnext) (absurd · Bool.false_ne_true) rfl rfl
            (fun h => by cases h) (.none rfl rfl)

theorem setConditionalAuthorityPolicy_answer (e : FabricEngine) (context : MutationContext)
    (setId : MultipathSetId) (permitted : Bool) :
    Answer e (.setConditionalAuthorityPolicy context setId permitted)
      (.onSet context (text "set_conditional_authority_policy") setId [flagText permitted])
      (e.setConditionalAuthorityPolicy context setId permitted) := by
  refine .conclude ?_ fun result h => ?_
  · exact .bind (.require rfl) fun _ _ => .bind (admission_replays rfl rfl) fun r _ =>
      .bind (expectedSetGenerationMatches_refuses _ _) fun _ _ => .bind (r.transition_refuses _ _) fun _ _ =>
        .ite (.pure _) (.ite (.pure _) (.pure _))
  · simp only [Checked.bind_ok] at h
    obtain ⟨_, _, r, hadmitted, _, hexpected, x, hmoved, h⟩ := h
    have hmove := SetRecord.transition_ok hmoved
    split at h
    · rw [Checked.pure_ok] at h
      subst h
      exact .answered (admission_admitted rfl rfl hadmitted) rfl (admission_found hadmitted)
        (.inr ⟨rfl, _, .policyChecked context permitted hmove⟩) (expects_set rfl fun _ => hexpected) rfl
        (.inr ⟨rfl, rfl⟩) (fun _ => rfl) hmove
    · split at h
      · rename_i hexhausted
        rw [Checked.pure_ok] at h
        subst h
        exact .left rfl (admission_admitted rfl rfl hadmitted) rfl (admission_found hadmitted)
          (.policyChecked context permitted hmove) rfl (.inl (SetRecord.next_isNone hmove hexhausted)) rfl
          (.inr (expects_set rfl fun _ => hexpected))
      · rename_i hnext
        rw [Checked.pure_ok] at h
        subst h
        exact .commit (admission_admitted rfl rfl hadmitted) rfl (admission_found hadmitted)
          (.policyChanged context permitted hmove) (expects_set rfl fun _ => hexpected) trivial rfl rfl rfl
          (SetRecord.next_isSome hmove hnext) (absurd · Bool.false_ne_true) rfl rfl (fun h => by cases h) (.none rfl rfl)

theorem setAdminEnabled_answer (e : FabricEngine) (context : MutationContext) (setId : MultipathSetId)
    (enabled : Bool) :
    Answer e (.setAdminEnabled context setId enabled)
      (.onSet context (text "set_admin_enabled") setId [flagText enabled]) (e.setAdminEnabled context setId enabled) := by
  refine .conclude ?_ fun result h => ?_
  · exact .bind (.require rfl) fun _ _ => .bind (admission_replays rfl rfl) fun r _ =>
      .bind (expectedSetGenerationMatches_refuses _ _) fun _ _ => .bind (r.transition_refuses _ _) fun _ _ =>
        .ite (.pure _) (.ite (.pure _) (.pure _))
  · simp only [Checked.bind_ok] at h
    obtain ⟨_, _, r, hadmitted, _, hexpected, x, hmoved, h⟩ := h
    have hmove := SetRecord.transition_ok hmoved
    split at h
    · rename_i hsame
      rw [Checked.pure_ok] at h
      subst h
      have hidle : r.adminEnabled = enabled := by
        rw [SetRecord.applyTransition_frame hmove] at hsame
        exact hsame
      exact .answered (admission_admitted rfl rfl hadmitted) rfl (admission_found hadmitted)
        (.inr ⟨rfl, _, .adminChecked context enabled hmove (.inl hidle)⟩) (expects_set rfl fun _ => hexpected) rfl
        (.inr ⟨rfl, rfl⟩) (fun _ => rfl) hmove
    · split at h
      · rename_i hexhausted
        have hspent := SetRecord.next_isNone hmove hexhausted
        rw [Checked.pure_ok] at h
        subst h
        exact .left rfl (admission_admitted rfl rfl hadmitted) rfl (admission_found hadmitted)
          (.adminChecked context enabled hmove (.inr hspent)) rfl (.inl hspent) rfl
          (.inr (expects_set rfl fun _ => hexpected))
      · rename_i hnext
        rw [Checked.pure_ok] at h
        subst h
        exact .commit (admission_admitted rfl rfl hadmitted) rfl (admission_found hadmitted)
          (.adminChanged context enabled hmove) (expects_set rfl fun _ => hexpected) trivial rfl rfl rfl
          (SetRecord.next_isSome hmove hnext) (absurd · Bool.false_ne_true) rfl rfl (fun h => by cases h) (.none rfl rfl)

theorem withdrawSet_answer (e : FabricEngine) (context : MutationContext) (setId : MultipathSetId)
    (reason : Bytes) :
    Answer e (.withdrawSet context setId reason) (.onSet context (text "withdraw_set") setId [reason])
      (e.withdrawSet context setId reason) := by
  refine .conclude ?_ fun result h => ?_
  · exact .bind (.require rfl) fun _ _ => .bind (.require rfl) fun _ _ => .bind (admission_replays rfl rfl) fun r _ =>
      .bind (expectedSetGenerationMatches_refuses _ _) fun _ _ =>
        .ite (.ite (.pure _) (.error rfl))
          (.bind (.require rfl) fun _ _ => .bind (r.transition_refuses _ _) fun _ _ => .pure _)
  · simp only [Checked.bind_ok, Checked.require_ok, decide_eq_true_eq] at h
    obtain ⟨_, _, _, hbound, r, hadmitted, _, hexpected, h⟩ := h
    split at h
    · split at h
      · rw [Checked.pure_ok] at h
        subst h
        exact .answered (admission_admitted rfl rfl hadmitted) rfl (admission_found hadmitted)
          (.inl rfl) (expects_set rfl fun _ => hexpected) rfl
          (.inr ⟨rfl, rfl⟩) (fun _ => rfl) rfl
      · cases h
    · simp only [Checked.bind_ok, Checked.require_ok, Checked.pure_ok] at h
      obtain ⟨_, hnext, x, hmoved, rfl⟩ := h
      exact .commit (admission_admitted rfl rfl hadmitted) rfl (admission_found hadmitted)
        (.withdraw context reason hbound (SetRecord.transition_ok hmoved)) (expects_set rfl fun _ => hexpected)
        trivial rfl rfl rfl hnext (absurd · Bool.false_ne_true) rfl rfl (fun h => by cases h) (.none rfl rfl)

theorem completeWithdrawal_answer (e : FabricEngine) (context : MutationContext) (setId : MultipathSetId) :
    Answer e (.completeWithdrawal context setId) (.onSet context (text "complete_withdrawal") setId [])
      (e.completeWithdrawal context setId) := by
  refine .conclude ?_ fun result h => ?_
  · exact .bind (.require rfl) fun _ _ => .bind (admission_replays rfl rfl) fun r _ => .bind (.require rfl) fun _ _ =>
      .bind (r.transition_refuses _ _) fun _ _ => .pure _
  · simp only [Checked.bind_ok, Checked.require_ok, Checked.pure_ok] at h
    obtain ⟨_, _, r, hadmitted, _, hnext, x, hmoved, rfl⟩ := h
    exact .commit (admission_admitted rfl rfl hadmitted) rfl (admission_found hadmitted)
      (.completeWithdrawal context (SetRecord.transition_ok hmoved)) (expects_set rfl (absurd · Bool.false_ne_true))
      trivial rfl rfl rfl hnext (absurd · Bool.false_ne_true) rfl rfl (fun h => by cases h) (.none rfl rfl)

theorem revokeSet_answer (e : FabricEngine) (context : MutationContext) (setId : MultipathSetId)
    (reason : RevocationReason) (detail : Bytes) :
    Answer e (.revokeSet context setId reason detail)
      (.onSet context (text "revoke_set") setId [reason.toString, detail])
      (e.revokeSet context setId reason detail) := by
  refine .conclude ?_ fun result h => ?_
  · refine .bind (.require rfl) fun _ _ => .bind (.require rfl) fun _ _ => .bind (admission_replays rfl rfl) fun r _ =>
      .bind (expectedSetGenerationMatches_refuses _ _) fun _ _ => ?_
    split
    · exact .ite (.pure _) (.error rfl)
    · exact .bind (.present rfl) fun _ _ => .bind (r.transition_refuses _ _) fun _ _ => .pure _
  · simp only [Checked.bind_ok, Checked.require_ok, decide_eq_true_eq] at h
    obtain ⟨_, _, _, hbound, r, hadmitted, _, hexpected, h⟩ := h
    split at h
    · split at h
      · rw [Checked.pure_ok] at h
        subst h
        exact .answered (admission_admitted rfl rfl hadmitted) rfl (admission_found hadmitted)
          (.inl rfl) (expects_set rfl fun _ => hexpected) rfl
          (.inr ⟨rfl, rfl⟩) (fun _ => rfl) rfl
      · cases h
    · simp only [Checked.bind_ok, Checked.pure_ok, Checked.present_ok] at h
      obtain ⟨generation, hnext, x, hmoved, rfl⟩ := h
      refine .commit (admission_admitted rfl rfl hadmitted) rfl (admission_found hadmitted)
        (.revoke context reason detail hbound hnext (SetRecord.transition_ok hmoved))
        (expects_set rfl fun _ => hexpected) trivial rfl rfl rfl ?_ (absurd · Bool.false_ne_true) rfl rfl
        (fun h => by cases h) (.none rfl rfl)
      rw [hnext]
      rfl

theorem retireSet_answer (e : FabricEngine) (context : MutationContext) (setId : MultipathSetId)
    (reason : Bytes) :
    Answer e (.retireSet context setId reason) (.onSet context (text "retire_set") setId [reason])
      (e.retireSet context setId reason) := by
  refine .conclude ?_ fun result h => ?_
  · exact .bind (.require rfl) fun _ _ => .bind (.require rfl) fun _ _ => .bind (admission_replays rfl rfl) fun r _ =>
      .bind (expectedSetGenerationMatches_refuses _ _) fun _ _ => .bind (.require rfl) fun _ _ =>
        .bind (r.transition_refuses _ _) fun _ _ => .pure _
  · simp only [Checked.bind_ok, Checked.require_ok, Checked.pure_ok, decide_eq_true_eq] at h
    obtain ⟨_, _, _, hbound, r, hadmitted, _, hexpected, _, hnext, x, hmoved, rfl⟩ := h
    exact .commit (admission_admitted rfl rfl hadmitted) rfl (admission_found hadmitted)
      (.retire context reason hbound (SetRecord.transition_ok hmoved)) (expects_set rfl fun _ => hexpected) trivial
      rfl rfl rfl hnext (absurd · Bool.false_ne_true) rfl rfl (fun h => by cases h) (.none rfl rfl)

theorem authorizes_pair {context : MutationContext} {predecessor successor : MultipathSetId}
    (hfirst : e.authorityCheck context none (some predecessor) = .ok ())
    (hsecond : e.authorityCheck context none (some successor) = .ok ()) :
    e.Authorizes (.supersedeSet context predecessor successor) := by
  intro other target hother htarget
  cases hother
  rcases List.mem_pair.mp htarget with rfl | rfl
  · exact hfirst
  · exact hsecond

theorem supersedeSet_answer (e : FabricEngine) (context : MutationContext)
    (predecessor successor : MultipathSetId) :
    Answer e (.supersedeSet context predecessor successor)
      (.onSet context (text "supersede_set") predecessor [successor.view])
      (e.supersedeSet context predecessor successor) := by
  refine .conclude ?_ fun result h => ?_
  · refine .bind (.require rfl) fun _ _ => .bind (.require rfl) fun _ _ => .bind (authorityCheck_refuses _ _ _ _)
      fun _ hfirst => .bind (authorityCheck_refuses _ _ _ _) fun _ hsecond => .bind (.unlessAnswered ?_) fun _ _ =>
        .bind (requireSet_refuses _ _) fun old _ => .bind (requireSet_refuses _ _) fun _ _ =>
          .bind (expectedSetGenerationMatches_refuses _ _) fun _ _ => .ite (.pure _)
            (.bind (.require rfl) fun _ _ => .bind (old.transition_refuses _ _) fun _ _ => .pure _)
    exact fun outcome hknown => .inr ⟨authorizes_pair hfirst hsecond, hknown⟩
  · simp only [Checked.bind_ok, Checked.require_ok, Checked.unlessAnswered_ok, Bool.and_eq_true, bne_iff_ne] at h
    obtain ⟨_, ⟨hpredecessor, hsuccessor⟩, _, hne, _, hfirst, _, hsecond, _, hfresh, old, hold, new, hnew, _,
      hexpected, h⟩ := h
    have hadmitted : Admitted e (.supersedeSet context predecessor successor)
        (.onSet context (text "supersede_set") predecessor [successor.view]) := ⟨authorizes_pair hfirst hsecond, .inr hfresh⟩
    split at h
    · rw [Checked.pure_ok] at h
      subst h
      exact .answered hadmitted rfl (requireSet_ok hold) (.inl rfl)
        (expects_set rfl fun _ => hexpected) rfl
        (.inr ⟨rfl, rfl⟩) (fun _ => rfl) rfl
    · rename_i hfirstTime
      simp only [Checked.bind_ok, Checked.require_ok, Checked.pure_ok] at h
      obtain ⟨_, hnext, x, hmoved, rfl⟩ := h
      have hmove := SetRecord.transition_ok hmoved
      exact .supersede rfl hadmitted hne hpredecessor (requireSet_ok hold) (requireSet_ok hnew)
        (SetRecord.applyTransition_allowed hmove) hfirstTime (.superseded context successor hsuccessor hmove)
        (expects_set rfl fun _ => hexpected) rfl rfl hnext rfl (fun h => by cases h) (.none rfl rfl)

end FabricEngine

end MultipathFabric
