import MultipathFabric.AuthoritySpec

namespace MultipathFabric

open OrderedMap Checked

namespace FabricEngine

def Releases (e : FabricEngine) (op : Op) (e' : FabricEngine) : Prop :=
  ∃ context ticket current r path m, op = .completeMemberRevalidation context ticket current ∧
    e.sets[ticket.setId]? = some r ∧ r.finds ticket.memberId path m ∧
    e' = e.putSet ticket.setId (r.withMember path m.release)

/-- A rejection changes nothing but the counter of the ticket that a completion releases. -/
def Atomic (e : FabricEngine) (op : Op) : Prop :=
  (e.exec op).2.succeeded = false → (e.exec op).1 = e ∨ e.Releases op (e.exec op).1

def Admits (e : FabricEngine) (q : Request) (setId : MultipathSetId) (r : SetRecord) : Prop :=
  setId.valid = true ∧ e.admission q.context q.operation q.fields setId = .ok r ∧
    expectedSetGenerationMatches q.context r = .ok ()

def AdmitsRegistration (e : FabricEngine) (publisher : PublisherId) (workerBoot : WorkerBootId)
    (scope : AuthorityScope) (session : SessionId) : Prop :=
  (publisher.valid && workerBoot.valid && session.valid) = true ∧ scope.scopeWellFormed = true ∧
    scope.setIds.length ≤ e.limits.maxScopeSetIds.toNat ∧ scope.setIds.all StrongId.valid = true ∧
    e.fences[(⟨publisher, workerBoot⟩ : WorkerKey)]? = none ∧
    e.registrationCheck ⟨publisher, workerBoot⟩ scope session = .ok ()

/-- The states in which an operation is rejected after it has already changed something: a transition applied
before a threshold or a counter is refused, a revalidation evaluated before the counter is, and the other
registrations of a session dropped before the authority generation is found exhausted. -/
inductive Residue (e : FabricEngine) : Op → Prop
  | minimum {context : MutationContext} {setId : MultipathSetId} {minimum : UInt64} {r x : SetRecord}
      (admitted : e.Admits (.onSet context (text "set_minimum_usable_members") setId [decimal minimum.toNat]) setId r)
      (moved : r.applyTransition .minimumChanged = .ok x)
      (rejects : e.limits.maxMembersPerSet < minimum ∨
        r.minimumUsableMembers ≠ minimum ∧ r.generation.next = none)
      (changes : x ≠ r) : Residue e (.setMinimumUsableMembers context setId minimum)
  | policy {context : MutationContext} {setId : MultipathSetId} {permitted : Bool} {r x : SetRecord}
      (admitted : e.Admits (.onSet context (text "set_conditional_authority_policy") setId [flagText permitted])
        setId r)
      (moved : r.applyTransition .policyChanged = .ok x)
      (rejects : r.conditionalAuthorityPermitted ≠ permitted ∧ r.generation.next = none)
      (changes : x ≠ r) : Residue e (.setConditionalAuthorityPolicy context setId permitted)
  | admin {context : MutationContext} {setId : MultipathSetId} {enabled : Bool} {r x : SetRecord}
      (admitted : e.Admits (.onSet context (text "set_admin_enabled") setId [flagText enabled]) setId r)
      (moved : r.applyTransition (if enabled then .adminEnabled else .adminDisabled) = .ok x)
      (rejects : r.adminEnabled ≠ enabled ∧ r.generation.next = none)
      (changes : x ≠ r) : Residue e (.setAdminEnabled context setId enabled)
  | revalidation {context : MutationContext} {setId : MultipathSetId} {views : ViewTable} {r : SetRecord}
      (admitted : e.Admits (.onSet context (text "revalidate_set") setId []) setId r)
      (allowed : transitionAllowed r.lifecycle .revalidateSet = true)
      (changes : ¬(r.lifecycle = (e.revalidatedSet r views).lifecycle ∧
        r.currentness = (e.revalidatedSet r views).currentness))
      (exhausted : r.generation.next = none) : Residue e (.revalidateSet context setId views)
  | registration {publisher : PublisherId} {workerBoot : WorkerBootId} {scope : AuthorityScope} {session : SessionId}
      (admitted : e.AdmitsRegistration publisher workerBoot scope session)
      (exhausted : e.currentAuthorityGeneration.next = none)
      (releases : e.releaseSession ⟨publisher, workerBoot⟩ session ≠ e.registrations) :
      Residue e (.registerPublisher publisher workerBoot scope session)

variable {e : FabricEngine}

theorem putSet_same {setId : MultipathSetId} {r : SetRecord} (h : e.sets[setId]? = some r) : e.putSet setId r = e := by
  unfold putSet
  rw [insert_of_some h]

theorem putSet_changes {setId : MultipathSetId} {r x : SetRecord} (h : e.sets[setId]? = some r) (hx : x ≠ r) :
    e.putSet setId x ≠ e := by
  intro heq
  have hstored : (e.putSet setId x).sets[setId]? = some x := by
    rw [putSet, getElem?_insert_eq, if_pos rfl]
  rw [heq, h] at hstored
  cases hstored
  exact hx rfl

theorem not_releases {op : Op} {e' : FabricEngine} (h : op.unreplayed = false) : ¬e.Releases op e' := by
  rintro ⟨context, ticket, current, _, _, _, rfl, _⟩
  cases h

theorem transition_settings {r x : SetRecord} {event : SetEvent} (h : r.applyTransition event = .ok x) :
    x.minimumUsableMembers = r.minimumUsableMembers ∧
      x.conditionalAuthorityPermitted = r.conditionalAuthorityPermitted ∧ x.adminEnabled = r.adminEnabled ∧
      x.generation = r.generation := by
  rw [SetRecord.applyTransition_frame h]
  exact ⟨rfl, rfl, rfl, rfl⟩

theorem Residue.minimum_exec {context : MutationContext} {setId : MultipathSetId} {minimum : UInt64}
    {r x : SetRecord}
    (admitted : e.Admits (.onSet context (text "set_minimum_usable_members") setId [decimal minimum.toNat]) setId r)
    (moved : r.applyTransition .minimumChanged = .ok x)
    (rejects : e.limits.maxMembersPerSet < minimum ∨ r.minimumUsableMembers ≠ minimum ∧ r.generation.next = none) :
    (e.setMinimumUsableMembers context setId minimum).1 = e.putSet setId x ∧
      (e.setMinimumUsableMembers context setId minimum).2.succeeded = false := by
  obtain ⟨hvalid, hadmitted, hexpected⟩ := admitted
  obtain ⟨hminimum, _, _, hgeneration⟩ := transition_settings moved
  have hadmission : e.admission context (text "set_minimum_usable_members")
      [text "set_minimum_usable_members", setId.view, decimal minimum.toNat] setId = .ok r := hadmitted
  have hmatches : expectedSetGenerationMatches context r = .ok () := hexpected
  unfold setMinimumUsableMembers
  simp only [hvalid, require_true, ok_bind, hadmission, hmatches, SetRecord.transition_of_ok setId moved]
  by_cases hbound : e.limits.maxMembersPerSet < minimum
  · rw [if_pos hbound]
    exact ⟨rfl, rfl⟩
  · obtain ⟨hdiffers, hexhausted⟩ := rejects.resolve_left hbound
    rw [if_neg hbound, hminimum, if_neg hdiffers, hgeneration, hexhausted]
    exact ⟨rfl, rfl⟩

theorem Residue.policy_exec {context : MutationContext} {setId : MultipathSetId} {permitted : Bool}
    {r x : SetRecord}
    (admitted : e.Admits (.onSet context (text "set_conditional_authority_policy") setId [flagText permitted]) setId r)
    (moved : r.applyTransition .policyChanged = .ok x)
    (rejects : r.conditionalAuthorityPermitted ≠ permitted ∧ r.generation.next = none) :
    (e.setConditionalAuthorityPolicy context setId permitted).1 = e.putSet setId x ∧
      (e.setConditionalAuthorityPolicy context setId permitted).2.succeeded = false := by
  obtain ⟨hvalid, hadmitted, hexpected⟩ := admitted
  obtain ⟨_, hpermitted, _, hgeneration⟩ := transition_settings moved
  have hadmission : e.admission context (text "set_conditional_authority_policy")
      [text "set_conditional_authority_policy", setId.view, flagText permitted] setId = .ok r := hadmitted
  have hmatches : expectedSetGenerationMatches context r = .ok () := hexpected
  unfold setConditionalAuthorityPolicy
  simp only [hvalid, require_true, ok_bind, hadmission, hmatches, SetRecord.transition_of_ok setId moved]
  rw [hpermitted, if_neg rejects.1, hgeneration, rejects.2]
  exact ⟨rfl, rfl⟩

theorem Residue.admin_exec {context : MutationContext} {setId : MultipathSetId} {enabled : Bool} {r x : SetRecord}
    (admitted : e.Admits (.onSet context (text "set_admin_enabled") setId [flagText enabled]) setId r)
    (moved : r.applyTransition (if enabled then .adminEnabled else .adminDisabled) = .ok x)
    (rejects : r.adminEnabled ≠ enabled ∧ r.generation.next = none) :
    (e.setAdminEnabled context setId enabled).1 = e.putSet setId x ∧
      (e.setAdminEnabled context setId enabled).2.succeeded = false := by
  obtain ⟨hvalid, hadmitted, hexpected⟩ := admitted
  obtain ⟨_, _, henabled, hgeneration⟩ := transition_settings moved
  have hadmission : e.admission context (text "set_admin_enabled")
      [text "set_admin_enabled", setId.view, flagText enabled] setId = .ok r := hadmitted
  have hmatches : expectedSetGenerationMatches context r = .ok () := hexpected
  unfold setAdminEnabled
  simp only [hvalid, require_true, ok_bind, hadmission, hmatches, SetRecord.transition_of_ok setId moved]
  rw [henabled, if_neg rejects.1, hgeneration, rejects.2]
  exact ⟨rfl, rfl⟩

theorem Residue.revalidation_exec {context : MutationContext} {setId : MultipathSetId} {views : ViewTable}
    {r : SetRecord} (admitted : e.Admits (.onSet context (text "revalidate_set") setId []) setId r)
    (allowed : transitionAllowed r.lifecycle .revalidateSet = true)
    (changes : ¬(r.lifecycle = (e.revalidatedSet r views).lifecycle ∧
      r.currentness = (e.revalidatedSet r views).currentness))
    (exhausted : r.generation.next = none) :
    (e.revalidateSetLocked context setId views).engine = e.putSet setId (e.revalidatedSet r views) ∧
      (e.revalidateSetLocked context setId views).outcome.succeeded = false := by
  obtain ⟨hvalid, hadmitted, hexpected⟩ := admitted
  have hadmission : e.admission context (text "revalidate_set") [text "revalidate_set", setId.view] setId = .ok r :=
    hadmitted
  have hmatches : expectedSetGenerationMatches context r = .ok () := hexpected
  have hgeneration : (e.revalidatedSet r views).generation = r.generation := rfl
  unfold revalidateSetLocked
  simp only [hvalid, require_true, ok_bind, hadmission, hmatches, allowed]
  rw [if_neg changes, hgeneration, exhausted]
  exact ⟨rfl, rfl⟩

theorem Residue.registration_exec {publisher : PublisherId} {workerBoot : WorkerBootId} {scope : AuthorityScope}
    {session : SessionId} (admitted : e.AdmitsRegistration publisher workerBoot scope session)
    (exhausted : e.currentAuthorityGeneration.next = none) :
    (e.registerPublisher publisher workerBoot scope session).1 =
        { e with registrations := e.releaseSession ⟨publisher, workerBoot⟩ session } ∧
      (e.registerPublisher publisher workerBoot scope session).2.succeeded = false := by
  obtain ⟨hvalid, hformed, hlength, hids, hunfenced, hchecked⟩ := admitted
  unfold registerPublisher
  simp only [hvalid, hformed, hlength, decide_true, hids, hunfenced, Option.map_none, require_true, ok_bind,
    Checked.unlessAnswered, hchecked, exhausted]
  exact ⟨rfl, rfl⟩

theorem Residue.not_atomic {op : Op} (h : Residue e op) : ¬e.Atomic op := by
  intro hatomic
  cases h with
  | minimum admitted moved rejects changes =>
      obtain ⟨hleft, hrejected⟩ := minimum_exec admitted moved rejects
      rcases hatomic hrejected with hsame | hreleases
      · exact putSet_changes (admission_found admitted.2.1) changes (hleft.symm.trans hsame)
      · exact not_releases rfl hreleases
  | policy admitted moved rejects changes =>
      obtain ⟨hleft, hrejected⟩ := policy_exec admitted moved rejects
      rcases hatomic hrejected with hsame | hreleases
      · exact putSet_changes (admission_found admitted.2.1) changes (hleft.symm.trans hsame)
      · exact not_releases rfl hreleases
  | admin admitted moved rejects changes =>
      obtain ⟨hleft, hrejected⟩ := admin_exec admitted moved rejects
      rcases hatomic hrejected with hsame | hreleases
      · exact putSet_changes (admission_found admitted.2.1) changes (hleft.symm.trans hsame)
      · exact not_releases rfl hreleases
  | @revalidation _ _ views r admitted allowed changes exhausted =>
      obtain ⟨hleft, hrejected⟩ := revalidation_exec admitted allowed changes exhausted
      have hdiffers : e.revalidatedSet r views ≠ r := by
        intro heq
        rw [heq] at changes
        exact changes ⟨rfl, rfl⟩
      rcases hatomic hrejected with hsame | hreleases
      · exact putSet_changes (admission_found admitted.2.1) hdiffers (hleft.symm.trans hsame)
      · exact not_releases rfl hreleases
  | registration admitted exhausted releases =>
      obtain ⟨hleft, hrejected⟩ := registration_exec admitted exhausted
      rcases hatomic hrejected with hsame | hreleases
      · have hregistrations := congrArg FabricEngine.registrations (hleft.symm.trans hsame)
        exact releases hregistrations
      · exact not_releases rfl hreleases

theorem conclude_rejected {run : Checked (FabricEngine × FabricOutcome)}
    (h : ∀ result, run = .ok result → result.2.succeeded = false → result.1 = e) :
    (conclude e run).2.succeeded = false → (conclude e run).1 = e := by
  cases run with
  | error outcome => exact fun _ => rfl
  | ok result => exact h result rfl

theorem commitLocked_accepts (e : FabricEngine) {base : FabricEngine} {setId : MultipathSetId} {r x : SetRecord}
    {op : Op} {context : MutationContext} {operation : Bytes} {fields : List Bytes} {spec : CommitSpec}
    {outcome : FabricOutcome}
    (rejected : (base.commitLocked setId x context operation fields spec outcome).2.succeeded = false)
    (edit : RecordEdit e setId r op x spec.summary) (plain : op.views = false)
    (advances : spec.advanceSetGeneration = true) (keeps : spec.advanceMembershipGeneration = false)
    (next : r.generation.next.isSome = true) (accepted : outcome.succeeded = true) : False := by
  have hmembership : spec.advanceMembershipGeneration = true → r.membershipGeneration.next.isSome = true := by
    intro h
    rw [keeps] at h
    cases h
  have hcommit : (base.commitLocked setId x context operation fields spec outcome).2.succeeded = true :=
    Answer.commitLocked_outcome (fun answer => answer.succeeded = true) ⟨context, operation, fields⟩ edit plain
      advances next hmembership fun _ => accepted
  rw [hcommit] at rejected
  cases rejected

theorem minimum_rejected {context : MutationContext} {setId : MultipathSetId} {minimum : UInt64}
    (hresidue : ¬Residue e (.setMinimumUsableMembers context setId minimum)) :
    (e.setMinimumUsableMembers context setId minimum).2.succeeded = false →
      (e.setMinimumUsableMembers context setId minimum).1 = e := by
  refine conclude_rejected fun result h hrejected => ?_
  simp only [Checked.bind_ok, Checked.require_ok] at h
  obtain ⟨_, hvalid, r, hadmitted, _, hexpected, x, hmoved, h⟩ := h
  have hmove := SetRecord.transition_ok hmoved
  obtain ⟨hminimum, _, _, hgeneration⟩ := transition_settings hmove
  have hput : (e.limits.maxMembersPerSet < minimum ∨ r.minimumUsableMembers ≠ minimum ∧ r.generation.next = none) →
      e.putSet setId x = e := by
    intro hrejects
    by_cases hx : x = r
    · rw [hx]
      exact putSet_same (admission_found hadmitted)
    · exact absurd (.minimum ⟨hvalid, hadmitted, hexpected⟩ hmove hrejects hx) hresidue
  split at h
  · rename_i hbound
    rw [Checked.pure_ok] at h
    subst h
    exact hput (.inl hbound)
  · rename_i hbound
    split at h
    · rw [Checked.pure_ok] at h
      subst h
      cases hrejected
    · rename_i hdiffers
      split at h
      · rename_i hexhausted
        rw [Checked.pure_ok] at h
        subst h
        rw [hminimum] at hdiffers
        rw [hgeneration, Option.isNone_iff_eq_none] at hexhausted
        exact hput (.inr ⟨hdiffers, hexhausted⟩)
      · rename_i hnext
        rw [Checked.pure_ok] at h
        subst h
        exact (commitLocked_accepts e hrejected (.minimumChanged context minimum hmove (UInt64.not_lt.mp hbound)) rfl rfl
          rfl (SetRecord.next_isSome hmove hnext) rfl).elim

theorem policy_rejected {context : MutationContext} {setId : MultipathSetId} {permitted : Bool}
    (hresidue : ¬Residue e (.setConditionalAuthorityPolicy context setId permitted)) :
    (e.setConditionalAuthorityPolicy context setId permitted).2.succeeded = false →
      (e.setConditionalAuthorityPolicy context setId permitted).1 = e := by
  refine conclude_rejected fun result h hrejected => ?_
  simp only [Checked.bind_ok, Checked.require_ok] at h
  obtain ⟨_, hvalid, r, hadmitted, _, hexpected, x, hmoved, h⟩ := h
  have hmove := SetRecord.transition_ok hmoved
  obtain ⟨_, hpermitted, _, hgeneration⟩ := transition_settings hmove
  split at h
  · rw [Checked.pure_ok] at h
    subst h
    cases hrejected
  · rename_i hdiffers
    split at h
    · rename_i hexhausted
      rw [Checked.pure_ok] at h
      subst h
      rw [hpermitted] at hdiffers
      rw [hgeneration, Option.isNone_iff_eq_none] at hexhausted
      by_cases hx : x = r
      · rw [hx]
        exact putSet_same (admission_found hadmitted)
      · exact absurd (.policy ⟨hvalid, hadmitted, hexpected⟩ hmove ⟨hdiffers, hexhausted⟩ hx) hresidue
    · rename_i hnext
      rw [Checked.pure_ok] at h
      subst h
      exact (commitLocked_accepts e hrejected (.policyChanged context permitted hmove) rfl rfl rfl
        (SetRecord.next_isSome hmove hnext) rfl).elim

theorem admin_rejected {context : MutationContext} {setId : MultipathSetId} {enabled : Bool}
    (hresidue : ¬Residue e (.setAdminEnabled context setId enabled)) :
    (e.setAdminEnabled context setId enabled).2.succeeded = false →
      (e.setAdminEnabled context setId enabled).1 = e := by
  refine conclude_rejected fun result h hrejected => ?_
  simp only [Checked.bind_ok, Checked.require_ok] at h
  obtain ⟨_, hvalid, r, hadmitted, _, hexpected, x, hmoved, h⟩ := h
  have hmove := SetRecord.transition_ok hmoved
  obtain ⟨_, _, henabled, hgeneration⟩ := transition_settings hmove
  split at h
  · rw [Checked.pure_ok] at h
    subst h
    cases hrejected
  · rename_i hdiffers
    split at h
    · rename_i hexhausted
      rw [Checked.pure_ok] at h
      subst h
      rw [henabled] at hdiffers
      rw [hgeneration, Option.isNone_iff_eq_none] at hexhausted
      by_cases hx : x = r
      · rw [hx]
        exact putSet_same (admission_found hadmitted)
      · exact absurd (.admin ⟨hvalid, hadmitted, hexpected⟩ hmove ⟨hdiffers, hexhausted⟩ hx) hresidue
    · rename_i hnext
      rw [Checked.pure_ok] at h
      subst h
      exact (commitLocked_accepts e hrejected (.adminChanged context enabled hmove) rfl rfl rfl
        (SetRecord.next_isSome hmove hnext) rfl).elim

theorem revalidation_rejected {context : MutationContext} {setId : MultipathSetId} {views : ViewTable}
    (hresidue : ¬Residue e (.revalidateSet context setId views))
    (hrejected : (e.revalidateSetLocked context setId views).outcome.succeeded = false) :
    (e.revalidateSetLocked context setId views).engine = e := by
  generalize hresult : e.revalidateSetLocked context setId views = result at hrejected ⊢
  rcases concludeLocked_cases hresult with ⟨hsame, _⟩ | h
  · exact hsame
  · simp only [Checked.bind_ok, Checked.require_ok] at h
    obtain ⟨_, hvalid, r, hadmitted, _, hallowed, _, hexpected, h⟩ := h
    split at h
    · rw [Checked.pure_ok] at h
      subst h
      cases hrejected
    · rename_i hchanges
      split at h
      · rename_i hexhausted
        rw [Option.isNone_iff_eq_none] at hexhausted
        exact absurd (.revalidation ⟨hvalid, hadmitted, hexpected⟩ hallowed hchanges hexhausted) hresidue
      · rename_i hnext
        rw [Checked.pure_ok] at h
        subst h
        rw [Option.isNone_iff_eq_none] at hnext
        refine (commitLocked_accepts e hrejected (.revalidatedSet context views hallowed) rfl rfl rfl
          (Option.isSome_iff_ne_none.mpr hnext) ?_).elim
        rw [makeOutcome_succeeded]
        split <;> rfl

theorem registration_rejected {publisher : PublisherId} {workerBoot : WorkerBootId} {scope : AuthorityScope}
    {session : SessionId} (hresidue : ¬Residue e (.registerPublisher publisher workerBoot scope session)) :
    (e.registerPublisher publisher workerBoot scope session).2.succeeded = false →
      (e.registerPublisher publisher workerBoot scope session).1 = e := by
  refine conclude_rejected fun result h hrejected => ?_
  simp only [Checked.bind_ok, Checked.require_ok, Checked.unlessAnswered_ok, decide_eq_true_eq,
    Option.map_eq_none_iff] at h
  obtain ⟨_, hvalid, _, hformed, _, hlength, _, hids, _, hunfenced, _, hchecked, h⟩ := h
  split at h
  · rename_i hexhausted
    rw [Checked.pure_ok] at h
    subst h
    by_cases hreleases : e.releaseSession ⟨publisher, workerBoot⟩ session = e.registrations
    · simp only [hreleases]
    · exact absurd (.registration ⟨hvalid, hformed, hlength, hids, hunfenced, hchecked⟩ hexhausted hreleases) hresidue
  · rw [Checked.pure_ok] at h
    subst h
    cases hrejected

theorem completion_rejected {context : MutationContext} {ticket : RevalidationTicket}
    {current : Option PathAuthorityView}
    (hrejected : (e.completeMemberRevalidation context ticket current).2.succeeded = false) :
    (e.completeMemberRevalidation context ticket current).1 = e ∨
      e.Releases (.completeMemberRevalidation context ticket current)
        (e.completeMemberRevalidation context ticket current).1 := by
  generalize hresult : e.completeMemberRevalidation context ticket current = result at hrejected ⊢
  rcases conclude_cases hresult with hsame | h
  · exact .inl hsame
  · simp only [Checked.bind_ok, Checked.present_ok, Checked.require_ok, bne_iff_ne] at h
    obtain ⟨_, _, _, _, _, _, r, hset, path, hpath, m, hmember, _, hpending, h⟩ := h
    split at h
    · rw [Checked.pure_ok] at h
      subst h
      exact .inr ⟨context, ticket, current, r, path, m, rfl, requireSet_ok hset, ⟨hpath, hmember⟩, rfl⟩
    · rename_i hfresh
      have hnext := (staleCompletion_none hfresh).2.2
      split at h
      · rw [Checked.pure_ok] at h
        subst h
        refine (commitLocked_accepts e hrejected (.completed context ticket current rfl ⟨hpath, hmember⟩ hpending
          hfresh) rfl rfl rfl hnext ?_).elim
        rw [revalidationOutcome_succeeded]
        split <;> rfl
      · rw [Checked.pure_ok] at h
        subst h
        rw [revalidationOutcome_succeeded] at hrejected
        split at hrejected <;> cases hrejected

end FabricEngine

theorem Answer.atomic {e : FabricEngine} {op : Op} {q : Request} {result : FabricEngine × FabricOutcome}
    (h : Answer e op q result) (plain : op.residual = false) (rejected : result.2.succeeded = false) :
    result.1 = e := by
  cases h with
  | refused | replayed => rfl
  | left residual => exact absurd (residual.symm.trans plain) (fun h => by cases h)
  | answered _ _ _ _ _ accepted => exact absurd (accepted.symm.trans rejected) (fun h => by cases h)
  | committed _ _ _ _ _ _ _ _ accepted => exact absurd (accepted.symm.trans rejected) (fun h => by cases h)
  | superseded _ _ _ _ _ _ _ _ _ _ _ accepted => exact absurd (accepted.symm.trans rejected) (fun h => by cases h)
  | viewed _ _ _ _ _ accepted => exact absurd (accepted.symm.trans rejected) (fun h => by cases h)
  | created _ _ _ _ _ _ accepted => exact absurd (accepted.symm.trans rejected) (fun h => by cases h)

namespace FabricEngine

variable {e : FabricEngine}

theorem unregister_rejected {publisher : PublisherId} {workerBoot : WorkerBootId} :
    (e.unregisterPublisher publisher workerBoot).2.succeeded = false →
      (e.unregisterPublisher publisher workerBoot).1 = e := by
  refine conclude_rejected fun result h hrejected => ?_
  simp only [Checked.bind_ok, Checked.pure_ok] at h
  obtain ⟨_, _, _, _, rfl⟩ := h
  cases hrejected

theorem fence_rejected {publisher : PublisherId} {workerBoot : WorkerBootId} {cause : Bytes} :
    (e.fenceWorker publisher workerBoot cause).2.succeeded = false →
      (e.fenceWorker publisher workerBoot cause).1 = e := by
  refine conclude_rejected fun result h hrejected => ?_
  simp only [Checked.bind_ok, Checked.pure_ok] at h
  obtain ⟨_, _, _, _, _, _, _, _, rfl⟩ := h
  cases hrejected

theorem advance_rejected {publisher : PublisherId} {workerBoot : WorkerBootId} {session : SessionId}
    {expected : CoordinatorEpoch} {attempt : MutationAttemptId} :
    (e.advanceEpoch publisher workerBoot session expected attempt).2.succeeded = false →
      (e.advanceEpoch publisher workerBoot session expected attempt).1 = e := by
  refine conclude_rejected fun result h hrejected => ?_
  simp only [Checked.bind_ok, Checked.pure_ok] at h
  obtain ⟨_, _, _, _, _, _, _, _, _, _, _, _, _, _, rfl⟩ := h
  cases hrejected

theorem Atomic.of_no_residue {op : Op} (stored : ∀ path files, op ≠ .loadStore path files)
    (h : ¬Residue e op) : e.Atomic op := by
  intro hrejected
  cases op with
  | registerPublisher => exact .inl (registration_rejected h hrejected)
  | unregisterPublisher => exact .inl (unregister_rejected hrejected)
  | fenceWorker => exact .inl (fence_rejected hrejected)
  | advanceEpoch => exact .inl (advance_rejected hrejected)
  | setMinimumUsableMembers => exact .inl (minimum_rejected h hrejected)
  | setConditionalAuthorityPolicy => exact .inl (policy_rejected h hrejected)
  | setAdminEnabled => exact .inl (admin_rejected h hrejected)
  | revalidateSet => exact .inl (revalidation_rejected h hrejected)
  | completeMemberRevalidation => exact completion_rejected hrejected
  | beginMemberRevalidation context setId memberId attempt =>
      rcases beginMemberRevalidation_cases e context setId memberId attempt with
        ⟨hsame, _⟩ | ⟨_, _, _, _, _, _, haccepted⟩
      · exact .inl hsame
      · exact absurd (haccepted.symm.trans hrejected) (fun h => by cases h)
  | abandonMemberRevalidation ticket =>
      rcases abandonMemberRevalidation_cases e ticket with ⟨hsame, _⟩ | ⟨_, _, _, _, _, haccepted⟩
      · exact .inl hsame
      · exact absurd (haccepted.symm.trans hrejected) (fun h => by cases h)
  | reconcilePath => cases hrejected
  | bindPathAuthority => cases hrejected
  | loadStore path files => exact absurd rfl (stored path files)
  | refreshPath context path view =>
      cases view with
      | none => exact .inl (refreshPathLocked_unknown e context path).1
      | some view => exact .inl ((exec_answer e rfl).atomic rfl hrejected)
  | _ => exact .inl ((exec_answer e rfl).atomic rfl hrejected)

/-- A step other than a load is atomic exactly when it is taken in no state that leaves a residue. -/
theorem atomic_iff {op : Op} (stored : ∀ path files, op ≠ .loadStore path files) :
    e.Atomic op ↔ ¬Residue e op :=
  ⟨fun hatomic hresidue => hresidue.not_atomic hatomic, .of_no_residue stored⟩

def exhaustedConfig : FabricConfig := ⟨.default, .first, ⟨18446744073709551614⟩⟩

def exhaustedRun : FabricEngine :=
  (init exhaustedConfig sampleIds).after
    (.registerPublisher (sampleId "pub") (sampleId "boot") sampleScope (sampleId "sess"))

def secondBoot : Op := .registerPublisher (sampleId "pub") (sampleId "boot2") sampleScope (sampleId "sess")

theorem atomic_iff_registration :
    ((sampleRun sampleSteps).Atomic secondBoot ↔ ¬Residue (sampleRun sampleSteps) secondBoot) ∧
      (exhaustedRun.Atomic secondBoot ↔ ¬Residue exhaustedRun secondBoot) ∧ Residue exhaustedRun secondBoot := by
  have hlive (path : Bytes) (files : StoreFiles) : secondBoot ≠ .loadStore path files := by
    intro heq
    cases heq
  refine ⟨atomic_iff hlive, atomic_iff hlive, ?_⟩
  obtain ⟨_, hchecked⟩ := Checked.of_isOk
    (by decide +kernel : (exhaustedRun.registrationCheck ⟨sampleId "pub", sampleId "boot2"⟩ sampleScope
      (sampleId "sess")).isOk = true)
  refine .registration ⟨by decide +kernel, by decide +kernel, by decide +kernel, by decide +kernel, by decide +kernel,
    hchecked⟩ (by decide +kernel) fun hsame => ?_
  have hsize := congrArg (fun registrations => registrations.size) hsame
  exact absurd hsize (by decide +kernel)

/-- The second boot is refused, and the first boot has lost its registration. -/
theorem atomic_fails : ¬∀ (config : FabricConfig) (e : FabricEngine) (op : Op), Reachable config e →
    (∀ path files, op ≠ .loadStore path files) → e.Atomic op := by
  intro h
  have hatomic := h exhaustedConfig exhaustedRun secondBoot (.step (.init sampleIds) _ trivial)
    fun _ _ heq => by cases heq
  rcases hatomic (by decide +kernel) with hsame | hreleases
  · have hsize := congrArg (fun e => e.registrations.size) hsame
    exact absurd hsize (by decide +kernel)
  · exact not_releases rfl hreleases

end FabricEngine

end MultipathFabric
