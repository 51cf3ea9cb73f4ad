import MultipathFabric.Accounting
import MultipathFabric.Request

namespace MultipathFabric

open OrderedMap

namespace MemberRecord

theorem applyEvent_rest (m : MemberRecord) (event : MemberEvent) :
    m.applyEvent event =
      { m with
        lifecycle := (m.applyEvent event).lifecycle
        invalidationWatermark := (m.applyEvent event).invalidationWatermark } := by
  unfold applyEvent
  split
  · rfl
  · split <;> rfl

theorem evaluate_rest (m : MemberRecord) (permitted : Bool) (view : Option PathAuthorityView) (explicit : Bool) :
    m.evaluate permitted view explicit =
      { m with
        lifecycle := (m.evaluate permitted view explicit).lifecycle
        currentness := (m.evaluate permitted view explicit).currentness
        invalidationWatermark := (m.evaluate permitted view explicit).invalidationWatermark
        observedAuthorityGeneration := (m.evaluate permitted view explicit).observedAuthorityGeneration
        observedAuthorityState := (m.evaluate permitted view explicit).observedAuthorityState } := by
  unfold evaluate
  split
  · rfl
  · dsimp only
    rw [applyEvent_rest]
    split <;> rfl

end MemberRecord

namespace SetRecord

theorem applyTransition_frame {r x : SetRecord} {event : SetEvent} (h : r.applyTransition event = .ok x) :
    x = { r with
      lifecycle := x.lifecycle
      currentness := x.currentness
      usableMemberCount := x.usableMemberCount } := by
  unfold applyTransition at h
  split at h
  all_goals
    cases h
    try rfl

theorem consequences_frame (e : FabricEngine) (r : SetRecord) (source target : SetLifecycle)
    (context : Option MutationContext) :
    applyMemberConsequences e r source target context =
      { r with
        members := (applyMemberConsequences e r source target context).members
        usableMemberCount := (applyMemberConsequences e r source target context).usableMemberCount
        invalidationWatermark := (applyMemberConsequences e r source target context).invalidationWatermark
        history := (applyMemberConsequences e r source target context).history } := by
  unfold applyMemberConsequences
  split
  · rfl
  · split
    · cases target <;> rfl
    · rfl

theorem pruneArchive_frame (limits : Limits) (r : SetRecord) :
    r.pruneArchive limits =
      { r with
        members := (r.pruneArchive limits).members
        memberIndex := (r.pruneArchive limits).memberIndex } := by
  unfold pruneArchive
  dsimp only
  split <;> rfl

theorem committed_standing (e : FabricEngine) (y : SetRecord) (context : MutationContext) (spec : CommitSpec) :
    (y.committed e context spec).lifecycle = y.lifecycle ∧ (y.committed e context spec).currentness = y.currentness ∧
      (y.committed e context spec).usableMemberCount = y.usableMemberCount := by
  simp only [committed, FabricEngine.appendHistory, pruneArchive]
  split <;> exact ⟨rfl, rfl, rfl⟩

theorem publishMembers_frame (context : MutationContext) (setId : MultipathSetId) (e : FabricEngine) (r : SetRecord)
    (requests : List (MemberRequest × Option PathAuthorityView)) :
    (FabricEngine.publishMembers context setId e r requests).2.1 =
      { r with
        members := (FabricEngine.publishMembers context setId e r requests).2.1.members
        memberIndex := (FabricEngine.publishMembers context setId e r requests).2.1.memberIndex } := by
  induction requests generalizing e r with
  | nil => rfl
  | cons request rest ih =>
      have hrest := ih (e.admitPath setId request.1.pathId) (r.installMember (e.newMember context r .memberAdded request.1
        request.2 (r.members[request.1.pathId]?.map MemberRecord.id)))
      exact hrest

end SetRecord

structure SetRecord.SameHead (r x : SetRecord) : Prop where
  id : x.id = r.id
  key : x.key = r.key
  membershipGeneration : x.membershipGeneration = r.membershipGeneration
  provenance : x.provenance = r.provenance

namespace SetRecord.SameHead

theorem refl (r : SetRecord) : SameHead r r := ⟨rfl, rfl, rfl, rfl⟩

theorem trans {a b c : SetRecord} (h : SameHead a b) (h' : SameHead b c) : SameHead a c :=
  ⟨h'.id.trans h.id, h'.key.trans h.key, h'.membershipGeneration.trans h.membershipGeneration,
    h'.provenance.trans h.provenance⟩

theorem transition {r x : SetRecord} {event : SetEvent} (h : r.applyTransition event = .ok x) : SameHead r x := by
  rw [applyTransition_frame h]
  exact ⟨rfl, rfl, rfl, rfl⟩

theorem consequences {r y : SetRecord} (h : SameHead r y) (e : FabricEngine) (source target : SetLifecycle)
    (context : Option MutationContext) : SameHead r (applyMemberConsequences e y source target context) := by
  refine h.trans ?_
  rw [consequences_frame]
  exact ⟨rfl, rfl, rfl, rfl⟩

theorem published (context : MutationContext) (setId : MultipathSetId) (e : FabricEngine) (r : SetRecord)
    (requests : List (MemberRequest × Option PathAuthorityView)) :
    SameHead r (FabricEngine.publishMembers context setId e r requests).2.1 := by
  rw [publishMembers_frame]
  exact ⟨rfl, rfl, rfl, rfl⟩

end SetRecord.SameHead

open SetRecord

theorem RecordEdit.sameHead {e : FabricEngine} {setId : MultipathSetId} {r x : SetRecord} {op : Op}
    {summary : Bytes} (edit : RecordEdit e setId r op x summary) : r.SameHead x := by
  cases edit with
  | collided | supersedes | supersedesRecorded | revalidatedSet | revalidatedMember | begun | released
  | completed | abandoned | observed | toggled => exact ⟨rfl, rfl, rfl, rfl⟩
  | publish _ moved | minimumChecked _ _ moved | policyChecked _ _ moved | adminChecked _ _ moved
  | completeWithdrawal _ moved => exact .transition moved
  | minimumChanged _ _ moved | policyChanged _ _ moved | adminChanged _ _ moved | removed _ _ _ _ _ _ moved
  | withdrewMember _ _ _ _ _ _ _ moved | replaced _ _ _ _ _ _ _ _ _ _ _ _ _ moved =>
      exact (SameHead.transition moved).trans ⟨rfl, rfl, rfl, rfl⟩
  | withdraw _ _ _ moved | revoke _ _ _ _ _ moved | retire _ _ _ moved | superseded _ _ _ moved =>
      refine SameHead.consequences ?_ _ _ _ _
      exact (SameHead.transition moved).trans ⟨rfl, rfl, rfl, rfl⟩
  | added _ _ _ _ _ _ moved =>
      exact (SameHead.transition moved).trans ((SameHead.published _ _ _ _ _).trans ⟨rfl, rfl, rfl, rfl⟩)
  | invalidated =>
      unfold FabricEngine.dependencyInvalidated
      dsimp only
      split <;> exact ⟨rfl, rfl, rfl, rfl⟩

theorem publishMembers_generation (context : MutationContext) (setId : MultipathSetId) (e : FabricEngine)
    (r : SetRecord) (requests : List (MemberRequest × Option PathAuthorityView)) :
    (FabricEngine.publishMembers context setId e r requests).2.1.generation = r.generation := by
  induction requests generalizing e r with
  | nil => rfl
  | cons request rest ih => exact ih _ _

theorem consequences_generation {r y : SetRecord} (h : y.generation = r.generation) (e : FabricEngine)
    (source target : SetLifecycle) (context : Option MutationContext) :
    (applyMemberConsequences e y source target context).generation = r.generation := by
  rw [consequences_frame]
  exact h

theorem RecordEdit.generation {e : FabricEngine} {setId : MultipathSetId} {r x : SetRecord} {op : Op}
    {summary : Bytes} (edit : RecordEdit e setId r op x summary) (h : op.views = false) :
    x.generation = r.generation := by
  have htransition : ∀ {event : SetEvent} {y : SetRecord}, r.applyTransition event = .ok y →
      y.generation = r.generation := by
    intro event y hmoved
    rw [applyTransition_frame hmoved]
  cases edit with
  | collided | supersedes | supersedesRecorded | revalidatedSet | revalidatedMember | begun | released
  | completed | abandoned | toggled => rfl
  | publish _ moved | minimumChecked _ _ moved | policyChecked _ _ moved | adminChecked _ _ moved
  | completeWithdrawal _ moved | minimumChanged _ _ moved | policyChanged _ _ moved | adminChanged _ _ moved
  | removed _ _ _ _ _ _ moved | withdrewMember _ _ _ _ _ _ _ moved | replaced _ _ _ _ _ _ _ _ _ _ _ _ _ moved =>
      have hgeneration := htransition moved
      exact hgeneration
  | withdraw _ _ _ moved | revoke _ _ _ _ _ moved | retire _ _ _ moved | superseded _ _ _ moved =>
      refine consequences_generation ?_ _ _ _ _
      have hgeneration := htransition moved
      exact hgeneration
  | added _ _ _ _ _ _ moved => exact (publishMembers_generation _ _ _ _ _).trans (htransition moved)
  | observed applied => cases applied <;> cases h
  | invalidated applied => cases applied <;> cases h

end MultipathFabric
