import MultipathFabric.ResponseRoundTrip
import MultipathFabric.SnapshotHistory

namespace MultipathFabric

open OrderedMap

theorem Generation.valid_next_getD {d : GenerationDomain} {g : Generation d} (h : g.valid = true) :
    (g.next.getD g).valid = true := by
  cases hnext : g.next with
  | none => exact h
  | some g' => exact Generation.valid_of_next hnext

theorem Generation.Follows.valid {d : GenerationDomain} {before after : Generation d} (h : before.Follows after)
    (valid : before.valid = true) : after.valid = true := by
  rcases h with rfl | hnext
  · exact valid
  · exact Generation.valid_of_next hnext

structure MemberRecord.WellFormed (m : MemberRecord) : Prop where
  id : m.id.valid = true
  pathId : m.pathId.valid = true
  boundAuthorityGeneration : m.boundAuthorityGeneration.valid = true
  generation : m.generation.valid = true
  predecessor : ∀ id, m.predecessor = some id → id.valid = true
  successor : ∀ id, m.successor = some id → id.valid = true
  provenance : m.provenance.setGeneration.valid = true

namespace MemberRecord.WellFormed

variable {m : MemberRecord}

theorem snapshot (h : m.WellFormed) : (makeMemberSnapshot m).WellFormed :=
  ⟨h.id, h.pathId, h.boundAuthorityGeneration, h.generation, h.predecessor, h.successor, h.provenance⟩

theorem bumpWatermark (h : m.WellFormed) : m.bumpWatermark.WellFormed :=
  ⟨h.id, h.pathId, h.boundAuthorityGeneration, h.generation, h.predecessor, h.successor, h.provenance⟩

theorem applyEvent (h : m.WellFormed) (event : MemberEvent) : (m.applyEvent event).WellFormed := by
  rw [applyEvent_rest]
  exact ⟨h.id, h.pathId, h.boundAuthorityGeneration, h.generation, h.predecessor, h.successor, h.provenance⟩

theorem evaluate (h : m.WellFormed) (permitted : Bool) (view : Option PathAuthorityView) (explicit : Bool) :
    (m.evaluate permitted view explicit).WellFormed := by
  rw [evaluate_rest]
  exact ⟨h.id, h.pathId, h.boundAuthorityGeneration, h.generation, h.predecessor, h.successor, h.provenance⟩

theorem markSetNotUsable (h : m.WellFormed) : (markSetNotUsable m).WellFormed := by
  unfold MultipathFabric.markSetNotUsable
  split
  · exact ⟨h.id, h.pathId, h.boundAuthorityGeneration, h.generation, h.predecessor, h.successor, h.provenance⟩
  · exact h

theorem terminate (h : m.WellFormed) (lifecycle : MemberLifecycle) : (m.terminate lifecycle).WellFormed :=
  ⟨h.id, h.pathId, h.boundAuthorityGeneration, Generation.valid_next_getD h.generation, h.predecessor, h.successor,
    h.provenance⟩

theorem toggled (h : m.WellFormed) (permitted : Bool) (view : Option PathAuthorityView) (enabled : Bool) :
    (m.toggled permitted view enabled).WellFormed := by
  apply evaluate
  exact ⟨h.id, h.pathId, h.boundAuthorityGeneration, Generation.valid_next_getD h.generation, h.predecessor, h.successor,
    h.provenance⟩

theorem rebound (h : m.WellFormed) (permitted : Bool) {view : Option PathAuthorityView}
    (known : ∀ v, view = some v → v.generation.valid = true) : (m.rebound permitted view).WellFormed := by
  apply evaluate
  refine ⟨h.id, h.pathId, ?_, h.generation, h.predecessor, h.successor, h.provenance⟩
  cases view with
  | none => exact h.boundAuthorityGeneration
  | some v => exact known v rfl

theorem revalidated (h : m.WellFormed) (permitted : Bool) {view : Option PathAuthorityView}
    (known : ∀ v, view = some v → v.generation.valid = true) : (m.revalidated permitted view).WellFormed := by
  have hbound := h.rebound permitted known
  unfold MemberRecord.revalidated
  dsimp only
  split
  · exact ⟨hbound.id, hbound.pathId, hbound.boundAuthorityGeneration, Generation.valid_next_getD hbound.generation,
      hbound.predecessor, hbound.successor, hbound.provenance⟩
  · exact hbound

theorem release (h : m.WellFormed) : m.release.WellFormed :=
  ⟨h.id, h.pathId, h.boundAuthorityGeneration, h.generation, h.predecessor, h.successor, h.provenance⟩

theorem clearLineage (h : m.WellFormed) (pruned : List MultipathMemberId) : (m.clearLineage pruned).WellFormed :=
  ⟨h.id, h.pathId, h.boundAuthorityGeneration, h.generation,
    fun id hid => h.predecessor id (Option.filter_eq_some_iff.mp hid).1,
    fun id hid => h.successor id (Option.filter_eq_some_iff.mp hid).1, h.provenance⟩

end MemberRecord.WellFormed

structure SetRecord.WellFormed (r : SetRecord) : Prop where
  id : r.id.valid = true
  key : r.key.valid = true
  generation : r.generation.valid = true
  membershipGeneration : r.membershipGeneration.valid = true
  authorityGeneration : r.authorityGeneration.valid = true
  governingEpoch : r.governingEpoch.valid = true
  supersededBy : ∀ id, r.supersededBy = some id → id.valid = true
  supersedes : ∀ id, r.supersedes = some id → id.valid = true
  revocation : ∀ revocation, r.revocation = some revocation → revocation.WellFormed ∧ revocation.setId = r.id
  provenance : r.provenance.epoch.valid = true ∧ r.provenance.setGeneration.valid = true
  history : ∀ entry ∈ r.history, entry.WellFormed
  members : ∀ (path : PathId) (m : MemberRecord), r.members[path]? = some m → path.valid = true ∧ m.WellFormed

namespace SetRecord

def stated (r : SetRecord) :=
  (r.id, r.key, r.generation, r.membershipGeneration, r.authorityGeneration, r.governingEpoch, r.supersededBy,
    r.supersedes, r.revocation, r.provenance, r.history, r.members)

namespace WellFormed

variable {r x : SetRecord} {e : FabricEngine}

theorem congr (h : r.WellFormed) (same : x.stated = r.stated) : x.WellFormed := by
  simp only [stated, Prod.mk.injEq] at same
  obtain ⟨hid, hkey, hgeneration, hmembership, hauthority, hepoch, hby, hof, hrevocation, hprovenance, hhistory,
    hmembers⟩ := same
  exact ⟨hid ▸ h.id, hkey ▸ h.key, hgeneration ▸ h.generation, hmembership ▸ h.membershipGeneration,
    hauthority ▸ h.authorityGeneration, hepoch ▸ h.governingEpoch, hby ▸ h.supersededBy, hof ▸ h.supersedes,
    hrevocation ▸ hid ▸ h.revocation, hprovenance ▸ h.provenance, hhistory ▸ h.history, hmembers ▸ h.members⟩

theorem snapshot (h : r.WellFormed) (sized : r.usableMemberCount < 2 ^ 64) : (makeSnapshot r).WellFormed where
  snapshotId := rfl
  setId := h.id
  key := h.key
  generation := h.generation
  membershipGeneration := h.membershipGeneration
  authorityGeneration := h.authorityGeneration
  governingEpoch := h.governingEpoch
  supersededBy := h.supersededBy
  supersedes := h.supersedes
  revocation := h.revocation
  provenance := h.provenance
  history := h.history
  members := by
    intro m hm
    obtain ⟨entry, hentry, rfl⟩ := List.mem_map.mp hm
    exact (h.members entry.1 entry.2 (Std.ExtTreeMap.mem_toList_iff_getElem?_eq_some.mp hentry)).2.snapshot
  memberCount := by
    change r.members.size = (r.members.toList.map _).length
    rw [List.length_map, Std.ExtTreeMap.length_toList]
  usableMemberCount := sized

theorem withMembers (h : r.WellFormed) {members : MemberMap}
    (each : ∀ (path : PathId) (m : MemberRecord), members[path]? = some m → path.valid = true ∧ m.WellFormed) :
    ({ r with members := members } : SetRecord).WellFormed :=
  ⟨h.id, h.key, h.generation, h.membershipGeneration, h.authorityGeneration, h.governingEpoch, h.supersededBy,
    h.supersedes, h.revocation, h.provenance, h.history, each⟩

theorem map (h : r.WellFormed) {f : MemberRecord → MemberRecord} (each : ∀ m, m.WellFormed → (f m).WellFormed) :
    ({ r with members := r.members.map fun _ m => f m } : SetRecord).WellFormed := by
  apply h.withMembers
  intro path m' hm
  obtain ⟨m, hfound, rfl⟩ := member_map hm
  obtain ⟨hpath, hm⟩ := h.members path m hfound
  exact ⟨hpath, each m hm⟩

theorem withMember (h : r.WellFormed) {path : PathId} {m : MemberRecord} (valid : path.valid = true)
    (member : m.WellFormed) : (r.withMember path m).WellFormed := by
  apply h.withMembers
  intro other m' hm
  rcases member_insert hm with ⟨rfl, rfl⟩ | ⟨_, hkept⟩
  · exact ⟨valid, member⟩
  · exact h.members other m' hkept

theorem bumpWatermark (h : r.WellFormed) : r.bumpWatermark.WellFormed :=
  (h.map fun _ hm => hm.bumpWatermark).congr rfl

theorem transition (h : r.WellFormed) {event : SetEvent} (moved : r.applyTransition event = .ok x) : x.WellFormed := by
  rw [applyTransition_frame moved]
  exact h.congr rfl

theorem append (h : r.WellFormed) {context : Option MutationContext} {memberId : Option MultipathMemberId}
    {pathId : Option PathId} (event : SetEvent) (cause : MembershipCause) (summary : Bytes)
    (epoch : ((context.map MutationContext.epoch).getD e.currentEpoch).valid = true)
    (member : ∀ id, memberId = some id → id.valid = true) (path : ∀ id, pathId = some id → id.valid = true) :
    (e.appendHistory r event cause context memberId pathId summary).WellFormed := by
  refine ⟨h.id, h.key, h.generation, h.membershipGeneration, h.authorityGeneration, h.governingEpoch, h.supersededBy,
    h.supersedes, h.revocation, h.provenance, ?_, h.members⟩
  intro entry hentry
  rcases List.mem_append.mp (List.mem_of_mem_drop hentry) with hold | hnew
  · exact h.history entry hold
  · rw [List.mem_singleton.mp hnew]
    exact ⟨h.generation, epoch, member, path⟩

theorem consequences (h : r.WellFormed) {context : MutationContext} (epoch : context.epoch.valid = true)
    (source target : SetLifecycle) : (applyMemberConsequences e r source target (some context)).WellFormed := by
  have hevent : ∀ event, (applyMemberEvent r event).WellFormed := fun event =>
    (h.map fun _ hm => hm.applyEvent event).bumpWatermark.congr rfl
  unfold applyMemberConsequences
  split
  · exact h
  · split
    · cases target with
      | withdrawing | withdrawn | superseded | retired => exact hevent _
      | revoked =>
          apply append
          · exact ((h.map fun _ hm => hm.markSetNotUsable).bumpWatermark).congr rfl
          · exact epoch
          · exact fun _ hid => by cases hid
          · exact fun _ hid => by cases hid
      | _ => exact h
    · exact h

theorem install (h : r.WellFormed) {m : MemberRecord} (member : m.WellFormed) : (r.installMember m).WellFormed :=
  (h.withMember member.pathId member).congr rfl

theorem newMember (h : r.WellFormed) (context : MutationContext) (cause : MembershipCause) {request : MemberRequest}
    (view : Option PathAuthorityView) {predecessor : Option MultipathMemberId}
    (valid : request.pathId.valid = true ∧ request.authorityGeneration.valid = true)
    (known : ∀ id, predecessor = some id → id.valid = true) :
    (e.newMember context r cause request view predecessor).WellFormed := by
  apply MemberRecord.WellFormed.evaluate
  refine ⟨e.ids.nextMemberId_valid, valid.1, valid.2, rfl, known, ?_, h.generation⟩
  intro id hid
  cases hid

theorem published (h : r.WellFormed) (context : MutationContext) (setId : MultipathSetId)
    {requests : List (MemberRequest × Option PathAuthorityView)}
    (valid : ∀ request ∈ requests, request.1.pathId.valid = true ∧ request.1.authorityGeneration.valid = true) :
    (FabricEngine.publishMembers context setId e r requests).2.1.WellFormed := by
  induction requests generalizing e r with
  | nil => exact h
  | cons request rest ih =>
      have hmember : (e.newMember context r .memberAdded request.1 request.2
          (r.members[request.1.pathId]?.map MemberRecord.id)).WellFormed := by
        apply h.newMember context .memberAdded request.2 (valid request List.mem_cons_self)
        intro id hid
        obtain ⟨m, hm, rfl⟩ := Option.map_eq_some_iff.mp hid
        exact (h.members _ m hm).2.id
      exact ih (h.install hmember) fun other hother => valid other (List.mem_cons_of_mem _ hother)

theorem reevaluated (h : r.WellFormed) : r.reevaluateMembersFromObservations.WellFormed := by
  have hmap := h.map (f := fun m =>
    if memberIsTerminal m then m else m.evaluate r.conditionalAuthorityPermitted m.observationOf true) (fun m hm => by
      split
      · exact hm
      · exact hm.evaluate _ _ _)
  exact hmap.congr rfl

theorem erase (h : r.WellFormed) (path : PathId) : ({ r with members := r.members.erase path } : SetRecord).WellFormed :=
  h.withMembers fun other m hm => h.members other m (member_erase hm).2

theorem revalidatedSet (h : r.WellFormed) (epoch : e.currentEpoch.valid = true)
    (authority : e.currentAuthorityGeneration.valid = true) {views : ViewTable}
    (known : ∀ (path : PathId) (view : PathAuthorityView), views[path]? = some (some view) → view.generation.valid = true) :
    (e.revalidatedSet r views).WellFormed := by
  have hmap := h.map (f := SetRecord.revalidateMember r.conditionalAuthorityPermitted views) (fun m hm => by
    unfold SetRecord.revalidateMember
    split
    · exact hm
    · split
      · exact hm
      · rename_i view hview
        exact hm.rebound _ fun v hv => known m.pathId v (hv ▸ hview))
  exact ⟨hmap.id, hmap.key, hmap.generation, hmap.membershipGeneration, authority, epoch, hmap.supersededBy,
    hmap.supersedes, hmap.revocation, hmap.provenance, hmap.history, hmap.members⟩

theorem supersedes_set (h : r.WellFormed) {predecessor : MultipathSetId} (known : predecessor.valid = true) :
    ({ r with supersedes := some predecessor } : SetRecord).WellFormed := by
  refine ⟨h.id, h.key, h.generation, h.membershipGeneration, h.authorityGeneration, h.governingEpoch, h.supersededBy, ?_,
    h.revocation, h.provenance, h.history, h.members⟩
  intro id hid
  cases hid
  exact known

theorem advanced (h : r.WellFormed) {generation : MultipathSetGeneration} {membershipGeneration : MembershipGeneration}
    (set : generation.valid = true) (membership : membershipGeneration.valid = true) :
    (r.advanced generation membershipGeneration).WellFormed :=
  ⟨h.id, h.key, set, membership, h.authorityGeneration, h.governingEpoch, h.supersededBy, h.supersedes, h.revocation,
    h.provenance, h.history, h.members⟩

theorem invalidated (h : r.WellFormed) {path : PathId} {m : MemberRecord} {context : Option MutationContext}
    (valid : path.valid = true) (member : m.WellFormed)
    (epoch : ((context.map MutationContext.epoch).getD e.currentEpoch).valid = true) :
    (e.dependencyInvalidated r path m context .pathInvalidated).WellFormed := by
  have hput : (r.withMember path m).recompute.WellFormed := (h.withMember valid member).congr rfl
  refine append ?_ _ _ _ epoch (fun _ hid => by cases hid) fun id hid => by cases hid; exact valid
  split
  · exact (hput.advanced (Generation.valid_next_getD hput.generation) hput.membershipGeneration).congr rfl
  · exact hput.congr rfl

end WellFormed

end SetRecord

def Op.BindsSet : Op → Prop
  | .revalidateSet _ _ views => ∀ (path : PathId) (view : PathAuthorityView),
      views[path]? = some (some view) → view.generation.valid = true
  | .revalidateMember _ _ _ looked => ∀ view, looked = some (some view) → view.generation.valid = true
  | .completeMemberRevalidation _ _ current => ∀ view, current = some view → view.generation.valid = true
  | _ => True

theorem MutationContext.identity_valid {context : MutationContext} (h : context.hasCallerIdentity = true) :
    context.epoch.valid = true ∧ context.publisher.valid = true := by
  simp only [hasCallerIdentity, Bool.and_eq_true] at h
  exact ⟨h.1.1.1.1, h.1.1.1.2⟩

theorem RecordEdit.wellFormed {e : FabricEngine} {setId : MultipathSetId} {r x : SetRecord} {op : Op} {summary : Bytes}
    (edit : RecordEdit e setId r op x summary) (h : r.WellFormed) (epoch : e.currentEpoch.valid = true)
    (authority : e.currentAuthorityGeneration.valid = true) (named : r.id = setId)
    (caller : ∀ q, op.request = some q → q.context.hasCallerIdentity = true) (binds : op.BindsSet) : x.WellFormed := by
  have hcontext {context : MutationContext} (hidentity : context.hasCallerIdentity = true) :
      context.epoch.valid = true ∧ context.publisher.valid = true := MutationContext.identity_valid hidentity
  cases edit with
  | collided context =>
      exact h.append _ _ _ (hcontext (caller _ rfl)).1 (fun _ hid => by cases hid) fun _ hid => by cases hid
  | publish _ moved | minimumChecked _ _ moved | policyChecked _ _ moved | adminChecked _ _ moved
  | completeWithdrawal _ moved => exact h.transition moved
  | minimumChanged _ _ moved | adminChanged _ _ moved => exact (h.transition moved).congr rfl
  | @policyChanged _ permitted x moved =>
      have hmoved := h.transition moved
      have hpolicy : ({ x with conditionalAuthorityPermitted := permitted } : SetRecord).WellFormed := hmoved.congr rfl
      exact hpolicy.reevaluated
  | @withdraw context reason x _ moved =>
      have hmoved := h.transition moved
      have hreason : ({ x with withdrawalReason := reason } : SetRecord).recompute.WellFormed := hmoved.congr rfl
      exact hreason.consequences (hcontext (caller _ rfl)).1 _ _
  | revoke context reason detail _ next moved =>
      obtain ⟨hepoch, hpublisher⟩ := hcontext (caller _ rfl)
      have hmoved := h.transition moved
      refine SetRecord.WellFormed.consequences ?_ hepoch _ _
      refine ⟨hmoved.id, hmoved.key, hmoved.generation, hmoved.membershipGeneration, hmoved.authorityGeneration,
        hmoved.governingEpoch, hmoved.supersededBy, hmoved.supersedes, ?_, hmoved.provenance, hmoved.history,
        hmoved.members⟩
      intro revocation hrevocation
      cases hrevocation
      refine ⟨⟨Generation.valid_of_next next, authority, hepoch, hpublisher⟩, ?_⟩
      rw [SetRecord.applyTransition_frame moved]
      exact named.symm
  | retire context reason _ moved =>
      exact SetRecord.WellFormed.consequences (h.transition moved) (hcontext (caller _ rfl)).1 _ _
  | superseded context successor known moved =>
      have hmoved := h.transition moved
      refine SetRecord.WellFormed.consequences ?_ (hcontext (caller _ rfl)).1 _ _
      exact ⟨hmoved.id, hmoved.key, hmoved.generation, hmoved.membershipGeneration, hmoved.authorityGeneration,
        hmoved.governingEpoch, fun id hid => by cases hid; exact known, hmoved.supersedes, hmoved.revocation,
        hmoved.provenance, hmoved.history, hmoved.members⟩
  | supersedes context predecessor known => exact h.supersedes_set known
  | supersedesRecorded context predecessor known =>
      exact (h.supersedes_set known).append _ _ _ (hcontext (caller _ rfl)).1 (fun _ hid => by cases hid) fun _ hid => by
        cases hid
  | added context publication valid _ _ _ moved => exact ((h.transition moved).published context setId valid).congr rfl
  | removed context memberId reason _ found _ moved => exact ((h.transition moved).erase _).congr rfl
  | withdrewMember context memberId reason _ found _ ends moved =>
      obtain ⟨hpath, hm⟩ := h.members _ _ found.2
      exact ((h.transition moved).withMember hpath (hm.terminate _)).congr rfl
  | @replaced context memberId request reason view path m y known valid _ found _ _ _ _ moved =>
      obtain ⟨hpath, hm⟩ := h.members _ _ found.2
      have hmoved := h.transition moved
      have hsuccessor : (e.newMember context y .memberReplaced request view (some memberId)).WellFormed := by
        apply hmoved.newMember context .memberReplaced view valid
        intro id hid
        cases hid
        exact known
      have hended := hm.terminate .superseded
      have hsuperseded : ({ m.terminate .superseded with
          successor := some (e.newMember context y .memberReplaced request view (some memberId)).id } :
            MemberRecord).WellFormed :=
        ⟨hended.id, hended.pathId, hended.boundAuthorityGeneration, hended.generation, hended.predecessor,
          fun id hid => by cases hid; exact hsuccessor.id, hended.provenance⟩
      exact ((hmoved.withMember hpath hsuperseded).install hsuccessor).congr rfl
  | toggled context memberId enabled view found =>
      obtain ⟨hpath, hm⟩ := h.members _ _ found.2
      exact (h.withMember hpath (hm.toggled _ view enabled)).congr rfl
  | revalidatedSet context views => exact h.revalidatedSet epoch authority binds
  | revalidatedMember context memberId view found =>
      obtain ⟨hpath, hm⟩ := h.members _ _ found.2
      exact (h.withMember hpath (hm.revalidated _ fun v hv => binds v (congrArg some hv))).congr rfl
  | begun context memberId attempt found =>
      obtain ⟨hpath, hm⟩ := h.members _ _ found.2
      exact h.withMember hpath ⟨hm.id, hm.pathId, hm.boundAuthorityGeneration, hm.generation, hm.predecessor,
        hm.successor, hm.provenance⟩
  | released context ticket current names found =>
      obtain ⟨hpath, hm⟩ := h.members _ _ found.2
      exact h.withMember hpath hm.release
  | completed context ticket current names found =>
      obtain ⟨hpath, hm⟩ := h.members _ _ found.2
      exact (h.withMember hpath (hm.revalidated _ binds).release).congr rfl
  | abandoned ticket names found =>
      obtain ⟨hpath, hm⟩ := h.members _ _ found.2
      exact h.withMember hpath hm.release
  | observed applied _ found =>
      obtain ⟨hpath, hm⟩ := h.members _ _ found
      exact h.withMember hpath (hm.evaluate _ _ _)
  | @invalidated op path view context m applied _ found =>
      obtain ⟨hpath, hm⟩ := h.members _ _ found
      apply h.invalidated hpath (hm.evaluate _ _ _)
      cases applied with
      | declare context | apply context | refresh context => exact (hcontext (caller _ rfl)).1
      | reconcile => exact epoch

end MultipathFabric
