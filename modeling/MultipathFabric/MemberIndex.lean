import MultipathFabric.LivedRuns
import MultipathFabric.StoredSets

namespace MultipathFabric

open OrderedMap MemberRecord

namespace SetRecord

variable {r x : SetRecord}

def Found (r : SetRecord) : Prop :=
  ∀ (id : MultipathMemberId) (path : PathId), r.memberIndex[id]? = some path → ∃ m, r.members[path]? = some m ∧ m.id = id

structure SameIds (r x : SetRecord) : Prop where
  index : x.memberIndex = r.memberIndex
  members : ∀ (path : PathId) (m : MemberRecord), r.members[path]? = some m →
    ∃ m', x.members[path]? = some m' ∧ m'.id = m.id

theorem SameIds.refl (r : SetRecord) : SameIds r r := ⟨rfl, fun _ m hm => ⟨m, hm, rfl⟩⟩

theorem SameIds.trans {a b c : SetRecord} (h : SameIds a b) (h' : SameIds b c) : SameIds a c := by
  refine ⟨h'.index.trans h.index, fun path m hm => ?_⟩
  obtain ⟨m', hm', hid⟩ := h.members path m hm
  obtain ⟨m'', hm'', hid'⟩ := h'.members path m' hm'
  exact ⟨m'', hm'', hid'.trans hid⟩

theorem SameIds.of_eq (index : x.memberIndex = r.memberIndex) (members : x.members = r.members) : SameIds r x := by
  refine ⟨index, fun path m hm => ⟨m, ?_, rfl⟩⟩
  rw [members]
  exact hm

theorem SameIds.mapped {f : MemberRecord → MemberRecord} (index : x.memberIndex = r.memberIndex)
    (members : x.members = r.members.map fun _ m => f m) (ids : ∀ m, (f m).id = m.id) : SameIds r x := by
  refine ⟨index, fun path m hm => ⟨f m, ?_, ids m⟩⟩
  rw [members, getElem?_mapValues, hm]
  rfl

theorem SameIds.put {path : PathId} {m m' : MemberRecord} (index : x.memberIndex = r.memberIndex)
    (members : x.members = r.members.insert path m') (found : r.members[path]? = some m) (id : m'.id = m.id) :
    SameIds r x := by
  refine ⟨index, fun other n hn => ?_⟩
  rw [members, getElem?_insert_eq]
  split
  · rename_i heq
    rw [← heq, found] at hn
    cases hn
    exact ⟨m', rfl, id⟩
  · exact ⟨n, hn, rfl⟩

theorem Found.congr (h : r.Found) (same : SameIds r x) : x.Found := by
  intro id path hid
  rw [same.index] at hid
  obtain ⟨m, hm, rfl⟩ := h id path hid
  exact same.members path m hm

theorem SameIds.transition {event : SetEvent} (h : r.applyTransition event = .ok x) : SameIds r x := by
  rw [applyTransition_frame h]
  exact .of_eq rfl rfl

theorem applyEvent_id (m : MemberRecord) (event : MemberEvent) : (m.applyEvent event).id = m.id :=
  congrArg Standing.id (applyEvent_standing m event)

theorem evaluate_id (m : MemberRecord) (permitted : Bool) (view : Option PathAuthorityView) (explicit : Bool) :
    (m.evaluate permitted view explicit).id = m.id := by
  cases hlive : memberIsTerminal m with
  | true => exact congrArg Standing.id (evaluate_terminal_standing permitted view explicit hlive)
  | false => exact congrArg Standing.id (evaluate_standing permitted view explicit hlive)

theorem SameIds.consequences (e : FabricEngine) (r : SetRecord) (source target : SetLifecycle)
    (context : Option MutationContext) : SameIds r (applyMemberConsequences e r source target context) := by
  have hevent : ∀ event, SameIds r (applyMemberEvent r event) := by
    intro event
    refine ⟨rfl, fun path m hm => ⟨(m.applyEvent event).bumpWatermark, ?_, applyEvent_id m event⟩⟩
    change ((r.members.map _).map _)[path]? = _
    rw [getElem?_mapValues, getElem?_mapValues, hm]
    rfl
  unfold applyMemberConsequences
  split
  · exact .refl r
  · split
    · split
      · exact hevent _
      · exact hevent _
      · exact hevent _
      · exact hevent _
      · refine ⟨rfl, fun path m hm => ⟨(markSetNotUsable m).bumpWatermark, ?_, ?_⟩⟩
        · change ((r.members.map _).map _)[path]? = _
          rw [getElem?_mapValues, getElem?_mapValues, hm]
          rfl
        · exact congrArg Standing.id (markSetNotUsable_standing m)
      · exact .refl r
    · exact .refl r

theorem Found.consequences {e : FabricEngine} {source target : SetLifecycle} {context : Option MutationContext}
    (h : r.Found) : (applyMemberConsequences e r source target context).Found :=
  h.congr (.consequences e r source target context)

theorem Found.put {y : SetRecord} {path : PathId} {m m' : MemberRecord} (h : y.Found) (members : y.members = r.members)
    (found : r.members[path]? = some m) (index : x.memberIndex = y.memberIndex)
    (stored : x.members = y.members.insert path m') (id : m'.id = m.id) : x.Found := by
  rw [← members] at found
  exact h.congr (.put index stored found id)

theorem Found.install (h : r.Found) (member : MemberRecord) : (r.installMember member).Found := by
  intro id path hid
  have hfind : ∀ {index : Std.ExtTreeMap MultipathMemberId PathId}, (index.insert member.id member.pathId)[id]? = some path →
      (member.pathId ≠ path → index[id]? = some path → r.memberIndex[id]? = some path) →
        (index[id]? = some path → member.pathId ≠ path) →
          ∃ m, (r.members.insert member.pathId member)[path]? = some m ∧ m.id = id := by
    intro index hindex hold hother
    rw [getElem?_insert_eq] at hindex
    split at hindex
    · rename_i heq
      cases hindex
      exact ⟨member, by rw [getElem?_insert_eq, if_pos rfl], heq⟩
    · have hne := hother hindex
      obtain ⟨m, hm, hmid⟩ := h id path (hold hne hindex)
      exact ⟨m, by rw [getElem?_insert_eq, if_neg hne]; exact hm, hmid⟩
  unfold installMember at hid
  dsimp only at hid
  cases hexisting : r.members[member.pathId]? with
  | none =>
      rw [hexisting] at hid
      refine hfind hid (fun _ hindex => hindex) fun hindex heq => ?_
      obtain ⟨m, hm, _⟩ := h id path hindex
      rw [← heq, hexisting] at hm
      cases hm
  | some existing =>
      rw [hexisting] at hid
      refine hfind hid (fun _ hindex => ?_) fun hindex heq => ?_
      · rw [getElem?_erase_eq] at hindex
        split at hindex
        · cases hindex
        · exact hindex
      · rw [getElem?_erase_eq] at hindex
        split at hindex
        · cases hindex
        · rename_i hne
          obtain ⟨m, hm, rfl⟩ := h id path hindex
          rw [← heq, hexisting] at hm
          cases hm
          exact hne rfl

theorem Found.published {context : MutationContext} {setId : MultipathSetId} {e : FabricEngine} (h : r.Found)
    (requests : List (MemberRequest × Option PathAuthorityView)) :
    (FabricEngine.publishMembers context setId e r requests).2.1.Found := by
  induction requests generalizing e r with
  | nil => exact h
  | cons request rest ih => exact ih (h.install _)

theorem Found.removed {id : MultipathMemberId} {path : PathId} (h : r.Found) (found : r.memberIndex[id]? = some path)
    (index : x.memberIndex = r.memberIndex.erase id) (members : x.members = r.members.erase path) : x.Found := by
  intro other place hother
  rw [index, getElem?_erase_eq] at hother
  split at hother
  · cases hother
  · rename_i hne
    obtain ⟨m, hm, rfl⟩ := h other place hother
    refine ⟨m, ?_, rfl⟩
    rw [members, getElem?_erase_eq, if_neg]
    · exact hm
    · rintro rfl
      obtain ⟨m', hm', rfl⟩ := h id path found
      rw [hm] at hm'
      cases hm'
      exact hne rfl

theorem Found.pruned (h : r.Found) (limits : Limits) : (r.pruneArchive limits).Found := by
  unfold pruneArchive
  dsimp only
  split
  · exact h
  · intro id path hid
    rw [getElem?_eraseAll] at hid
    split at hid
    · cases hid
    · rename_i hkept
      obtain ⟨m, hm, rfl⟩ := h id path hid
      refine ⟨m.clearLineage (victimIds r (pruneVictims limits r)), ?_, rfl⟩
      rw [getElem?_mapValues, getElem?_eraseAll, if_neg]
      · rw [hm]
        rfl
      · intro hvictim
        apply hkept
        apply List.mem_filterMap.mpr
        exact ⟨path, hvictim, by rw [hm]; rfl⟩

theorem Found.sealed_ {limits : Limits} {summary : Bytes} (h : r.Found) (stored : Sealed limits r summary x) : x.Found := by
  cases stored with
  | kept => exact h
  | @committed e context spec generation membershipGeneration =>
      have hready : ({ r with
          generation := generation
          membershipGeneration := membershipGeneration
          provenance := makeProvenance context spec.cause
            { r with generation := generation, membershipGeneration := membershipGeneration } } : SetRecord).Found := h
      exact hready.pruned e.limits

end SetRecord

open SetRecord

theorem RecordEdit.found {e : FabricEngine} {setId : MultipathSetId} {r x : SetRecord} {op : Op} {summary : Bytes}
    (edit : RecordEdit e setId r op x summary) (h : r.Found) : x.Found := by
  have hmoved : ∀ {event : SetEvent} {y : SetRecord}, r.applyTransition event = .ok y → y.Found :=
    fun moved => h.congr (.transition moved)
  cases edit with
  | collided | supersedes | supersedesRecorded => exact h
  | publish _ moved | minimumChecked _ _ moved | policyChecked _ _ moved | adminChecked _ _ moved
  | completeWithdrawal _ moved => exact hmoved moved
  | minimumChanged _ _ moved | adminChanged _ _ moved =>
      have hfound := hmoved moved
      exact hfound
  | policyChanged _ permitted moved =>
      refine (hmoved moved).congr (.mapped rfl rfl fun m => ?_)
      split
      · rfl
      · exact evaluate_id _ _ _ _
  | withdraw _ _ _ moved | retire _ _ _ moved | superseded _ _ _ moved | revoke _ _ _ _ _ moved =>
      have hfound := hmoved moved
      refine Found.consequences ?_
      exact hfound
  | added _ _ _ _ _ _ moved => exact (hmoved moved).published _
  | removed _ _ _ _ found _ moved =>
      refine (hmoved moved).removed ?_ rfl rfl
      rw [applyTransition_frame moved]
      exact found.1
  | withdrewMember _ _ _ _ found _ _ moved =>
      exact (hmoved moved).put (applyTransition_members moved) found.2 rfl rfl rfl
  | replaced _ _ _ _ _ _ _ _ found _ _ _ _ moved =>
      refine Found.install (r := SetRecord.withMember _ _ _) ?_ _
      exact (hmoved moved).put (applyTransition_members moved) found.2 rfl rfl rfl
  | toggled _ _ _ _ found _ _ => exact h.put rfl found.2 rfl rfl (evaluate_id _ _ _ _)
  | revalidatedMember _ _ _ found _ _ =>
      exact h.put rfl found.2 rfl rfl ((congrArg Standing.id (revalidated_standing _ _ _)).trans (evaluate_id _ _ _ _))
  | begun _ _ _ found _ _ => exact h.put rfl found.2 rfl rfl rfl
  | released _ _ _ _ found _ _ | abandoned _ _ found _ => exact h.put rfl found.2 rfl rfl rfl
  | completed _ _ _ _ found _ _ =>
      exact h.put rfl found.2 rfl rfl ((congrArg Standing.id (revalidated_standing _ _ _)).trans (evaluate_id _ _ _ _))
  | revalidatedSet _ views _ =>
      refine h.congr (.mapped rfl rfl fun m => ?_)
      unfold SetRecord.revalidateMember
      split
      · rfl
      · split
        · rfl
        · exact evaluate_id _ _ _ _
  | observed _ _ found _ => exact h.put rfl found rfl rfl (evaluate_id _ _ _ _)
  | @invalidated _ path view context m _ _ found =>
      refine h.put rfl found ?_ (dependencyInvalidated_fields e r path
        (m.evaluate r.conditionalAuthorityPermitted view false) context .pathInvalidated).2.1 (evaluate_id _ _ _ _)
      unfold FabricEngine.dependencyInvalidated
      dsimp only
      split <;> rfl

theorem found_rule (allowed : FabricEngine → Op → Prop) : RecordRule allowed fun r => r.Placed ∧ r.Found where
  declared e context setId key options summary := by
    refine ⟨(placed_rule allowed).declared e context setId key options summary, fun id path hid => ?_⟩
    change (∅ : Std.ExtTreeMap MultipathMemberId PathId)[id]? = some path at hid
    rw [Std.ExtTreeMap.getElem?_empty] at hid
    cases hid
  edited e op setId r x summary h found hr edit :=
    ⟨(placed_rule allowed).edited e op setId r x summary h found hr.1 edit, edit.found hr.2⟩
  sealed_ limits x summary r' hx stored := ⟨(placed_rule allowed).sealed_ limits x summary r' hx.1 stored, hx.2.sealed_ stored⟩
  fenced r authority epoch hr :=
    ⟨(placed_rule allowed).fenced r authority epoch hr.1, hr.2.congr (.mapped rfl rfl fun _ => rfl)⟩
  epochAdvanced e r hr := ⟨(placed_rule allowed).epochAdvanced e r hr.1, hr.2.congr (.mapped rfl rfl fun _ => rfl)⟩
  restored r hr := by
    refine ⟨(placed_rule allowed).restored r hr.1, fun id path hid => ?_⟩
    rcases getElem?_insertAll hid with ⟨m, hm, rfl, rfl⟩ | hnone
    · obtain ⟨⟨path, found⟩, hentry, rfl⟩ := List.mem_map.mp hm
      have hfound := Std.ExtTreeMap.mem_toList_iff_getElem?_eq_some.mp hentry
      refine ⟨found.restored, ?_, rfl⟩
      change (r.members.map _)[found.pathId]? = _
      rw [hr.1 path found hfound, getElem?_mapValues, hfound]
      rfl
    · rw [Std.ExtTreeMap.getElem?_empty] at hnone
      cases hnone
  recovered e r hr := by
    have hbumped : SameIds r { r with members := r.members.map fun _ m => m.bumpWatermark } :=
      .mapped rfl rfl fun _ => rfl
    exact ⟨(placed_rule allowed).recovered e r hr.1, hr.2.congr (hbumped.trans (.mapped rfl rfl fun _ => rfl))⟩

end MultipathFabric
