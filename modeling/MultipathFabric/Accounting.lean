import MultipathFabric.RecordFacts

namespace MultipathFabric

open OrderedMap

def memberRecords (sets : Std.ExtTreeMap MultipathSetId SetRecord) : Nat :=
  total (fun r : SetRecord => r.members.size) sets

/-- The bounds on the number of sets and of member records. The count may run ahead of the table: a replacement
that takes over an archived path counts twice. -/
structure FabricEngine.Counted (e : FabricEngine) : Prop where
  sets : e.sets.size ≤ e.limits.maxSets.toNat
  members : memberRecords e.sets ≤ e.totalMembers
  within : e.totalMembers ≤ e.limits.maxTotalMembers.toNat

def Op.reshapes : Op → Bool
  | .addMember _ _ _ _ | .addMembers _ _ _ | .removeMember _ _ _ _ | .replaceMember _ _ _ _ _ _ => true
  | _ => false

namespace SetRecord

@[simp] theorem appendHistory_members (e : FabricEngine) (r : SetRecord) (event : SetEvent)
    (cause : MembershipCause) (context : Option MutationContext) (memberId : Option MultipathMemberId)
    (path : Option PathId) (summary : Bytes) :
    (e.appendHistory r event cause context memberId path summary).members = r.members := rfl

theorem withMember_size {r : SetRecord} {path : PathId} {m m' : MemberRecord} (h : r.members[path]? = some m) :
    (r.withMember path m').members.size = r.members.size :=
  size_insert_present h

theorem bumpWatermark_size (r : SetRecord) : r.bumpWatermark.members.size = r.members.size :=
  Std.ExtTreeMap.size_map

theorem applyMemberEvent_size (r : SetRecord) (event : MemberEvent) :
    (applyMemberEvent r event).members.size = r.members.size :=
  (bumpWatermark_size _).trans Std.ExtTreeMap.size_map

theorem consequences_size (e : FabricEngine) (r : SetRecord) (source target : SetLifecycle)
    (context : Option MutationContext) :
    (applyMemberConsequences e r source target context).members.size = r.members.size := by
  unfold applyMemberConsequences
  split
  · rfl
  · split
    · cases target with
      | withdrawing => exact applyMemberEvent_size r _
      | withdrawn => exact applyMemberEvent_size r _
      | superseded => exact applyMemberEvent_size r _
      | retired => exact applyMemberEvent_size r _
      | revoked => exact (bumpWatermark_size _).trans Std.ExtTreeMap.size_map
      | _ => rfl
    · rfl

theorem applyTransition_size {r x : SetRecord} {event : SetEvent} (h : r.applyTransition event = .ok x) :
    x.members.size = r.members.size := by
  rw [applyTransition_members h]

end SetRecord

open SetRecord

theorem RecordEdit.size {e : FabricEngine} {setId : MultipathSetId} {r x : SetRecord} {op : Op} {summary : Bytes}
    (edit : RecordEdit e setId r op x summary) (shape : op.reshapes = false) :
    x.members.size = r.members.size := by
  cases edit with
  | collided | supersedes | supersedesRecorded => rfl
  | publish _ moved => exact applyTransition_size moved
  | minimumChecked _ _ moved => exact applyTransition_size moved
  | minimumChanged _ _ moved =>
      have hmoved := applyTransition_size moved
      exact hmoved
  | policyChecked _ _ moved => exact applyTransition_size moved
  | policyChanged _ _ moved =>
      have hmoved := applyTransition_size moved
      exact Std.ExtTreeMap.size_map.trans hmoved
  | adminChecked _ _ moved => exact applyTransition_size moved
  | adminChanged _ _ moved =>
      have hmoved := applyTransition_size moved
      exact hmoved
  | withdraw _ _ _ moved =>
      have hmoved := applyTransition_size moved
      exact (consequences_size _ _ _ _ _).trans hmoved
  | completeWithdrawal _ moved => exact applyTransition_size moved
  | revoke _ _ _ _ _ moved =>
      have hmoved := applyTransition_size moved
      exact (consequences_size _ _ _ _ _).trans hmoved
  | retire _ _ _ moved =>
      have hmoved := applyTransition_size moved
      exact (consequences_size _ _ _ _ _).trans hmoved
  | superseded _ _ _ moved =>
      have hmoved := applyTransition_size moved
      exact (consequences_size _ _ _ _ _).trans hmoved
  | added _ publication => cases publication <;> cases shape
  | removed => cases shape
  | replaced => cases shape
  | withdrewMember _ _ _ _ found _ _ moved =>
      have hfound := found.2
      rw [← applyTransition_members moved] at hfound
      exact (withMember_size hfound).trans (applyTransition_size moved)
  | toggled _ _ _ _ found => exact withMember_size found.2
  | revalidatedSet => exact Std.ExtTreeMap.size_map
  | revalidatedMember _ _ _ found => exact withMember_size found.2
  | begun _ _ _ found => exact withMember_size found.2
  | released _ _ _ _ found => exact withMember_size found.2
  | completed _ _ _ _ found => exact withMember_size found.2
  | abandoned _ _ found => exact withMember_size found.2
  | observed _ _ found => exact withMember_size found
  | invalidated _ _ found =>
      rw [(dependencyInvalidated_fields _ _ _ _ _ _).2.1]
      exact withMember_size found

theorem pruneVictims_nodup (limits : Limits) (r : SetRecord) : (pruneVictims limits r).Nodup := by
  have hkeys : ((r.members.toList.filter fun entry => memberIsTerminal entry.2).map Prod.fst).Nodup :=
    (nodup_keys r.members).sublist (List.filter_sublist.map Prod.fst)
  exact hkeys.sublist (List.take_sublist _ _)

theorem pruneVictims_present {limits : Limits} {r : SetRecord} {path : PathId} (h : path ∈ pruneVictims limits r) :
    r.members[path]?.isSome = true := by
  obtain ⟨m, hm, -⟩ := mem_pruneVictims h
  rw [hm]
  rfl

theorem pruneVictims_nil {limits : Limits} {r : SetRecord}
    (h : (victimIds r (pruneVictims limits r)).isEmpty = true) : pruneVictims limits r = [] := by
  rw [List.eq_nil_iff_forall_not_mem]
  intro path hpath
  obtain ⟨m, hm⟩ := Option.isSome_iff_exists.mp (pruneVictims_present hpath)
  have hid : m.id ∈ victimIds r (pruneVictims limits r) := List.mem_filterMap.mpr ⟨path, hpath, by rw [hm]; rfl⟩
  rw [List.isEmpty_iff.mp h] at hid
  exact List.not_mem_nil hid

theorem pruneArchive_size (limits : Limits) (r : SetRecord) :
    (r.pruneArchive limits).members.size + (pruneVictims limits r).length = r.members.size := by
  unfold SetRecord.pruneArchive
  dsimp only
  split
  · rename_i hempty
    rw [pruneVictims_nil hempty]
    rfl
  · have hsize := size_eraseAll (pruneVictims_nodup limits r) fun _ => pruneVictims_present
    simp only [Std.ExtTreeMap.size_map]
    exact hsize

namespace FabricEngine

theorem Counted.store {e e' : FabricEngine} {setId : MultipathSetId} {r r' : SetRecord} (h : e.Counted)
    (found : e.sets[setId]? = some r) (sets : e'.sets = e.sets.insert setId r') (limits : e'.limits = e.limits)
    (sized : r'.members.size + e.totalMembers ≤ r.members.size + e'.totalMembers)
    (within : e'.totalMembers ≤ e.limits.maxTotalMembers.toNat) : e'.Counted where
  sets := by
    rw [sets, size_insert_present found, limits]
    exact h.sets
  members := by
    have hsum := total_insert (fun r : SetRecord => r.members.size) e.sets setId r'
    have hcounted := h.members
    rw [found] at hsum
    simp only [Option.map_some, Option.getD_some] at hsum
    rw [sets]
    unfold memberRecords at hcounted ⊢
    omega
  within := by
    rw [limits]
    exact within

theorem Counted.same {e e' : FabricEngine} (h : e.Counted) (sets : e'.sets = e.sets) (limits : e'.limits = e.limits)
    (count : e'.totalMembers = e.totalMembers) : e'.Counted where
  sets := by
    rw [sets, limits]
    exact h.sets
  members := by
    rw [sets, count]
    exact h.members
  within := by
    rw [limits, count]
    exact h.within

end FabricEngine

end MultipathFabric
