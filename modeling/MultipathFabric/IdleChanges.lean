import MultipathFabric.Atomicity
import MultipathFabric.SemanticState
import MultipathFabric.SetRevalidation

namespace MultipathFabric

open OrderedMap Checked

theorem coveredMembers_congr {members members' : MemberMap}
    (h : ∀ path : PathId, members'[path]?.map MemberRecord.covered = members[path]?.map MemberRecord.covered) :
    coveredMembers members' = coveredMembers members := by
  have hmap (t : MemberMap) : coveredMembers t = (t.map fun _ m => m.covered).toList.map Prod.snd := by
    rw [Std.ExtTreeMap.toList_map, List.map_map]
    rfl
  rw [hmap, hmap]
  congr 2
  refine Std.ExtTreeMap.ext_getElem? fun path => ?_
  rw [getElem?_mapValues, getElem?_mapValues]
  exact h path

theorem coveredMembers_insert {members : MemberMap} {path : PathId} {m m' : MemberRecord}
    (found : members[path]? = some m) (same : m'.covered = m.covered) :
    coveredMembers (members.insert path m') = coveredMembers members := by
  apply coveredMembers_congr
  intro other
  rw [getElem?_insert_eq]
  split
  · rename_i h
    rw [← h, found, Option.map_some, Option.map_some, same]
  · rfl

namespace MemberRecord

variable {m : MemberRecord} {permitted explicit : Bool} {view : Option PathAuthorityView}

theorem applyEvent_covered (m : MemberRecord) (event : MemberEvent) :
    (m.applyEvent event).covered = ⟨m.id, m.pathId, m.boundAuthorityGeneration, m.generation,
      (m.applyEvent event).lifecycle, m.currentness, m.adminEnabled⟩ := by
  unfold applyEvent
  split
  · rfl
  · dsimp only
    split <;> rfl

theorem evaluate_frame (m : MemberRecord) (permitted : Bool) (view : Option PathAuthorityView) (explicit : Bool) :
    (m.evaluate permitted view explicit).covered = ⟨m.id, m.pathId, m.boundAuthorityGeneration, m.generation,
      (m.evaluate permitted view explicit).lifecycle, (m.evaluate permitted view explicit).currentness,
      m.adminEnabled⟩ := by
  unfold evaluate
  split
  · rfl
  · have hcurrentness (m : MemberRecord) (event : MemberEvent) : (m.applyEvent event).currentness = m.currentness :=
      congrArg CoveredMember.currentness (applyEvent_covered m event)
    dsimp only
    rw [applyEvent_covered, hcurrentness]
    split <;> rfl

theorem evaluate_covered (same : (m.evaluate permitted view explicit).lifecycle = m.lifecycle ∧
    (m.evaluate permitted view explicit).currentness = m.currentness) :
    (m.evaluate permitted view explicit).covered = m.covered := by
  rw [evaluate_frame, same.1, same.2]
  rfl

theorem rebound_covered (steady : m.revalidationChanged (m.rebound permitted view) = false) :
    (m.rebound permitted view).covered = m.covered := by
  simp only [revalidationChanged, Bool.or_eq_false_iff, bne_eq_false_iff_eq] at steady
  obtain ⟨⟨hlifecycle, hcurrentness⟩, hbound⟩ := steady
  have hframe : (m.rebound permitted view).covered = ⟨m.id, m.pathId,
      (m.rebound permitted view).boundAuthorityGeneration, m.generation, (m.rebound permitted view).lifecycle,
      (m.rebound permitted view).currentness, m.adminEnabled⟩ := by
    unfold rebound
    have hevaluated := evaluate_frame
      { m with boundAuthorityGeneration := (view.map PathAuthorityView.generation).getD m.boundAuthorityGeneration }
      permitted view true
    have hrebound := congrArg CoveredMember.boundAuthorityGeneration hevaluated
    rw [hevaluated]
    dsimp only [covered] at hrebound ⊢
    rw [hrebound]
  rw [hframe, ← hlifecycle, ← hcurrentness, ← hbound]
  rfl

theorem revalidated_steady (steady : m.revalidationChanged (m.rebound permitted view) = false) :
    m.revalidated permitted view = m.rebound permitted view :=
  if_neg (Bool.eq_false_iff.mp steady)

end MemberRecord

namespace SetRecord

variable {e : FabricEngine} {r x : SetRecord} {views : ViewTable} {event : SetEvent}

theorem covered_congr (rest : x = { r with
      lifecycle := x.lifecycle
      members := x.members
      usableMemberCount := x.usableMemberCount })
    (lifecycle : x.lifecycle = r.lifecycle) (members : coveredMembers x.members = coveredMembers r.members) :
    x.covered = r.covered := by
  unfold covered
  rw [members, lifecycle, rest]

theorem withMember_covered {path : PathId} {m m' : MemberRecord} (found : r.members[path]? = some m)
    (same : m'.covered = m.covered) : (r.withMember path m').covered = r.covered :=
  covered_congr rfl rfl (coveredMembers_insert found same)

theorem transition_rest (plain : event.isPlain = true) (moved : r.applyTransition event = .ok x) :
    x = { r with
      lifecycle := x.lifecycle
      members := x.members
      usableMemberCount := x.usableMemberCount } := by
  unfold applyTransition at moved
  rcases setTransition_plain r.lifecycle plain with ht | ht | ⟨_, ht | ht | ht⟩
  all_goals
    rw [ht] at moved
    cases moved
  all_goals rfl

theorem transition_covered (plain : event.isPlain = true) (moved : r.applyTransition event = .ok x)
    (stays : x.lifecycle = r.lifecycle) : x.covered = r.covered :=
  covered_congr (transition_rest plain moved) stays (by rw [applyTransition_members moved])

def revalidatedCurrentness (r : SetRecord) (views : ViewTable) : SetCurrentness :=
  if r.revalidationComplete views then .current else .revalidationRequired

def Steady (r : SetRecord) (views : ViewTable) : Prop :=
  ¬r.Shifts views ∧ r.currentness = r.revalidatedCurrentness views

def Trails (e : FabricEngine) (r : SetRecord) (views : ViewTable) : Prop :=
  r.governingEpoch ≠ e.currentEpoch ∨ r.authorityGeneration ≠ e.currentAuthorityGeneration ∨
    ∃ (path : PathId) (m : MemberRecord) (view : Option PathAuthorityView), r.members[path]? = some m ∧
      memberIsTerminal m = false ∧ views[m.pathId]? = some view ∧
        (m.rebound r.conditionalAuthorityPermitted view).covered ≠ m.covered

theorem steady_iff : r.Steady views ↔
    r.lifecycle = (e.revalidatedSet r views).lifecycle ∧ r.currentness = (e.revalidatedSet r views).currentness := by
  unfold Steady
  rw [← revalidatedSet_shifts e, not_not]
  rfl

theorem revalidatedSet_covered (steady : r.Steady views) (abreast : ¬Trails e r views) :
    (e.revalidatedSet r views).covered = r.covered := by
  obtain ⟨hlifecycle, hcurrentness⟩ := (steady_iff (e := e)).mp steady
  rw [Trails, not_or, not_or, not_not, not_not] at abreast
  obtain ⟨hepoch, hauthority, hmembers⟩ := abreast
  have hcovered : coveredMembers (e.revalidatedSet r views).members = coveredMembers r.members := by
    apply coveredMembers_congr
    intro path
    change (r.members.map fun _ m => revalidateMember r.conditionalAuthorityPermitted views m)[path]?.map _ = _
    rw [getElem?_mapValues, Option.map_map]
    cases hm : r.members[path]? with
    | none => rfl
    | some m =>
        rw [Option.map_some, Option.map_some, Function.comp_apply]
        congr 1
        unfold revalidateMember
        split
        · rfl
        · rename_i hlive
          split
          · rfl
          · rename_i view hview
            by_contra hdiffers
            exact hmembers ⟨path, m, view, hm, Bool.eq_false_iff.mpr hlive, hview, hdiffers⟩
  unfold covered
  rw [hcovered, ← hlifecycle, ← hcurrentness]
  change CoveredState.mk r.id r.key r.generation r.membershipGeneration e.currentAuthorityGeneration r.lifecycle
    r.currentness r.adminEnabled r.minimumUsableMembers r.conditionalAuthorityPermitted e.currentEpoch r.supersededBy
    r.supersedes (r.revocation.map RevocationRecord.covered) (coveredMembers r.members) = _
  rw [← hepoch, ← hauthority]

end SetRecord

structure Engages (e : FabricEngine) (op : Op) (q : Request) (setId : MultipathSetId) (r : SetRecord) : Prop where
  request : op.request = some q
  named : op.subject = some setId
  admitted : Admitted e op q
  found : e.sets[setId]? = some r
  expects : op.Expects q.context r

/-- The operations that store a record without committing it, though it has changed in a field that the digest covers:
a setting that is in place already, or is refused, on a set whose lifecycle is not the derived one; a revalidation of a
set that finds nothing to commit while the stamps or a binding change, or finds the set generation exhausted; a
revalidation of a member that finds nothing to commit on a set whose lifecycle is not the derived one. -/
inductive Lags (e : FabricEngine) : Op → Prop
  | minimum {context : MutationContext} {setId : MultipathSetId} {minimum : UInt64} {q : Request} {r x : SetRecord}
      (engages : Engages e (.setMinimumUsableMembers context setId minimum) q setId r)
      (moved : r.applyTransition .minimumChanged = .ok x)
      (idle : e.limits.maxMembersPerSet < minimum ∨ r.minimumUsableMembers = minimum ∨ r.generation.next = none)
      (shifts : x.lifecycle ≠ r.lifecycle) : Lags e (.setMinimumUsableMembers context setId minimum)
  | policy {context : MutationContext} {setId : MultipathSetId} {permitted : Bool} {q : Request} {r x : SetRecord}
      (engages : Engages e (.setConditionalAuthorityPolicy context setId permitted) q setId r)
      (moved : r.applyTransition .policyChanged = .ok x)
      (idle : r.conditionalAuthorityPermitted = permitted ∨ r.generation.next = none)
      (shifts : x.lifecycle ≠ r.lifecycle) : Lags e (.setConditionalAuthorityPolicy context setId permitted)
  | admin {context : MutationContext} {setId : MultipathSetId} {enabled : Bool} {q : Request} {r x : SetRecord}
      (engages : Engages e (.setAdminEnabled context setId enabled) q setId r)
      (moved : r.applyTransition (if enabled then .adminEnabled else .adminDisabled) = .ok x)
      (idle : r.adminEnabled = enabled ∨ r.generation.next = none)
      (shifts : x.lifecycle ≠ r.lifecycle) : Lags e (.setAdminEnabled context setId enabled)
  | set {context : MutationContext} {setId : MultipathSetId} {views : ViewTable} {q : Request} {r : SetRecord}
      (engages : Engages e (.revalidateSet context setId views) q setId r)
      (idle : r.Steady views ∧ r.Trails e views ∨
        ¬r.Steady views ∧ transitionAllowed r.lifecycle .revalidateSet = true ∧ r.generation.next = none) :
      Lags e (.revalidateSet context setId views)
  | member {context : MutationContext} {setId : MultipathSetId} {memberId : MultipathMemberId}
      {view : Option PathAuthorityView} {q : Request} {r : SetRecord} {path : PathId} {m : MemberRecord}
      (engages : Engages e (.revalidateMember context setId memberId (some view)) q setId r)
      (finds : r.finds memberId path m)
      (steady : m.revalidationChanged (m.rebound r.conditionalAuthorityPermitted view) = false)
      (shifts : r.recompute.lifecycle ≠ r.lifecycle) : Lags e (.revalidateMember context setId memberId (some view))
  | completion {context : MutationContext} {ticket : RevalidationTicket} {current : Option PathAuthorityView}
      {q : Request} {setId : MultipathSetId} {r : SetRecord} {path : PathId} {m : MemberRecord}
      (engages : Engages e (.completeMemberRevalidation context ticket current) q setId r)
      (finds : r.finds ticket.memberId path m) (pending : m.pendingRevalidations ≠ 0)
      (steady : m.revalidationChanged (m.rebound r.conditionalAuthorityPermitted current) = false)
      (shifts : r.recompute.lifecycle ≠ r.lifecycle) : Lags e (.completeMemberRevalidation context ticket current)

namespace FabricEngine

variable {e : FabricEngine} {context : MutationContext} {setId : MultipathSetId} {r x : SetRecord}

theorem Admits.engages {op : Op} {q : Request} (admits : e.Admits q setId r) (request : op.request = some q)
    (takes : op.context = some q.context) (names : op.names = [setId]) (member : op.member = none) :
    Engages e op q setId r where
  request := request
  named := by rw [Op.subject, names]; rfl
  admitted := admission_admitted takes names admits.2.1
  found := admission_found admits.2.1
  expects := expects_set member fun _ => admits.2.2

theorem commitLocked_busy {base : FabricEngine} {op : Op} {operation : Bytes} {fields : List Bytes} {spec : CommitSpec}
    {outcome : FabricOutcome}
    (idle : (base.commitLocked setId x context operation fields spec outcome).2.succeeded = false ∨
      (base.commitLocked setId x context operation fields spec outcome).2.code = .idempotent)
    (edit : RecordEdit e setId r op x spec.summary) (plain : op.views = false)
    (advances : spec.advanceSetGeneration = true) (keeps : spec.advanceMembershipGeneration = false)
    (next : r.generation.next.isSome = true) (accepted : outcome.succeeded = true) (code : outcome.code ≠ .idempotent) :
    False := by
  rcases idle with hrejected | hidle
  · exact commitLocked_accepts e hrejected edit plain advances keeps next accepted
  · by_cases hsucceeded : (base.commitLocked setId x context operation fields spec outcome).2.succeeded = true
    · obtain ⟨r', _, _, _, _, hreports⟩ := Ending.commitLocked_succeeded hsucceeded
      rw [hreports] at hidle
      exact code hidle
    · exact commitLocked_accepts e (Bool.not_eq_true _ ▸ hsucceeded) edit plain advances keeps next accepted

theorem minimum_rests {minimum : UInt64}
    (idle : (e.setMinimumUsableMembers context setId minimum).2.succeeded = false ∨
      (e.setMinimumUsableMembers context setId minimum).2.code = .idempotent) :
    (e.setMinimumUsableMembers context setId minimum).1 = e ∨
      ∃ r x, e.Admits (.onSet context (text "set_minimum_usable_members") setId [decimal minimum.toNat]) setId r ∧
        r.applyTransition .minimumChanged = .ok x ∧
        (e.limits.maxMembersPerSet < minimum ∨ r.minimumUsableMembers = minimum ∨ r.generation.next = none) ∧
        ((e.setMinimumUsableMembers context setId minimum).2.succeeded = true → r.minimumUsableMembers = minimum) ∧
        (e.setMinimumUsableMembers context setId minimum).1.sets[setId]? = some x := by
  generalize hresult : e.setMinimumUsableMembers context setId minimum = result at idle ⊢
  rcases conclude_cases hresult with h | h
  · exact .inl h
  · simp only [Checked.bind_ok, Checked.require_ok] at h
    obtain ⟨_, hvalid, r, hadmitted, _, hexpected, x, hmoved, h⟩ := h
    have hmove := SetRecord.transition_ok hmoved
    obtain ⟨hminimum, _, _, hgeneration⟩ := transition_settings hmove
    refine .inr ⟨r, x, ⟨hvalid, hadmitted, hexpected⟩, hmove, ?_⟩
    split at h
    · rename_i hbound
      rw [Checked.pure_ok] at h
      subst h
      exact ⟨.inl hbound, fun h => (by cases h), Std.ExtTreeMap.getElem?_insert_self⟩
    · rename_i hbound
      split at h
      · rename_i hsame
        rw [Checked.pure_ok] at h
        subst h
        have hplace := hminimum.symm.trans hsame
        exact ⟨.inr (.inl hplace), fun _ => hplace, Std.ExtTreeMap.getElem?_insert_self⟩
      · split at h
        · rename_i hexhausted
          rw [Checked.pure_ok] at h
          subst h
          rw [hgeneration, Option.isNone_iff_eq_none] at hexhausted
          exact ⟨.inr (.inr hexhausted), fun h => (by cases h), Std.ExtTreeMap.getElem?_insert_self⟩
        · rename_i hnext
          rw [Checked.pure_ok] at h
          subst h
          exact (commitLocked_busy (e := e) idle
            (.minimumChanged context minimum hmove (UInt64.not_lt.mp hbound)) rfl rfl rfl
            (SetRecord.next_isSome hmove hnext) rfl (fun h => by cases h)).elim

theorem policy_rests {permitted : Bool}
    (idle : (e.setConditionalAuthorityPolicy context setId permitted).2.succeeded = false ∨
      (e.setConditionalAuthorityPolicy context setId permitted).2.code = .idempotent) :
    (e.setConditionalAuthorityPolicy context setId permitted).1 = e ∨
      ∃ r x, e.Admits (.onSet context (text "set_conditional_authority_policy") setId [flagText permitted]) setId r ∧
        r.applyTransition .policyChanged = .ok x ∧
        (r.conditionalAuthorityPermitted = permitted ∨ r.generation.next = none) ∧
        ((e.setConditionalAuthorityPolicy context setId permitted).2.succeeded = true →
          r.conditionalAuthorityPermitted = permitted) ∧
        (e.setConditionalAuthorityPolicy context setId permitted).1.sets[setId]? = some x := by
  generalize hresult : e.setConditionalAuthorityPolicy context setId permitted = result at idle ⊢
  rcases conclude_cases hresult with h | h
  · exact .inl h
  · simp only [Checked.bind_ok, Checked.require_ok] at h
    obtain ⟨_, hvalid, r, hadmitted, _, hexpected, x, hmoved, h⟩ := h
    have hmove := SetRecord.transition_ok hmoved
    obtain ⟨_, hpermitted, _, hgeneration⟩ := transition_settings hmove
    refine .inr ⟨r, x, ⟨hvalid, hadmitted, hexpected⟩, hmove, ?_⟩
    split at h
    · rename_i hsame
      rw [Checked.pure_ok] at h
      subst h
      have hplace := hpermitted.symm.trans hsame
      exact ⟨.inl hplace, fun _ => hplace, Std.ExtTreeMap.getElem?_insert_self⟩
    · split at h
      · rename_i hexhausted
        rw [Checked.pure_ok] at h
        subst h
        rw [hgeneration, Option.isNone_iff_eq_none] at hexhausted
        exact ⟨.inr hexhausted, fun h => (by cases h), Std.ExtTreeMap.getElem?_insert_self⟩
      · rename_i hnext
        rw [Checked.pure_ok] at h
        subst h
        exact (commitLocked_busy (e := e) idle (.policyChanged context permitted hmove) rfl rfl rfl
          (SetRecord.next_isSome hmove hnext) rfl (fun h => by cases h)).elim

theorem admin_rests {enabled : Bool}
    (idle : (e.setAdminEnabled context setId enabled).2.succeeded = false ∨
      (e.setAdminEnabled context setId enabled).2.code = .idempotent) :
    (e.setAdminEnabled context setId enabled).1 = e ∨
      ∃ r x, e.Admits (.onSet context (text "set_admin_enabled") setId [flagText enabled]) setId r ∧
        r.applyTransition (if enabled then .adminEnabled else .adminDisabled) = .ok x ∧
        (r.adminEnabled = enabled ∨ r.generation.next = none) ∧
        ((e.setAdminEnabled context setId enabled).2.succeeded = true → r.adminEnabled = enabled) ∧
        (e.setAdminEnabled context setId enabled).1.sets[setId]? = some x := by
  generalize hresult : e.setAdminEnabled context setId enabled = result at idle ⊢
  rcases conclude_cases hresult with h | h
  · exact .inl h
  · simp only [Checked.bind_ok, Checked.require_ok] at h
    obtain ⟨_, hvalid, r, hadmitted, _, hexpected, x, hmoved, h⟩ := h
    have hmove := SetRecord.transition_ok hmoved
    obtain ⟨_, _, henabled, hgeneration⟩ := transition_settings hmove
    refine .inr ⟨r, x, ⟨hvalid, hadmitted, hexpected⟩, hmove, ?_⟩
    split at h
    · rename_i hsame
      rw [Checked.pure_ok] at h
      subst h
      have hplace := henabled.symm.trans hsame
      exact ⟨.inl hplace, fun _ => hplace, Std.ExtTreeMap.getElem?_insert_self⟩
    · split at h
      · rename_i hexhausted
        rw [Checked.pure_ok] at h
        subst h
        rw [hgeneration, Option.isNone_iff_eq_none] at hexhausted
        exact ⟨.inr hexhausted, fun h => (by cases h), Std.ExtTreeMap.getElem?_insert_self⟩
      · rename_i hnext
        rw [Checked.pure_ok] at h
        subst h
        exact (commitLocked_busy (e := e) idle (.adminChanged context enabled hmove) rfl rfl rfl
          (SetRecord.next_isSome hmove hnext) rfl (fun h => by cases h)).elim

theorem admin_plain (enabled : Bool) :
    (if enabled then SetEvent.adminEnabled else .adminDisabled).isPlain = true := by
  cases enabled <;> rfl

theorem setting_moved {op : Op} (abreast : ¬Lags e op) (found : e.sets[setId]? = some r)
    (stored : (e.after op).sets[setId]? = some x)
    (idle : (e.exec op).2.succeeded = false ∨ (e.exec op).2.code = .idempotent)
    (settles : (∃ context minimum, op = .setMinimumUsableMembers context setId minimum) ∨
      (∃ context permitted, op = .setConditionalAuthorityPolicy context setId permitted) ∨
        ∃ context enabled, op = .setAdminEnabled context setId enabled) :
    x = r ∨ ∃ event : SetEvent, event.isPlain = true ∧ r.applyTransition event = .ok x ∧ x.lifecycle = r.lifecycle := by
  have hsame : (e.after op) = e → x = r := by
    intro hkept
    rw [hkept, found] at stored
    exact (Option.some.inj stored).symm
  have hresting : ∀ r' x', e.sets[setId]? = some r' → (e.after op).sets[setId]? = some x' → r' = r ∧ x' = x := by
    intro r' x' hr' hx'
    exact ⟨Option.some.inj (hr'.symm.trans found), Option.some.inj (hx'.symm.trans stored)⟩
  rcases settles with ⟨context, minimum, rfl⟩ | ⟨context, permitted, rfl⟩ | ⟨context, enabled, rfl⟩
  · rcases minimum_rests idle with hkept | ⟨r', x', hadmits, hmoved, hidle, _, hstored⟩
    · exact .inl (hsame hkept)
    · obtain ⟨rfl, rfl⟩ := hresting r' x' (admission_found hadmits.2.1) hstored
      refine .inr ⟨_, rfl, hmoved, ?_⟩
      by_contra hshifts
      exact abreast (.minimum (hadmits.engages rfl rfl rfl rfl) hmoved hidle hshifts)
  · rcases policy_rests idle with hkept | ⟨r', x', hadmits, hmoved, hidle, _, hstored⟩
    · exact .inl (hsame hkept)
    · obtain ⟨rfl, rfl⟩ := hresting r' x' (admission_found hadmits.2.1) hstored
      refine .inr ⟨_, rfl, hmoved, ?_⟩
      by_contra hshifts
      exact abreast (.policy (hadmits.engages rfl rfl rfl rfl) hmoved hidle hshifts)
  · rcases admin_rests idle with hkept | ⟨r', x', hadmits, hmoved, hidle, _, hstored⟩
    · exact .inl (hsame hkept)
    · obtain ⟨rfl, rfl⟩ := hresting r' x' (admission_found hadmits.2.1) hstored
      refine .inr ⟨_, admin_plain enabled, hmoved, ?_⟩
      by_contra hshifts
      exact abreast (.admin (hadmits.engages rfl rfl rfl rfl) hmoved hidle hshifts)

theorem setting_covered {op : Op} (abreast : ¬Lags e op) (found : e.sets[setId]? = some r)
    (stored : (e.after op).sets[setId]? = some x)
    (idle : (e.exec op).2.succeeded = false ∨ (e.exec op).2.code = .idempotent)
    (settles : (∃ context minimum, op = .setMinimumUsableMembers context setId minimum) ∨
      (∃ context permitted, op = .setConditionalAuthorityPolicy context setId permitted) ∨
        ∃ context enabled, op = .setAdminEnabled context setId enabled) : x.covered = r.covered := by
  rcases setting_moved abreast found stored idle settles with rfl | ⟨event, hplain, hmoved, hstays⟩
  · rfl
  · exact SetRecord.transition_covered hplain hmoved hstays

theorem steadyMember_covered {path : PathId} {m m' : MemberRecord} (found : r.members[path]? = some m)
    (same : m'.covered = m.covered) (stays : r.recompute.lifecycle = r.lifecycle) :
    (r.withMember path m').recompute.covered = r.covered := by
  have husable : usableCount (r.withMember path m').members = usableCount r.members := by
    apply usableCount_insert_same found
    have hlifecycle : m'.lifecycle = m.lifecycle := congrArg CoveredMember.lifecycle same
    have hcurrentness : m'.currentness = m.currentness := congrArg CoveredMember.currentness same
    rw [MemberRecord.usable, MemberRecord.usable, hlifecycle, hcurrentness]
  refine SetRecord.covered_congr rfl ?_ (coveredMembers_insert found same)
  rw [← stays]
  unfold SetRecord.recompute SetRecord.recomputeUsableMembers
  rw [husable]
  rfl

end FabricEngine

open FabricEngine

namespace Answer

variable {e : FabricEngine} {op : Op} {q : Request} {setId : MultipathSetId} {r x : SetRecord}

theorem left_covered (request : op.request = some q) (abreast : ¬Lags e op) (residual : op.residual = true)
    (named : op.subject = some setId) (found : e.sets[setId]? = some r)
    (stored : (e.after op).sets[setId]? = some x) (rejects : (e.exec op).2.succeeded = false) :
    x.covered = r.covered := by
  have hsame : (e.after op) = e → x.covered = r.covered := by
    intro hkept
    rw [hkept, found] at stored
    cases stored
    rfl
  cases op with
  | setMinimumUsableMembers context other minimum =>
      cases named
      exact setting_covered abreast found stored (.inl rejects) (.inl ⟨context, minimum, rfl⟩)
  | setConditionalAuthorityPolicy context other permitted =>
      cases named
      exact setting_covered abreast found stored (.inl rejects) (.inr (.inl ⟨context, permitted, rfl⟩))
  | setAdminEnabled context other enabled =>
      cases named
      exact setting_covered abreast found stored (.inl rejects) (.inr (.inr ⟨context, enabled, rfl⟩))
  | revalidateSet context other views =>
      cases named
      apply hsame
      apply revalidation_rejected ?_ rejects
      intro hresidue
      cases hresidue with
      | revalidation admitted allowed changes exhausted =>
          exact abreast (.set (admitted.engages rfl rfl rfl rfl)
            (.inr ⟨fun h => changes (SetRecord.steady_iff.mp h), allowed, exhausted⟩))
  | completeMemberRevalidation context ticket current =>
      cases named
      rcases completion_rejected rejects with hkept | ⟨_, _, _, r', path, m, heq, hfound, hfinds, hleft⟩
      · exact hsame hkept
      · cases heq
        rw [found] at hfound
        cases hfound
        change (e.after (.completeMemberRevalidation context ticket current)) = _ at hleft
        rw [hleft, putSet, Std.ExtTreeMap.getElem?_insert_self] at stored
        cases stored
        exact SetRecord.withMember_covered hfinds.2 rfl
  | _ => cases residual

theorem answered_covered (request : op.request = some q) (abreast : ¬Lags e op) (admitted : Admitted e op q)
    (named : op.subject = some setId) (found : e.sets[setId]? = some r) (expects : op.Expects q.context r)
    (stored : (e.after op).sets[setId]? = some x) (code : op.rechecks = false → (e.exec op).2.code = .idempotent)
    (idles : op.Idles e r x) : x.covered = r.covered := by
  have hengages : Engages e op q setId r := ⟨request, named, admitted, found, expects⟩
  cases op with
  | setMinimumUsableMembers context other minimum =>
      cases named
      exact setting_covered abreast found stored (.inr (code rfl)) (.inl ⟨context, minimum, rfl⟩)
  | setConditionalAuthorityPolicy context other permitted =>
      cases named
      exact setting_covered abreast found stored (.inr (code rfl)) (.inr (.inl ⟨context, permitted, rfl⟩))
  | setAdminEnabled context other enabled =>
      cases named
      exact setting_covered abreast found stored (.inr (code rfl)) (.inr (.inr ⟨context, enabled, rfl⟩))
  | revalidateSet context other views =>
      cases named
      obtain ⟨rfl, hlifecycle, hcurrentness⟩ := idles
      have hsteady : r.Steady views := SetRecord.steady_iff.mpr ⟨hlifecycle, hcurrentness⟩
      apply SetRecord.revalidatedSet_covered hsteady
      exact fun htrails => abreast (.set hengages (.inl ⟨hsteady, htrails⟩))
  | revalidateMember context other memberId looked =>
      cases named
      obtain ⟨view, path, m, rfl, hfinds, hsteady, rfl⟩ := idles
      rw [MemberRecord.revalidated_steady hsteady]
      apply steadyMember_covered hfinds.2 (MemberRecord.rebound_covered hsteady)
      by_contra hshifts
      exact abreast (.member hengages hfinds hsteady hshifts)
  | completeMemberRevalidation context ticket current =>
      cases named
      obtain ⟨path, m, hfinds, hpending, hsteady, rfl⟩ := idles
      rw [MemberRecord.revalidated_steady hsteady]
      have hreleased : (m.rebound r.conditionalAuthorityPermitted current).release.covered = m.covered :=
        MemberRecord.rebound_covered hsteady
      apply steadyMember_covered hfinds.2 hreleased
      by_contra hshifts
      exact abreast (.completion hengages hfinds hpending hsteady hshifts)
  | _ =>
      cases idles
      rfl

end Answer

end MultipathFabric
