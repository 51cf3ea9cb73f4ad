import MultipathFabric.LivedRuns
import MultipathFabric.Termination
import Mathlib.Tactic.IntervalCases

namespace MultipathFabric

open OrderedMap

def SetLifecycle.isPublished : SetLifecycle → Bool
  | .active | .degraded | .exhausted | .adminDisabled => true
  | _ => false

structure SetRecord.Derived (r : SetRecord) : Prop where
  counted : r.usableMemberCount = usableCount r.members
  published : r.lifecycle.isPublished = true →
    r.lifecycle = derivePublishedLifecycle r.usableMemberCount r.minimumUsableMembers r.adminEnabled

namespace SetRecord

variable {e : FabricEngine} {r x : SetRecord}

theorem derivePublishedLifecycle_published (usable : ℕ) (minimum : UInt64) (enabled : Bool) :
    (derivePublishedLifecycle usable minimum enabled).isPublished = true := by
  unfold derivePublishedLifecycle
  split
  · rfl
  · split
    · rfl
    · split <;> rfl

theorem recompute_derived (r : SetRecord) : r.recompute.Derived := by
  constructor
  · rfl
  · intro hpublished
    unfold recompute at hpublished ⊢
    dsimp only at hpublished ⊢
    split
    all_goals first | rfl | skip
    rename_i hactive hdegraded hexhausted hdisabled
    cases hl : r.lifecycle
    all_goals simp_all [SetLifecycle.isPublished]

theorem Derived.congr (h : r.Derived) (count : x.usableMemberCount = r.usableMemberCount)
    (members : usableCount x.members = usableCount r.members) (lifecycle : x.lifecycle = r.lifecycle)
    (minimum : x.minimumUsableMembers = r.minimumUsableMembers) (enabled : x.adminEnabled = r.adminEnabled) :
    x.Derived := by
  constructor
  · rw [count, members]
    exact h.counted
  · rw [lifecycle, count, minimum, enabled]
    exact h.published

theorem Derived.closed (counted : r.usableMemberCount = usableCount r.members)
    (lifecycle : r.lifecycle.isPublished = false) : r.Derived := by
  refine ⟨counted, fun h => ?_⟩
  rw [lifecycle] at h
  cases h

theorem Derived.transition {event : SetEvent} (h : r.Derived) (moved : r.applyTransition event = .ok x)
    (disabled : setTransition r.lifecycle event = .becomeAdminDisabled → r.adminEnabled = false) : x.Derived := by
  unfold applyTransition at moved
  split at moved
  · cases moved
  · cases moved
    exact h
  · cases moved
    exact recompute_derived r
  · cases moved
    exact ⟨rfl, fun _ => rfl⟩
  · rename_i haction
    cases moved
    refine ⟨h.counted, fun _ => ?_⟩
    have hflag := disabled haction
    change SetLifecycle.adminDisabled = derivePublishedLifecycle _ _ r.adminEnabled
    rw [hflag]
    rfl
  all_goals
    cases moved
    exact .closed h.counted rfl

theorem setTransition_disables {lifecycle : SetLifecycle} {event : SetEvent} (h : event ≠ .adminDisabled) :
    setTransition lifecycle event ≠ .becomeAdminDisabled := by
  cases event
  all_goals first | exact absurd rfl h | (cases lifecycle <;> decide)

theorem consequences_counted {source target : SetLifecycle} {context : Option MutationContext}
    (h : r.usableMemberCount = usableCount r.members) :
    (applyMemberConsequences e r source target context).usableMemberCount =
      usableCount (applyMemberConsequences e r source target context).members := by
  unfold applyMemberConsequences
  split
  · exact h
  · split
    · split
      all_goals first | exact h | rfl
    · exact h

theorem Derived.consequences {source target : SetLifecycle} {context : Option MutationContext}
    (h : r.usableMemberCount = usableCount r.members) (lifecycle : r.lifecycle.isPublished = false) :
    (applyMemberConsequences e r source target context).Derived := by
  refine .closed (consequences_counted h) ?_
  rw [(consequences_cases e r source target context).1]
  exact lifecycle

theorem Derived.withMember {path : PathId} {m m' : MemberRecord} (h : r.Derived) (found : r.members[path]? = some m)
    (same : m'.usable = m.usable) : (r.withMember path m').Derived :=
  h.congr rfl (usableCount_insert_same found same) rfl rfl rfl

theorem Derived.bumped (h : r.Derived) (count : x.usableMemberCount = r.usableMemberCount)
    (members : x.members = r.members.map fun _ m => m.bumpWatermark) (lifecycle : x.lifecycle = r.lifecycle)
    (minimum : x.minimumUsableMembers = r.minimumUsableMembers) (enabled : x.adminEnabled = r.adminEnabled) :
    x.Derived := by
  apply h.congr count _ lifecycle minimum enabled
  rw [members]
  exact count_map_eq r.members fun _ => rfl

theorem committed_settings (e : FabricEngine) (y : SetRecord) (context : MutationContext) (spec : CommitSpec) :
    (y.committed e context spec).minimumUsableMembers = y.minimumUsableMembers ∧
      (y.committed e context spec).adminEnabled = y.adminEnabled ∧
        (y.committed e context spec).conditionalAuthorityPermitted = y.conditionalAuthorityPermitted := by
  simp only [committed, FabricEngine.appendHistory, pruneArchive]
  split <;> exact ⟨rfl, rfl, rfl⟩

theorem Derived.sealed_ {limits : Limits} {summary : Bytes} (h : r.Derived) (stored : Sealed limits r summary x) :
    x.Derived := by
  cases stored with
  | kept => exact h.congr rfl rfl rfl rfl rfl
  | committed =>
      obtain ⟨hminimum, henabled, _⟩ := committed_settings _ _ _ _
      refine h.congr ?_ ?_ ?_ hminimum henabled
      · exact pruneArchive_usableMemberCount _ _
      · exact pruneArchive_usable _ _
      · exact pruneArchive_lifecycle _ _

end SetRecord

open SetRecord

theorem RecordEdit.derived {e : FabricEngine} {setId : MultipathSetId} {r x : SetRecord} {op : Op} {summary : Bytes}
    (edit : RecordEdit e setId r op x summary) (h : r.Derived)
    (next : ∀ context enabled, op = .setAdminEnabled context setId enabled → r.generation.next.isSome = true) :
    x.Derived := by
  have hplain : ∀ {event : SetEvent} {y : SetRecord}, event ≠ .adminDisabled → r.applyTransition event = .ok y →
      y.Derived := by
    intro event y hevent moved
    exact h.transition moved fun hdisables => absurd hdisables (setTransition_disables hevent)
  cases edit with
  | collided | supersedes | supersedesRecorded => exact h.congr rfl rfl rfl rfl rfl
  | publish _ moved | minimumChecked _ _ moved | policyChecked _ _ moved | completeWithdrawal _ moved =>
      exact hplain (by decide) moved
  | minimumChanged | policyChanged | adminChanged | added | removed | withdrewMember | toggled | revalidatedMember
  | completed => exact recompute_derived _
  | replaced => exact recompute_derived _
  | revalidatedSet _ views _ =>
      have hderived := recompute_derived
        { r with members := r.members.map fun _ m => SetRecord.revalidateMember r.conditionalAuthorityPermitted views m }
      exact hderived.congr rfl rfl rfl rfl rfl
  | adminChecked context enabled moved idle =>
      cases enabled with
      | true => exact hplain (by decide) moved
      | false =>
          apply h.transition moved
          intro _
          apply idle.resolve_right
          exact Option.isSome_iff_ne_none.mp (next context false rfl)
  | @withdraw _ reason y _ moved =>
      rcases applyTransition_beginWithdraw moved with ⟨hdeclared, rfl⟩ | ⟨_, _, rfl⟩
      · have hstay : ({ r.recompute with withdrawalReason := reason } : SetRecord).recompute.lifecycle = .declared :=
          recompute_declared (recompute_declared hdeclared)
        refine .consequences rfl ?_
        rw [hstay]
        rfl
      · unfold SetRecord.withdrawn
        exact .consequences rfl rfl
  | revoke _ _ _ _ _ moved =>
      obtain ⟨_, rfl⟩ := applyTransition_revoke moved
      exact .consequences h.counted rfl
  | retire _ _ _ moved =>
      obtain ⟨_, rfl⟩ := applyTransition_retire moved
      exact .consequences h.counted rfl
  | superseded _ _ _ moved =>
      obtain ⟨_, rfl⟩ := applyTransition_supersede moved
      exact .consequences h.counted rfl
  | begun _ _ _ found _ _ => exact h.withMember found.2 rfl
  | released _ _ _ _ found _ _ | abandoned _ _ found _ => exact h.withMember found.2 rfl
  | observed _ _ found same =>
      apply h.withMember found
      unfold MemberRecord.usable
      rw [same.1, same.2]
  | @invalidated _ path view context m _ _ _ =>
      have hderived := recompute_derived (r.withMember path (m.evaluate r.conditionalAuthorityPermitted view false))
      unfold FabricEngine.dependencyInvalidated
      dsimp only
      split
      · exact hderived.congr rfl rfl rfl rfl rfl
      · exact hderived.congr rfl rfl rfl rfl rfl

theorem withMember_counted {r : SetRecord} {path : PathId} {m m' : MemberRecord}
    (h : r.usableMemberCount = usableCount r.members) (found : r.members[path]? = some m)
    (same : m'.usable = m.usable) :
    (r.withMember path m').usableMemberCount = usableCount (r.withMember path m').members :=
  h.trans (usableCount_insert_same found same).symm

theorem RecordEdit.counted {e : FabricEngine} {setId : MultipathSetId} {r x : SetRecord} {op : Op} {summary : Bytes}
    (edit : RecordEdit e setId r op x summary) (h : r.usableMemberCount = usableCount r.members) :
    x.usableMemberCount = usableCount x.members := by
  cases edit with
  | collided | supersedes | supersedesRecorded => exact h
  | publish _ moved | minimumChecked _ _ moved | policyChecked _ _ moved | adminChecked _ _ moved
  | completeWithdrawal _ moved => exact counted_transition h moved
  | minimumChanged | policyChanged | adminChanged | added | removed | withdrewMember | replaced | toggled
  | revalidatedSet | revalidatedMember | completed => rfl
  | withdraw =>
      unfold SetRecord.withdrawn
      exact consequences_counted rfl
  | revoke _ _ _ _ _ moved =>
      obtain ⟨_, rfl⟩ := applyTransition_revoke moved
      exact consequences_counted h
  | retire _ _ _ moved =>
      obtain ⟨_, rfl⟩ := applyTransition_retire moved
      exact consequences_counted h
  | superseded _ _ _ moved =>
      obtain ⟨_, rfl⟩ := applyTransition_supersede moved
      exact consequences_counted h
  | begun _ _ _ found _ _ => exact withMember_counted h found.2 rfl
  | released _ _ _ _ found _ _ | abandoned _ _ found _ => exact withMember_counted h found.2 rfl
  | observed _ _ found same =>
      apply withMember_counted h found
      unfold MemberRecord.usable
      rw [same.1, same.2]
  | invalidated =>
      unfold FabricEngine.dependencyInvalidated
      dsimp only
      split <;> rfl

theorem counted_of_run {config : FabricConfig} {e : FabricEngine} (h : Reachable config e) :
    ∀ (setId : MultipathSetId) (r : SetRecord), e.sets[setId]? = some r →
      r.usableMemberCount = usableCount r.members := by
  induction h with
  | init ids =>
      intro setId r hr
      rw [show (FabricEngine.init config ids).sets[setId]? = none from Std.ExtTreeMap.getElem?_empty] at hr
      cases hr
  | @step e _ op _ ih =>
      intro setId r' hr'
      have hstep := e.after_sets op setId
      rw [hr'] at hstep
      generalize hentry : e.sets[setId]? = entry at hstep
      cases hstep with
      | kept => exact ih setId r' hentry
      | changed edit stored =>
          have hedited := edit.counted (ih setId _ hentry)
          cases stored with
          | kept => exact hedited
          | committed =>
              refine (pruneArchive_usableMemberCount _ _).trans (Eq.trans ?_ (pruneArchive_usable _ _).symm)
              exact hedited
      | created => rfl
      | @fenced _ _ _ r =>
          have hbumped : usableCount (r.members.map fun _ m => m.bumpWatermark) = usableCount r.members :=
            count_map_eq r.members fun _ => rfl
          exact (ih setId r hentry).trans hbumped.symm
      | @epochAdvanced _ _ _ _ _ _ r =>
          have hbumped : usableCount (r.members.map fun _ m => m.bumpWatermark) = usableCount r.members :=
            count_map_eq r.members fun _ => rfl
          exact (ih setId r hentry).trans hbumped.symm
      | recovered => rfl

/-- A set whose generation counter still has a successor, as every set of an engine. -/
def FabricEngine.Unexhausted (e : FabricEngine) : Prop :=
  ∀ (setId : MultipathSetId) (r : SetRecord), e.sets[setId]? = some r → r.generation.next.isSome = true

theorem derived_rule {allowed : FabricEngine → Op → Prop}
    (next : ∀ e context setId enabled (r : SetRecord), allowed e (.setAdminEnabled context setId enabled) →
      e.sets[setId]? = some r → r.generation.next.isSome = true) : RecordRule allowed SetRecord.Derived where
  declared e context setId key options summary := .closed rfl rfl
  edited e op setId r x summary h found derived edit := by
    apply edit.derived derived
    rintro context enabled rfl
    exact next e context setId enabled r h found
  sealed_ limits x summary r' derived stored := derived.sealed_ stored
  fenced r authority epoch derived := derived.bumped rfl rfl rfl rfl rfl
  epochAdvanced e r derived := derived.bumped rfl rfl rfl rfl rfl
  restored r derived := by
    have hmembers : usableCount r.restored.members = usableCount r.members := count_map_eq r.members fun _ => rfl
    exact derived.congr (hmembers.trans derived.counted.symm) hmembers rfl rfl rfl
  recovered e r derived := by
    have hbumped : usableCount (r.members.map fun _ m => m.bumpWatermark) = usableCount r.members :=
      count_map_eq r.members fun _ => rfl
    have hagain : usableCount ((r.members.map fun _ m => m.bumpWatermark).map fun _ m => m.bumpWatermark) =
        usableCount (r.members.map fun _ m => m.bumpWatermark) := count_map_eq _ fun _ => rfl
    have hmembers : usableCount (e.recoveredSet r).members = usableCount r.members := hagain.trans hbumped
    exact derived.congr (hmembers.trans derived.counted.symm) hmembers rfl rfl rfl

/-- In every state of an engine that has exhausted no set generation, the derived fields of every set are current. -/
theorem derived_current {e : FabricEngine} (h : Lived (fun e _ => e.Unexhausted) e) (setId : MultipathSetId) (r : SetRecord)
    (found : e.sets[setId]? = some r) :
    r.usableMemberCount = usableCount r.members ∧
    (r.lifecycle = .active ∨ r.lifecycle = .degraded ∨ r.lifecycle = .exhausted ∨ r.lifecycle = .adminDisabled →
      r.lifecycle = derivePublishedLifecycle r.usableMemberCount r.minimumUsableMembers r.adminEnabled) ∧
    (setIsConsumable r = true ↔ routeReadiness r.lifecycle r.currentness = .ready ∨
      routeReadiness r.lifecycle r.currentness = .degradedButReady) ∧
    (r.lifecycle = .active → r.minimumUsableMembers.toNat ≤ r.usableMemberCount) ∧
    (r.adminEnabled = false ∨ r.lifecycle = .adminDisabled → setIsConsumable r = false) := by
  have hderived : r.Derived :=
    (derived_rule fun e _ setId _ r h hr => h setId r hr).holds h found
  have hpublished : r.lifecycle = .active ∨ r.lifecycle = .degraded ∨ r.lifecycle = .exhausted ∨
      r.lifecycle = .adminDisabled →
        r.lifecycle = derivePublishedLifecycle r.usableMemberCount r.minimumUsableMembers r.adminEnabled := by
    rintro (hl | hl | hl | hl)
    all_goals exact hderived.published (by rw [hl]; rfl)
  have henabled : r.lifecycle = .active ∨ r.lifecycle = .degraded → r.adminEnabled = true := by
    intro hready
    by_contra hdisabled
    have hl := hpublished (hready.imp_right .inl)
    rw [Bool.not_eq_true] at hdisabled
    rw [hdisabled] at hl
    rcases hready with h | h
    all_goals
      rw [h] at hl
      cases hl
  refine ⟨hderived.counted, hpublished, ?_, ?_, ?_⟩
  · unfold setIsConsumable routeReadiness SetRecord.published
    cases hl : r.lifecycle
    case active | degraded =>
      rw [henabled (by rw [hl]; decide)]
      cases r.currentness <;> decide
    all_goals simp
    all_goals cases r.currentness <;> simp
  · intro hactive
    have hl := hpublished (.inl hactive)
    rw [hactive] at hl
    unfold derivePublishedLifecycle at hl
    split at hl
    · cases hl
    · split at hl
      · assumption
      · split at hl <;> cases hl
  · intro hdisabled
    unfold setIsConsumable
    rcases hdisabled with hflag | hl
    · rw [hflag]
      simp
    · rw [hl]
      simp

theorem unexhausted_of_all {e : FabricEngine}
    (h : (e.sets.toList.all fun entry => entry.2.generation.next.isSome) = true) : e.Unexhausted := by
  intro setId r hr
  exact List.all_eq_true.mp h (setId, r) (Std.ExtTreeMap.mem_toList_iff_getElem?_eq_some.mpr hr)

theorem derived_current_sample : ∃ r, (sampleRun sampleSteps).sets[sampleSet]? = some r ∧
    r.usableMemberCount = usableCount r.members ∧
    (setIsConsumable r = true ↔ routeReadiness r.lifecycle r.currentness = .ready ∨
      routeReadiness r.lifecycle r.currentness = .degradedButReady) := by
  have hlived : Lived (fun e _ => e.Unexhausted) (sampleRun sampleSteps) := by
    apply Lived.afterAll (.init sampleConfig sampleIds) (by decide)
    intro earlier op later hsplit
    have hlength : earlier.length < 4 := by
      have hlengths := congrArg List.length hsplit
      simp only [sampleSteps, List.length_cons, List.length_append, List.length_nil] at hlengths
      omega
    have hearlier : earlier = sampleSteps.take earlier.length := by
      rw [hsplit, List.take_left]
    apply unexhausted_of_all
    rw [hearlier]
    generalize earlier.length = n at hlength
    interval_cases n <;> decide +kernel
  obtain ⟨r, hr⟩ : ∃ r, (sampleRun sampleSteps).sets[sampleSet]? = some r :=
    Option.isSome_iff_exists.mp (by decide +kernel)
  obtain ⟨hcounted, _, hready, _⟩ := derived_current hlived sampleSet r hr
  exact ⟨r, hr, hcounted, hready⟩

end MultipathFabric
