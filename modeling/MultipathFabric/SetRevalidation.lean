import MultipathFabric.Announcements
import MultipathFabric.DerivedState
import MultipathFabric.MemberChange
import MultipathFabric.MemberCount

namespace MultipathFabric

open OrderedMap Checked MemberRecord

def ViewTable.HasRecord (views : ViewTable) (path : PathId) : Prop := ∃ view, views[path]? = some (some view)

def MemberRecord.JoinedCurrent (m : MemberRecord) (views : ViewTable) : Prop :=
  views[m.pathId]? = none ∧ m.currentness = .current

namespace SetRecord

/-- Every live member was looked up with a record, or has joined since with a current binding. -/
def Covers (r : SetRecord) (views : ViewTable) : Prop :=
  ∀ (path : PathId) (m : MemberRecord), r.members[path]? = some m → memberIsTerminal m = false →
    views.HasRecord m.pathId ∨ m.JoinedCurrent views

def Misses (r : SetRecord) (views : ViewTable) : Prop :=
  ∃ (path : PathId) (m : MemberRecord), r.members[path]? = some m ∧ memberIsTerminal m = false ∧
    views[m.pathId]? = none ∧ m.currentness ≠ .current

def reevaluated (r : SetRecord) (views : ViewTable) : SetRecord :=
  { r with members := r.members.map fun _ m => revalidateMember r.conditionalAuthorityPermitted views m }

def Shifts (r : SetRecord) (views : ViewTable) : Prop :=
  r.lifecycle.isPublished = true ∧
    derivePublishedLifecycle (r.reevaluated views).recomputeUsableMembers r.minimumUsableMembers r.adminEnabled ≠
      r.lifecycle

variable {r : SetRecord} {views : ViewTable}

theorem revalidationComplete_iff : r.revalidationComplete views = true ↔ ¬r.Misses views := by
  unfold revalidationComplete Misses
  rw [List.all_eq_true]
  constructor
  · rintro h ⟨path, m, hm, hlive, habsent, hstale⟩
    have hcovered := h (path, m) (Std.ExtTreeMap.mem_toList_iff_getElem?_eq_some.mpr hm)
    simp only [hlive, habsent, Option.isSome_none, Bool.false_or, beq_iff_eq] at hcovered
    exact hstale hcovered
  · intro h entry hentry
    have hm := Std.ExtTreeMap.mem_toList_iff_getElem?_eq_some.mp hentry
    by_contra hmissed
    simp only [Bool.or_eq_true, beq_iff_eq, not_or, Bool.not_eq_true, Option.isSome_eq_false_iff,
      Option.isNone_iff_eq_none] at hmissed
    exact h ⟨entry.1, entry.2, hm, hmissed.1.1, hmissed.1.2, hmissed.2⟩

theorem revalidatedSet_shifts (e : FabricEngine) :
    r.lifecycle ≠ (e.revalidatedSet r views).lifecycle ↔ r.Shifts views := by
  have hlifecycle : (e.revalidatedSet r views).lifecycle = (r.reevaluated views).recompute.lifecycle := rfl
  rw [hlifecycle]
  unfold Shifts recompute
  dsimp only
  have hsame : (r.reevaluated views).lifecycle = r.lifecycle := rfl
  rw [hsame]
  cases hl : r.lifecycle
  case active | degraded | exhausted | adminDisabled =>
    constructor
    · exact fun h => ⟨rfl, Ne.symm h⟩
    · exact fun h => Ne.symm h.2
  all_goals exact iff_of_false (fun h => h rfl) fun h => by cases h.1

end SetRecord

theorem concludeLocked_run {e : FabricEngine} {known : FabricOutcome → Prop} {run : Checked LockedResult}
    (refuses : Refuses known run) (accepted : (concludeLocked e run).outcome.succeeded = true)
    (own : ¬known (concludeLocked e run).outcome) : run = .ok (concludeLocked e run) := by
  cases run with
  | ok result => rfl
  | error outcome =>
      rcases refuses outcome rfl with hrejected | hknown
      · rw [concludeLocked, (FabricOutcome.rejects_iff.mp hrejected).1] at accepted
        cases accepted
      · exact absurd hknown own

namespace FabricEngine

variable {e : FabricEngine} {context : MutationContext} {setId : MultipathSetId} {views : ViewTable} {q : Request}
  {r : SetRecord}

structure RevalidatesTo (e : FabricEngine) (r : SetRecord) (views : ViewTable) (x : SetRecord) (code : OutcomeCode) :
    Prop where
  currentness : x.currentness = (e.revalidatedSet r views).currentness
  members : ∀ (path : PathId) (m : MemberRecord), (e.revalidatedSet r views).members[path]? = some m →
    memberIsTerminal m = false → ∃ m', x.members[path]? = some m' ∧ m'.standing = m.standing
  code : code =
    if r.lifecycle = (e.revalidatedSet r views).lifecycle ∧ r.currentness = (e.revalidatedSet r views).currentness then
      .idempotent
    else if r.revalidationComplete views then .setRevalidated
    else .setRevalidationIncomplete

theorem committed_members {base : FabricEngine} {y : SetRecord} {spec : CommitSpec} {path : PathId} {m : MemberRecord}
    (found : y.members[path]? = some m) (live : memberIsTerminal m = false) :
    ∃ m', (y.committed base context spec).members[path]? = some m' ∧ m'.standing = m.standing := by
  have hplace : SealedPlace y.members[path]? (y.committed base context spec).members[path]? :=
    pruneArchive_place base.limits { y with provenance := makeProvenance context spec.cause y } path
  rw [found] at hplace
  generalize hafter : (y.committed base context spec).members[path]? = after at hplace ⊢
  cases hplace with
  | kept => exact ⟨m, rfl, rfl⟩
  | cleared pruned => exact ⟨_, rfl, clearLineage_standing m pruned⟩
  | pruned terminal =>
      rw [live] at terminal
      cases terminal

theorem revalidateSet_accepted (accepted : e.Accepts (.revalidateSet context setId views) q)
    (found : e.sets[setId]? = some r) :
    ∃ x, (e.after (.revalidateSet context setId views)).sets[setId]? = some x ∧
      RevalidatesTo e r views x (e.exec (.revalidateSet context setId views)).2.code := by
  obtain ⟨hrequest, hsucceeded, hfresh⟩ := accepted
  cases hrequest
  have hrun := @concludeLocked_run e (e.Replays (.revalidateSet context setId views)
    (.onSet context (text "revalidate_set") setId [])) _ ?_ hsucceeded fun hknown => hfresh hknown.2
  · change _ = Except.ok (e.locked (.revalidateSet context setId views)) at hrun
    change ∃ x, (e.locked (.revalidateSet context setId views)).engine.sets[setId]? = some x ∧
      RevalidatesTo e r views x (e.locked (.revalidateSet context setId views)).outcome.code
    change (e.locked (.revalidateSet context setId views)).outcome.succeeded = true at hsucceeded
    generalize e.locked (.revalidateSet context setId views) = result at hrun hsucceeded ⊢
    simp only [Checked.bind_ok] at hrun
    obtain ⟨_, _, r', hadmitted, _, _, _, _, hrun⟩ := hrun
    have hsame : r' = r := Option.some.inj ((admission_found hadmitted).symm.trans found)
    subst hsame
    split at hrun
    · rename_i hsteady
      cases hrun
      refine ⟨e.revalidatedSet r' views, Std.ExtTreeMap.getElem?_insert_self, rfl, ?_, ?_⟩
      · exact fun path m hm _ => ⟨m, hm, rfl⟩
      · rw [if_pos hsteady]
        rfl
    · rename_i hchanged
      split at hrun
      · cases hrun
        cases hsucceeded
      · cases hrun
        obtain ⟨x, generation, membershipGeneration, hx, hsets, hreports⟩ := Ending.commitLocked_succeeded hsucceeded
        have hstored : (e.sets.insert setId x)[setId]? = some x := Std.ExtTreeMap.getElem?_insert_self
        rw [← hsets] at hstored
        refine ⟨x, hstored, ?_, ?_, ?_⟩
        · rw [hx]
          exact (SetRecord.committed_standing _ _ _ _).2.1
        · rw [hx]
          exact fun path m hm hlive => committed_members hm hlive
        · change (FabricEngine.commitLocked _ _ _ _ _ _ _ _).2.code = _
          rw [hreports, if_neg hchanged]
          rfl
  · exact .bind (.require rfl) fun _ _ => .bind (admission_replays rfl rfl) fun _ _ =>
      .bind (.require (lifecycleRejection_rejects _ _)) fun _ _ =>
        .bind (expectedSetGenerationMatches_refuses _ _) fun _ _ => .ite (.pure _) (.ite (.pure _) (.pure _))

/-- The revalidation of a set is complete, or says that it is not: what it makes current has been evaluated whole
against the records of the lookup pass, and a set with a path of no record is answered as incomplete and is left to
be revalidated. -/
def CompleteOrSays (e : FabricEngine) (context : MutationContext) (setId : MultipathSetId) (views : ViewTable)
    (r : SetRecord) : Prop :=
  ∃ x, (e.after (.revalidateSet context setId views)).sets[setId]? = some x ∧
    (x.currentness = .current →
      ((e.exec (.revalidateSet context setId views)).2.code = .setRevalidated ∨
        (e.exec (.revalidateSet context setId views)).2.code = .idempotent) ∧
      r.Covers views ∧
      ∀ (path : PathId) (m : MemberRecord) (view : PathAuthorityView), r.members[path]? = some m →
        memberIsTerminal m = false → views[m.pathId]? = some (some view) →
          ∃ m', x.members[path]? = some m' ∧
            m'.standing = (m.rebound r.conditionalAuthorityPermitted (some view)).standing) ∧
    (¬r.Covers views →
      (e.exec (.revalidateSet context setId views)).2.code = .setRevalidationIncomplete ∧
        x.currentness = .revalidationRequired)

theorem revalidatedSet_member {path : PathId} {m : MemberRecord} {view : Option PathAuthorityView}
    (found : r.members[path]? = some m) (live : memberIsTerminal m = false) (looked : views[m.pathId]? = some view) :
    (e.revalidatedSet r views).members[path]? = some (m.rebound r.conditionalAuthorityPermitted view) := by
  change (r.members.map fun _ m => SetRecord.revalidateMember r.conditionalAuthorityPermitted views m)[path]? = _
  rw [getElem?_mapValues, found, Option.map_some]
  unfold SetRecord.revalidateMember
  rw [live, looked]
  rfl

theorem rebound_live {m : MemberRecord} (permitted : Bool) (view : Option PathAuthorityView)
    (live : memberIsTerminal m = false) : memberIsTerminal (m.rebound permitted view) = false := by
  unfold MemberRecord.rebound
  exact evaluate_live _ _ _ live

/-- A revalidation keeps its word when the lookup pass covered the set, and otherwise when it has missed a member that is
not current and the record shows a change: the set was current, or its lifecycle shifts. -/
theorem completeOrSays_iff (accepted : e.Accepts (.revalidateSet context setId views) q)
    (found : e.sets[setId]? = some r) :
    e.CompleteOrSays context setId views r ↔
      r.Covers views ∨ (r.Misses views ∧ (r.currentness = .current ∨ r.Shifts views)) := by
  obtain ⟨x, hstored, hcurrentness, hmembers, hcode⟩ := revalidateSet_accepted accepted found
  have htarget : (e.revalidatedSet r views).currentness =
      if r.revalidationComplete views then .current else .revalidationRequired := rfl
  constructor
  · rintro ⟨x', hstored', _, hincomplete⟩
    by_contra hneither
    rw [not_or, not_and_or] at hneither
    obtain ⟨hcovers, hsilent⟩ := hneither
    obtain ⟨hanswers, hleft⟩ := hincomplete hcovers
    have hsame : x' = x := Option.some.inj (hstored'.symm.trans hstored)
    rw [hsame, hcurrentness, htarget] at hleft
    have hpartial : r.revalidationComplete views = false := by
      by_contra hcomplete
      rw [Bool.not_eq_false] at hcomplete
      rw [hcomplete] at hleft
      cases hleft
    rw [hcode] at hanswers
    rcases hsilent with hnone | hsteady
    · rw [SetRecord.revalidationComplete_iff.mpr hnone] at hpartial
      cases hpartial
    · rw [not_or, ← SetRecord.revalidatedSet_shifts e, not_not] at hsteady
      have hrequired : r.currentness = .revalidationRequired := by
        cases hc : r.currentness with
        | current => exact absurd hc hsteady.1
        | revalidationRequired => rfl
      have hunchanged : r.currentness = (e.revalidatedSet r views).currentness := by
        rw [htarget, hpartial, hrequired]
        rfl
      rw [if_pos ⟨hsteady.2, hunchanged⟩] at hanswers
      cases hanswers
  · intro h
    refine ⟨x, hstored, ?_, ?_⟩
    · intro hcurrent
      rw [hcurrentness, htarget] at hcurrent
      have hcomplete : r.revalidationComplete views = true := by
        by_contra hpartial
        rw [if_neg hpartial] at hcurrent
        cases hcurrent
      have hcovers : r.Covers views := by
        rcases h with hcovers | ⟨hmisses, _⟩
        · exact hcovers
        · exact absurd hmisses (SetRecord.revalidationComplete_iff.mp hcomplete)
      refine ⟨?_, hcovers, ?_⟩
      · rw [hcode]
        split
        · exact .inr rfl
        · exact .inl rfl
      · intro path m view hm hlive hview
        exact hmembers path _ (revalidatedSet_member hm hlive hview) (rebound_live _ _ hlive)
    · intro huncovered
      obtain ⟨hmisses, hshown⟩ := h.resolve_left huncovered
      have hpartial : ¬r.revalidationComplete views = true := by
        rw [SetRecord.revalidationComplete_iff, not_not]
        exact hmisses
      rw [if_neg hpartial] at htarget
      constructor
      · rw [hcode, if_neg, if_neg hpartial]
        rintro ⟨hsteady, hkept⟩
        rcases hshown with hcurrent | hshifts
        · rw [htarget, hcurrent] at hkept
          cases hkept
        · exact (SetRecord.revalidatedSet_shifts e).mpr hshifts hsteady
      · rw [hcurrentness, htarget]

def sampleLookup (view : Option PathAuthorityView) : ViewTable := (∅ : ViewTable).insert samplePath view

theorem sampleLookup_accepts (view : Option PathAuthorityView) (ops : List Op)
    (succeeds : ((sampleRun ops).exec (.revalidateSet (sampleContext "a9") sampleSet (sampleLookup view))).2.succeeded = true)
    (fresh : (sampleRun ops).attemptCheck (sampleContext "a9") (text "revalidate_set")
      [text "revalidate_set", sampleSet.view] = none) :
    (sampleRun ops).Accepts (.revalidateSet (sampleContext "a9") sampleSet (sampleLookup view))
      (.onSet (sampleContext "a9") (text "revalidate_set") sampleSet []) := by
  refine ⟨rfl, succeeds, ?_⟩
  intro hreplayed
  cases fresh.symm.trans hreplayed

theorem completeOrSays_iff_sample : ∃ r, (sampleRun sampleSteps).sets[sampleSet]? = some r ∧
    ((sampleRun sampleSteps).CompleteOrSays (sampleContext "a9") sampleSet (sampleLookup (some sampleView)) r ↔
      r.Covers (sampleLookup (some sampleView)) ∨ (r.Misses (sampleLookup (some sampleView)) ∧
        (r.currentness = .current ∨ r.Shifts (sampleLookup (some sampleView))))) := by
  have hrun : (sampleRun sampleSteps).sets[sampleSet]?.isSome = true ∧
      ((sampleRun sampleSteps).exec (.revalidateSet (sampleContext "a9") sampleSet
        (sampleLookup (some sampleView)))).2.succeeded = true ∧
      (sampleRun sampleSteps).attemptCheck (sampleContext "a9") (text "revalidate_set")
        [text "revalidate_set", sampleSet.view] = none := by
    decide +kernel
  obtain ⟨hsome, hsucceeds, hfresh⟩ := hrun
  obtain ⟨r, hr⟩ := Option.isSome_iff_exists.mp hsome
  exact ⟨r, hr, completeOrSays_iff (sampleLookup_accepts _ _ hsucceeds hfresh) hr⟩

/-- The source of path authority knows nothing of the path of the one member, and the set stays current. -/
theorem completeOrSays_fails : ¬∀ (config : FabricConfig) (e : FabricEngine) (context : MutationContext)
    (setId : MultipathSetId) (views : ViewTable) (q : Request) (r : SetRecord), Reachable config e →
      e.Accepts (.revalidateSet context setId views) q → e.sets[setId]? = some r →
        e.CompleteOrSays context setId views r := by
  intro h
  have hrun : (((sampleRun (sampleSteps ++ [.bindPathAuthority true])).sets[sampleSet]?.bind fun r =>
        r.members[samplePath]?.map fun m => (memberIsTerminal m, m.pathId)) = some (false, samplePath)) ∧
      ((sampleRun (sampleSteps ++ [.bindPathAuthority true])).exec
        (.revalidateSet (sampleContext "a9") sampleSet (sampleLookup none))).2.succeeded = true ∧
      (sampleRun (sampleSteps ++ [.bindPathAuthority true])).attemptCheck (sampleContext "a9") (text "revalidate_set")
        [text "revalidate_set", sampleSet.view] = none ∧
      ((sampleRun (sampleSteps ++ [.bindPathAuthority true])).exec
        (.revalidateSet (sampleContext "a9") sampleSet (sampleLookup none))).2.code = .idempotent := by
    decide +kernel
  obtain ⟨hmember, hsucceeds, hfresh, hcode⟩ := hrun
  obtain ⟨r, hr, hmember⟩ := Option.bind_eq_some_iff.mp hmember
  obtain ⟨m, hm, hshape⟩ := Option.map_eq_some_iff.mp hmember
  obtain ⟨hlive, hpath⟩ := Prod.mk.inj hshape
  obtain ⟨x, _, _, hincomplete⟩ := h _ _ _ _ _ _ r (sampleRun_reachable _) (sampleLookup_accepts none _ hsucceeds hfresh) hr
  have hlooked : (sampleLookup none)[m.pathId]? = some none := by
    rw [hpath]
    exact Std.ExtTreeMap.getElem?_insert_self
  have huncovered : ¬r.Covers (sampleLookup none) := by
    intro hcovers
    rcases hcovers samplePath m hm hlive with ⟨view, hview⟩ | ⟨habsent, _⟩
    · rw [hlooked] at hview
      cases hview
    · rw [hlooked] at habsent
      cases habsent
  rw [hcode] at hincomplete
  cases (hincomplete huncovered).1

end FabricEngine

end MultipathFabric
