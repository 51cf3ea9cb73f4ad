import MultipathFabric.LiveAuthority
import MultipathFabric.PathIndex

namespace MultipathFabric

open OrderedMap

namespace FabricEngine

variable {e : FabricEngine} {path : PathId} {view : Option PathAuthorityView} {context : Option MutationContext}
  {cause : MembershipCause} {setId other : MultipathSetId} {r x : SetRecord}

def viewed (e : FabricEngine) (path : PathId) (view : Option PathAuthorityView) (context : Option MutationContext)
    (cause : MembershipCause) (r : SetRecord) : SetRecord :=
  if setIsFrozen r then r
  else
    match r.members[path]? with
    | none => r
    | some m =>
        let evaluated := m.evaluate r.conditionalAuthorityPermitted view false
        if evaluated.lifecycle = m.lifecycle ∧ evaluated.currentness = m.currentness then r.withMember path evaluated
        else e.dependencyInvalidated r path evaluated context cause

def PassedBy (r : SetRecord) (path : PathId) : Prop := setIsFrozen r = true ∨ r.members[path]? = none

theorem viewed_passedBy (h : PassedBy r path) : e.viewed path view context cause r = r := by
  unfold viewed
  by_cases hfrozen : setIsFrozen r = true
  · rw [if_pos hfrozen]
  · rw [if_neg hfrozen, h.resolve_left hfrozen]

theorem viewed_id : (e.viewed path view context cause r).id = r.id := by
  unfold viewed
  split
  · rfl
  · split
    · rfl
    · dsimp only
      split
      · rfl
      · unfold dependencyInvalidated
        dsimp only
        split <;> rfl

theorem viewed_congr {base : FabricEngine} (keeps : Keeps base e) :
    e.viewed path view context cause = base.viewed path view context cause := by
  funext r
  unfold viewed
  simp only [dependencyInvalidated_congr keeps.limits keeps.epoch]

theorem applyViewToSet_sets (setId other : MultipathSetId) :
    (e.applyViewToSet setId path view context cause).1.sets[other]? =
      if setId = other then e.sets[other]?.map (e.viewed path view context cause) else e.sets[other]? := by
  have hsame : ∀ r, e.sets[setId]? = some r → PassedBy r path →
      e.sets[other]? = if setId = other then e.sets[other]?.map (e.viewed path view context cause) else e.sets[other]? := by
    intro r hr hpassed
    split
    · rename_i h
      rw [← h, hr, Option.map_some, viewed_passedBy hpassed]
    · rfl
  have hput : ∀ (base : FabricEngine) r x, base.sets = e.sets → e.sets[setId]? = some r → e.viewed path view context cause r = x →
      (base.putSet setId x).sets[other]? =
        if setId = other then e.sets[other]?.map (e.viewed path view context cause) else e.sets[other]? := by
    intro base r x hsets hr hx
    rw [putSet, hsets, getElem?_insert_eq]
    split
    · rename_i h
      rw [← h, hr, Option.map_some, hx]
    · rfl
  unfold applyViewToSet
  split
  · rename_i hnone
    split
    · rename_i h
      rw [← h, hnone]
      rfl
    · rfl
  · rename_i r hr
    split
    · rename_i hfrozen
      exact hsame r hr (.inl hfrozen)
    · rename_i hopen
      split
      · rename_i hmember
        exact hsame r hr (.inr hmember)
      · rename_i m hmember
        dsimp only
        split
        · rename_i hquiet
          apply hput e r _ rfl hr
          simp only [viewed, if_neg hopen, hmember, if_pos hquiet]
          rfl
        · rename_i hloud
          apply hput _ r _ (captureSnapshot_sets e _) hr
          simp only [viewed, if_neg hopen, hmember, if_neg hloud]

theorem applyViewToSets_sets {dependents : List MultipathSetId} (distinct : dependents.Nodup) (e : FabricEngine)
    (other : MultipathSetId) :
    (applyViewToSets path view context cause e dependents).1.sets[other]? =
      if other ∈ dependents then e.sets[other]?.map (e.viewed path view context cause) else e.sets[other]? := by
  induction dependents generalizing e with
  | nil => rfl
  | cons setId rest ih =>
      rw [List.nodup_cons] at distinct
      rw [applyViewToSets, ih distinct.2, applyViewToSet_sets,
        viewed_congr (e.applyViewToSet_keeps setId path view context cause)]
      by_cases h : setId = other
      · rw [← h, if_neg distinct.1, if_pos rfl, if_pos List.mem_cons_self]
      · have hmem : other ∈ setId :: rest ↔ other ∈ rest := by
          rw [List.mem_cons]
          exact ⟨fun hor => hor.resolve_left fun heq => h heq.symm, .inr⟩
        simp only [if_neg h, hmem]

theorem applyView_sets (linked : e.Linked) (other : MultipathSetId) :
    (e.applyView path view context cause).1.sets[other]? = e.sets[other]?.map (e.viewed path view context cause) := by
  have hpassed : other ∉ e.dependents path → e.sets[other]? = e.sets[other]?.map (e.viewed path view context cause) := by
    intro hnot
    cases hr : e.sets[other]? with
    | none => rfl
    | some r =>
        have habsent : r.members[path]? = none := by
          apply Std.ExtTreeMap.getElem?_eq_none
          intro hmem
          exact hnot ((linked.depends path other).mpr ⟨r, hr, hmem⟩)
        rw [Option.map_some, viewed_passedBy (.inr habsent)]
  unfold applyView
  split
  · rename_i hnone
    apply hpassed
    unfold dependents InvertedIndex.owners
    rw [hnone]
    simp
  · rename_i dependents hfound
    have hdistinct : dependents.toList.Nodup := by
      refine Std.ExtTreeSet.distinct_toList.imp fun {a b} h heq => h ?_
      rw [heq, Std.compare_self]
    rw [applyViewToSets_sets hdistinct]
    split
    · rfl
    · rename_i hnot
      apply hpassed
      unfold FabricEngine.dependents InvertedIndex.owners
      rw [hfound]
      rw [Std.ExtTreeSet.mem_toList] at hnot
      exact hnot

theorem applyViewToSet_snapshots (keyed : ∀ r, e.sets[setId]? = some r → r.id = setId)
    (h : setId ≠ other ∨ ∀ r, e.sets[other]? = some r → PassedBy r path) :
    (e.applyViewToSet setId path view context cause).1.snapshotHistory[other]? = e.snapshotHistory[other]? := by
  unfold applyViewToSet
  split
  · rfl
  · rename_i r hr
    split
    · rfl
    · rename_i hopen
      split
      · rfl
      · rename_i m hmember
        have hother : setId ≠ other := by
          rcases h with hne | hpassed
          · exact hne
          · rintro rfl
            rcases hpassed r hr with hfrozen | habsent
            · exact hopen hfrozen
            · rw [hmember] at habsent
              cases habsent
        have hid : ∀ y, y.id = r.id → (e.captureSnapshot y).snapshotHistory[other]? = e.snapshotHistory[other]? := by
          intro y hy
          unfold captureSnapshot
          dsimp only
          split
          · rfl
          · rw [getElem?_insert_eq, if_neg]
            rw [hy, keyed r hr]
            exact hother
        dsimp only
        split
        · rfl
        · apply hid
          unfold dependencyInvalidated
          dsimp only
          split <;> rfl

theorem applyView_snapshots (linked : e.Linked) (h : ∀ r, e.sets[other]? = some r → PassedBy r path) :
    (e.applyView path view context cause).1.snapshotHistory[other]? = e.snapshotHistory[other]? := by
  have hall : ∀ (dependents : List MultipathSetId) (e : FabricEngine),
      (∀ (setId : MultipathSetId) (r : SetRecord), e.sets[setId]? = some r → r.id = setId) →
        (∀ r, e.sets[other]? = some r → PassedBy r path) →
        (applyViewToSets path view context cause e dependents).1.snapshotHistory[other]? = e.snapshotHistory[other]? := by
    intro dependents
    induction dependents with
    | nil => exact fun _ _ _ => rfl
    | cons setId rest ih =>
        intro e keyed hpassed
        have hentry : ∀ other, (e.applyViewToSet setId path view context cause).1.sets[other]? =
            if setId = other then e.sets[other]?.map (e.viewed path view context cause) else e.sets[other]? :=
          fun other => applyViewToSet_sets setId other
        rw [applyViewToSets, ih]
        · exact applyViewToSet_snapshots (keyed setId) (.inr hpassed)
        · intro other r hr
          rw [hentry other] at hr
          split at hr
          · obtain ⟨old, hold, rfl⟩ := Option.map_eq_some_iff.mp hr
            rw [viewed_id]
            exact keyed other old hold
          · exact keyed other r hr
        · intro r hr
          rw [hentry other] at hr
          split at hr
          · obtain ⟨old, hold, rfl⟩ := Option.map_eq_some_iff.mp hr
            rw [viewed_passedBy (hpassed old hold)]
            exact hpassed old hold
          · exact hpassed r hr
  unfold applyView
  split
  · rfl
  · exact hall _ e linked.keyed h

structure Reevaluated (r : SetRecord) (path : PathId) (m' : MemberRecord) (x : SetRecord) : Prop where
  rest : x = { r with
    members := r.members.insert path m'
    usableMemberCount := x.usableMemberCount
    lifecycle := x.lifecycle
    generation := x.generation
    invalidationWatermark := x.invalidationWatermark
    history := x.history }
  generation : x.generation = if x.lifecycle = r.lifecycle then r.generation else r.generation.next.getD r.generation

theorem dependencyInvalidated_reevaluated (e : FabricEngine) (r : SetRecord) (path : PathId) (m' : MemberRecord)
    (context : Option MutationContext) (cause : MembershipCause) :
    Reevaluated r path m' (e.dependencyInvalidated r path m' context cause) := by
  have hlifecycle := (dependencyInvalidated_fields e r path m' context cause).1
  constructor
  · unfold dependencyInvalidated
    dsimp only
    split <;> rfl
  · rw [hlifecycle]
    unfold dependencyInvalidated
    dsimp only
    by_cases h : (r.withMember path m').recompute.lifecycle = r.lifecycle
    · have hquiet : ¬({ r with members := r.members.insert path m' } : SetRecord).recompute.lifecycle ≠ r.lifecycle :=
        not_not.mpr h
      rw [if_pos h, if_neg hquiet]
      rfl
    · have hloud : ({ r with members := r.members.insert path m' } : SetRecord).recompute.lifecycle ≠ r.lifecycle := h
      rw [if_neg h, if_pos hloud]
      rfl

theorem viewed_reevaluated {m : MemberRecord} (open_ : setIsFrozen r = false) (found : r.members[path]? = some m) :
    Reevaluated r path (m.evaluate r.conditionalAuthorityPermitted view false) (e.viewed path view context cause r) := by
  have hopen : ¬setIsFrozen r = true := by simp [open_]
  unfold viewed
  rw [if_neg hopen, found]
  dsimp only
  split
  · exact ⟨rfl, (if_pos rfl).symm⟩
  · exact dependencyInvalidated_reevaluated _ _ _ _ _ _

structure Invalidates (e : FabricEngine) (path : PathId) (view : Option PathAuthorityView) (e' : FabricEngine)
    (setId : MultipathSetId) : Prop where
  absent : e.sets[setId]? = none → e'.sets[setId]? = none
  passedBy : ∀ r, e.sets[setId]? = some r → PassedBy r path →
    e'.sets[setId]? = some r ∧ e'.snapshotHistory[setId]? = e.snapshotHistory[setId]?
  dependent : ∀ r m, e.sets[setId]? = some r → setIsFrozen r = false → r.members[path]? = some m →
    ∃ x, e'.sets[setId]? = some x ∧ Reevaluated r path (m.evaluate r.conditionalAuthorityPermitted view false) x

theorem applyView_invalidates {e : FabricEngine} (linked : e.Linked) (path : PathId) (view : Option PathAuthorityView)
    (context : Option MutationContext) (cause : MembershipCause) (setId : MultipathSetId) :
    e.Invalidates path view (e.applyView path view context cause).1 setId := by
  have hsets : (e.applyView path view context cause).1.sets[setId]? =
      e.sets[setId]?.map (e.viewed path view context cause) := applyView_sets linked setId
  constructor
  · intro hnone
    rw [hsets, hnone]
    rfl
  · intro r hr hpassed
    rw [hsets, hr, Option.map_some, viewed_passedBy hpassed]
    refine ⟨rfl, applyView_snapshots linked fun found hfound => ?_⟩
    rw [hr] at hfound
    cases hfound
    exact hpassed
  · intro r m hr hopen hm
    rw [hsets, hr]
    exact ⟨_, rfl, viewed_reevaluated hopen hm⟩

theorem after_viewed {e : FabricEngine} (linked : e.Linked) {op : Op} {path : PathId} {view : Option PathAuthorityView}
    {context : Option MutationContext} (applied : op.Applies path view context) :
    e.after op = e ∨ ∀ setId, e.Invalidates path view (e.after op) setId := by
  have hanswer : ∀ {q : Request} {result : FabricEngine × FabricOutcome}, Answer e op q result →
      result.1 = e ∨ ∀ setId, e.Invalidates path view result.1 setId := by
    intro q result answer
    have hnames : op.subject = none := by cases applied <;> rfl
    cases answer with
    | refused | replayed => exact .inl rfl
    | left _ _ named | answered _ named | committed _ named =>
        rw [hnames] at named
        cases named
    | superseded supersedes =>
        subst supersedes
        cases applied
    | created creates =>
        subst creates
        cases applied
    | @viewed registration directory path' view' outcome _ _ applied' _ _ _ =>
        have hsame : path' = path ∧ some view' = view := by cases applied <;> cases applied' <;> exact ⟨rfl, rfl⟩
        obtain ⟨rfl, rfl⟩ := hsame
        have hlinked : ({ e with directory := directory } : FabricEngine).Linked := linked.congr rfl rfl
        right
        intro setId
        have h := applyView_invalidates hlinked path' (some view') (some q.context) .pathInvalidated setId
        exact ⟨h.absent, h.passedBy, h.dependent⟩
  cases applied with
  | declare context view => exact hanswer (exec_answer e rfl)
  | apply context view => exact hanswer (exec_answer e rfl)
  | refresh context path view => exact hanswer (exec_answer e rfl)
  | reconcile path used =>
      change e.reconcilePath path used view = e ∨ ∀ setId, e.Invalidates path view (e.reconcilePath path used view) setId
      unfold reconcilePath
      by_cases h : view = used
      · rw [if_pos h]
        exact .inl rfl
      · rw [if_neg h]
        exact .inr (applyView_invalidates linked path view none .pathInvalidated)

end FabricEngine

def Op.targets : Op → List MultipathSetId
  | .abandonMemberRevalidation ticket => [ticket.setId]
  | op => op.names

def Op.sweeps : Op → Bool
  | .fenceWorker _ _ _ | .advanceEpoch _ _ _ _ _ | .loadStore _ _ => true
  | _ => false

theorem RecordEdit.targets {e : FabricEngine} {op : Op} {setId : MultipathSetId} {r x : SetRecord} {summary : Bytes}
    (edit : RecordEdit e setId r op x summary) (plain : op.views = false)
    (creates : ∀ context key options, op ≠ .createSet context key options) : setId ∈ op.targets := by
  cases edit with
  | abandoned ticket names => exact names ▸ List.mem_cons_self
  | collided context key options => exact absurd rfl (creates context key options)
  | observed applied | invalidated applied => cases applied <;> cases plain
  | added _ publication => cases publication <;> exact List.mem_cons_self
  | released _ _ _ names | completed _ _ _ names => exact names ▸ List.mem_cons_self
  | supersedes | supersedesRecorded => exact List.mem_cons_of_mem _ List.mem_cons_self
  | _ => exact List.mem_cons_self

namespace FabricEngine

theorem after_others {e : FabricEngine} {op : Op} {other : MultipathSetId} {r : SetRecord} (plain : op.views = false)
    (local_ : op.sweeps = false) (found : e.sets[other]? = some r) (untargeted : other ∉ op.targets)
    (fresh : ∀ context key options, op = .createSet context key options → e.sets[e.ids.nextSetId.1]? = none) :
    (e.after op).sets[other]? = some r := by
  have hstep := after_sets e op other
  rw [found] at hstep
  generalize (e.after op).sets[other]? = entry at hstep
  cases hstep with
  | kept => rfl
  | changed edit =>
      by_cases hcreates : ∀ context key options, op ≠ .createSet context key options
      · exact absurd (edit.targets plain hcreates) untargeted
      · push Not at hcreates
        obtain ⟨context, key, options, rfl⟩ := hcreates
        have hnone := fresh context key options rfl
        cases edit with
        | collided _ _ _ minted =>
            rw [minted, found] at hnone
            cases hnone
        | observed applied | invalidated applied => cases applied
        | added _ publication => cases publication
  | fenced fences =>
      subst fences
      cases local_
  | epochAdvanced advances =>
      subst advances
      cases local_
  | cleared loads | recovered loads =>
      subst loads
      cases local_

/-- In every reachable state a view touches exactly the dependents of its path, and an operation exactly its targets. -/
theorem invalidation_exact {config : FabricConfig} {e : FabricEngine} (run : Reachable config e) :
    (∀ path view context cause setId, e.Invalidates path view (e.applyView path view context cause).1 setId) ∧
    (∀ op path view context, op.Applies path view context →
      e.after op = e ∨ ∀ setId, e.Invalidates path view (e.after op) setId) ∧
    (∀ op other r, op.views = false → op.sweeps = false → e.sets[other]? = some r → other ∉ op.targets →
      (∀ context key options, op = .createSet context key options → e.sets[e.ids.nextSetId.1]? = none) →
        (e.after op).sets[other]? = some r) := by
  have hlinked := linked_of_run run
  refine ⟨applyView_invalidates hlinked, fun op path view context applied => after_viewed hlinked applied, ?_⟩
  intro op other r plain local_ found untargeted fresh
  exact after_others plain local_ found untargeted fresh

theorem invalidation_exact_sample : ∃ r m x, (sampleRun sampleSteps).sets[sampleSet]? = some r ∧
    r.members[samplePath]? = some m ∧
    ((sampleRun sampleSteps).applyView samplePath none none .pathInvalidated).1.sets[sampleSet]? = some x ∧
    Reevaluated r samplePath (m.evaluate r.conditionalAuthorityPermitted none false) x := by
  have hfound : ((sampleRun sampleSteps).sets[sampleSet]?.bind fun r =>
      r.members[samplePath]?.map fun _ => setIsFrozen r) = some false := by decide +kernel
  obtain ⟨r, hr, hrest⟩ := Option.bind_eq_some_iff.mp hfound
  obtain ⟨m, hm, hopen⟩ := Option.map_eq_some_iff.mp hrest
  have hview := (invalidation_exact (sampleRun_reachable sampleSteps)).1 samplePath none none .pathInvalidated sampleSet
  obtain ⟨x, hx, hevaluated⟩ := hview.dependent r m hr hopen hm
  exact ⟨r, m, x, hr, hm, hx, hevaluated⟩

end FabricEngine

end MultipathFabric
