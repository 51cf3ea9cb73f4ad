import MultipathFabric.Capacity
import MultipathFabric.Diff
import MultipathFabric.FreshIdentities
import MultipathFabric.Recovery

namespace MultipathFabric

open FabricEngine OrderedMap

namespace SetRecord

variable {r x : SetRecord} {limits : Limits}

structure Sane (limits : Limits) (r : SetRecord) : Prop where
  minimum : r.minimumUsableMembers ≤ limits.maxMembersPerSet
  retired : r.lifecycle = .retired → r.currentness ≠ .current

theorem Sane.congr (h : r.Sane limits) (minimum : x.minimumUsableMembers = r.minimumUsableMembers)
    (lifecycle : x.lifecycle = r.lifecycle) (currentness : x.currentness = r.currentness) : x.Sane limits := by
  constructor
  · rw [minimum]
    exact h.minimum
  · rw [lifecycle, currentness]
    exact h.retired

theorem recompute_retired (h : r.recompute.lifecycle = .retired) : r.lifecycle = .retired := by
  cases hopen : r.lifecycle.isOpen with
  | false =>
      rw [← recompute_closed hopen]
      exact h
  | true =>
      have hclosed := recompute_open hopen
      rw [h] at hclosed
      cases hclosed

theorem Sane.recompute (h : r.Sane limits) : r.recompute.Sane limits :=
  ⟨h.minimum, fun hretired => h.retired (recompute_retired hretired)⟩

theorem Sane.transition {event : SetEvent} (h : r.Sane limits) (moved : r.applyTransition event = .ok x) :
    x.Sane limits := by
  constructor
  · rw [applyTransition_frame moved]
    exact h.minimum
  · unfold applyTransition at moved
    split at moved
    all_goals cases moved
    · exact h.retired
    · exact h.recompute.retired
    · intro hretired
      have hopen := derivePublishedLifecycle_open r.recomputeUsableMembers r.minimumUsableMembers r.adminEnabled
      change derivePublishedLifecycle r.recomputeUsableMembers r.minimumUsableMembers r.adminEnabled = _ at hretired
      rw [hretired] at hopen
      cases hopen
    · intro hretired
      cases hretired
    · intro hretired
      cases hretired
    all_goals
      intro _ hcurrent
      cases hcurrent

theorem Sane.consequences (h : r.Sane limits) (e : FabricEngine) (source target : SetLifecycle)
    (context : Option MutationContext) : (applyMemberConsequences e r source target context).Sane limits := by
  rw [consequences_frame]
  exact h.congr rfl rfl rfl

theorem Sane.sealed_ {summary : Bytes} {bounds : Limits} (h : r.Sane limits) (stored : Sealed bounds r summary x) :
    x.Sane limits := by
  cases stored with
  | kept => exact h.congr rfl rfl rfl
  | @committed e context spec generation membershipGeneration =>
      unfold committed pruneArchive
      dsimp only
      split <;> exact h.congr rfl rfl rfl

end SetRecord

open SetRecord

theorem RecordEdit.sane {e : FabricEngine} {setId : MultipathSetId} {r x : SetRecord} {op : Op} {summary : Bytes}
    (edit : RecordEdit e setId r op x summary) (h : r.Sane e.limits) : x.Sane e.limits := by
  cases edit with
  | collided | supersedes | supersedesRecorded | begun | released | abandoned | observed => exact h.congr rfl rfl rfl
  | publish _ moved | minimumChecked _ _ moved | policyChecked _ _ moved | adminChecked _ _ moved
  | completeWithdrawal _ moved => exact h.transition moved
  | minimumChanged _ _ moved bound =>
      have hmoved := h.transition moved
      exact Sane.recompute ⟨bound, hmoved.retired⟩
  | policyChanged _ _ moved | adminChanged _ _ moved | removed _ _ _ _ _ _ moved
  | withdrewMember _ _ _ _ _ _ _ moved =>
      refine Sane.recompute ?_
      exact (h.transition moved).congr rfl rfl rfl
  | replaced _ _ _ _ _ _ _ _ _ _ _ _ _ moved =>
      unfold SetRecord.replaced
      refine Sane.recompute ?_
      exact (h.transition moved).congr rfl rfl rfl
  | withdraw _ _ _ moved =>
      refine Sane.consequences (Sane.recompute ?_) _ _ _ _
      exact (h.transition moved).congr rfl rfl rfl
  | retire _ _ _ moved | superseded _ _ _ moved | revoke _ _ _ _ _ moved =>
      refine Sane.consequences ?_ _ _ _ _
      exact (h.transition moved).congr rfl rfl rfl
  | added _ _ _ _ _ _ moved =>
      refine Sane.recompute ?_
      rw [publishMembers_frame]
      exact (h.transition moved).congr rfl rfl rfl
  | @revalidatedSet _ views allowed =>
      refine ⟨h.minimum, fun hretired => ?_⟩
      have hbefore : r.lifecycle = .retired := @recompute_retired { r with
        members := r.members.map fun _ m => SetRecord.revalidateMember r.conditionalAuthorityPermitted views m } hretired
      rw [hbefore] at allowed
      cases allowed
  | toggled | revalidatedMember | completed =>
      refine Sane.recompute ?_
      exact h.congr rfl rfl rfl
  | @invalidated _ path view _ m =>
      have hput : Sane e.limits
          { r with members := r.members.insert path (m.evaluate r.conditionalAuthorityPermitted view false) } :=
        h.congr rfl rfl rfl
      unfold FabricEngine.dependencyInvalidated
      dsimp only
      split <;> exact hput.recompute.congr rfl rfl rfl

namespace FabricEngine

variable {config : FabricConfig} {e e' : FabricEngine} {op : Op}

theorem sane_of_run (run : Reachable config e) {setId : MultipathSetId} {r : SetRecord} (found : e.sets[setId]? = some r) :
    r.Sane e.limits := by
  induction run generalizing setId r with
  | init ids =>
      rw [show (FabricEngine.init config ids).sets[setId]? = none from Std.ExtTreeMap.getElem?_empty] at found
      cases found
  | @step e run op _ ih =>
      have hlimits : (e.after op).limits = e.limits := (run.step op trivial).limits.trans run.limits.symm
      have hstep := e.after_sets op setId
      rw [found] at hstep
      generalize hentry : e.sets[setId]? = entry at hstep
      rw [hlimits]
      cases hstep with
      | kept => exact ih hentry
      | changed edit stored => exact (edit.sane (ih hentry)).sealed_ stored
      | created _ _ _ bound =>
          refine ⟨bound, fun hretired => ?_⟩
          cases hretired
      | fenced | epochAdvanced =>
          refine ⟨(ih hentry).minimum, fun _ hcurrent => ?_⟩
          cases hcurrent
      | recovered _ read stored =>
          refine ⟨((readAndDecode_within read).each _ stored).minimum, fun _ hcurrent => ?_⟩
          cases hcurrent

def KeyIndexed (e : FabricEngine) : Prop :=
  ∀ (key : SetKey) (setId : MultipathSetId), e.keyIndex[key]? = some setId ↔ ∃ r, e.sets[setId]? = some r ∧ r.key = key

theorem KeyIndexed.congr (h : e.KeyIndexed) (index : e'.keyIndex = e.keyIndex)
    (keys : ∀ setId : MultipathSetId, e'.sets[setId]?.map SetRecord.key = e.sets[setId]?.map SetRecord.key) :
    e'.KeyIndexed := by
  intro key setId
  rw [index, h key setId, ← Option.map_eq_some_iff, ← Option.map_eq_some_iff, keys]

theorem KeyIndexed.insert (h : e.KeyIndexed) {setId : MultipathSetId} {r : SetRecord} (free : e.keyIndex[r.key]? = none)
    (new : e.sets[setId]? = none) (index : e'.keyIndex = e.keyIndex.insert r.key setId)
    (sets : e'.sets = e.sets.insert setId r) : e'.KeyIndexed := by
  intro key other
  rw [index, sets, getElem?_insert_eq, getElem?_insert_eq]
  by_cases hid : setId = other
  · subst hid
    rw [if_pos rfl]
    by_cases hkey : r.key = key
    · rw [if_pos hkey]
      exact ⟨fun _ => ⟨r, rfl, hkey⟩, fun _ => rfl⟩
    · rw [if_neg hkey, h key setId, new]
      constructor
      · rintro ⟨_, hnone, _⟩
        cases hnone
      · rintro ⟨r', hr', hsame⟩
        cases hr'
        exact absurd hsame hkey
  · rw [if_neg hid]
    by_cases hkey : r.key = key
    · rw [if_pos hkey, ← h key other, ← hkey, free]
      constructor
      · intro hsame
        exact absurd (Option.some.inj hsame) hid
      · intro hnone
        cases hnone
    · rw [if_neg hkey]
      exact h key other

theorem after_keyIndex (plain : op.loads = false) (existing : ∀ context key options, op ≠ .createSet context key options) :
    (e.after op).keyIndex = e.keyIndex := by
  have hstep := after_engineStep e op
  generalize e.after op = e' at hstep ⊢
  cases hstep with
  | @answered q _ _ answer =>
      cases answer with
      | refused | replayed | left | answered => rfl
      | committed => exact ((prepared_keeps _ _ _).trans (sealedCommit_keeps _ _ _ _ _ _)).keyIndex
      | @superseded predecessor successor old new x spec outcome generation =>
          have hput := putSet_keeps e successor { new with supersedes := some predecessor }
          have hcommitted := hput.trans (sealedCommit_keeps _ predecessor
            (x.advanced generation old.membershipGeneration) q spec outcome)
          exact (hcommitted.trans (supersedeSuccessor_keeps _ _ _ _ _)).keyIndex
      | viewed => exact (applyView_keeps _ _).keyIndex
      | created creates => exact absurd creates (existing _ _ _)
  | viewed => exact (applyView_keeps _ _).keyIndex
  | fenced | epochAdvanced => exact (rewriteSets_keeps _ _ _).keyIndex
  | loaded loads =>
      rw [loads] at plain
      cases plain
  | unchanged | worked | released | registered | unregistered | bound => rfl

theorem after_keys (plain : op.loads = false) (existing : ∀ context key options, op ≠ .createSet context key options)
    (setId : MultipathSetId) :
    (e.after op).sets[setId]?.map SetRecord.key = e.sets[setId]?.map SetRecord.key := by
  have hstep := e.after_sets op setId
  generalize (e.after op).sets[setId]? = after at hstep ⊢
  generalize e.sets[setId]? = before at hstep ⊢
  cases hstep with
  | kept => rfl
  | changed edit stored =>
      have hkey := edit.sameHead.key
      cases stored with
      | kept => exact congrArg some hkey
      | committed =>
          refine congrArg some (Eq.trans ?_ hkey)
          unfold committed pruneArchive
          dsimp only
          split <;> rfl
  | created creates => exact absurd creates (existing _ _ _)
  | fenced | epochAdvanced => rfl
  | cleared loads | recovered loads =>
      rw [loads] at plain
      cases plain

theorem KeyIndexed.load (h : e.KeyIndexed) (path : Bytes) (files : StoreFiles) : (e.loadStore path files).1.KeyIndexed := by
  rcases loadStore_cases e path files with hsame | ⟨decoded, _, epoch, authority, _, _, _, hloaded⟩
  · rw [hsame]
    exact h
  · rw [hloaded]
    apply installSets_preserves (p := KeyIndexed)
    · intro x r _ hx hkey hid
      exact hx.insert (r := x.recoveredSet r) hkey hid (installSet_keyIndex x r) (installSet_sets x r)
    · intro key setId
      constructor
      · intro hindex
        cases (Std.ExtTreeMap.getElem?_empty.symm.trans hindex : none = some setId)
      · rintro ⟨r, hr, _⟩
        cases (Std.ExtTreeMap.getElem?_empty.symm.trans hr : none = some r)

theorem KeyIndexed.create (h : e.KeyIndexed) {context : MutationContext} {key : SetKey} {options : SetOptions}
    (new : e.sets[e.ids.nextSetId.1]? = none) : (e.after (.createSet context key options)).KeyIndexed := by
  obtain ⟨q, hrequest⟩ : ∃ q, Op.request (.createSet context key options) = some q := ⟨_, rfl⟩
  have hanswer := exec_answer e hrequest
  change (e.exec (.createSet context key options)).1.KeyIndexed
  generalize e.exec (.createSet context key options) = result at hanswer ⊢
  cases hanswer with
  | refused | replayed => exact h
  | left residual => cases residual
  | answered _ named | committed _ named => cases named
  | superseded supersedes => cases supersedes
  | viewed _ _ applied => cases applied
  | created creates _ _ free =>
      cases creates
      have hkey : (e.createdRecord q.context key options).key = key := by
        unfold createdRecord
        rw [new]
        rfl
      refine h.insert (r := e.createdRecord q.context key options) ?_ new ?_ ?_
      · rw [hkey]
        exact free
      · rw [hkey]
        exact (captureSnapshot_keeps _ _).keyIndex
      · change (captureSnapshot _ _).sets.insert _ _ = _
        rw [captureSnapshot_sets]

theorem KeyIndexed.after (h : e.KeyIndexed) (ahead : e.Ahead) (step : e.MintsAhead op) : (e.after op).KeyIndexed := by
  by_cases hloads : op.loads = true
  · cases op with
    | loadStore path files => exact h.load path files
    | _ => cases hloads
  · rw [Bool.not_eq_true] at hloads
    by_cases hcreates : ∃ context key options, op = .createSet context key options
    · obtain ⟨context, key, options, rfl⟩ := hcreates
      apply h.create
      cases hfound : e.sets[e.ids.nextSetId.1]? with
      | none => rfl
      | some r => exact absurd (IdFactory.next_awaited step.lasts .set) (ahead _ r hfound).1
    · have hother : ∀ context key options, op ≠ .createSet context key options :=
        fun context key options hop => hcreates ⟨context, key, options, hop⟩
      exact h.congr (after_keyIndex hloads hother) (after_keys hloads hother)

/-- The step neither mints nor loads an identity twice, logs no attempt twice, and puts no successor in the place of a
record. -/
structure KeepsIntegrity (e : FabricEngine) (op : Op) : Prop where
  mints : e.MintsAhead op
  fresh : e.FreshCompletion op
  spares : ∀ (q : Request) (setId : MultipathSetId) (r : SetRecord), e.Passes op q setId r → ¬op.overwrites r

theorem balanced_after (counted : e.Counted)
    (spares : ∀ (q : Request) (setId : MultipathSetId) (r : SetRecord), e.Passes op q setId r → ¬op.overwrites r)
    (h : memberRecords e.sets = e.totalMembers) : memberRecords (e.after op).sets = (e.after op).totalMembers := by
  have hstep := after_engineStep e op
  by_cases hplain : ∀ (setId : MultipathSetId) (r : SetRecord), op.subject = some setId → e.sets[setId]? = some r →
      ¬op.overwrites r
  · exact (hstep.counted counted).2 hplain h
  · simp only [not_forall, not_not] at hplain
    obtain ⟨target, standing, hsubject, hstanding, hoverwrites⟩ := hplain
    cases op with
    | replaceMember context setId memberId request reason view =>
        obtain rfl : setId = target := Option.some.inj hsubject
        generalize e.after (.replaceMember context setId memberId request reason view) = e' at hstep ⊢
        cases hstep with
        | unchanged => exact h
        | answered requested answer =>
            cases answer with
            | refused | replayed => exact h
            | left residual => cases residual
            | answered _ named found _ _ _ _ _ idles =>
                cases named
                have hsame := idles
                subst hsame
                change memberRecords (e.sets.insert setId _) = e.totalMembers
                rw [insert_of_some found]
                exact h
            | @committed _ r _ _ _ generation _ admitted named found edit expects room next =>
                cases named
                rw [hstanding] at found
                cases found
                have hnext : standing.generation.next.isSome = true := by
                  rw [next]
                  rfl
                exact absurd hoverwrites (spares _ _ _
                  ⟨requested, admitted, rfl, hstanding, edit.checks, expects, room, hnext⟩)
            | superseded supersedes => cases supersedes
            | viewed _ _ applied => cases applied
            | created creates => cases creates
        | worked request | released request | registered request | unregistered request | fenced request
        | epochAdvanced request | bound request => cases request
        | viewed applied => cases applied
        | loaded loads => cases loads
    | _ => exact hoverwrites.elim

/-- The counts are exact, the indexes are the inverses of the tables that they index, and the report says so. -/
structure Integrity (e : FabricEngine) : Prop where
  members : e.totalMembers = memberRecords e.sets
  indexed : ∀ (setId : MultipathSetId) (r : SetRecord), e.sets[setId]? = some r →
    ∀ (id : MultipathMemberId) (path : PathId), r.memberIndex[id]? = some path ↔ ∃ m, r.members[path]? = some m ∧ m.id = id
  dependents : ∀ (path : PathId) (setId : MultipathSetId),
    setId ∈ e.dependents path ↔ ∃ r, e.sets[setId]? = some r ∧ path ∈ r.members
  keys : e.KeyIndexed
  usable : ∀ (setId : MultipathSetId) (r : SetRecord), e.sets[setId]? = some r → r.usableMemberCount = usableCount r.members
  attempts : e.Logged
  problems : e.checkIntegrity.problems = []
  consistent : e.checkIntegrity.consistent = true

theorem problemIf_nil {broken : Bool} (h : broken = false) (problem : Bytes) : problemIf broken problem = [] := by
  rw [h]
  rfl

theorem index_size {r : SetRecord} (indexed : ∀ (id : MultipathMemberId) (path : PathId),
    r.memberIndex[id]? = some path ↔ ∃ m, r.members[path]? = some m ∧ m.id = id) :
    r.members.size = r.memberIndex.size := by
  apply Nat.le_antisymm
  · have hle : r.members.size ≤ (r.memberIndex.toList.map Prod.snd).length := by
      apply size_le_length
      intro path hpath
      obtain ⟨m, hm⟩ := exists_of_mem hpath
      have hentry := Std.ExtTreeMap.mem_toList_iff_getElem?_eq_some.mpr ((indexed m.id path).mpr ⟨m, hm, rfl⟩)
      exact List.mem_map.mpr ⟨_, hentry, rfl⟩
    rw [List.length_map, Std.ExtTreeMap.length_toList] at hle
    exact hle
  · have hle : r.memberIndex.size ≤ (r.members.toList.map fun entry => entry.2.id).length := by
      apply size_le_length
      intro id hid
      obtain ⟨path, hpath⟩ := exists_of_mem hid
      obtain ⟨m, hm, rfl⟩ := (indexed id path).mp hpath
      exact List.mem_map.mpr ⟨_, Std.ExtTreeMap.mem_toList_iff_getElem?_eq_some.mpr hm, rfl⟩
    rw [List.length_map, Std.ExtTreeMap.length_toList] at hle
    exact hle

variable {setId : MultipathSetId} {r : SetRecord}

theorem memberProblems_nil (found : e.sets[setId]? = some r) (linked : e.Linked) (placed : r.Placed)
    (indexed : ∀ (id : MultipathMemberId) (path : PathId),
      r.memberIndex[id]? = some path ↔ ∃ m, r.members[path]? = some m ∧ m.id = id)
    {path : PathId} {m : MemberRecord} (hm : r.members[path]? = some m) : e.memberProblems r path m = [] := by
  have hplace : (m.pathId != path) = false := by
    rw [bne_eq_false_iff_eq]
    exact placed path m hm
  have hindex : (r.memberIndex[m.id]? != some path) = false := by
    rw [bne_eq_false_iff_eq]
    exact (indexed m.id path).mpr ⟨m, hm, rfl⟩
  have hdepends : r.id ∈ e.dependents path := by
    rw [linked.keyed setId r found]
    exact (linked.depends path setId).mpr ⟨r, found, mem_of_getElem? hm⟩
  unfold memberProblems
  dsimp only
  rw [problemIf_nil hplace, problemIf_nil hindex, List.nil_append, List.nil_append]
  apply problemIf_nil
  unfold dependents InvertedIndex.owners at hdepends
  cases hentry : e.pathDependents[path]? with
  | none =>
      rw [hentry] at hdepends
      exact absurd hdepends Std.ExtTreeSet.not_mem_empty
  | some owners =>
      rw [hentry] at hdepends
      change (!owners.contains r.id) = false
      rw [Bool.not_eq_false']
      exact Std.ExtTreeSet.mem_iff_contains.mp hdepends

theorem setProblems_nil (found : e.sets[setId]? = some r) (linked : e.Linked) (placed : r.Placed)
    (indexed : ∀ (id : MultipathMemberId) (path : PathId),
      r.memberIndex[id]? = some path ↔ ∃ m, r.members[path]? = some m ∧ m.id = id)
    (keys : e.KeyIndexed) (usable : r.usableMemberCount = usableCount r.members) (sane : r.Sane e.limits) :
    e.setProblems r = [] := by
  have hkey : (e.keyIndex[r.key]? != some r.id) = false := by
    rw [bne_eq_false_iff_eq, linked.keyed setId r found]
    exact (keys r.key setId).mpr ⟨r, found, rfl⟩
  have husable : (r.recomputeUsableMembers != r.usableMemberCount) = false := by
    rw [bne_eq_false_iff_eq]
    exact usable.symm
  have hsize : (r.members.size != r.memberIndex.size) = false := by
    rw [bne_eq_false_iff_eq]
    exact index_size indexed
  have hminimum : decide (e.limits.maxMembersPerSet < r.minimumUsableMembers) = false := by
    rw [decide_eq_false_iff_not]
    exact UInt64.not_lt.mpr sane.minimum
  have hpublished : (!r.published && r.lifecycle != .declared) = false := by
    unfold SetRecord.published
    cases r.lifecycle <;> rfl
  have hretired : (r.lifecycle == .retired && r.currentness == .current) = false := by
    rw [Bool.and_eq_false_iff, beq_eq_false_iff_ne, beq_eq_false_iff_ne]
    by_cases hlifecycle : r.lifecycle = .retired
    · exact .inr (sane.retired hlifecycle)
    · exact .inl hlifecycle
  unfold setProblems
  dsimp only
  rw [problemIf_nil husable, problemIf_nil hsize, problemIf_nil hminimum, problemIf_nil hpublished,
    problemIf_nil hretired, problemIf_nil hkey]
  change (r.members.toList.flatMap fun entry => e.memberProblems r entry.1 entry.2) = []
  rw [List.flatMap_eq_nil_iff]
  intro entry hentry
  exact memberProblems_nil found linked placed indexed (Std.ExtTreeMap.mem_toList_iff_getElem?_eq_some.mp hentry)

theorem dependentProblems_nil (linked : e.Linked) {path : PathId} {owners : Std.ExtTreeSet MultipathSetId}
    (entry : e.pathDependents[path]? = some owners) (owner : setId ∈ owners) : e.dependentProblems path setId = [] := by
  have hdepends : setId ∈ e.dependents path := by
    unfold dependents InvertedIndex.owners
    rw [entry]
    exact owner
  obtain ⟨r, hr, hpath⟩ := (linked.depends path setId).mp hdepends
  unfold dependentProblems
  rw [hr]
  apply problemIf_nil
  rw [Bool.not_eq_false']
  exact Std.ExtTreeMap.mem_iff_contains.mp hpath

theorem balanced_of_run (run : Run KeepsIntegrity config e) :
    e.Counted ∧ memberRecords e.sets = e.totalMembers := by
  induction run with
  | init ids => exact ⟨(bounded_init config ids).counted, total_empty _⟩
  | step _ op keeps ih => exact ⟨((after_engineStep _ op).counted ih.1).1, balanced_after ih.1 keeps.spares ih.2⟩

theorem keyIndexed_of_run (run : Run MintsAhead config e) : e.KeyIndexed := by
  induction run with
  | init ids =>
      intro key setId
      constructor
      · intro hindex
        cases (Std.ExtTreeMap.getElem?_empty.symm.trans hindex : none = some setId)
      · rintro ⟨r, hr, _⟩
        cases (Std.ExtTreeMap.getElem?_empty.symm.trans hr : none = some r)
  | step run op mints ih => exact ih.after (ahead_of_run run) mints

/-- In every state of a run whose steps are such, the counts are exact and the indexes inverse, and the report names no
problem. -/
theorem integrity_of_run (h : Run (TakenUp KeepsIntegrity) config e) : e.Integrity := by
  have run := h.takenUp
  have hrun := run.reachable
  have hmints : Run MintsAhead config e := run.mono fun _ _ keeps => keeps.mints
  have hlogged : e.Logged := logged_of_run (run.mono fun _ _ keeps => keeps.fresh)
  have hahead := ahead_of_run hmints
  have hkeys := keyIndexed_of_run hmints
  have hbalanced := (balanced_of_run run).2
  have hlinked := linked_of_run hrun
  have hindexed : ∀ (setId : MultipathSetId) (r : SetRecord), e.sets[setId]? = some r →
      ∀ (id : MultipathMemberId) (path : PathId),
        r.memberIndex[id]? = some path ↔ ∃ m, r.members[path]? = some m ∧ m.id = id := by
    intro setId r hr id path
    constructor
    · exact found_of_run hrun setId r hr id path
    · rintro ⟨m, hm, rfl⟩
      exact (hahead setId r hr).2.listed path m hm
  have hproblems : e.checkIntegrity.problems = [] := by
    unfold checkIntegrity
    dsimp only
    have hcounted : ((e.sets.toList.map fun entry => entry.2.members.size).sum != e.totalMembers) = false := by
      rw [bne_eq_false_iff_eq]
      exact hbalanced
    rw [problemIf_nil hcounted, List.append_nil, List.append_eq_nil_iff, List.append_eq_nil_iff]
    refine ⟨⟨?_, ?_⟩, ?_⟩
    all_goals
      rw [List.flatMap_eq_nil_iff]
      intro entry hentry
    · have hfound := Std.ExtTreeMap.mem_toList_iff_getElem?_eq_some.mp hentry
      exact setProblems_nil hfound hlinked (placed_of_run hrun hfound) (hindexed _ _ hfound) hkeys
        (counted_of_run hrun _ _ hfound) (sane_of_run hrun hfound)
    · rw [List.flatMap_eq_nil_iff]
      intro setId hsetId
      exact dependentProblems_nil hlinked (Std.ExtTreeMap.mem_toList_iff_getElem?_eq_some.mp hentry)
        (Std.ExtTreeSet.mem_toList.mp hsetId)
    · apply problemIf_nil
      obtain ⟨a, ha, hattempt, _⟩ :=
        (hlogged.marks _ _).mp (Std.ExtTreeMap.mem_toList_iff_getElem?_eq_some.mp hentry)
      rw [Bool.not_eq_false', List.any_eq_true]
      exact ⟨a, ha, beq_iff_eq.mpr hattempt⟩
  refine ⟨hbalanced.symm, hindexed, hlinked.depends, hkeys, counted_of_run hrun, hlogged, hproblems, ?_⟩
  change e.checkIntegrity.problems.isEmpty = true
  rw [hproblems]
  rfl

end FabricEngine

theorem keepsIntegrity_of_plain {e : FabricEngine} {op : Op} (plain : op.loads = false) (lasts : e.ids.Lasts op.mints)
    (replays : op.unreplayed = false) (spares : ∀ r, ¬op.overwrites r) : e.KeepsIntegrity op :=
  ⟨mintsAhead_of_plain plain lasts, freshCompletion_of_replays replays e, fun _ _ r _ => spares r⟩

theorem integrity_of_run_sample : (sampleRun sampleSteps).Integrity := by
  refine @integrity_of_run sampleConfig _ (.step (.step (.step (.step (.init sampleIds) _ fun _ => ?_) _ fun _ => ?_) _
    fun _ => ?_) _ fun _ => ?_)
  all_goals
    refine keepsIntegrity_of_plain rfl ?_ rfl fun _ h => h
    unfold IdFactory.Lasts
    decide +kernel

def returnSteps : List Op :=
  sampleSteps ++
    [.withdrawMember (sampleContext "a4") sampleSet sampleMember [],
    .addMember (sampleContext "a5") sampleSet ⟨sampleId "pathB", .first⟩ (some ⟨sampleId "pathB", .first, .authorized⟩),
    .replaceMember (sampleContext "a6") sampleSet (sampleId "mpf-mem-7f-3") sampleRequest [] (some sampleView)]

/-- A successor that takes over the path of an archived relation is counted twice. -/
theorem integrity_of_run_fails : ¬∀ config e, Reachable config e → e.Integrity := by
  intro h
  have hcounts : memberRecords (sampleRun returnSteps).sets = 2 ∧ (sampleRun returnSteps).totalMembers = 3 := by
    decide +kernel
  have hmembers := (h sampleConfig _ (sampleRun_reachable returnSteps)).members
  omega

end MultipathFabric
