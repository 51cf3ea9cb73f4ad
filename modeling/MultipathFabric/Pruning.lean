import MultipathFabric.Attempts
import MultipathFabric.Capacity
import MultipathFabric.MemberChange
import MultipathFabric.PathIndex
import MultipathFabric.Verdicts

namespace MultipathFabric

open OrderedMap FabricEngine

def archiveRank (r : SetRecord) (path : PathId) : ℕ := (archivedPaths r).countP fun other => (compare other path).isLT

def archiveExcess (limits : Limits) (r : SetRecord) : ℕ :=
  (archivedPaths r).length - limits.maxArchivedMembersPerSet.toNat

theorem archivedPaths_iff {r : SetRecord} {path : PathId} :
    path ∈ archivedPaths r ↔ ∃ m, r.members[path]? = some m ∧ memberIsTerminal m = true := by
  refine ⟨mem_archivedPaths, ?_⟩
  rintro ⟨m, hm, hterminal⟩
  refine List.mem_map.mpr ⟨(path, m), List.mem_filter.mpr ⟨?_, hterminal⟩, rfl⟩
  exact Std.ExtTreeMap.mem_toList_iff_getElem?_eq_some.mpr hm

theorem archivedPaths_sorted (r : SetRecord) : (archivedPaths r).Pairwise fun a b => (compare a b).isLT = true := by
  unfold archivedPaths
  rw [List.pairwise_map]
  have hordered := @Std.ExtTreeMap.ordered_keys_toList _ _ _ r.members _
  exact (hordered.filter _).imp fun h => by rw [h]; rfl

theorem mem_take_iff_rank {paths : List PathId} (sorted : paths.Pairwise fun a b => (compare a b).isLT = true)
    {path : PathId} (h : path ∈ paths) (k : ℕ) :
    path ∈ paths.take k ↔ paths.countP (fun other => (compare other path).isLT) < k := by
  induction paths generalizing k with
  | nil => cases h
  | cons a rest ih =>
      rw [List.pairwise_cons] at sorted
      cases k with
      | zero => simp
      | succ k =>
          rw [List.take_succ_cons, List.mem_cons, List.countP_cons]
          rcases List.mem_cons.mp h with rfl | hrest
          · have hnone : rest.countP (fun other => (compare other path).isLT) = 0 := by
              rw [List.countP_eq_zero]
              intro other hother hbelow
              have habove := sorted.1 other hother
              have hswap : compare other path = (compare path other).swap := Std.OrientedCmp.eq_swap
              rw [hswap] at hbelow
              cases hcompare : compare path other <;> rw [hcompare] at habove hbelow
              · cases hbelow
              · cases habove
              · cases habove
            rw [hnone, Std.compare_self]
            simp
          · have hbelow := sorted.1 path hrest
            have hne : path ≠ a := by
              rintro rfl
              rw [Std.compare_self] at hbelow
              cases hbelow
            rw [if_pos hbelow, ih sorted.2 hrest]
            constructor
            · rintro (heq | hlt)
              · exact absurd heq hne
              · omega
            · intro hlt
              right
              omega

theorem mem_pruneVictims_iff {limits : Limits} {r : SetRecord} {path : PathId} :
    path ∈ pruneVictims limits r ↔ path ∈ archivedPaths r ∧ archiveRank r path < archiveExcess limits r := by
  constructor
  · intro h
    have harchived := List.mem_of_mem_take h
    exact ⟨harchived, (mem_take_iff_rank (archivedPaths_sorted r) harchived _).mp h⟩
  · rintro ⟨harchived, hrank⟩
    exact (mem_take_iff_rank (archivedPaths_sorted r) harchived _).mpr hrank

section Records

variable {limits : Limits} {r : SetRecord} {path : PathId} {id : MultipathMemberId}

@[simp] theorem clearLineage_nil (m : MemberRecord) : m.clearLineage [] = m := by
  have hkeeps (reference : Option MultipathMemberId) :
      reference.filter (fun id => !([] : List MultipathMemberId).contains id) = reference := by
    cases reference <;> rfl
  unfold MemberRecord.clearLineage
  rw [hkeeps, hkeeps]

theorem pruneArchive_getElem? (limits : Limits) (r : SetRecord) (path : PathId) :
    (r.pruneArchive limits).members[path]? =
      if path ∈ pruneVictims limits r then none
      else r.members[path]?.map fun m => m.clearLineage (victimIds r (pruneVictims limits r)) := by
  unfold SetRecord.pruneArchive
  dsimp only
  split
  · rename_i hempty
    rw [List.isEmpty_iff] at hempty
    rw [pruneVictims_nil (List.isEmpty_iff.mpr hempty), if_neg List.not_mem_nil]
    change r.members[path]? = r.members[path]?.map fun m => m.clearLineage []
    simp
  · rw [getElem?_mapValues, getElem?_eraseAll]
    split <;> rfl

theorem mem_victimIds {victims : List PathId} :
    id ∈ victimIds r victims ↔ ∃ path ∈ victims, ∃ m, r.members[path]? = some m ∧ m.id = id := by
  unfold victimIds
  rw [List.mem_filterMap]
  constructor
  · rintro ⟨path, hpath, hid⟩
    obtain ⟨m, hm, rfl⟩ := Option.map_eq_some_iff.mp hid
    exact ⟨path, hpath, m, hm, rfl⟩
  · rintro ⟨path, hpath, m, hm, rfl⟩
    exact ⟨path, hpath, by rw [hm]; rfl⟩

theorem pruneArchive_memberIndex (limits : Limits) (r : SetRecord) (id : MultipathMemberId) :
    (r.pruneArchive limits).memberIndex[id]? =
      if id ∈ victimIds r (pruneVictims limits r) then none else r.memberIndex[id]? := by
  unfold SetRecord.pruneArchive
  dsimp only
  split
  · rename_i hempty
    rw [List.isEmpty_iff.mp hempty, if_neg List.not_mem_nil]
  · rw [getElem?_eraseAll]

theorem pruneVictims_length (limits : Limits) (r : SetRecord) :
    (pruneVictims limits r).length = archiveExcess limits r := by
  unfold pruneVictims archiveExcess
  rw [List.length_take]
  omega

end Records

def archivedAt (entry : Option SetRecord) (path : PathId) : Option MultipathMemberId :=
  entry.bind fun r => (r.members[path]?.filter memberIsTerminal).map MemberRecord.id

/-- The step in which the relation archived under a path of `entry` has ended: an earlier one if it is the one that
was archived before, else the step that follows `n` others. -/
def endedBy (e : FabricEngine) (n : ℕ) (ended : MultipathSetId → PathId → ℕ) (setId : MultipathSetId)
    (entry : Option SetRecord) (path : PathId) : ℕ :=
  if archivedAt entry path = archivedAt e.sets[setId]? path then ended setId path else n + 1

inductive Timed (config : FabricConfig) : FabricEngine → ℕ → (MultipathSetId → PathId → ℕ) → Prop
  | init (ids : IdFactory) : Timed config (.init config ids) 0 fun _ _ => 0
  | step {e : FabricEngine} {n : ℕ} {ended : MultipathSetId → PathId → ℕ} (timed : Timed config e n ended) (op : Op) :
      Timed config (e.after op) (n + 1) fun setId path =>
        endedBy e n ended setId (e.after op).sets[setId]? path

section Timing

variable {config : FabricConfig} {e : FabricEngine} {n : ℕ} {ended : MultipathSetId → PathId → ℕ}

theorem Timed.reachable (timed : Timed config e n ended) : Reachable config e := by
  induction timed with
  | init ids => exact .init ids
  | step _ op ih => exact .step ih op trivial

theorem timed_of_run (run : Reachable config e) : ∃ n ended, Timed config e n ended := by
  induction run with
  | init ids => exact ⟨0, _, .init ids⟩
  | step _ op _ ih =>
      obtain ⟨n, ended, htimed⟩ := ih
      exact ⟨n + 1, _, .step htimed op⟩

theorem Timed.ended_le (timed : Timed config e n ended) (setId : MultipathSetId) (path : PathId) :
    ended setId path ≤ n := by
  induction timed with
  | init => exact Nat.le_refl 0
  | step _ op ih =>
      change (if _ then _ else _) ≤ _
      split
      · exact Nat.le_succ_of_le ih
      · exact Nat.le_refl _

end Timing

def Removes (y r' : SetRecord) (path : PathId) (m : MemberRecord) : Prop :=
  y.members[path]? = some m ∧ path ∉ r'.members

def Clears (y r' : SetRecord) (old new : Option MultipathMemberId) : Prop :=
  new = old ∨ new = none ∧ ∃ path m, Removes y r' path m ∧ old = some m.id

def SetRecord.Indexes (r : SetRecord) : Prop :=
  ∀ (path : PathId) (m : MemberRecord), r.members[path]? = some m → r.memberIndex[m.id]? = some path

/-- The record `y`, which the engine `base` commits to the set, is pruned exactly in the record `r'` of the engine `e'`:
it loses the relations beyond the bound that have ended first, and nothing else. -/
structure ExactlyPruned (base e' : FabricEngine) (setId : MultipathSetId) (y r' : SetRecord) (ended : PathId → ℕ) :
    Prop where
  live : ∀ (path : PathId) (m : MemberRecord), y.members[path]? = some m → memberIsTerminal m = false → path ∈ r'.members
  excess : r'.members.size + archiveExcess base.limits y = y.members.size
  earliest : ∀ path m other, Removes y r' path m → other ∈ archivedPaths r' → ended path ≤ ended other
  survivors : ∀ (path : PathId) (m' : MemberRecord), r'.members[path]? = some m' → ∃ m, y.members[path]? = some m ∧
    m' = { m with predecessor := m'.predecessor, successor := m'.successor } ∧
    Clears y r' m.predecessor m'.predecessor ∧ Clears y r' m.successor m'.successor
  dangling : ∀ (path other : PathId) (m' m : MemberRecord), r'.members[path]? = some m' → Removes y r' other m →
    m'.predecessor ≠ some m.id ∧ m'.successor ≠ some m.id
  dependents : ∀ path, setId ∈ e'.dependents path ↔ path ∈ r'.members
  found : r'.Found
  indexed : y.Indexes → r'.Indexes
  counted : base.totalMembers = memberRecords (base.sets.insert setId y) → e'.totalMembers = memberRecords e'.sets

namespace FabricEngine

inductive Prunes (e : FabricEngine) (op : Op) (setId : MultipathSetId) : FabricEngine → SetRecord → Prop
  | commit {q : Request} {r x : SetRecord} {spec : CommitSpec} {outcome : FabricOutcome}
      {generation : MultipathSetGeneration} {membershipGeneration : MembershipGeneration}
      (found : e.sets[setId]? = some r) (edit : RecordEdit e setId r op x spec.summary)
      (ends : e.exec op = ((e.prepared r op).sealedCommit setId (x.advanced generation membershipGeneration) q spec outcome,
        outcome)) :
      Prunes e op setId (e.prepared r op)
        { x.advanced generation membershipGeneration with
          provenance := makeProvenance q.context spec.cause (x.advanced generation membershipGeneration) }
  | succession {q : Request} {successor : MultipathSetId} {old new x : SetRecord} {spec : CommitSpec}
      {outcome : FabricOutcome} {generation : MultipathSetGeneration} {membershipGeneration : MembershipGeneration}
      (distinct : setId ≠ successor) (found : e.sets[setId]? = some old) (foundNew : e.sets[successor]? = some new)
      (edit : RecordEdit e setId old op x spec.summary)
      (ends : e.exec op = (((e.putSet successor { new with supersedes := some setId }).sealedCommit setId
        (x.advanced generation membershipGeneration) q spec outcome).supersedeSuccessor q.context setId successor
          { new with supersedes := some setId }, outcome)) :
      Prunes e op setId (e.putSet successor { new with supersedes := some setId })
        { x.advanced generation membershipGeneration with
          provenance := makeProvenance q.context spec.cause (x.advanced generation membershipGeneration) }

end FabricEngine

/-- No relation that is archived beyond the cut in path order has ended before one that is archived within it. -/
def EndsInOrder (limits : Limits) (y : SetRecord) (ended : PathId → ℕ) : Prop :=
  ∀ path ∈ archivedPaths y, ∀ other ∈ archivedPaths y, archiveRank y path < archiveExcess limits y →
    archiveExcess limits y ≤ archiveRank y other → ended path ≤ ended other

structure Stores (base e' : FabricEngine) (setId : MultipathSetId) (y r' : SetRecord) : Prop where
  stored : e'.sets[setId]? = some r'
  members : r'.members = (y.pruneArchive base.limits).members
  index : r'.memberIndex = (y.pruneArchive base.limits).memberIndex
  total : e'.totalMembers = base.totalMembers - archiveExcess base.limits y
  records : memberRecords e'.sets = memberRecords (base.sets.insert setId r')

section Exactness

variable {base e' : FabricEngine} {setId : MultipathSetId} {y r' : SetRecord} {path : PathId} {m : MemberRecord}

theorem Stores.removes (h : Stores base e' setId y r') : Removes y r' path m ↔
    y.members[path]? = some m ∧ path ∈ pruneVictims base.limits y := by
  unfold Removes
  rw [h.members, pruneArchive_mem]
  constructor
  · rintro ⟨hm, hgone⟩
    refine ⟨hm, ?_⟩
    by_contra hkept
    exact hgone ⟨hkept, mem_of_getElem? hm⟩
  · rintro ⟨hm, hvictim⟩
    exact ⟨hm, fun h => h.1 hvictim⟩

theorem Stores.survivor (h : Stores base e' setId y r') {m' : MemberRecord} (found : r'.members[path]? = some m') :
    path ∉ pruneVictims base.limits y ∧ ∃ m, y.members[path]? = some m ∧
      m' = m.clearLineage (victimIds y (pruneVictims base.limits y)) := by
  rw [h.members, pruneArchive_getElem?] at found
  split at found
  · cases found
  · rename_i hkept
    obtain ⟨m, hm, rfl⟩ := Option.map_eq_some_iff.mp found
    exact ⟨hkept, m, hm, rfl⟩

theorem Stores.victim (h : Stores base e' setId y r') {id : MultipathMemberId} :
    id ∈ victimIds y (pruneVictims base.limits y) ↔ ∃ path m, Removes y r' path m ∧ m.id = id := by
  rw [mem_victimIds]
  constructor
  · rintro ⟨path, hpath, m, hm, hid⟩
    exact ⟨path, m, h.removes.mpr ⟨hm, hpath⟩, hid⟩
  · rintro ⟨path, m, hremoves, hid⟩
    obtain ⟨hm, hpath⟩ := h.removes.mp hremoves
    exact ⟨path, hpath, m, hm, hid⟩

theorem Stores.clears (h : Stores base e' setId y r') (reference : Option MultipathMemberId) :
    Clears y r' reference
      (reference.filter fun id => !(victimIds y (pruneVictims base.limits y)).contains id) := by
  cases reference with
  | none => exact .inl rfl
  | some id =>
      by_cases hid : id ∈ victimIds y (pruneVictims base.limits y)
      · obtain ⟨path, m, hremoves, rfl⟩ := h.victim.mp hid
        refine .inr ⟨?_, path, m, hremoves, rfl⟩
        rw [Option.filter_some, List.contains_iff_mem.mpr hid]
        rfl
      · refine .inl ?_
        rw [Option.filter_some, Bool.eq_false_iff.mpr fun h => hid (List.contains_iff_mem.mp h)]
        rfl

theorem Stores.dangles (h : Stores base e' setId y r') {reference : Option MultipathMemberId}
    (removes : Removes y r' path m) :
    reference.filter (fun id => !(victimIds y (pruneVictims base.limits y)).contains id) ≠ some m.id := by
  intro hkept
  obtain ⟨_, hnot⟩ := Option.filter_eq_some_iff.mp hkept
  rw [List.contains_iff_mem.mpr (h.victim.mpr ⟨path, m, removes, rfl⟩)] at hnot
  cases hnot

theorem exactlyPruned_iff (h : Stores base e' setId y r') {old : SetRecord} (known : base.sets[setId]? = some old)
    (linked : e'.Linked) (found : r'.Found) (ended : PathId → ℕ) :
    ExactlyPruned base e' setId y r' ended ↔ EndsInOrder base.limits y ended := by
  have hsize : r'.members.size + archiveExcess base.limits y = y.members.size := by
    rw [h.members, ← pruneVictims_length]
    exact pruneArchive_size base.limits y
  have harchived {other : PathId} :
      other ∈ archivedPaths r' ↔ other ∈ archivedPaths y ∧ other ∉ pruneVictims base.limits y := by
    rw [archivedPaths_iff, archivedPaths_iff]
    constructor
    · rintro ⟨m', hm', hterminal⟩
      obtain ⟨hkept, m, hm, rfl⟩ := h.survivor hm'
      exact ⟨⟨m, hm, hterminal⟩, hkept⟩
    · rintro ⟨⟨m, hm, hterminal⟩, hkept⟩
      refine ⟨m.clearLineage (victimIds y (pruneVictims base.limits y)), ?_, hterminal⟩
      rw [h.members, pruneArchive_getElem?, if_neg hkept, hm]
      rfl
  constructor
  · intro hexact path hpath other hother hrank hother'
    obtain ⟨m, hm, _⟩ := archivedPaths_iff.mp hpath
    refine hexact.earliest path m other (h.removes.mpr ⟨hm, mem_pruneVictims_iff.mpr ⟨hpath, hrank⟩⟩) ?_
    rw [harchived, mem_pruneVictims_iff]
    exact ⟨hother, fun hvictim => Nat.not_lt.mpr hother' hvictim.2⟩
  · intro hordered
    refine ⟨?_, hsize, ?_, ?_, ?_, linked.own h.stored, found, ?_, ?_⟩
    · intro path m hm hlive
      rw [h.members, pruneArchive_mem]
      refine ⟨fun hvictim => ?_, mem_of_getElem? hm⟩
      obtain ⟨m', hm', hterminal⟩ := mem_pruneVictims hvictim
      rw [hm] at hm'
      cases hm'
      rw [hlive] at hterminal
      cases hterminal
    · intro path m other hremoves hother
      obtain ⟨hpath, hrank⟩ := mem_pruneVictims_iff.mp (h.removes.mp hremoves).2
      obtain ⟨hother, hkept⟩ := harchived.mp hother
      refine hordered path hpath other hother hrank (Nat.not_lt.mp fun hlt => hkept ?_)
      exact mem_pruneVictims_iff.mpr ⟨hother, hlt⟩
    · intro path m' hm'
      obtain ⟨_, m, hm, rfl⟩ := h.survivor hm'
      exact ⟨m, hm, rfl, h.clears _, h.clears _⟩
    · intro path other m' m hm' hremoves
      obtain ⟨_, m₀, _, rfl⟩ := h.survivor hm'
      exact ⟨h.dangles hremoves, h.dangles hremoves⟩
    · intro hindexes path m' hm'
      obtain ⟨hkept, m, hm, rfl⟩ := h.survivor hm'
      have hindexed := hindexes path m hm
      change r'.memberIndex[m.id]? = some path
      rw [h.index, pruneArchive_memberIndex, if_neg, hindexed]
      intro hvictim
      obtain ⟨other, m₀, hremoves, hid⟩ := h.victim.mp hvictim
      obtain ⟨hm₀, hother⟩ := h.removes.mp hremoves
      have hsame := hindexes other m₀ hm₀
      rw [hid, hindexed] at hsame
      cases hsame
      exact hkept hother
    · intro hcounted
      have hy := @memberRecords_insert setId old y base.sets known
      have hr' := @memberRecords_insert setId old r' base.sets known
      rw [h.total, h.records, hcounted]
      omega

end Exactness

namespace FabricEngine

variable {config : FabricConfig} {e base e' : FabricEngine} {n : ℕ} {ended : MultipathSetId → PathId → ℕ} {op : Op}
  {setId : MultipathSetId} {y : SetRecord}

theorem sealedCommit_stores (base : FabricEngine) (setId : MultipathSetId) (x : SetRecord) (q : Request) (spec : CommitSpec)
    (outcome : FabricOutcome) :
    Stores base (base.sealedCommit setId x q spec outcome) setId
      { x with provenance := makeProvenance q.context spec.cause x } (x.committed base q.context spec) := by
  have hmembers : (x.committed base q.context spec).members =
      (SetRecord.pruneArchive base.limits { x with provenance := makeProvenance q.context spec.cause x }).members := rfl
  refine ⟨?_, hmembers, rfl, ?_, ?_⟩
  · rw [sealedCommit_sets]
    exact Std.ExtTreeMap.getElem?_insert_self
  · rw [sealedCommit_totalMembers, pruneVictims_length]
    rfl
  · rw [sealedCommit_sets]

theorem Prunes.stores (h : e.Prunes op setId base y) :
    (∃ old, base.sets[setId]? = some old) ∧ ∃ r', Stores base (e.after op) setId y r' := by
  cases h with
  | @commit q r x spec outcome generation membershipGeneration found edit ends =>
      have hafter : e.after op = _ := congrArg Prod.fst ends
      have hknown : (e.prepared r op).sets[setId]? = some r := by
        rw [prepared_sets]
        exact found
      rw [hafter]
      exact ⟨⟨r, hknown⟩, _, sealedCommit_stores _ _ _ _ _ _⟩
  | @succession q successor old new x spec outcome generation membershipGeneration distinct found foundNew edit ends =>
      have hafter : e.after op = _ := congrArg Prod.fst ends
      have hknown : (e.putSet successor { new with supersedes := some setId }).sets[setId]? = some old := by
        rw [putSet, getElem?_insert_eq, if_neg distinct.symm]
        exact found
      obtain ⟨hstored, hmembers, hindex, htotal, hrecords⟩ :=
        sealedCommit_stores (e.putSet successor { new with supersedes := some setId }) setId
          (x.advanced generation membershipGeneration) q spec outcome
      have hsuccessor := sealedCommit_successor e distinct { new with supersedes := some setId }
        (x.advanced generation membershipGeneration) q spec outcome
      generalize hcommit : (e.putSet successor { new with supersedes := some setId }).sealedCommit setId
        (x.advanced generation membershipGeneration) q spec outcome = committed at *
      have hsame := @memberRecords_insert successor { new with supersedes := some setId }
        (committed.appendHistory { new with supersedes := some setId } .supersede .setSuperseded (some q.context) none none
          (text "supersedes " ++ setId.view)) committed.sets hsuccessor
      rw [SetRecord.appendHistory_members] at hsame
      rw [hafter]
      refine ⟨⟨old, hknown⟩, _, ?_, hmembers, hindex, ?_, ?_⟩
      · rw [supersedeSuccessor_sets, getElem?_insert_eq, if_neg distinct.symm]
        exact hstored
      · rw [← htotal]
        exact captureSnapshot_totalMembers _ _
      · rw [supersedeSuccessor_sets, ← hrecords]
        exact Nat.add_right_cancel hsame

/-- The pruning of a commit in any run is exact if and only if the archive has ended in the order of its paths, as far
as the cut. -/
theorem pruning_exact_iff (timed : Timed config e n ended) (prunes : e.Prunes op setId base y) :
    (∃ r', (e.after op).sets[setId]? = some r' ∧
      ExactlyPruned base (e.after op) setId y r' (endedBy e n ended setId (some y))) ↔
    EndsInOrder base.limits y (endedBy e n ended setId (some y)) := by
  obtain ⟨⟨old, hknown⟩, r', hstores⟩ := prunes.stores
  have hrun : Reachable config (e.after op) := .step timed.reachable op trivial
  have hexact := exactlyPruned_iff hstores hknown (linked_of_run hrun) (found_of_run hrun setId r' hstores.stored)
    (endedBy e n ended setId (some y))
  constructor
  · rintro ⟨x, hx, h⟩
    rw [hstores.stored, Option.some.injEq] at hx
    subst hx
    exact hexact.mp h
  · exact fun h => ⟨r', hstores.stored, hexact.mpr h⟩

theorem prunes_of_accepted {q : Request} (request : op.request = some q) (named : op.subject = some setId)
    (accepted : (e.exec op).2.succeeded = true) (code : (e.exec op).2.code ≠ .idempotent) (changes : op.rechecks = false) :
    ∃ base y r, e.Prunes op setId base y ∧ e.sets[setId]? = some r ∧
      ∀ path, path ∈ y.members ↔ path ∈ op.admits ∨ path ∈ r.members ∧ op.drops r ≠ some path := by
  have hanswer := exec_answer e request
  generalize hresult : e.exec op = result at accepted code hanswer
  cases hanswer with
  | refused rejects | left _ _ _ _ _ rejects =>
      rw [rejects] at accepted
      cases accepted
  | replayed known => exact absurd (attemptCheck_code known.2 accepted) code
  | answered _ _ _ _ _ _ _ idles => exact absurd (idles changes) code
  | committed _ named' found edit =>
      rw [named] at named'
      cases named'
      exact ⟨_, _, _, .commit found edit hresult, found, edit.mem⟩
  | @superseded predecessor successor old new x spec outcome generation supersedes _ distinct _ found foundNew _ _ edit =>
      have hnamed : op.subject = some predecessor := by
        rw [supersedes]
        rfl
      rw [named] at hnamed
      cases hnamed
      exact ⟨_, _, _, .succession distinct found foundNew edit hresult, found, edit.mem⟩
  | viewed _ _ applied => cases applied <;> cases named
  | created creates =>
      rw [creates] at named
      cases named

def archiveConfig : FabricConfig := ⟨{ Limits.default with maxArchivedMembersPerSet := 1 }, .first, .first⟩

def archiveMember (attempt : String) : Op :=
  .addMember (sampleContext attempt) sampleSet ⟨sampleId "pathB", .first⟩ (some ⟨sampleId "pathB", .first, .authorized⟩)

def drainedRun : FabricEngine := (FabricEngine.init archiveConfig sampleIds).afterAll (sampleSteps ++
  [archiveMember "a4", .withdrawMember (sampleContext "a5") sampleSet sampleMember (text "drained")])

def lastWithdrawal : Op :=
  .withdrawMember (sampleContext "a6") sampleSet (sampleId "mpf-mem-7f-3") (text "drained")

theorem pruning_exact_iff_sample : ∃ n ended base y, Timed archiveConfig drainedRun n ended ∧
    (drainedRun.sets[sampleSet]?.map fun r => r.members.keys) = some [samplePath, sampleId "pathB"] ∧
    ((drainedRun.after lastWithdrawal).sets[sampleSet]?.map fun r => r.members.keys) = some [sampleId "pathB"] ∧
    ((∃ r', (drainedRun.after lastWithdrawal).sets[sampleSet]? = some r' ∧
      ExactlyPruned base (drainedRun.after lastWithdrawal) sampleSet y r'
        (endedBy drainedRun n ended sampleSet (some y))) ↔
    EndsInOrder base.limits y (endedBy drainedRun n ended sampleSet (some y))) := by
  have haccepted : (drainedRun.exec lastWithdrawal).2.code = .memberWithdrawn := by decide +kernel
  obtain ⟨n, ended, htimed⟩ := timed_of_run (Reachable.afterAll (.init sampleIds) _ : Reachable archiveConfig drainedRun)
  obtain ⟨base, y, _, hprunes, _⟩ := @prunes_of_accepted drainedRun lastWithdrawal sampleSet _ rfl rfl
    (by rw [FabricOutcome.succeeded, haccepted]; rfl) (by rw [haccepted]; decide) rfl
  exact ⟨n, ended, base, y, htimed, by decide +kernel, by decide +kernel, pruning_exact_iff htimed hprunes⟩

def archiveSteps : List Op :=
  sampleSteps ++
    [archiveMember "a4",
    .withdrawMember (sampleContext "a5") sampleSet (sampleId "mpf-mem-7f-3") (text "drained")]

def archiveRun : FabricEngine := (FabricEngine.init archiveConfig sampleIds).afterAll archiveSteps

def laterWithdrawal : Op := .withdrawMember (sampleContext "a6") sampleSet sampleMember (text "drained")

/-- The relation on `pathA` is pruned in the step in which it ends, and the one on `pathB`, which has ended before, is
kept. -/
theorem pruning_takes_youngest : ¬∀ (config : FabricConfig) (e : FabricEngine) (n : ℕ)
    (ended : MultipathSetId → PathId → ℕ) (op : Op) (setId : MultipathSetId) (base : FabricEngine) (y : SetRecord),
    Timed config e n ended → e.Prunes op setId base y →
      ∃ r', (e.after op).sets[setId]? = some r' ∧
        ExactlyPruned base (e.after op) setId y r' (endedBy e n ended setId (some y)) := by
  intro h
  have hbefore : (archiveRun.exec laterWithdrawal).2.code = .memberWithdrawn ∧
      archivedAt archiveRun.sets[sampleSet]? samplePath = none ∧
      archiveRun.sets[sampleSet]?.map (fun r => decide (samplePath ∈ r.members)) = some true := by
    decide +kernel
  have hafter : (archiveRun.after laterWithdrawal).sets[sampleSet]?.map (fun r' =>
      (decide (samplePath ∈ r'.members), archivedAt (some r') (sampleId "pathB"))) =
      some (false, archivedAt archiveRun.sets[sampleSet]? (sampleId "pathB")) ∧
      (archivedAt archiveRun.sets[sampleSet]? (sampleId "pathB")).isSome = true := by
    decide +kernel
  obtain ⟨hcode, hlive, hpresent⟩ := hbefore
  obtain ⟨hafter, hsome⟩ := hafter
  have hrun : Reachable archiveConfig archiveRun := Reachable.afterAll (.init sampleIds) archiveSteps
  obtain ⟨n, ended, htimed⟩ := timed_of_run hrun
  obtain ⟨base, y, r, hprunes, hr, hmem⟩ := @prunes_of_accepted archiveRun laterWithdrawal sampleSet _ rfl rfl
    (by rw [FabricOutcome.succeeded, hcode]; rfl) (by rw [hcode]; decide) rfl
  obtain ⟨r', hr', hexact⟩ := h archiveConfig archiveRun n ended laterWithdrawal sampleSet base y htimed hprunes
  rw [hr', Option.map_some, Option.some.injEq, Prod.mk.injEq] at hafter
  rw [hr, Option.map_some, Option.some.injEq] at hpresent
  obtain ⟨hgone, hkept⟩ := hafter
  obtain ⟨m, hm⟩ : ∃ m, y.members[samplePath]? = some m := by
    refine Option.isSome_iff_exists.mp (Std.ExtTreeMap.isSome_getElem?_iff_mem.mpr ((hmem samplePath).mpr (.inr ⟨?_, ?_⟩)))
    · exact of_decide_eq_true hpresent
    · exact (Option.some_ne_none _).symm
  have hended : memberIsTerminal m = true := by
    by_contra hnot
    exact of_decide_eq_false hgone (hexact.live samplePath m hm (Bool.not_eq_true _ ▸ hnot))
  have hother : archivedAt (some y) (sampleId "pathB") = archivedAt archiveRun.sets[sampleSet]? (sampleId "pathB") ∧
      sampleId "pathB" ∈ archivedPaths r' := by
    rw [← hkept] at hsome ⊢
    change ((r'.members[_]?.filter memberIsTerminal).map MemberRecord.id).isSome = true at hsome
    rw [Option.isSome_map] at hsome
    obtain ⟨m', hm'⟩ := Option.isSome_iff_exists.mp hsome
    obtain ⟨hfound, hterminal⟩ := Option.filter_eq_some_iff.mp hm'
    obtain ⟨m₀, hm₀, hsame, _⟩ := hexact.survivors _ m' hfound
    refine ⟨?_, archivedPaths_iff.mpr ⟨m', hfound, hterminal⟩⟩
    change (y.members[_]?.filter memberIsTerminal).map _ = (r'.members[_]?.filter memberIsTerminal).map _
    rw [hm', hm₀, Option.filter_some]
    rw [hsame] at hterminal ⊢
    change memberIsTerminal m₀ = true at hterminal
    rw [hterminal]
    rfl
  have hearliest := hexact.earliest samplePath m (sampleId "pathB") ⟨hm, of_decide_eq_false hgone⟩ hother.2
  have hnow : endedBy archiveRun n ended sampleSet (some y) samplePath = n + 1 := by
    unfold endedBy
    rw [if_neg]
    rw [hlive]
    change (y.members[_]?.filter memberIsTerminal).map _ ≠ none
    rw [hm, Option.filter_some, hended]
    exact Option.some_ne_none _
  have hthen : endedBy archiveRun n ended sampleSet (some y) (sampleId "pathB") ≤ n := by
    unfold endedBy
    rw [if_pos hother.1]
    exact htimed.ended_le _ _
  omega

end FabricEngine

end MultipathFabric
