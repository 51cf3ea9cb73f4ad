import MultipathFabric.Frozen
import MultipathFabric.Recovery
import MultipathFabric.Library.Chains

namespace MultipathFabric

open Chains OrderedMap Relation

abbrev SetTable := MultipathSetId → Option SetRecord

def successorIn (sets : SetTable) (setId : MultipathSetId) : Option MultipathSetId :=
  (sets setId).bind SetRecord.supersededBy

def SetRecord.Outlived (r : SetRecord) : Prop := r.lifecycle = .superseded ∨ r.lifecycle = .retired

structure Lineage (sets : SetTable) : Prop where
  forward : ∀ a b ra, sets a = some ra → ra.supersededBy = some b → ∃ rb, sets b = some rb ∧ rb.supersedes = some a
  backward : ∀ a b rb, sets b = some rb → rb.supersedes = some a → ∃ ra, sets a = some ra ∧ ra.supersededBy = some b
  outlived : ∀ a ra, sets a = some ra → ra.supersededBy.isSome = true → ra.Outlived
  ends : ∀ a, Ends (successorIn sets) a

/-- What is asked of the lineage of the sets. -/
structure LineageConsistent (sets : SetTable) : Prop where
  mutual_ : ∀ a b ra rb, sets a = some ra → sets b = some rb → (ra.supersededBy = some b ↔ rb.supersedes = some a)
  outlived : ∀ a ra, sets a = some ra → ra.supersededBy.isSome = true → ra.Outlived
  acyclic : ∀ a, ¬TransGen (Follows (successorIn sets)) a a
  last : ∀ a ra, sets a = some ra →
    ∃ b rb, ReflTransGen (Follows (successorIn sets)) a b ∧ sets b = some rb ∧ rb.supersededBy = none

namespace Lineage

variable {sets sets' : SetTable}

theorem follows (h : Lineage sets) {a b : MultipathSetId} (path : ReflTransGen (Follows (successorIn sets)) a b)
    (found : (sets a).isSome = true) : (sets b).isSome = true := by
  induction path with
  | refl => exact found
  | @tail c d _ hstep ih =>
    obtain ⟨rc, hc, hsuccessor⟩ := Option.bind_eq_some_iff.mp hstep
    obtain ⟨rd, hd, _⟩ := h.forward c d rc hc hsuccessor
    rw [hd]
    rfl

theorem consistent (h : Lineage sets) : LineageConsistent sets := by
  constructor
  · intro a b ra rb ha hb
    constructor
    · intro hsuccessor
      obtain ⟨rb', hb', hback⟩ := h.forward a b ra ha hsuccessor
      rw [hb] at hb'
      cases hb'
      exact hback
    · intro hpredecessor
      obtain ⟨ra', ha', hforth⟩ := h.backward a b rb hb hpredecessor
      rw [ha] at ha'
      cases ha'
      exact hforth
  · exact h.outlived
  · exact fun a => (h.ends a).acyclic
  · intro a ra ha
    obtain ⟨b, hpath, hlast⟩ := (h.ends a).last
    obtain ⟨rb, hb⟩ := Option.isSome_iff_exists.mp (h.follows hpath (by rw [ha]; rfl))
    refine ⟨b, rb, hpath, hb, ?_⟩
    rw [successorIn, hb] at hlast
    exact hlast

structure Frame (sets sets' : SetTable) : Prop where
  kept : ∀ a r, sets a = some r → ∃ r', sets' a = some r' ∧ r'.supersededBy = r.supersededBy ∧
    r'.supersedes = r.supersedes ∧ (r.Outlived → r'.Outlived)
  added : ∀ a r', sets a = none → sets' a = some r' → r'.supersededBy = none ∧ r'.supersedes = none

theorem Frame.before (frame : Frame sets sets') {a : MultipathSetId} {r' : SetRecord} (h : sets' a = some r') :
    (∃ r, sets a = some r ∧ r'.supersededBy = r.supersededBy ∧ r'.supersedes = r.supersedes ∧
      (r.Outlived → r'.Outlived)) ∨ (r'.supersededBy = none ∧ r'.supersedes = none) := by
  cases hr : sets a with
  | none => exact .inr (frame.added a r' hr h)
  | some r =>
    obtain ⟨found, hfound, hrest⟩ := frame.kept a r hr
    rw [h] at hfound
    cases hfound
    exact .inl ⟨r, rfl, hrest⟩

theorem framed (h : Lineage sets) (frame : Frame sets sets') : Lineage sets' := by
  constructor
  · intro a b ra' ha' hsuccessor
    rcases frame.before ha' with ⟨ra, ha, hby, _, _⟩ | ⟨hnone, _⟩
    · rw [hby] at hsuccessor
      obtain ⟨rb, hb, hback⟩ := h.forward a b ra ha hsuccessor
      obtain ⟨rb', hb', _, hsame, _⟩ := frame.kept b rb hb
      exact ⟨rb', hb', hsame.trans hback⟩
    · rw [hnone] at hsuccessor
      cases hsuccessor
  · intro a b rb' hb' hpredecessor
    rcases frame.before hb' with ⟨rb, hb, _, hsupersedes, _⟩ | ⟨_, hnone⟩
    · rw [hsupersedes] at hpredecessor
      obtain ⟨ra, ha, hforth⟩ := h.backward a b rb hb hpredecessor
      obtain ⟨ra', ha', hsame, _, _⟩ := frame.kept a ra ha
      exact ⟨ra', ha', hsame.trans hforth⟩
    · rw [hnone] at hpredecessor
      cases hpredecessor
  · intro a ra' ha' hsome
    rcases frame.before ha' with ⟨ra, ha, hby, _, houtlived⟩ | ⟨hnone, _⟩
    · rw [hby] at hsome
      exact houtlived (h.outlived a ra ha hsome)
    · rw [hnone] at hsome
      cases hsome
  · apply ends_congr _ h.ends
    intro a
    unfold successorIn
    cases hr : sets a with
    | some r =>
      obtain ⟨r', hr', hby, _, _⟩ := frame.kept a r hr
      rw [hr']
      exact hby
    | none =>
      cases hr' : sets' a with
      | none => rfl
      | some r' => exact (frame.added a r' hr hr').1

theorem supersede (h : Lineage sets) {a b : MultipathSetId} {old new old' new' : SetRecord} (distinct : a ≠ b)
    (foundOld : sets a = some old) (foundNew : sets b = some new) (first : old.supersededBy = none)
    (vacant : new.supersedes = none) (free : ¬ReflTransGen (Follows (successorIn sets)) b a)
    (afterOld : sets' a = some old') (afterNew : sets' b = some new')
    (others : ∀ c, c ≠ a → c ≠ b → sets' c = sets c) (by_ : old'.supersededBy = some b)
    (oldKept : old'.supersedes = old.supersedes) (ended : old'.Outlived) (newKept : new'.supersededBy = new.supersededBy)
    (of_ : new'.supersedes = some a) (newOutlived : new.Outlived → new'.Outlived) : Lineage sets' := by
  have hfound : ∀ c rc, sets c = some rc → c ≠ a → ∃ rc', sets' c = some rc' ∧ rc'.supersededBy = rc.supersededBy := by
    intro c rc hc hca
    by_cases hcb : c = b
    · rw [hcb, foundNew] at hc
      cases hc
      exact ⟨new', by rw [hcb]; exact afterNew, newKept⟩
    · exact ⟨rc, by rw [others c hca hcb]; exact hc, rfl⟩
  have hpred : ∀ c rc, sets c = some rc → rc.supersedes.isSome = true →
      ∃ rc', sets' c = some rc' ∧ rc'.supersedes = rc.supersedes := by
    intro c rc hc hsome
    by_cases hca : c = a
    · rw [hca, foundOld] at hc
      cases hc
      exact ⟨old', by rw [hca]; exact afterOld, oldKept⟩
    · by_cases hcb : c = b
      · rw [hcb, foundNew] at hc
        cases hc
        rw [vacant] at hsome
        cases hsome
      · exact ⟨rc, by rw [others c hca hcb]; exact hc, rfl⟩
  have hbefore : ∀ c rc', sets' c = some rc' → c ≠ a → ∃ rc, sets c = some rc ∧ rc'.supersededBy = rc.supersededBy ∧
      (rc.Outlived → rc'.Outlived) := by
    intro c rc' hc hca
    by_cases hcb : c = b
    · rw [hcb, afterNew] at hc
      cases hc
      exact ⟨new, by rw [hcb]; exact foundNew, newKept, newOutlived⟩
    · rw [others c hca hcb] at hc
      exact ⟨rc', hc, rfl, id⟩
  constructor
  · intro c d rc' hc hsuccessor
    by_cases hca : c = a
    · rw [hca, afterOld] at hc
      cases hc
      rw [by_] at hsuccessor
      cases hsuccessor
      exact ⟨new', afterNew, hca ▸ of_⟩
    · obtain ⟨rc, hrc, hby, _⟩ := hbefore c rc' hc hca
      rw [hby] at hsuccessor
      obtain ⟨rd, hd, hback⟩ := h.forward c d rc hrc hsuccessor
      obtain ⟨rd', hd', hsame⟩ := hpred d rd hd (by rw [hback]; rfl)
      exact ⟨rd', hd', hsame.trans hback⟩
  · intro c d rd' hd hpredecessor
    by_cases hdb : d = b
    · rw [hdb, afterNew] at hd
      cases hd
      rw [of_] at hpredecessor
      cases hpredecessor
      exact ⟨old', afterOld, hdb ▸ by_⟩
    · have hrd : ∃ rd, sets d = some rd ∧ rd'.supersedes = rd.supersedes := by
        by_cases hda : d = a
        · rw [hda, afterOld] at hd
          cases hd
          exact ⟨old, by rw [hda]; exact foundOld, oldKept⟩
        · exact ⟨rd', by rw [← others d hda hdb]; exact hd, rfl⟩
      obtain ⟨rd, hrd, hsame⟩ := hrd
      rw [hsame] at hpredecessor
      obtain ⟨rc, hc, hforth⟩ := h.backward c d rd hrd hpredecessor
      have hca : c ≠ a := by
        rintro rfl
        rw [foundOld] at hc
        cases hc
        rw [first] at hforth
        cases hforth
      obtain ⟨rc', hc', hkept⟩ := hfound c rc hc hca
      exact ⟨rc', hc', hkept.trans hforth⟩
  · intro c rc' hc hsome
    by_cases hca : c = a
    · rw [hca, afterOld] at hc
      cases hc
      exact ended
    · obtain ⟨rc, hrc, hby, houtlived⟩ := hbefore c rc' hc hca
      rw [hby] at hsome
      exact houtlived (h.outlived c rc hrc hsome)
  · apply ends_link h.ends (a := a) (b := b)
    · rw [successorIn, afterOld]
      exact by_
    · intro c hca
      unfold successorIn
      by_cases hcb : c = b
      · rw [hcb, afterNew, foundNew]
        exact newKept
      · rw [others c hca hcb]
    · exact free

end Lineage

open SetRecord

theorem RecordEdit.outlived {e : FabricEngine} {setId : MultipathSetId} {r x : SetRecord} {op : Op} {summary : Bytes}
    (edit : RecordEdit e setId r op x summary) (h : r.Outlived) : x.Outlived := by
  have hfinal : r.lifecycle.isFinal = true := by
    rcases h with hl | hl <;> rw [hl] <;> rfl
  rcases edit.final hfinal with hsame | hretired
  · unfold Outlived
    rw [hsame]
    exact h
  · exact .inr hretired

def SetRecord.SameLineage (r x : SetRecord) : Prop := x.supersededBy = r.supersededBy ∧ x.supersedes = r.supersedes

theorem SetRecord.SameLineage.transition {r x : SetRecord} {event : SetEvent} (h : r.applyTransition event = .ok x) :
    r.SameLineage x := by
  rw [applyTransition_frame h]
  exact ⟨rfl, rfl⟩

theorem SetRecord.SameLineage.consequences {r x : SetRecord} (h : r.SameLineage x) (e : FabricEngine)
    (source target : SetLifecycle) (context : Option MutationContext) :
    r.SameLineage (applyMemberConsequences e x source target context) := by
  rw [consequences_frame]
  exact h

theorem SetRecord.SameLineage.published (context : MutationContext) (setId : MultipathSetId) (e : FabricEngine)
    (r : SetRecord) (requests : List (MemberRequest × Option PathAuthorityView)) :
    r.SameLineage (FabricEngine.publishMembers context setId e r requests).2.1 := by
  induction requests generalizing e r with
  | nil => exact ⟨rfl, rfl⟩
  | cons request rest ih => exact ih _ _

theorem RecordEdit.sameLineage {e : FabricEngine} {setId : MultipathSetId} {r x : SetRecord} {op : Op} {summary : Bytes}
    (edit : RecordEdit e setId r op x summary) (h : ∀ context a b, op ≠ .supersedeSet context a b) :
    r.SameLineage x := by
  cases edit with
  | collided | revalidatedSet | revalidatedMember | begun | released | completed | abandoned | observed | toggled =>
      exact ⟨rfl, rfl⟩
  | superseded | supersedes | supersedesRecorded => exact absurd rfl (h _ _ _)
  | publish _ moved | minimumChecked _ _ moved | policyChecked _ _ moved | adminChecked _ _ moved
  | completeWithdrawal _ moved | minimumChanged _ _ moved | policyChanged _ _ moved | adminChanged _ _ moved
  | removed _ _ _ _ _ _ moved | withdrewMember _ _ _ _ _ _ _ moved | replaced _ _ _ _ _ _ _ _ _ _ _ _ _ moved =>
      have hsame := SameLineage.transition moved
      exact hsame
  | withdraw _ _ _ moved | revoke _ _ _ _ _ moved | retire _ _ _ moved =>
      have hsame := SameLineage.transition moved
      refine SameLineage.consequences ?_ _ _ _ _
      exact hsame
  | added _ _ _ _ _ _ moved =>
      obtain ⟨hby, hof⟩ := SameLineage.transition moved
      obtain ⟨hby', hof'⟩ := SameLineage.published _ _ _ _ _
      exact ⟨hby'.trans hby, hof'.trans hof⟩
  | invalidated =>
      unfold FabricEngine.dependencyInvalidated
      dsimp only
      split <;> exact ⟨rfl, rfl⟩

structure Superseding (e : FabricEngine) (context : MutationContext) (predecessor successor : MultipathSetId)
    (old new : SetRecord) : Prop where
  known : (predecessor.valid && successor.valid) = true
  distinct : predecessor ≠ successor
  caller : e.callerCheck (.supersedeSet context predecessor successor) = .ok ()
  foundOld : e.sets[predecessor]? = some old
  foundNew : e.sets[successor]? = some new
  expected : expectedSetGenerationMatches context old = .ok ()
  accepts : transitionAllowed old.lifecycle .supersede = true
  first : old.supersededBy ≠ some successor
  next : old.generation.next.isSome = true

structure SupersedingStores (e e' : FabricEngine) (predecessor successor : MultipathSetId) (old new old' new' : SetRecord) :
    Prop where
  afterOld : e'.sets[predecessor]? = some old'
  afterNew : e'.sets[successor]? = some new'
  others : ∀ other, other ≠ predecessor → other ≠ successor → e'.sets[other]? = e.sets[other]?
  oldLineage : old'.supersededBy = some successor ∧ old'.supersedes = old.supersedes
  newLineage : new'.supersededBy = new.supersededBy ∧ new'.supersedes = some predecessor
  lifecycles : old'.lifecycle = .superseded ∧ new'.lifecycle = new.lifecycle

namespace FabricEngine

theorem supersedeSuccessor_stores {e : FabricEngine} {predecessor successor : MultipathSetId} {old new y : SetRecord}
    (q : Request) (spec : CommitSpec) (outcome : FabricOutcome) (distinct : predecessor ≠ successor)
    (lineage : y.supersededBy = some successor ∧ y.supersedes = old.supersedes) (lifecycle : y.lifecycle = .superseded) :
    SupersedingStores e
      (((e.putSet successor { new with supersedes := some predecessor }).sealedCommit predecessor y q spec
        outcome).supersedeSuccessor q.context predecessor successor { new with supersedes := some predecessor })
      predecessor successor old new
      (y.committed (e.putSet successor { new with supersedes := some predecessor }) q.context spec)
      (((e.putSet successor { new with supersedes := some predecessor }).sealedCommit predecessor y q spec
        outcome).appendHistory { new with supersedes := some predecessor } .supersede .setSuperseded (some q.context) none
          none (text "supersedes " ++ predecessor.view)) := by
  have hsets : ∀ other : MultipathSetId, (((e.putSet successor { new with supersedes := some predecessor }).sealedCommit
      predecessor y q spec outcome).supersedeSuccessor q.context predecessor successor
        { new with supersedes := some predecessor }).sets[other]? =
      if successor = other then some (((e.putSet successor { new with supersedes := some predecessor }).sealedCommit
        predecessor y q spec outcome).appendHistory { new with supersedes := some predecessor } .supersede .setSuperseded
          (some q.context) none none (text "supersedes " ++ predecessor.view))
      else if predecessor = other then
        some (y.committed (e.putSet successor { new with supersedes := some predecessor }) q.context spec)
      else if successor = other then some { new with supersedes := some predecessor } else e.sets[other]? := by
    intro other
    rw [supersedeSuccessor_sets, sealedCommit_sets, putSet, getElem?_insert_eq, getElem?_insert_eq, getElem?_insert_eq]
  obtain ⟨hby, hof, _⟩ := committed_lineage (e.putSet successor { new with supersedes := some predecessor }) y q.context spec
  constructor
  · rw [hsets, if_neg distinct.symm, if_pos rfl]
  · rw [hsets, if_pos rfl]
  · intro other hpredecessor hsuccessor
    rw [hsets, if_neg hsuccessor.symm, if_neg hpredecessor.symm, if_neg hsuccessor.symm]
  · exact ⟨hby.trans lineage.1, hof.trans lineage.2⟩
  · exact ⟨rfl, rfl⟩
  · exact ⟨(pruneArchive_lifecycle _ _).trans lifecycle, rfl⟩

theorem supersedeSet_effect (e : FabricEngine) (context : MutationContext) (predecessor successor : MultipathSetId) :
    (∀ (other : MultipathSetId), (e.supersedeSet context predecessor successor).1.sets[other]? = e.sets[other]?) ∨
      ∃ old new old' new', Superseding e context predecessor successor old new ∧
        SupersedingStores e (e.supersedeSet context predecessor successor).1 predecessor successor old new old' new' := by
  generalize hresult : e.supersedeSet context predecessor successor = result
  rcases conclude_cases hresult with hsame | h
  · left
    intro other
    rw [hsame]
  · simp only [Checked.bind_ok, Checked.require_ok, Checked.unlessAnswered_ok, bne_iff_ne] at h
    obtain ⟨_, hknown, _, hne, _, hfirst, _, hsecond, _, hfresh, old, hold, new, hnew, _, hexpected, h⟩ := h
    have hfoundOld := requireSet_ok hold
    have hfoundNew := requireSet_ok hnew
    split at h
    · left
      rw [Checked.pure_ok] at h
      subst h
      intro other
      change (e.sets.insert predecessor old)[other]? = e.sets[other]?
      rw [getElem?_insert_eq]
      split
      · rename_i heq
        rw [← heq, hfoundOld]
      · rfl
    · rename_i hfirstTime
      right
      simp only [Checked.bind_ok, Checked.require_ok, Checked.pure_ok] at h
      obtain ⟨_, hnext, x, hmoved, rfl⟩ := h
      have hmove := SetRecord.transition_ok hmoved
      have hcaller : e.callerCheck (.supersedeSet context predecessor successor) = .ok () := by
        simp only [callerCheck, Checked.bind_ok, Checked.unlessAnswered_ok]
        exact ⟨_, hfirst, _, hsecond, hfresh⟩
      obtain ⟨spec, hspec⟩ : ∃ spec : CommitSpec, spec = ⟨true, false, .supersede, .setSuperseded, none, none,
          text "superseded by " ++ successor.view⟩ := ⟨_, rfl⟩
      have hedit : RecordEdit e predecessor old (.supersedeSet context predecessor successor)
          (applyMemberConsequences e { x with supersededBy := some successor } old.lifecycle x.lifecycle (some context))
          spec.summary := by
        rw [hspec]
        rw [Bool.and_eq_true] at hknown
        exact .superseded context successor hknown.2 hmove
      obtain ⟨generation, membershipGeneration, _, _, _, hcommit⟩ := Answer.commitLocked_sealed
        ⟨context, text "supersede_set", [text "supersede_set", predecessor.view, successor.view]⟩
        (e.putSet successor { new with supersedes := some predecessor })
        (makeOutcome .setSuperseded (text "superseded by " ++ successor.view)) hedit rfl (by rw [hspec]) hnext
        (by rw [hspec]; exact (fun h => by cases h))
      rw [← hspec, hcommit, if_pos (by exact rfl)]
      refine ⟨old, new, _, _, ⟨hknown, hne, hcaller, hfoundOld, hfoundNew, hexpected, applyTransition_allowed hmove,
        hfirstTime, hnext⟩, supersedeSuccessor_stores _ spec _ hne ⟨?_, ?_⟩ ?_⟩
      · change (applyMemberConsequences e _ old.lifecycle x.lifecycle (some context)).supersededBy = _
        rw [consequences_frame]
      · change (applyMemberConsequences e _ old.lifecycle x.lifecycle (some context)).supersedes = _
        rw [consequences_frame]
        have hsame := SameLineage.transition hmove
        exact hsame.2
      · change (applyMemberConsequences e _ old.lifecycle x.lifecycle (some context)).lifecycle = _
        rw [(consequences_cases _ _ _ _ _).1, (applyTransition_supersede hmove).2]
        rfl

end FabricEngine

def takenSets : List SetRecord → List SetRecord → List SetRecord
  | _, [] => []
  | taken, r :: rest =>
      if taken.any fun other => other.key == r.key || other.id == r.id then [] else r :: takenSets (r :: taken) rest

theorem takenSets_fresh {taken stored : List SetRecord} {r t : SetRecord} (h : r ∈ takenSets taken stored)
    (ht : t ∈ taken) : t.id ≠ r.id := by
  induction stored generalizing taken with
  | nil => exact absurd h List.not_mem_nil
  | cons s rest ih =>
      rw [takenSets] at h
      split at h
      · exact absurd h List.not_mem_nil
      · rename_i hfresh
        rcases List.mem_cons.mp h with rfl | hrest
        · intro hid
          apply hfresh
          rw [List.any_eq_true]
          exact ⟨t, ht, by simp [hid]⟩
        · exact ih hrest (List.mem_cons_of_mem _ ht)

def storedTable (stored : List SetRecord) : SetTable :=
  fun setId => (takenSets [] stored).find? fun r => r.id == setId

namespace FabricEngine

def table (e : FabricEngine) : SetTable := fun setId => e.sets[setId]?

theorem installSets_table {e : FabricEngine} {taken stored : List SetRecord}
    (h : ∀ r, e.Free r ↔ (taken.any fun other => other.key == r.key || other.id == r.id) = false)
    (setId : MultipathSetId) :
    (e.installSets stored).1.sets[setId]? =
      (((takenSets taken stored).find? fun r => r.id == setId).map e.recoveredSet).or e.sets[setId]? := by
  induction stored generalizing e taken with
  | nil => rfl
  | cons r rest ih =>
      rw [takenSets]
      split
      · rename_i htaken
        have hnot : ¬e.Free r := by
          rw [h, htaken]
          decide
        rw [installSets]
        split
        · rfl
        · rename_i hkey
          split
          · rfl
          · rename_i hid
            rw [Option.not_isSome_iff_eq_none] at hkey hid
            exact absurd ⟨hkey, hid⟩ hnot
      · rename_i hfresh
        have hfree : e.Free r := (h r).mpr (Bool.eq_false_iff.mpr hfresh)
        have hnext : ∀ other, (e.installSet r).Free other ↔
            ((r :: taken).any fun t => t.key == other.key || t.id == other.id) = false := by
          intro other
          rw [free_installSet, h, List.any_cons, Bool.or_eq_false_iff, Bool.or_eq_false_iff]
          simp only [beq_eq_false_iff_ne]
          tauto
        rw [installSets_cons e r rest hfree.1 hfree.2, ih hnext, List.find?_cons]
        have hcongr : (e.installSet r).recoveredSet = e.recoveredSet := by
          funext other
          exact recoveredSet_congr (e.installSet_stamp r) other
        rw [hcongr, installSet_sets, getElem?_insert_eq]
        by_cases hid : r.id = setId
        · have hnone : (takenSets (r :: taken) rest).find? (fun r => r.id == setId) = none := by
            rw [List.find?_eq_none]
            intro other hother heq
            exact takenSets_fresh hother List.mem_cons_self (hid.trans (beq_iff_eq.mp heq).symm)
          rw [hnone, if_pos hid, hid, beq_self_eq_true]
          rfl
        · rw [if_neg hid, beq_eq_false_iff_ne.mpr hid]

/-- The steps that keep the lineage of the sets. -/
def KeepsLineage (e : FabricEngine) : Op → Prop
  | .supersedeSet context predecessor successor => ∀ old new, Superseding e context predecessor successor old new →
      new.supersedes = none ∧ ¬ReflTransGen (Follows (successorIn e.table)) successor predecessor
  | .loadStore path files => path.isEmpty = false → ∀ decoded fallback,
      readAndDecode path e.limits files = .ok (decoded, fallback) → decoded.epoch.next.isSome = true →
        decoded.authorityGeneration.next.isSome = true → Lineage (storedTable decoded.sets)
  | _ => True

theorem after_frame (e : FabricEngine) {op : Op} (hsupersede : ∀ context a b, op ≠ .supersedeSet context a b)
    (hload : ∀ path files, op ≠ .loadStore path files) : Lineage.Frame e.table (e.after op).table := by
  constructor
  · intro a r hr
    have hstep := after_sets e op a
    unfold table at hr ⊢
    rw [hr] at hstep
    generalize (e.after op).sets[a]? = entry at hstep ⊢
    cases hstep with
    | kept => exact ⟨r, rfl, rfl, rfl, id⟩
    | @changed _ x r' summary edit stored =>
        obtain ⟨hby, hof⟩ := edit.sameLineage hsupersede
        obtain ⟨hby', hof', _⟩ := sealed_lineage stored
        refine ⟨r', rfl, hby'.trans hby, hof'.trans hof, fun houtlived => ?_⟩
        unfold Outlived
        rw [sealed_lifecycle stored]
        exact edit.outlived houtlived
    | fenced | epochAdvanced => exact ⟨_, rfl, rfl, rfl, id⟩
    | cleared loads | recovered loads => exact absurd loads (hload _ _)
  · intro a r' hr hr'
    have hstep := after_sets e op a
    unfold table at hr hr'
    rw [hr, hr'] at hstep
    cases hstep with
    | created => exact ⟨rfl, rfl⟩
    | recovered loads => exact absurd loads (hload _ _)

theorem load_lineage {e : FabricEngine} {path : Bytes} {files : StoreFiles} (h : Lineage e.table)
    (keeps : e.KeepsLineage (.loadStore path files)) : Lineage (e.after (.loadStore path files)).table := by
  change Lineage (e.loadStore path files).1.table
  by_cases hpath : path.isEmpty = true
  · rw [loadStore, if_pos hpath]
    exact h
  · rcases loadStore_cases e path files with
      hsame | ⟨decoded, fallback, epoch, authority, hread, hepoch, hauthority, hload⟩
    · rw [hsame]
      exact h
    · have hstored := keeps (Bool.eq_false_iff.mpr hpath) decoded fallback hread (by rw [hepoch]; rfl)
        (by rw [hauthority]; rfl)
      have htable : ∀ setId, (e.loadStore path files).1.table setId =
          (storedTable decoded.sets setId).map (e.clearedForLoad decoded.fences epoch authority).recoveredSet := by
        intro setId
        have hfree : ∀ r, (e.clearedForLoad decoded.fences epoch authority).Free r ↔
            (([] : List SetRecord).any fun other => other.key == r.key || other.id == r.id) = false := by
          intro r
          exact ⟨fun _ => rfl, fun _ => clearedForLoad_free e _ _ _ r⟩
        have hempty : (e.clearedForLoad decoded.fences epoch authority).sets[setId]? = none :=
          Std.ExtTreeMap.getElem?_empty
        rw [table, hload, installSets_table hfree, hempty, Option.or_none]
        rfl
      apply hstored.framed
      constructor
      · intro a r hr
        rw [htable, hr]
        exact ⟨_, rfl, rfl, rfl, id⟩
      · intro a r' hr hr'
        rw [htable, hr] at hr'
        cases hr'

theorem supersede_lineage {e : FabricEngine} {context : MutationContext} {predecessor successor : MultipathSetId}
    (h : Lineage e.table) (keeps : e.KeepsLineage (.supersedeSet context predecessor successor)) :
    Lineage (e.after (.supersedeSet context predecessor successor)).table := by
  change Lineage (e.supersedeSet context predecessor successor).1.table
  rcases supersedeSet_effect e context predecessor successor with hsame | ⟨old, new, old', new', hchecks, hstores⟩
  · apply h.framed
    constructor
    · intro a r hr
      exact ⟨r, (hsame a).trans hr, rfl, rfl, id⟩
    · intro a r' hr hr'
      rw [table, hsame a] at hr'
      rw [table, hr'] at hr
      cases hr
  · obtain ⟨hvacant, hfree⟩ := keeps old new hchecks
    have hfirst : old.supersededBy = none := by
      by_contra hsome
      have houtlived := h.outlived predecessor old hchecks.foundOld (Option.isSome_iff_ne_none.mpr hsome)
      have haccepts := hchecks.accepts
      rcases houtlived with hl | hl
      all_goals
        rw [hl] at haccepts
        cases haccepts
    apply h.supersede hchecks.distinct hchecks.foundOld hchecks.foundNew hfirst hvacant hfree hstores.afterOld
      hstores.afterNew
    · intro other hpredecessor hsuccessor
      exact hstores.others other hpredecessor hsuccessor
    · exact hstores.oldLineage.1
    · exact hstores.oldLineage.2
    · exact .inl hstores.lifecycles.1
    · exact hstores.newLineage.1
    · exact hstores.newLineage.2
    · intro houtlived
      unfold Outlived
      rw [hstores.lifecycles.2]
      exact houtlived

theorem after_lineage {e : FabricEngine} {op : Op} (h : Lineage e.table) (keeps : e.KeepsLineage op) :
    Lineage (e.after op).table := by
  cases op with
  | supersedeSet context predecessor successor => exact supersede_lineage h keeps
  | loadStore path files => exact load_lineage h keeps
  | _ =>
      apply h.framed (after_frame e _ _)
      · intro context a b heq
        cases heq
      · intro path files heq
        cases heq

theorem lineage_of_run {config : FabricConfig} {e : FabricEngine} (run : Run KeepsLineage config e) :
    Lineage e.table := by
  induction run with
  | init ids =>
      have hempty : ∀ a : MultipathSetId, (init config ids).table a = none := fun a => Std.ExtTreeMap.getElem?_empty
      constructor
      · intro a b ra ha
        rw [hempty] at ha
        cases ha
      · intro a b rb hb
        rw [hempty] at hb
        cases hb
      · intro a ra ha
        rw [hempty] at ha
        cases ha
      · intro a
        constructor
        intro b hb
        rw [Follows, successorIn, hempty] at hb
        cases hb
  | step _ op keeps ih => exact after_lineage ih keeps

/-- In every run whose supersessions take a set that supersedes nothing and whose chain does not come back, and whose
loads take a store of consistent lineage, the lineage is consistent, and only a superseded set retires with a successor. -/
theorem lineage_consistent {config : FabricConfig} {e : FabricEngine} (run : Run KeepsLineage config e) :
    LineageConsistent e.table ∧ ∀ op, e.KeepsLineage op → (∀ path files, op ≠ .loadStore path files) → ∀ a r',
      (e.after op).table a = some r' → r'.supersededBy.isSome = true → r'.lifecycle = .retired →
        ∃ r, e.table a = some r ∧ r.supersededBy = r'.supersededBy ∧ (r.lifecycle = .superseded ∨ r.lifecycle = .retired) := by
  have hlineage := lineage_of_run run
  refine ⟨hlineage.consistent, fun op keeps hload a r' hr' hsome hretired => ?_⟩
  by_cases hsupersede : ∃ context predecessor successor, op = .supersedeSet context predecessor successor
  · obtain ⟨context, predecessor, successor, rfl⟩ := hsupersede
    rcases supersedeSet_effect e context predecessor successor with hsame | ⟨old, new, old', new', hchecks, hstores⟩
    · have hr : e.table a = some r' := (hsame a).symm.trans hr'
      exact ⟨r', hr, rfl, hlineage.outlived a r' hr hsome⟩
    · by_cases hold : a = predecessor
      · rw [hold] at hr'
        have heq := hstores.afterOld.symm.trans hr'
        cases heq
        rw [hstores.lifecycles.1] at hretired
        cases hretired
      · by_cases hnew : a = successor
        · rw [hnew] at hr'
          have heq := hstores.afterNew.symm.trans hr'
          cases heq
          rw [hstores.newLineage.1] at hsome
          exact ⟨new, by rw [hnew]; exact hchecks.foundNew, hstores.newLineage.1.symm,
            hlineage.outlived successor new hchecks.foundNew hsome⟩
        · have hr : e.table a = some r' := (hstores.others a hold hnew).symm.trans hr'
          exact ⟨r', hr, rfl, hlineage.outlived a r' hr hsome⟩
  · have hframe := after_frame e (fun context a b heq => hsupersede ⟨context, a, b, heq⟩) hload
    rcases hframe.before hr' with ⟨r, hr, hby, _, _⟩ | ⟨hnone, _⟩
    · rw [hby] at hsome ⊢
      exact ⟨r, hr, rfl, hlineage.outlived a r hr hsome⟩
    · rw [hnone] at hsome
      cases hsome

def lineageSteps : List Op :=
  [.registerPublisher (sampleId "pub") (sampleId "boot") sampleScope (sampleId "sess"),
    .createSet (sampleContext "a1") (sampleKey "a") ⟨1, true, false⟩,
    .createSet (sampleContext "a2") (sampleKey "b") ⟨1, true, false⟩,
    .createSet (sampleContext "a3") (sampleKey "c") ⟨1, true, false⟩]

def supersession (attempt predecessor successor : String) : Op :=
  .supersedeSet (sampleContext attempt) (sampleId predecessor) (sampleId successor)

theorem lineage_consistent_once :
    LineageConsistent ((sampleRun lineageSteps).after (supersession "a4" "mpf-set-7f-1" "mpf-set-7f-2")).table ∧
      ((((sampleRun lineageSteps).after (supersession "a4" "mpf-set-7f-1" "mpf-set-7f-2")).table
        (sampleId "mpf-set-7f-1")).bind SetRecord.supersededBy) = some (sampleId "mpf-set-7f-2") := by
  have hrun : Run KeepsLineage sampleConfig (sampleRun lineageSteps) := by
    apply Run.afterAll _ (.init sampleIds)
    intro op hop e
    simp only [lineageSteps, List.mem_cons, List.not_mem_nil, or_false] at hop
    rcases hop with rfl | rfl | rfl | rfl <;> trivial
  have hsecond : ((sampleRun lineageSteps).table (sampleId "mpf-set-7f-2")).map
      (fun r => (r.supersededBy, r.supersedes)) = some (none, none) := by decide +kernel
  refine ⟨(lineage_consistent (hrun.step _ ?_)).1, by decide +kernel⟩
  intro old new hchecks
  rw [table, hchecks.foundNew, Option.map_some, Option.some.injEq, Prod.mk.injEq] at hsecond
  refine ⟨hsecond.2, fun hpath => ?_⟩
  rcases ReflTransGen.cases_head hpath with heq | ⟨next, hstep, _⟩
  · exact hchecks.distinct heq.symm
  · rw [Follows, successorIn, table, hchecks.foundNew, Option.bind_some, hsecond.1] at hstep
    cases hstep

/-- Two sets give way to the third, which names only the later one. -/
theorem lineage_fails : ¬∀ config e, Reachable config e → LineageConsistent e.table := by
  intro h
  have hlineage := h sampleConfig _ (sampleRun_reachable (lineageSteps ++
    [supersession "a4" "mpf-set-7f-1" "mpf-set-7f-3", supersession "a5" "mpf-set-7f-2" "mpf-set-7f-3"]))
  generalize hsets : (sampleRun (lineageSteps ++ [supersession "a4" "mpf-set-7f-1" "mpf-set-7f-3",
    supersession "a5" "mpf-set-7f-2" "mpf-set-7f-3"])) = e at hlineage
  have hfirst : (e.table (sampleId "mpf-set-7f-1")).map SetRecord.supersededBy = some (some (sampleId "mpf-set-7f-3")) := by
    rw [← hsets]
    decide +kernel
  have hthird : (e.table (sampleId "mpf-set-7f-3")).map SetRecord.supersedes = some (some (sampleId "mpf-set-7f-2")) := by
    rw [← hsets]
    decide +kernel
  obtain ⟨ra, ha, hby⟩ := Option.map_eq_some_iff.mp hfirst
  obtain ⟨rc, hc, hof⟩ := Option.map_eq_some_iff.mp hthird
  have hback := (hlineage.mutual_ _ _ ra rc ha hc).mp hby
  rw [hof] at hback
  revert hback
  decide +kernel

end FabricEngine

end MultipathFabric
