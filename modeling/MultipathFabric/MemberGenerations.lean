import MultipathFabric.Atomicity
import MultipathFabric.DerivedState
import MultipathFabric.MemberChange
import MultipathFabric.PathIndex
import MultipathFabric.RequestChecks

namespace MultipathFabric

open OrderedMap MemberRecord

structure Tracked where
  boundAuthorityGeneration : PathAuthorityGeneration
  lifecycle : MemberLifecycle
  currentness : MemberCurrentness
  adminEnabled : Bool
  deriving DecidableEq

def Standing.tracked (s : Standing) : Tracked :=
  ⟨s.boundAuthorityGeneration, s.lifecycle, s.currentness, s.adminEnabled⟩

namespace MemberRecord

def tracked (m : MemberRecord) : Tracked := ⟨m.boundAuthorityGeneration, m.lifecycle, m.currentness, m.adminEnabled⟩

def Precedes (m m' : MemberRecord) : Prop :=
  m'.generation = m.generation ∧ m'.tracked = m.tracked ∨ m.generation.value.toNat < m'.generation.value.toNat

/-- An evaluation of the member, bound to `bound`, against a view does not leave its semantic state as it is. -/
def Shifts (m : MemberRecord) (bound : PathAuthorityGeneration) (permitted : Bool) (view : Option PathAuthorityView)
    (explicit : Bool) : Prop :=
  bound ≠ m.boundAuthorityGeneration ∨
    MemberRecord.observe { m with boundAuthorityGeneration := bound } permitted view ≠ m.currentness ∨
    memberIsTerminal m = false ∧ ∃ next, memberTransition m.lifecycle (evaluationEvent
      (MemberRecord.observe { m with boundAuthorityGeneration := bound } permitted view) explicit) = some next ∧
      next ≠ m.lifecycle

variable {m m' m'' : MemberRecord}

theorem Precedes.refl (m : MemberRecord) : m.Precedes m := .inl ⟨rfl, rfl⟩

theorem Precedes.trans (h : m.Precedes m') (h' : m'.Precedes m'') : m.Precedes m'' := by
  rcases h with ⟨hgeneration, htracked⟩ | hlater
  · rcases h' with ⟨hgeneration', htracked'⟩ | hlater'
    · exact .inl ⟨hgeneration'.trans hgeneration, htracked'.trans htracked⟩
    · right
      rw [hgeneration] at hlater'
      exact hlater'
  · right
    rcases h' with ⟨hgeneration', _⟩ | hlater'
    · rw [hgeneration']
      exact hlater
    · omega

theorem Precedes.of_same (generation : m'.generation = m.generation) (tracked : m'.tracked = m.tracked) :
    m.Precedes m' := .inl ⟨generation, tracked⟩

theorem Precedes.advanced (room : m.generation.next.isSome = true)
    (advances : m'.generation = m.generation.next.getD m.generation) : m.Precedes m' := by
  obtain ⟨generation, hnext⟩ := Option.isSome_iff_exists.mp room
  right
  rw [advances, hnext, Option.getD_some, Generation.toNat_of_next hnext]
  omega

theorem Precedes.later (h : m.Precedes m') (changed : m'.tracked ≠ m.tracked) :
    m.generation.value.toNat < m'.generation.value.toNat := by
  rcases h with ⟨_, hsame⟩ | hlater
  · exact absurd hsame changed
  · exact hlater

theorem Precedes.tracked_of_generation (h : m.Precedes m') (same : m'.generation = m.generation) :
    m'.tracked = m.tracked := by
  rcases h with ⟨_, htracked⟩ | hlater
  · exact htracked
  · rw [same] at hlater
    omega

theorem applyEvent_generation (m : MemberRecord) (event : MemberEvent) :
    (m.applyEvent event).generation = m.generation := by
  unfold applyEvent
  split
  · rfl
  · split <;> rfl

theorem evaluate_generation (m : MemberRecord) (permitted : Bool) (view : Option PathAuthorityView) (explicit : Bool) :
    (m.evaluate permitted view explicit).generation = m.generation := by
  unfold evaluate
  split
  · rfl
  · rw [applyEvent_generation]
    dsimp only
    split <;> rfl

theorem tracked_of_standing (h : m'.standing = m.standing) : m'.tracked = m.tracked :=
  congrArg Standing.tracked h

theorem applyEvent_tracked {event : MemberEvent}
    (steady : ∀ next, memberTransition m.lifecycle event = some next → next = m.lifecycle) :
    (m.applyEvent event).tracked = m.tracked := by
  apply tracked_of_standing
  rw [applyEvent_standing]
  cases hmoved : memberTransition m.lifecycle event with
  | none => rfl
  | some next =>
      rw [Option.getD_some, steady next hmoved]
      rfl

theorem evaluate_tracked {bound : PathAuthorityGeneration} {permitted explicit : Bool} {view : Option PathAuthorityView}
    (steady : ¬m.Shifts bound permitted view explicit) :
    (MemberRecord.evaluate { m with boundAuthorityGeneration := bound } permitted view explicit).tracked = m.tracked := by
  unfold Shifts at steady
  simp only [not_or, not_and, not_exists, not_not] at steady
  obtain ⟨hbound, hobserved, hmoves⟩ := steady
  subst hbound
  change (MemberRecord.evaluate m permitted view explicit).tracked = m.tracked
  change m.observe permitted view = m.currentness at hobserved
  cases hlive : memberIsTerminal m with
  | true =>
      have hevaluated := congrArg Standing.tracked (evaluate_terminal_standing permitted view explicit hlive)
      rw [hobserved] at hevaluated
      exact hevaluated
  | false =>
      have hevaluated := congrArg Standing.tracked (evaluate_standing permitted view explicit hlive)
      have hlifecycle : (memberTransition m.lifecycle (evaluationEvent (m.observe permitted view) explicit)).getD
          m.lifecycle = m.lifecycle := by
        cases hmoved : memberTransition m.lifecycle (evaluationEvent (m.observe permitted view) explicit) with
        | none => rfl
        | some next => exact hmoves hlive next hmoved
      rw [hlifecycle, hobserved] at hevaluated
      exact hevaluated

theorem evaluate_steady {permitted explicit : Bool} {view : Option PathAuthorityView}
    (steady : ¬m.Shifts m.boundAuthorityGeneration permitted view explicit) :
    (m.evaluate permitted view explicit).tracked = m.tracked :=
  evaluate_tracked steady

theorem evaluate_adminEnabled (m : MemberRecord) (permitted : Bool) (view : Option PathAuthorityView) (explicit : Bool) :
    (m.evaluate permitted view explicit).adminEnabled = m.adminEnabled := by
  cases hlive : memberIsTerminal m with
  | true => exact congrArg Standing.adminEnabled (evaluate_terminal_standing permitted view explicit hlive)
  | false => exact congrArg Standing.adminEnabled (evaluate_standing permitted view explicit hlive)

theorem rebound_adminEnabled (m : MemberRecord) (permitted : Bool) (view : Option PathAuthorityView) :
    (m.rebound permitted view).adminEnabled = m.adminEnabled := evaluate_adminEnabled _ _ _ _

theorem rebound_generation (m : MemberRecord) (permitted : Bool) (view : Option PathAuthorityView) :
    (m.rebound permitted view).generation = m.generation := evaluate_generation _ _ _ _

theorem revalidated_precedes (room : m.generation.next.isSome = true) (permitted : Bool) (view : Option PathAuthorityView) :
    m.Precedes (m.revalidated permitted view) := by
  have hgeneration := rebound_generation m permitted view
  have henabled : (m.rebound permitted view).adminEnabled = m.adminEnabled := rebound_adminEnabled m permitted view
  unfold revalidated
  dsimp only
  by_cases hchanged : revalidationChanged m (m.rebound permitted view) = true
  · rw [if_pos hchanged]
    apply Precedes.advanced room
    dsimp only
    rw [hgeneration]
  · rw [if_neg hchanged]
    unfold revalidationChanged at hchanged
    simp only [Bool.or_eq_true, bne_iff_ne, not_or, not_not] at hchanged
    obtain ⟨⟨hlifecycle, hcurrentness⟩, hbound⟩ := hchanged
    refine .of_same hgeneration ?_
    unfold tracked
    rw [← hlifecycle, ← hcurrentness, ← hbound, henabled]

theorem terminate_precedes (room : m.generation.next.isSome = true) (lifecycle : MemberLifecycle) :
    m.Precedes (m.terminate lifecycle) := .advanced room rfl

theorem toggled_precedes (room : m.generation.next.isSome = true) (permitted : Bool) (view : Option PathAuthorityView)
    (enabled : Bool) : m.Precedes (m.toggled permitted view enabled) := by
  apply Precedes.advanced room
  exact evaluate_generation _ _ _ _

end MemberRecord

def SetRecord.spare (r : SetRecord) : Bool :=
  r.generation.next.isSome && r.membershipGeneration.next.isSome &&
    r.members.toList.all fun entry => entry.2.generation.next.isSome

namespace FabricEngine

structure Proceeds (e : FabricEngine) (op : Op) : Prop where
  admitted : ∀ q, op.request = some q → Admitted e op q
  expects : ∀ q setId r, op.request = some q → op.subject = some setId → e.sets[setId]? = some r →
    op.Expects q.context r
  covers : ∀ path view context, op.Applies path (some view) (some context) → ∃ registration,
    e.pathCallerCheck context = .ok registration ∧ e.uncoveredDependent registration.scope path = none
  supersedes : ∀ context predecessor successor, op = .supersedeSet context predecessor successor →
    predecessor ≠ successor ∧ e.sets[successor]?.isSome = true

def spare (e : FabricEngine) : Bool :=
  e.currentEpoch.next.isSome && e.currentAuthorityGeneration.next.isSome && e.sets.toList.all fun entry => entry.2.spare

theorem spare_set {e : FabricEngine} (h : e.spare = true) {setId : MultipathSetId} {r : SetRecord}
    (found : e.sets[setId]? = some r) : r.spare = true := by
  unfold spare at h
  simp only [Bool.and_eq_true, List.all_eq_true] at h
  exact h.2 (setId, r) (Std.ExtTreeMap.mem_toList_iff_getElem?_eq_some.mpr found)

theorem spare_member {e : FabricEngine} (h : e.spare = true) {setId : MultipathSetId} {r : SetRecord} {path : PathId}
    {m : MemberRecord} (found : e.sets[setId]? = some r) (hm : r.members[path]? = some m) :
    m.generation.next.isSome = true := by
  have hset := spare_set h found
  unfold SetRecord.spare at hset
  simp only [Bool.and_eq_true, List.all_eq_true] at hset
  exact hset.2 (path, m) (Std.ExtTreeMap.mem_toList_iff_getElem?_eq_some.mpr hm)

theorem spare_unexhausted {e : FabricEngine} (h : e.spare = true) : e.Unexhausted := by
  intro setId r found
  have hset := spare_set h found
  unfold SetRecord.spare at hset
  simp only [Bool.and_eq_true] at hset
  exact hset.1.1

/-- The steps that change the semantic state of the member `m` under a path of the set `r` and leave its generation:
the ending of its set, the application of a view, a change of the policy, a revalidation of the whole set; and those
that put another record in its place under the same identity. -/
inductive Unadvanced (e : FabricEngine) (setId : MultipathSetId) (r : SetRecord) (path : PathId) (m : MemberRecord) :
    Op → Prop
  | ended {op : Op} {event : MemberEvent} {next : MemberLifecycle} (ends : op.endsMembers setId event)
      (authoritative : r.lifecycle.isAuthoritative = true) (moved : memberTransition m.lifecycle event = some next)
      (other : next ≠ m.lifecycle) : Unadvanced e setId r path m op
  | marked {context : MutationContext} {reason : RevocationReason} {detail : Bytes}
      (authoritative : r.lifecycle.isAuthoritative = true) (bound : detail.length ≤ 512)
      (unmarked : m.currentness ≠ .setNotUsable) : Unadvanced e setId r path m (.revokeSet context setId reason detail)
  | observed {op : Op} {view : Option PathAuthorityView} {context : Option MutationContext}
      (applied : op.Applies path view context) (news : ∀ used, op ≠ .reconcilePath path used used)
      (open_ : setIsFrozen r = false)
      (shifts : m.Shifts m.boundAuthorityGeneration r.conditionalAuthorityPermitted view false) :
      Unadvanced e setId r path m op
  | reevaluated {context : MutationContext} {permitted : Bool} (changes : r.conditionalAuthorityPermitted ≠ permitted)
      (live : memberIsTerminal m = false) (shifts : m.Shifts m.boundAuthorityGeneration permitted m.observationOf true) :
      Unadvanced e setId r path m (.setConditionalAuthorityPolicy context setId permitted)
  | rebound {context : MutationContext} {views : ViewTable} {view : Option PathAuthorityView}
      (allowed : transitionAllowed r.lifecycle .revalidateSet = true) (live : memberIsTerminal m = false)
      (looked : views[m.pathId]? = some view)
      (shifts : m.Shifts ((view.map PathAuthorityView.generation).getD m.boundAuthorityGeneration)
        r.conditionalAuthorityPermitted view true) :
      Unadvanced e setId r path m (.revalidateSet context setId views)
  | minted {op : Op} (publishes : path ∈ op.admits) (mints : m.id ∈ e.ids.upcoming op.admissions) :
      Unadvanced e setId r path m op
  | restored {file : Bytes} {files : StoreFiles} {decoded : DecodedStore} {fallback : Bool} {stored : SetRecord}
      {old : MemberRecord} (read : readAndDecode file e.limits files = .ok (decoded, fallback))
      (epoch : decoded.epoch.next.isSome = true) (authority : decoded.authorityGeneration.next.isSome = true)
      (listed : stored ∈ decoded.sets) (named : stored.id = setId) (found : stored.members[path]? = some old)
      (same : old.id = m.id) (behind : ¬m.Precedes old) : Unadvanced e setId r path m (.loadStore file files)

variable {e : FabricEngine} {op : Op} {q : Request} {setId : MultipathSetId} {r : SetRecord} {path : PathId}
  {m m' : MemberRecord}

theorem accepted_proceeds (request : op.request = some q) (accepted : (e.exec op).2.succeeded = true) :
    (e.exec op).1 = e ∨ e.Proceeds op := by
  rcases takesUp_requested request with hsame | hup
  · exact .inl hsame
  have hproceeds (expects : ∀ setId r, op.subject = some setId → e.sets[setId]? = some r → op.Expects q.context r) :
      e.Proceeds op := by
    refine ⟨hup.admitted, ?_, hup.covers, hup.supersedes⟩
    intro other setId r hother
    rw [request] at hother
    cases hother
    exact expects setId r
  have hnamed {setId : MultipathSetId} {r : SetRecord} (subject : op.subject = some setId)
      (found : e.sets[setId]? = some r) (expects : op.Expects q.context r) : e.Proceeds op := by
    apply hproceeds
    intro named record hname hrecord
    rw [subject] at hname
    cases hname
    rw [found] at hrecord
    cases hrecord
    exact expects
  have hanswer := exec_answer e request
  generalize e.exec op = result at hanswer accepted ⊢
  cases hanswer with
  | refused | replayed => exact .inl rfl
  | left _ _ _ _ _ rejects =>
      rw [rejects] at accepted
      cases accepted
  | answered _ named found _ expects | committed _ named found _ expects => exact .inr (hnamed named found expects)
  | superseded supersedes _ _ _ foundOld _ _ _ _ expects =>
      exact .inr (hnamed (by rw [supersedes]; rfl) foundOld expects)
  | viewed _ _ applied => exact .inr (hproceeds fun _ _ hsubject => absurd applied (unapplied_of_named hsubject))
  | created creates =>
      apply Or.inr
      apply hproceeds
      rw [creates]
      intro setId r hsubject
      cases hsubject

theorem precedes_of_members {r' : SetRecord} (members : r'.members = r.members) (hm : r.members[path]? = some m)
    (hm' : r'.members[path]? = some m') : m.Precedes m' := by
  rw [members, hm] at hm'
  cases hm'
  exact .refl m

theorem precedes_of_sets {r' : SetRecord} {e' : FabricEngine} (sets : e'.sets = e.sets) (found : e.sets[setId]? = some r)
    (hm : r.members[path]? = some m) (found' : e'.sets[setId]? = some r') (hm' : r'.members[path]? = some m') :
    m.Precedes m' := by
  rw [sets, found] at found'
  cases found'
  exact precedes_of_members rfl hm hm'

theorem rejected_precedes {r' : SetRecord} (plain : op.loads = false) (unexhausted : e.Unexhausted)
    (rejected : (e.exec op).2.succeeded = false) (found : e.sets[setId]? = some r) (hm : r.members[path]? = some m)
    (found' : (e.exec op).1.sets[setId]? = some r') (hm' : r'.members[path]? = some m') : m.Precedes m' := by
  have hstored : ∀ file files, op ≠ .loadStore file files := by
    rintro file files rfl
    cases plain
  have hspent : ∀ {context operation fields target} {x : SetRecord},
      e.admission context operation fields target = .ok x → ¬x.generation.next = none := by
    intro context operation fields target x hadmitted hnone
    have hroom := unexhausted target x (admission_found hadmitted)
    rw [hnone] at hroom
    cases hroom
  by_cases hresidue : Residue e op
  · cases hresidue with
    | @minimum context target minimum old x admitted moved rejects changes =>
        have hleft : (e.exec (.setMinimumUsableMembers context target minimum)).1 = e.putSet target x :=
          (Residue.minimum_exec admitted moved rejects).1
        rw [hleft, putSet, getElem?_insert_eq] at found'
        split at found'
        · rename_i hsame
          cases hsame
          cases found'
          rw [admission_found admitted.2.1] at found
          cases found
          exact precedes_of_members (SetRecord.applyTransition_members moved) hm hm'
        · exact precedes_of_sets rfl found hm found' hm'
    | policy admitted _ rejects => exact absurd rejects.2 (hspent admitted.2.1)
    | admin admitted _ rejects => exact absurd rejects.2 (hspent admitted.2.1)
    | revalidation admitted _ _ exhausted => exact absurd exhausted (hspent admitted.2.1)
    | @registration publisher workerBoot scope session admitted exhausted =>
        have hleft : (e.exec (.registerPublisher publisher workerBoot scope session)).1 =
            { e with registrations := e.releaseSession ⟨publisher, workerBoot⟩ session } :=
          (Residue.registration_exec admitted exhausted).1
        rw [hleft] at found'
        exact precedes_of_sets rfl found hm found' hm'
  · rcases Atomic.of_no_residue hstored hresidue rejected with hsame | hreleases
    · rw [hsame] at found'
      exact precedes_of_sets rfl found hm found' hm'
    · obtain ⟨context, ticket, current, old, place, member, _, hfound, hfinds, hleft⟩ := hreleases
      rw [hleft, putSet, getElem?_insert_eq] at found'
      split at found'
      · rename_i hsame
        cases hsame
        cases found'
        rw [hfound] at found
        cases found
        rw [SetRecord.withMember, getElem?_insert_eq] at hm'
        split at hm'
        · rename_i hpath
          cases hpath
          cases hm'
          rw [hfinds.2] at hm
          cases hm
          exact .of_same rfl rfl
        · exact precedes_of_members rfl hm hm'
      · exact precedes_of_sets rfl found hm found' hm'

theorem policy_idle {context : MutationContext} {permitted : Bool} {r' : SetRecord} (found : e.sets[setId]? = some r)
    (same : r.conditionalAuthorityPermitted = permitted)
    (found' : (e.setConditionalAuthorityPolicy context setId permitted).1.sets[setId]? = some r') :
    r'.members = r.members := by
  unfold setConditionalAuthorityPolicy at found'
  generalize hresult : conclude e _ = result at found'
  rcases conclude_cases hresult with hkept | h
  · rw [hkept, found] at found'
    cases found'
    rfl
  · simp only [Checked.bind_ok, Checked.require_ok] at h
    obtain ⟨_, _, old, hadmitted, _, _, x, hmoved, h⟩ := h
    rw [admission_found hadmitted] at found
    cases found
    have htransition := SetRecord.transition_ok hmoved
    rw [applyTransition_policy htransition, if_pos same, Checked.pure_ok] at h
    subst h
    change (e.sets.insert setId x)[setId]? = some r' at found'
    rw [getElem?_insert_eq, if_pos rfl] at found'
    cases found'
    exact SetRecord.applyTransition_members htransition

theorem change_precedes (change : MemberChange e setId r path op m m') (room : m.generation.next.isSome = true)
    (news : ∀ used, op ≠ .reconcilePath path used used)
    (differs : ∀ context permitted, op = .setConditionalAuthorityPolicy context setId permitted →
      r.conditionalAuthorityPermitted ≠ permitted)
    (calm : ¬Unadvanced e setId r path m op) : m.Precedes m' := by
  cases change with
  | @ended _ _ event ends authoritative =>
      have htracked : (m.applyEvent event).tracked = m.tracked := by
        apply applyEvent_tracked
        intro next hmoved
        by_contra hother
        exact calm (.ended ends authoritative hmoved hother)
      exact .of_same (applyEvent_generation m event) htracked
  | @marked context reason detail _ authoritative bound =>
      by_cases hmarked : m.currentness = .setNotUsable
      · have hsame : markSetNotUsable m = m := by
          unfold markSetNotUsable
          rw [if_neg (not_not.mpr hmarked)]
        rw [hsame]
        exact .of_same rfl rfl
      · exact absurd (.marked authoritative bound hmarked) calm
  | observed applied open_ =>
      refine .of_same (evaluate_generation _ _ _ _) (evaluate_steady fun hshifts => ?_)
      exact calm (.observed applied news open_ hshifts)
  | reevaluated live =>
      refine .of_same (evaluate_generation _ _ _ _) (evaluate_steady fun hshifts => ?_)
      exact calm (.reevaluated (differs _ _ rfl) live hshifts)
  | rebound allowed live looked =>
      refine .of_same (rebound_generation _ _ _) (evaluate_tracked fun hshifts => ?_)
      exact calm (.rebound allowed live looked hshifts)
  | revalidated => exact revalidated_precedes room _ _
  | completed => exact revalidated_precedes room _ _
  | released | abandoned | begun => exact .of_same rfl rfl
  | toggled => exact toggled_precedes room _ _ _
  | withdrawn => exact terminate_precedes room _
  | superseded => exact .advanced room rfl

theorem unrequested_proceeds (h : op.request = none) : e.Proceeds op := by
  have hup : e.TakesUp op := takesUp_unrequested h
  refine ⟨hup.admitted, ?_, hup.covers, hup.supersedes⟩
  intro q setId r hq
  rw [h] at hq
  cases hq

theorem admission_mints (admission : Admission e setId r path op m') :
    path ∈ op.admits ∧ m'.id ∈ e.ids.upcoming op.admissions := by
  cases admission with
  | @added _ context requests bulk e' y request view publication listed place minted _ _ =>
      have hid := (newMember_admits e' context y .memberAdded request view (r.members[path]?.map MemberRecord.id) 0).fresh
      rw [List.mem_singleton.mp hid]
      cases publication with
      | one =>
          have hrequest := congrArg Prod.fst (List.mem_singleton.mp listed)
          refine ⟨List.mem_singleton.mpr ?_, minted⟩
          rw [← place]
          exact congrArg MemberRequest.pathId hrequest
      | many =>
          refine ⟨?_, minted⟩
          rw [← place]
          exact List.mem_map_of_mem listed
  | @replacing context memberId request reason view y m predecessor found other place =>
      have hid := (newMember_admits e context y .memberReplaced request view (some memberId) 0).fresh
      exact ⟨List.mem_singleton.mpr place.symm, hid⟩

theorem sealed_precedes {entry : Option MemberRecord} (stored : SealedPlace (some m) entry) (kept : entry = some m') :
    m.Precedes m' ∧ m'.id = m.id := by
  cases stored with
  | kept =>
      cases kept
      exact ⟨.refl m, rfl⟩
  | cleared =>
      cases kept
      exact ⟨.of_same rfl rfl, rfl⟩
  | pruned => cases kept

theorem load_precedes {file : Bytes} {files : StoreFiles} {r' : SetRecord} (found : e.sets[setId]? = some r)
    (hm : r.members[path]? = some m) (found' : (e.after (.loadStore file files)).sets[setId]? = some r')
    (hm' : r'.members[path]? = some m') (same : m'.id = m.id) (calm : ¬Unadvanced e setId r path m (.loadStore file files)) :
    m.Precedes m' := by
  have hstep := e.after_sets (.loadStore file files) setId
  rw [found, found'] at hstep
  cases hstep with
  | kept => exact precedes_of_members rfl hm hm'
  | changed edit =>
      cases edit with
      | observed applied | invalidated applied => cases applied
      | added _ publication => cases publication
  | fenced fences => cases fences
  | epochAdvanced advances => cases advances
  | @recovered other others decoded fallback loading stored loads read listed named bounds epoch authority =>
      cases loads
      have hmembers : (loading.recoveredSet stored).members[path]? =
          (stored.members[path]?.map MemberRecord.bumpWatermark).map MemberRecord.bumpWatermark := by
        change ((stored.members.map fun _ m => m.bumpWatermark).map fun _ m => m.bumpWatermark)[path]? = _
        rw [getElem?_mapValues, getElem?_mapValues]
      rw [hmembers] at hm'
      cases hold : stored.members[path]? with
      | none =>
          rw [hold] at hm'
          cases hm'
      | some old =>
          rw [hold] at hm'
          cases hm'
          by_contra hbehind
          refine calm (.restored read ?_ ?_ listed named hold same fun hprecedes => hbehind ?_)
          · rw [epoch]
            rfl
          · rw [authority]
            rfl
          · exact hprecedes.trans (.of_same rfl rfl)

theorem step_precedes {r' : SetRecord} (found : e.sets[setId]? = some r) (hm : r.members[path]? = some m)
    (found' : (e.after op).sets[setId]? = some r') (hm' : r'.members[path]? = some m') (same : m'.id = m.id)
    (unexhausted : e.Unexhausted) (room : m.generation.next.isSome = true)
    (calm : ¬(e.Proceeds op ∧ Unadvanced e setId r path m op)) : m.Precedes m' := by
  by_cases hproceeds : e.Proceeds op
  · have hcalm : ¬Unadvanced e setId r path m op := fun hunadvanced => calm ⟨hproceeds, hunadvanced⟩
    cases hplain : op.loads with
    | true =>
        cases op with
        | loadStore file files => exact load_precedes found hm found' hm' same hcalm
        | _ => cases hplain
    | false =>
        by_cases hnews : ∃ used, op = .reconcilePath path used used
        · obtain ⟨used, rfl⟩ := hnews
          have hsame : e.after (.reconcilePath path used used) = e := reconcilePath_same e path used
          rw [hsame] at found'
          exact precedes_of_sets rfl found hm found' hm'
        · by_cases hpolicy : ∃ context permitted, op = .setConditionalAuthorityPolicy context setId permitted ∧
              r.conditionalAuthorityPermitted = permitted
          · obtain ⟨context, permitted, rfl, hforce⟩ := hpolicy
            exact precedes_of_members (policy_idle found hforce found') hm hm'
          · obtain ⟨stored, hstored, hplace⟩ := step_place hplain found
            rw [found'] at hstored
            cases hstored
            have hpath := hplace path
            rw [hm'] at hpath
            generalize hafter : some m' = after at hpath
            cases hpath with
            | bumped =>
                rw [hm] at hafter
                cases hafter
                exact .of_same rfl rfl
            | @stored entry _ change sealed_ =>
                rw [hm] at change
                generalize hbefore : some m = before at change
                cases change with
                | kept =>
                    cases hbefore
                    exact (sealed_precedes sealed_ hafter.symm).1
                | @changed first middle change =>
                    cases hbefore
                    have hchange := change_precedes change room (fun used hused => hnews ⟨used, hused⟩)
                      (fun context permitted hop hforce => hpolicy ⟨context, permitted, hop, hforce⟩) hcalm
                    exact hchange.trans (sealed_precedes sealed_ hafter.symm).1
                | removed =>
                    cases sealed_ with
                    | kept => cases hafter
                | @admitted middle _ admission =>
                    obtain ⟨hadmits, hmints⟩ := admission_mints admission
                    have hid := (sealed_precedes sealed_ hafter.symm).2
                    rw [← hid, same] at hmints
                    exact absurd (.minted hadmits hmints) hcalm
  · cases hrequest : op.request with
    | none => exact absurd (unrequested_proceeds hrequest) hproceeds
    | some q =>
        have hplain : op.loads = false := by
          cases op with
          | loadStore => cases hrequest
          | _ => rfl
        cases haccepted : (e.exec op).2.succeeded with
        | true =>
            have hsame := (accepted_proceeds hrequest haccepted).resolve_right hproceeds
            change (e.exec op).1.sets[setId]? = some r' at found'
            rw [hsame] at found'
            exact precedes_of_sets rfl found hm found' hm'
        | false => exact rejected_precedes hplain unexhausted haccepted found hm found' hm'

def Retains (e : FabricEngine) (setId : MultipathSetId) (path : PathId) (memberId : MultipathMemberId)
    (m : MemberRecord) : Prop :=
  ∃ r, e.sets[setId]? = some r ∧ r.members[path]? = some m ∧ m.id = memberId

/-- A step that retains the member, with no counter exhausted, and leaves no change of it uncounted. -/
structure Counting (setId : MultipathSetId) (path : PathId) (memberId : MultipathMemberId) (e : FabricEngine) (op : Op) :
    Prop where
  spare : e.spare = true
  retained : ∃ m, (e.after op).Retains setId path memberId m
  calm : ∀ r m, e.sets[setId]? = some r → r.members[path]? = some m →
    ¬(e.Proceeds op ∧ Unadvanced e setId r path m op)

/-- Over a run that leaves no change uncounted, the member generation tells the states of a member apart. -/
theorem member_generation_of_run {e e' : FabricEngine} {setId : MultipathSetId} {path : PathId}
    {memberId : MultipathMemberId} {m m' : MemberRecord} (run : Continues (Counting setId path memberId) e e')
    (before : e.Retains setId path memberId m) (after : e'.Retains setId path memberId m') :
    (m'.tracked ≠ m.tracked → m.generation.value.toNat < m'.generation.value.toNat) ∧
    (m'.generation = m.generation → m'.tracked = m.tracked) ∧
    ∀ context : MutationContext, context.expectedMemberGeneration = some m.generation → m'.tracked ≠ m.tracked →
      expectedMemberGenerationMatches context m' ≠ .ok () := by
  obtain ⟨last, hlast, hprecedes⟩ : ∃ last, e'.Retains setId path memberId last ∧ m.Precedes last := by
    apply run.keeps (P := fun x => ∃ last, x.Retains setId path memberId last ∧ m.Precedes last)
    · exact ⟨m, before, .refl m⟩
    · rintro x op _ ⟨last, ⟨r, hr, hlast, hid⟩, hprecedes⟩ hcounting
      obtain ⟨next, r', hr', hnext, hid'⟩ := hcounting.retained
      have hstep := step_precedes hr hlast hr' hnext (hid'.trans hid.symm) (spare_unexhausted hcounting.spare)
        (spare_member hcounting.spare hr hlast) (hcounting.calm r last hr hlast)
      exact ⟨next, ⟨r', hr', hnext, hid'⟩, hprecedes.trans hstep⟩
  have hsame : last = m' := by
    obtain ⟨r, hr, hm, _⟩ := hlast
    obtain ⟨r', hr', hm', _⟩ := after
    rw [hr] at hr'
    cases hr'
    rw [hm] at hm'
    exact Option.some_inj.mp hm'
  subst hsame
  refine ⟨hprecedes.later, hprecedes.tracked_of_generation, fun context hexpected hchanged => ?_⟩
  have hlater := hprecedes.later hchanged
  unfold expectedMemberGenerationMatches
  rw [hexpected]
  intro hmatches
  have hequal := eq_of_beq (Checked.require_ok.mp hmatches)
  rw [hequal] at hlater
  exact absurd hlater (Nat.lt_irrefl _)

def toggling : Op := .setMemberAdminEnabled (sampleContext "a4") sampleSet sampleMember false (some sampleView)

def memberOf (e : FabricEngine) (setId : MultipathSetId) (path : PathId) : Option MemberRecord :=
  e.sets[setId]?.bind fun r => r.members[path]?

theorem retains_of_memberOf {e : FabricEngine} {setId : MultipathSetId} {path : PathId} {m : MemberRecord}
    (h : e.memberOf setId path = some m) : e.Retains setId path m.id m := by
  obtain ⟨r, hr, hm⟩ := Option.bind_eq_some_iff.mp h
  exact ⟨r, hr, hm, rfl⟩

theorem member_generation_of_run_sample : ∃ m m', (sampleRun sampleSteps).memberOf sampleSet samplePath = some m ∧
    ((sampleRun sampleSteps).after toggling).memberOf sampleSet samplePath = some m' ∧
    m.generation.value.toNat < m'.generation.value.toNat := by
  obtain ⟨m, hm⟩ := Option.isSome_iff_exists.mp
    (show ((sampleRun sampleSteps).memberOf sampleSet samplePath).isSome = true by decide +kernel)
  obtain ⟨m', hm'⟩ := Option.isSome_iff_exists.mp
    (show (((sampleRun sampleSteps).after toggling).memberOf sampleSet samplePath).isSome = true by decide +kernel)
  have hid : ((sampleRun sampleSteps).memberOf sampleSet samplePath).map MemberRecord.id =
      (((sampleRun sampleSteps).after toggling).memberOf sampleSet samplePath).map MemberRecord.id := by decide +kernel
  have hchanged : (((sampleRun sampleSteps).after toggling).memberOf sampleSet samplePath).map MemberRecord.tracked ≠
      ((sampleRun sampleSteps).memberOf sampleSet samplePath).map MemberRecord.tracked := by decide +kernel
  have hspare : (sampleRun sampleSteps).spare = true := by decide +kernel
  rw [hm, hm'] at hid hchanged
  have hsame : m'.id = m.id := (Option.some_inj.mp hid).symm
  have hbefore := retains_of_memberOf hm
  have hafter := retains_of_memberOf hm'
  rw [hsame] at hafter
  refine ⟨m, m', hm, hm', (member_generation_of_run (.step (.init rfl) ⟨toggling, ?_, rfl⟩) hbefore hafter).1 fun heq =>
    hchanged (congrArg some heq)⟩
  refine ⟨hspare, ⟨m', hafter⟩, ?_⟩
  rintro r member _ _ ⟨_, hunadvanced⟩
  unfold toggling at hunadvanced
  cases hunadvanced with
  | ended ends => exact ends
  | observed applied => cases applied
  | minted publishes => cases publishes

def outdating : Op := .declarePathAuthority (sampleContext "a4") ⟨samplePath, ⟨2⟩, .authorized⟩

theorem member_generation_fails : ¬∀ (config : FabricConfig) (e : FabricEngine) (op : Op) (setId : MultipathSetId)
    (path : PathId) (memberId : MultipathMemberId) (m m' : MemberRecord), Reachable config e → e.spare = true →
    e.Retains setId path memberId m → (e.after op).Retains setId path memberId m' → m'.tracked ≠ m.tracked →
    m.generation.value.toNat < m'.generation.value.toNat := by
  intro h
  obtain ⟨m, hm⟩ := Option.isSome_iff_exists.mp
    (show ((sampleRun sampleSteps).memberOf sampleSet samplePath).isSome = true by decide +kernel)
  obtain ⟨m', hm'⟩ := Option.isSome_iff_exists.mp
    (show (((sampleRun sampleSteps).after outdating).memberOf sampleSet samplePath).isSome = true by decide +kernel)
  have hid : ((sampleRun sampleSteps).memberOf sampleSet samplePath).map MemberRecord.id =
      (((sampleRun sampleSteps).after outdating).memberOf sampleSet samplePath).map MemberRecord.id := by decide +kernel
  have hchanged : (((sampleRun sampleSteps).after outdating).memberOf sampleSet samplePath).map MemberRecord.tracked ≠
      ((sampleRun sampleSteps).memberOf sampleSet samplePath).map MemberRecord.tracked := by decide +kernel
  have hgeneration : ((sampleRun sampleSteps).memberOf sampleSet samplePath).map MemberRecord.generation =
      (((sampleRun sampleSteps).after outdating).memberOf sampleSet samplePath).map MemberRecord.generation := by
    decide +kernel
  have hspare : (sampleRun sampleSteps).spare = true := by decide +kernel
  rw [hm, hm'] at hid hchanged hgeneration
  have hsame : m'.id = m.id := (Option.some_inj.mp hid).symm
  have hbefore := retains_of_memberOf hm
  have hafter := retains_of_memberOf hm'
  rw [hsame] at hafter
  have hlater := h sampleConfig _ outdating sampleSet samplePath m.id m m' (sampleRun_reachable sampleSteps) hspare hbefore
    hafter fun heq => hchanged (congrArg some heq)
  have hequal : m.generation = m'.generation := Option.some_inj.mp hgeneration
  rw [hequal] at hlater
  exact absurd hlater (Nat.lt_irrefl _)

end FabricEngine

end MultipathFabric
