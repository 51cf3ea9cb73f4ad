import MultipathFabric.Counters
import MultipathFabric.MemberChange
import MultipathFabric.MemberCount
import MultipathFabric.MemberIndex
import MultipathFabric.Termination

namespace MultipathFabric

open OrderedMap MemberRecord

namespace MemberRecord

variable {m m' : MemberRecord}

def liveId (m : MemberRecord) : Option MultipathMemberId := if memberIsTerminal m then none else some m.id

theorem liveId_ended (h : memberIsTerminal m = true) : m.liveId = none := by
  unfold liveId
  rw [if_pos h]

theorem liveId_live (h : memberIsTerminal m = false) : m.liveId = some m.id := by
  unfold liveId
  rw [h]
  rfl

theorem liveId_congr (same : m'.id = m.id) (ended : memberIsTerminal m' = memberIsTerminal m) : m'.liveId = m.liveId := by
  unfold liveId
  rw [same, ended]

theorem evaluate_liveId (permitted : Bool) (view : Option PathAuthorityView) (explicit : Bool) :
    (m.evaluate permitted view explicit).liveId = m.liveId := by
  apply liveId_congr (SetRecord.evaluate_id _ _ _ _)
  cases hm : memberIsTerminal m with
  | true => exact evaluate_ends _ _ _ hm
  | false => exact evaluate_live _ _ _ hm

theorem rebound_liveId (permitted : Bool) (view : Option PathAuthorityView) : (m.rebound permitted view).liveId = m.liveId := by
  unfold rebound
  exact evaluate_liveId _ _ _

theorem revalidated_liveId (permitted : Bool) (view : Option PathAuthorityView) :
    (m.revalidated permitted view).liveId = m.liveId := by
  refine Eq.trans ?_ (rebound_liveId permitted view)
  have hstanding := revalidated_standing m permitted view
  exact liveId_congr (congrArg Standing.id hstanding) (live_of_lifecycle (standing_lifecycle hstanding))

theorem markSetNotUsable_liveId : (markSetNotUsable m).liveId = m.liveId := by
  have hstanding := markSetNotUsable_standing m
  exact liveId_congr (congrArg Standing.id hstanding) (live_of_lifecycle (congrArg Standing.lifecycle hstanding))

end MemberRecord

/-- The live membership: the identity of the relation that stands under each path and has not ended. -/
def SetRecord.live (r : SetRecord) (path : PathId) : Option MultipathMemberId := r.members[path]?.bind liveId

def Op.closes (setId : MultipathSetId) : Op → Prop
  | .withdrawSet _ target _ | .supersedeSet _ target _ | .retireSet _ target _ => target = setId
  | _ => False

def SetRecord.Closes (r : SetRecord) (setId : MultipathSetId) (op : Op) : Prop :=
  op.closes setId ∧ r.lifecycle.isAuthoritative = true

def SetRecord.ForgetsEnded (r : SetRecord) (setId : MultipathSetId) (op : Op) : Prop :=
  ∃ context memberId reason path m, op = .removeMember context setId memberId reason ∧ r.finds memberId path m ∧
    memberIsTerminal m = true

section Places

variable {e : FabricEngine} {setId : MultipathSetId} {r : SetRecord} {path : PathId} {op : Op} {m m' : MemberRecord}

theorem endsMembers_ended {event : MemberEvent} (ends : op.endsMembers setId event) :
    op.closes setId ∧ memberIsTerminal (m.applyEvent event) = true := by
  cases op with
  | withdrawSet context target reason =>
      obtain ⟨hsame, rfl, _⟩ := ends
      exact ⟨hsame, applyEvent_withdraw m⟩
  | supersedeSet context predecessor successor =>
      obtain ⟨hsame, rfl, _⟩ := ends
      exact ⟨hsame, applyEvent_supersede m⟩
  | retireSet context target reason =>
      obtain ⟨hsame, rfl, _⟩ := ends
      refine ⟨hsame, ?_⟩
      unfold memberIsTerminal
      rw [applyEvent_retire]
      rfl
  | _ => cases ends

theorem MemberChange.liveId (change : MemberChange e setId r path op m m')
    (keeps : op.changesMembership = true → op.subject ≠ some setId) :
    m'.liveId = m.liveId ∨ r.Closes setId op ∧ m'.liveId = none := by
  cases change with
  | ended ends authoritative =>
      obtain ⟨hcloses, hended⟩ := endsMembers_ended (m := m) ends
      exact .inr ⟨⟨hcloses, authoritative⟩, liveId_ended hended⟩
  | marked => exact .inl markSetNotUsable_liveId
  | observed | reevaluated | toggled => exact .inl (evaluate_liveId _ _ _)
  | rebound => exact .inl (rebound_liveId _ _)
  | revalidated | completed => exact .inl (revalidated_liveId _ _)
  | released | abandoned | begun => exact .inl rfl
  | withdrawn | superseded => exact absurd rfl (keeps rfl)

theorem PlaceChange.live {entry : Option MemberRecord} (change : PlaceChange e setId r path op r.members[path]? entry)
    (keeps : op.changesMembership = true → op.subject ≠ some setId) :
    entry.bind MemberRecord.liveId = r.live path ∨ r.Closes setId op ∧ entry.bind MemberRecord.liveId = none := by
  unfold SetRecord.live
  generalize r.members[path]? = before at change
  cases change with
  | kept => exact .inl rfl
  | changed change => exact change.liveId keeps
  | removed removes =>
      rw [removes] at keeps
      exact absurd rfl (keeps rfl)
  | admitted _ admission =>
      have hadmits : op.changesMembership = true ∧ op.subject = some setId := by
        cases admission with
        | added publication => cases publication <;> exact ⟨rfl, rfl⟩
        | replacing => exact ⟨rfl, rfl⟩
      exact absurd hadmits.2 (keeps hadmits.1)

theorem SealedPlace.live {entry after : Option MemberRecord} (h : SealedPlace entry after) :
    after.bind MemberRecord.liveId = entry.bind MemberRecord.liveId := by
  cases h with
  | kept => rfl
  | cleared => rfl
  | pruned terminal => exact (liveId_ended terminal).symm

theorem StepPlace.live {after : Option MemberRecord} (h : StepPlace e setId r path op after)
    (keeps : op.changesMembership = true → op.subject ≠ some setId) :
    after.bind MemberRecord.liveId = r.live path ∨ r.Closes setId op ∧ after.bind MemberRecord.liveId = none := by
  cases h with
  | stored change sealed_ =>
      rw [sealed_.live]
      exact change.live keeps
  | bumped =>
      left
      unfold SetRecord.live
      cases r.members[path]? <;> rfl

end Places

section Edits

variable {e : FabricEngine} {setId : MultipathSetId} {r x : SetRecord} {path : PathId} {op : Op}

theorem insert_live {members : MemberMap} {place : PathId} {m : MemberRecord} (h : x.members = members.insert place m)
    (path : PathId) : x.live path = if place = path then m.liveId else members[path]?.bind MemberRecord.liveId := by
  unfold SetRecord.live
  rw [h, getElem?_insert_eq]
  split <;> rfl

theorem published_live_at (context : MutationContext) (setId : MultipathSetId) (path : PathId)
    {requests : List (MemberRequest × Option PathAuthorityView)} (e : FabricEngine) (r : SetRecord)
    (h : (∃ request ∈ requests, request.1.pathId = path) ∨ (r.live path).isSome = true) :
    ((FabricEngine.publishMembers context setId e r requests).2.1.live path).isSome = true := by
  induction requests generalizing e r with
  | nil =>
      rcases h with ⟨request, hrequest, _⟩ | h
      · cases hrequest
      · exact h
  | cons entry rest ih =>
      obtain ⟨request, view⟩ := entry
      apply ih (e.admitPath setId request.pathId)
      have hinstalled := insert_live (SetRecord.installMember_members r (e.newMember context r .memberAdded request view
        (r.members[request.pathId]?.map MemberRecord.id))) path
      rw [SetRecord.newMember_pathId, liveId_live (SetRecord.newMember_live _ _ _ _ _ _ _)] at hinstalled
      by_cases hpath : request.pathId = path
      · right
        rw [hinstalled, if_pos hpath]
        rfl
      · rcases h with ⟨other, hother, hplace⟩ | h
        · rcases List.mem_cons.mp hother with rfl | hother
          · exact absurd hplace hpath
          · exact .inl ⟨other, hother, hplace⟩
        · right
          rw [hinstalled, if_neg hpath]
          exact h

theorem committed_live (e : FabricEngine) (y : SetRecord) (context : MutationContext) (spec : CommitSpec) :
    (y.committed e context spec).live = y.live := by
  funext path
  exact (pruneArchive_place e.limits { y with provenance := makeProvenance context spec.cause y } path).live

theorem live_ne (path : PathId) (h : (x.live path).isSome ≠ (r.live path).isSome) : x.live ≠ r.live := by
  intro hsame
  rw [hsame] at h
  exact h rfl

theorem live_at {m : MemberRecord} (found : r.members[path]? = some m) : r.live path = m.liveId := by
  unfold SetRecord.live
  rw [found]
  rfl

theorem withdraw_ends {m : MemberRecord} {lifecycle : MemberLifecycle}
    (ends : memberTransition m.lifecycle .withdraw = some lifecycle) :
    memberIsTerminal m = false ∧ memberIsTerminal (m.terminate lifecycle) = true := by
  unfold memberIsTerminal MemberRecord.terminate
  generalize m.lifecycle = source at ends
  cases source <;> cases ends <;> exact ⟨rfl, rfl⟩

theorem RecordEdit.moves_live {summary : Bytes} (edit : RecordEdit e setId r op x summary)
    (changes : op.changesMembership = true) (requested : ∀ context, op ≠ .addMembers context setId []) :
    x.live ≠ r.live ∨ r.ForgetsEnded setId op := by
  cases edit with
  | @added context _ requests bulk y publication _ _ _ distinct moved =>
      left
      obtain ⟨request, rest, hrequests⟩ : ∃ request rest, requests = request :: rest := by
        cases requests with
        | nil =>
            cases publication
            exact absurd rfl (requested context)
        | cons request rest => exact ⟨request, rest, rfl⟩
      have hended : (r.live request.1.pathId).isSome = false := by
        rw [hrequests] at distinct
        have hfree := (duplicateRequest_cons distinct).2.1
        cases hm : r.members[request.1.pathId]? with
        | none =>
            unfold SetRecord.live
            rw [hm]
            rfl
        | some m =>
            rw [live_at hm, liveId_ended (hfree m hm)]
            rfl
      apply live_ne request.1.pathId
      have hlisted : ∃ other ∈ requests, other.1.pathId = request.1.pathId := by
        rw [hrequests]
        exact ⟨request, List.mem_cons_self, rfl⟩
      have hpublished := published_live_at context setId request.1.pathId e y (.inl hlisted)
      have hlive : (FabricEngine.publishMembers context setId e y requests).2.1.recompute.live =
          (FabricEngine.publishMembers context setId e y requests).2.1.live := by
        funext path
        unfold SetRecord.live
        rw [SetRecord.recompute_members]
      rw [hlive, hpublished, hended]
      decide
  | @removed context memberId reason path m y _ found _ moved =>
      cases hterminal : memberIsTerminal m with
      | true => exact .inr ⟨context, memberId, reason, path, m, rfl, found, hterminal⟩
      | false =>
          left
          have hgone : SetRecord.live (SetRecord.recompute
              { y with memberIndex := y.memberIndex.erase memberId, members := y.members.erase path }) path = none := by
            unfold SetRecord.live
            rw [SetRecord.recompute_members, Std.ExtTreeMap.getElem?_erase_self]
            rfl
          apply live_ne path
          rw [hgone, live_at found.2, liveId_live hterminal]
          exact fun h => by cases h
  | @withdrewMember context memberId reason path m lifecycle y _ found _ ends moved =>
      left
      have hended : SetRecord.live (SetRecord.recompute (y.withMember path (m.terminate lifecycle))) path = none := by
        have hinserted : (SetRecord.recompute (y.withMember path (m.terminate lifecycle))).members =
            y.members.insert path (m.terminate lifecycle) := SetRecord.recompute_members _
        rw [insert_live hinserted, if_pos rfl]
        exact liveId_ended (withdraw_ends ends).2
      apply live_ne path
      rw [hended, live_at found.2, liveId_live (withdraw_ends ends).1]
      exact fun h => by cases h
  | @replaced context memberId request reason view path m y _ _ _ found other _ _ free moved =>
      left
      have hadmitted : ((y.replaced e context memberId path m request view).live request.pathId).isSome = true := by
        have hinserted : (y.replaced e context memberId path m request view).members =
            (y.members.insert path { m.terminate .superseded with
              successor := some (e.newMember context y .memberReplaced request view (some memberId)).id }).insert
              (e.newMember context y .memberReplaced request view (some memberId)).pathId
              (e.newMember context y .memberReplaced request view (some memberId)) := SetRecord.recompute_members _
        rw [insert_live hinserted, SetRecord.newMember_pathId, if_pos rfl, liveId_live (SetRecord.newMember_live _ _ _ _ _ _ _)]
        rfl
      have hfree : (r.live request.pathId).isSome = false := by
        cases hm : r.members[request.pathId]? with
        | none =>
            unfold SetRecord.live
            rw [hm]
            rfl
        | some other =>
            rw [hm, Option.filter_eq_none_iff] at free
            have hterminal : memberIsTerminal other = true := by simpa using free other rfl
            rw [live_at hm, liveId_ended hterminal]
            rfl
      apply live_ne request.pathId
      rw [hadmitted, hfree]
      decide
  | observed applied | invalidated applied => cases applied <;> cases changes
  | _ => cases changes

end Edits

namespace FabricEngine

variable {e e' : FabricEngine} {setId own : MultipathSetId} {r r' x : SetRecord} {op : Op}
  {g : MembershipGeneration}

def StandsAt (e : FabricEngine) (setId : MultipathSetId) (g : MembershipGeneration) : Prop :=
  ∀ r : SetRecord, e.sets[setId]? = some r → r.membershipGeneration = g

theorem StandsAt.store (h : e.StandsAt setId g) (sets : e'.sets = e.sets.insert own x)
    (same : own = setId → x.membershipGeneration = g) : e'.StandsAt setId g := by
  intro r hr
  rw [sets, getElem?_insert_eq] at hr
  split at hr
  · rename_i hown
    cases hr
    exact same hown
  · exact h r hr

theorem StandsAt.congr (h : e.StandsAt setId g) (sets : e'.sets = e.sets) : e'.StandsAt setId g := by
  intro r hr
  rw [sets] at hr
  exact h r hr

theorem StandsAt.put (h : e.StandsAt setId g) (found : e.sets[own]? = some r)
    (same : x.membershipGeneration = r.membershipGeneration) : (e.putSet own x).StandsAt setId g := by
  refine h.store rfl fun hown => ?_
  subst hown
  rw [same]
  exact h r found

theorem StandsAt.captured (h : e.StandsAt setId g) (own : MultipathSetId)
    (same : own = setId → x.membershipGeneration = g) : ((e.captureSnapshot x).putSet own x).StandsAt setId g := by
  have hsets : ((e.captureSnapshot x).putSet own x).sets = e.sets.insert own x := by
    rw [putSet, captureSnapshot_sets]
  exact h.store hsets same

theorem StandsAt.rewritten (h : e.StandsAt setId g) {f : FabricEngine → SetRecord → Option SetRecord}
    (keeps : ∀ e r x, f e r = some x → x.membershipGeneration = r.membershipGeneration) :
    (rewriteSets f e e.sets.toList).StandsAt setId g := by
  refine rewriteAll_preserves (p := fun e => e.StandsAt setId g) (fun base own r x hbase hr hx => ?_) h
  refine hbase.captured own fun hown => ?_
  subst hown
  rw [keeps base r x hx]
  exact hbase r hr

theorem StandsAt.viewed (h : e.StandsAt setId g) {path : PathId} {view : Option PathAuthorityView}
    {context : Option MutationContext} {cause : MembershipCause} :
    (e.applyView path view context cause).1.StandsAt setId g := by
  refine applyView_preserves (p := fun e => e.StandsAt setId g) (fun base own r x hbase hr hx => ?_)
    (fun base r hbase => hbase.congr (captureSnapshot_sets base r)) h
  apply hbase.put hr
  cases hx with
  | observed => rfl
  | invalidated =>
      unfold dependencyInvalidated
      dsimp only
      split <;> rfl

theorem createdRecord_membership {context : MutationContext} {key : SetKey} {options : SetOptions}
    (found : e.sets[e.ids.nextSetId.1]? = some r) :
    (e.createdRecord context key options).membershipGeneration = r.membershipGeneration := by
  unfold createdRecord
  rw [found]
  rfl

theorem answer_standsAt {q : Request} {result : FabricEngine × FabricOutcome} (answer : Answer e op q result)
    (found : e.sets[setId]? = some r) (keeps : op.changesMembership = true → op.subject ≠ some setId) :
    result.1.StandsAt setId r.membershipGeneration := by
  have hbefore : e.StandsAt setId r.membershipGeneration := by
    intro other hother
    rw [found] at hother
    cases hother
    rfl
  cases answer with
  | refused => exact hbefore
  | replayed => exact hbefore
  | left _ _ _ stored edit => exact hbefore.put stored edit.sameHead.membershipGeneration
  | @answered own r₀ x outcome _ _ stored edit =>
      have hsame : x.membershipGeneration = r₀.membershipGeneration := by
        rcases edit with hsame | ⟨_, summary, edit⟩
        · rw [hsame]
        · exact edit.sameHead.membershipGeneration
      exact (hbefore.put stored hsame).congr rfl
  | @committed own r₀ x spec outcome generation membershipGeneration _ named stored edit _ _ _ _ _ _ _ moves =>
      have hsets := sealedCommit_sets (e.prepared r₀ op) own (x.advanced generation membershipGeneration) q spec outcome
      rw [prepared_sets] at hsets
      refine hbefore.store hsets fun hown => ?_
      subst hown
      have hkeeps : ¬op.changesMembership = true := fun h => keeps h named
      rw [if_neg hkeeps] at moves
      rw [(committed_generations _ _ _ _).2]
      change membershipGeneration = _
      rw [moves]
      exact hbefore r₀ stored
  | @superseded predecessor successor old new x spec outcome generation _ _ _ _ foundOld foundNew =>
      have hput : (e.putSet successor { new with supersedes := some predecessor }).StandsAt setId r.membershipGeneration :=
        hbefore.put foundNew rfl
      have hsealed := hput.store (sealedCommit_sets _ predecessor (x.advanced generation old.membershipGeneration) q spec
        outcome) fun hown => by
          subst hown
          rw [(committed_generations _ _ _ _).2]
          exact hbefore old foundOld
      refine hsealed.store (supersedeSuccessor_sets _ _ _ _ _) fun hown => ?_
      subst hown
      exact hbefore new foundNew
  | @viewed registration directory =>
      have hbase : ({ e with directory := directory } : FabricEngine).StandsAt setId r.membershipGeneration := hbefore
      exact hbase.viewed.congr rfl
  | @created key options =>
      have hbase : StandsAt
          { e with ids := e.ids.nextSetId.2, keyIndex := e.keyIndex.insert key e.ids.nextSetId.1 } setId
            r.membershipGeneration := hbefore
      refine StandsAt.congr (hbase.captured (x := e.createdRecord q.context key options) e.ids.nextSetId.1
        fun hown => ?_) rfl
      subst hown
      exact createdRecord_membership found

theorem membership_kept (plain : op.loads = false) (found : e.sets[setId]? = some r)
    (keeps : op.changesMembership = true → op.subject ≠ some setId) :
    (e.after op).StandsAt setId r.membershipGeneration := by
  have hbefore : e.StandsAt setId r.membershipGeneration := by
    intro other hother
    rw [found] at hother
    cases hother
    rfl
  have hstep := after_engineStep e op
  generalize e.after op = e' at hstep ⊢
  cases hstep with
  | unchanged => exact hbefore
  | answered _ answer => exact answer_standsAt answer found keeps
  | worked _ stored edit => exact hbefore.put stored edit.sameHead.membershipGeneration
  | viewed => exact hbefore.viewed
  | released | registered | unregistered | bound => exact hbefore
  | @fenced key fence authority =>
      have hbase : StandsAt
          { e with
            fences := e.fences.insert key fence
            registrations := e.registrations.erase key
            currentAuthorityGeneration := authority } setId r.membershipGeneration := hbefore
      refine hbase.rewritten fun e r x hx => ?_
      split at hx
      · cases hx
        rfl
      · cases hx
  | @epochAdvanced epoch authority =>
      have hbase : StandsAt
          { e with
            fences := e.fenceRegistrations epoch
            registrations := ∅
            currentEpoch := epoch
            currentAuthorityGeneration := authority } setId r.membershipGeneration := hbefore
      refine hbase.rewritten fun e r x hx => ?_
      cases hx
      rfl
  | loaded loads =>
      rw [loads] at plain
      cases plain

theorem addMembers_nothing (e : FabricEngine) (context : MutationContext) (setId : MultipathSetId) :
    e.after (.addMembers context setId []) = e := by
  change (e.addMembersLocked context setId [] (text "add_members") true).answer.1 = e
  unfold addMembersLocked
  cases setId.valid <;> rfl

theorem membership_advances (changes : op.changesMembership = true) (named : op.subject = some setId)
    (found : e.sets[setId]? = some r) (found' : (e.after op).sets[setId]? = some r') :
    r' = r ∨ r.membershipGeneration.next = some r'.membershipGeneration ∧
      (r'.live ≠ r.live ∨ r.ForgetsEnded setId op) := by
  by_cases hempty : ∃ context, op = .addMembers context setId []
  · obtain ⟨context, rfl⟩ := hempty
    rw [addMembers_nothing, found] at found'
    cases found'
    exact .inl rfl
  · have hrequested : ∀ context, op ≠ .addMembers context setId [] := fun context h => hempty ⟨context, h⟩
    obtain ⟨q, hrequest⟩ : ∃ q, op.request = some q := by
      cases op with
      | addMember | addMembers | removeMember | withdrawMember | replaceMember => exact ⟨_, rfl⟩
      | _ => cases changes
    have hanswer := exec_answer e hrequest
    have hafter : e.after op = (e.exec op).1 := rfl
    rw [hafter] at found'
    generalize e.exec op = result at hanswer found'
    cases hanswer with
    | refused =>
        rw [found] at found'
        exact .inl (Option.some.inj found').symm
    | replayed =>
        rw [found] at found'
        exact .inl (Option.some.inj found').symm
    | left residual =>
        cases op with
        | addMember | addMembers | removeMember | withdrawMember | replaceMember => cases residual
        | _ => cases changes
    | @answered own r₀ x outcome _ named' stored _ _ _ _ _ idles =>
        rw [named] at named'
        cases named'
        rw [found] at stored
        cases stored
        have hidle : x = r := by
          cases op with
          | addMember | addMembers | removeMember | withdrawMember | replaceMember => exact idles
          | _ => cases changes
        have hstored : ((e.putSet setId x).recordAttempt q.context q.operation q.fields outcome).sets[setId]? = some x := by
          change (e.sets.insert setId x)[setId]? = some x
          rw [getElem?_insert_eq, if_pos rfl]
        rw [hstored] at found'
        cases found'
        exact .inl hidle
    | @committed own r₀ x spec outcome generation membershipGeneration _ named' stored edit _ _ _ _ _ _ _ moves =>
        rw [named] at named'
        cases named'
        rw [found] at stored
        cases stored
        dsimp only at found'
        rw [sealedCommit_sets, getElem?_insert_eq, if_pos rfl] at found'
        cases found'
        rw [if_pos changes] at moves
        right
        rw [(committed_generations _ _ _ _).2, committed_live]
        exact ⟨moves, edit.moves_live changes hrequested⟩
    | superseded supersedes =>
        rw [supersedes] at changes
        cases changes
    | viewed _ _ applied => cases applied <;> cases changes
    | created creates =>
        rw [creates] at changes
        cases changes

theorem live_kept (plain : op.loads = false) (found : e.sets[setId]? = some r)
    (found' : (e.after op).sets[setId]? = some r') (keeps : op.changesMembership = true → op.subject ≠ some setId)
    (path : PathId) : r'.live path = r.live path ∨ r.Closes setId op ∧ r'.live path = none := by
  obtain ⟨stored, hstored, hplace⟩ := step_place plain found
  rw [found'] at hstored
  cases hstored
  exact (hplace path).live keeps

structure MembershipTracked (r r' : SetRecord) (setId : MultipathSetId) (op : Op) : Prop where
  follows : r.membershipGeneration.Follows r'.membershipGeneration
  tracks : ¬r.Closes setId op → r'.membershipGeneration = r.membershipGeneration → r'.live = r.live
  idle : r'.live = r.live → ¬r.ForgetsEnded setId op → r'.membershipGeneration = r.membershipGeneration
  closing : r.Closes setId op → r'.membershipGeneration = r.membershipGeneration ∧
    ∀ path, r'.live path = r.live path ∨ r'.live path = none

theorem membership_step (plain : op.loads = false) (found : e.sets[setId]? = some r)
    (found' : (e.after op).sets[setId]? = some r') : MembershipTracked r r' setId op := by
  by_cases hchanges : op.changesMembership = true ∧ op.subject = some setId
  · have hopen : ¬r.Closes setId op := by
      rintro ⟨hcloses, _⟩
      obtain ⟨hchanges, _⟩ := hchanges
      cases op with
      | withdrawSet | supersedeSet | retireSet => cases hchanges
      | _ => cases hcloses
    rcases membership_advances hchanges.1 hchanges.2 found found' with rfl | ⟨hnext, hmoves⟩
    · exact ⟨.inl rfl, fun _ _ => rfl, fun _ _ => rfl, fun h => absurd h hopen⟩
    · have hdistinct := Generation.ne_of_next hnext
      exact ⟨.inr hnext, fun _ hsame => absurd hsame hdistinct,
        fun hlive hkeeps => (hmoves.elim (fun h => h hlive) hkeeps).elim, fun h => absurd h hopen⟩
  · have hkeeps : op.changesMembership = true → op.subject ≠ some setId := fun h hsubject => hchanges ⟨h, hsubject⟩
    have hsame := membership_kept plain found hkeeps r' found'
    have hlive := live_kept plain found found' hkeeps
    refine ⟨.inl hsame, fun hopen _ => ?_, fun _ _ => hsame, fun _ => ⟨hsame, fun path => ?_⟩⟩
    · funext path
      rcases hlive path with h | ⟨hcloses, _⟩
      · exact h
      · exact absurd hcloses hopen
    · rcases hlive path with h | ⟨_, h⟩
      · exact .inl h
      · exact .inr h

/-- In two states of a set between which nothing is loaded and no ending of the set is taken up, the same membership
generation stands for the same live membership. -/
theorem membership_of_run (found : e.sets[setId]? = some r) :
    (∀ e' r', Continues (TakenUp fun x op => op.loads = false ∧
        ∀ y : SetRecord, x.sets[setId]? = some y → ¬y.Closes setId op) e e' → e'.sets[setId]? = some r' →
      r'.membershipGeneration = r.membershipGeneration → r'.live = r.live) ∧
    ∀ op r', op.loads = false → (e.after op).sets[setId]? = some r' → MembershipTracked r r' setId op := by
  constructor
  · intro e' r' later found' same
    have hheld : ∃ last : SetRecord, e'.sets[setId]? = some last ∧
        r.membershipGeneration.value.toNat ≤ last.membershipGeneration.value.toNat ∧
        (last.membershipGeneration = r.membershipGeneration → last.live = r.live) := by
      apply later.takenUp.keeps (P := fun x => ∃ last : SetRecord, x.sets[setId]? = some last ∧
        r.membershipGeneration.value.toNat ≤ last.membershipGeneration.value.toNat ∧
        (last.membershipGeneration = r.membershipGeneration → last.live = r.live))
      · exact ⟨r, found, le_refl _, fun _ => rfl⟩
      · rintro x op _ ⟨last, hlast, hascends, htracks⟩ ⟨hplain, hopen⟩
        obtain ⟨next, hnext, _⟩ := step_place hplain hlast
        have hstep := membership_step hplain hlast hnext
        refine ⟨next, hnext, hascends.trans hstep.follows.le, fun hsame => ?_⟩
        -- the generation is back where it was, so it has not moved in between
        have hle := hstep.follows.le
        rw [hsame] at hle
        have hlastSame : last.membershipGeneration = r.membershipGeneration := by
          apply Generation.ext
          apply UInt64.toNat_inj.mp
          omega
        rw [hstep.tracks (hopen last hlast) (hsame.trans hlastSame.symm)]
        exact htracks hlastSame
    obtain ⟨last, hlast, _, htracks⟩ := hheld
    rw [found'] at hlast
    cases hlast
    exact htracks same
  · intro op r' plain found'
    exact membership_step plain found found'

theorem live_none (h : (r.members.toList.all fun entry => memberIsTerminal entry.2) = true) (path : PathId) :
    r.live path = none := by
  cases hm : r.members[path]? with
  | none =>
      unfold SetRecord.live
      rw [hm]
      rfl
  | some m =>
      have hmem := Std.ExtTreeMap.mem_toList_iff_getElem?_eq_some.mpr hm
      rw [live_at hm]
      exact liveId_ended (List.all_eq_true.mp h _ hmem)

theorem membership_of_run_sample : ∃ r r', (sampleRun (sampleSteps.take 3)).sets[sampleSet]? = some r ∧
    ((sampleRun (sampleSteps.take 3)).after admitting).sets[sampleSet]? = some r' ∧
    MembershipTracked r r' sampleSet admitting := by
  obtain ⟨r, hr⟩ := Option.isSome_iff_exists.mp
    (show (sampleRun (sampleSteps.take 3)).sets[sampleSet]?.isSome = true by decide +kernel)
  obtain ⟨r', hr'⟩ := Option.isSome_iff_exists.mp
    (show ((sampleRun (sampleSteps.take 3)).after admitting).sets[sampleSet]?.isSome = true by decide +kernel)
  exact ⟨r, r', hr, hr', (membership_of_run hr).2 admitting r' rfl hr'⟩

def publishedSteps : List Op := sampleSteps ++ [.publishSet (sampleContext "a4") sampleSet]

def withdrawingSet : Op := .withdrawSet (sampleContext "a5") sampleSet []

def withdrawingMember : Op := .withdrawMember (sampleContext "a5") sampleSet sampleMember []

def removingMember : Op := .removeMember (sampleContext "a6") sampleSet sampleMember []

theorem published_plain {ops : List Op} (h : ∀ op ∈ ops, op.loads = false) :
    Run (fun _ op => op.loads = false) sampleConfig (sampleRun (publishedSteps ++ ops)) := by
  refine Run.afterAll (fun op hop _ => ?_) (.init sampleIds)
  rcases List.mem_append.mp hop with hop | hop
  · simp only [publishedSteps, sampleSteps, List.mem_append, List.mem_cons, List.not_mem_nil, or_false] at hop
    rcases hop with (rfl | rfl | rfl | rfl) | rfl <;> rfl
  · exact h op hop

/-- A set withdrawn as a whole keeps its membership generation without a live relation, and the removal of a withdrawn
relation advances the generation. -/
theorem membership_of_run_fails :
    (¬∀ (config : FabricConfig) (e e' : FabricEngine) (setId : MultipathSetId) (r r' : SetRecord),
      Run (fun _ op => op.loads = false) config e → Continues (fun _ op => op.loads = false) e e' →
      e.sets[setId]? = some r → e'.sets[setId]? = some r' →
      r'.generation.next.isSome = true → r'.membershipGeneration.next.isSome = true →
      r'.membershipGeneration = r.membershipGeneration → r'.live = r.live) ∧
    ¬∀ (config : FabricConfig) (e : FabricEngine) (op : Op) (setId : MultipathSetId) (r r' : SetRecord),
      Run (fun _ op => op.loads = false) config e → op.loads = false →
      e.sets[setId]? = some r → (e.after op).sets[setId]? = some r' → r'.live = r.live →
      r'.membershipGeneration = r.membershipGeneration := by
  constructor
  · intro h
    have hbefore : ((sampleRun (publishedSteps ++ [])).sets[sampleSet]?.map fun r =>
        ((r.live samplePath).isSome, r.membershipGeneration)) = some (true, ⟨2⟩) := by
      decide +kernel
    have hafter : (((sampleRun (publishedSteps ++ [])).after withdrawingSet).sets[sampleSet]?.map fun r =>
        ((r.live samplePath).isSome, r.membershipGeneration, r.generation.next.isSome,
          r.membershipGeneration.next.isSome)) = some (false, ⟨2⟩, true, true) := by
      decide +kernel
    obtain ⟨r, hr, hfacts⟩ := Option.map_eq_some_iff.mp hbefore
    obtain ⟨r', hr', hfacts'⟩ := Option.map_eq_some_iff.mp hafter
    simp only [Prod.mk.injEq] at hfacts hfacts'
    have hlive := h sampleConfig _ _ sampleSet r r' (published_plain fun op hop => by cases hop)
      (.step (.init rfl) ⟨withdrawingSet, rfl, rfl⟩) hr hr' hfacts'.2.2.1 hfacts'.2.2.2 (hfacts'.2.1.trans hfacts.2.symm)
    rw [hlive, hfacts.1] at hfacts'
    cases hfacts'.1
  · intro h
    have hbefore : ((sampleRun (publishedSteps ++ [withdrawingMember])).sets[sampleSet]?.map fun r =>
        (r.members.toList.all fun entry => memberIsTerminal entry.2, r.membershipGeneration)) = some (true, ⟨3⟩) := by
      decide +kernel
    have hafter : (((sampleRun (publishedSteps ++ [withdrawingMember])).after removingMember).sets[sampleSet]?.map
        fun r => (r.members.toList.all fun entry => memberIsTerminal entry.2, r.membershipGeneration)) =
          some (true, ⟨4⟩) := by
      decide +kernel
    obtain ⟨r, hr, hfacts⟩ := Option.map_eq_some_iff.mp hbefore
    obtain ⟨r', hr', hfacts'⟩ := Option.map_eq_some_iff.mp hafter
    simp only [Prod.mk.injEq] at hfacts hfacts'
    have hlive : r'.live = r.live := by
      funext path
      rw [live_none hfacts.1, live_none hfacts'.1]
    have hrun := @published_plain [withdrawingMember] fun op hop => by
      rw [List.mem_singleton.mp hop]
      rfl
    have hsame := h sampleConfig _ removingMember sampleSet r r' hrun rfl hr hr' hlive
    rw [hfacts.2, hfacts'.2] at hsame
    cases hsame

end FabricEngine

end MultipathFabric
