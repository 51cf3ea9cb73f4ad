import MultipathFabric.AuthoritySpec
import MultipathFabric.MemberEdit

namespace MultipathFabric

open OrderedMap MemberRecord

def SetLifecycle.isAuthoritative : SetLifecycle → Bool
  | .active | .degraded | .exhausted => true
  | _ => false

def Op.endsMembers (setId : MultipathSetId) (event : MemberEvent) : Op → Prop
  | .withdrawSet _ target reason => target = setId ∧ event = .withdraw ∧ reason.length ≤ 256
  | .supersedeSet _ predecessor successor => predecessor = setId ∧ event = .supersede ∧ successor.valid = true
  | .retireSet _ target reason => target = setId ∧ event = .retire ∧ reason.length ≤ 256
  | _ => False

inductive MemberChange (e : FabricEngine) (setId : MultipathSetId) (r : SetRecord) (path : PathId) :
    Op → MemberRecord → MemberRecord → Prop
  | ended {op : Op} {m : MemberRecord} {event : MemberEvent} (ends : op.endsMembers setId event)
      (authoritative : r.lifecycle.isAuthoritative = true) :
      MemberChange e setId r path op m (m.applyEvent event).bumpWatermark
  | marked {context : MutationContext} {reason : RevocationReason} {detail : Bytes} {m : MemberRecord}
      (authoritative : r.lifecycle.isAuthoritative = true) (bound : detail.length ≤ 512) :
      MemberChange e setId r path (.revokeSet context setId reason detail) m (markSetNotUsable m).bumpWatermark
  | observed {op : Op} {view : Option PathAuthorityView} {context : Option MutationContext} {m : MemberRecord}
      (applied : op.Applies path view context) (open_ : setIsFrozen r = false) :
      MemberChange e setId r path op m (m.evaluate r.conditionalAuthorityPermitted view false)
  | reevaluated {context : MutationContext} {permitted : Bool} {m : MemberRecord} (live : memberIsTerminal m = false) :
      MemberChange e setId r path (.setConditionalAuthorityPolicy context setId permitted) m
        (m.evaluate permitted m.observationOf true)
  | rebound {context : MutationContext} {views : ViewTable} {view : Option PathAuthorityView} {m : MemberRecord}
      (allowed : transitionAllowed r.lifecycle .revalidateSet = true) (live : memberIsTerminal m = false)
      (looked : views[m.pathId]? = some view) :
      MemberChange e setId r path (.revalidateSet context setId views) m
        (m.rebound r.conditionalAuthorityPermitted view)
  | revalidated {context : MutationContext} {memberId : MultipathMemberId} {view : Option PathAuthorityView}
      {m : MemberRecord} (found : r.finds memberId path m) (live : memberIsTerminal m = false) :
      MemberChange e setId r path (.revalidateMember context setId memberId (some view)) m
        (m.revalidated r.conditionalAuthorityPermitted view)
  | completed {context : MutationContext} {ticket : RevalidationTicket} {current : Option PathAuthorityView}
      {m : MemberRecord} (names : ticket.setId = setId) (found : r.finds ticket.memberId path m)
      (pending : m.pendingRevalidations ≠ 0) (fresh : staleCompletion e context ticket r m = none) :
      MemberChange e setId r path (.completeMemberRevalidation context ticket current) m
        (m.revalidated r.conditionalAuthorityPermitted current).release
  | released {context : MutationContext} {ticket : RevalidationTicket} {current : Option PathAuthorityView}
      {m : MemberRecord} {rejection : FabricOutcome} (names : ticket.setId = setId)
      (found : r.finds ticket.memberId path m) (pending : m.pendingRevalidations ≠ 0)
      (stale : staleCompletion e context ticket r m = some rejection) :
      MemberChange e setId r path (.completeMemberRevalidation context ticket current) m m.release
  | abandoned {ticket : RevalidationTicket} {m : MemberRecord} (names : ticket.setId = setId)
      (found : r.finds ticket.memberId path m) (pending : m.pendingRevalidations ≠ 0) :
      MemberChange e setId r path (.abandonMemberRevalidation ticket) m m.release
  | begun {context : MutationContext} {memberId : MultipathMemberId} {attempt : RevalidationAttemptId} {m : MemberRecord}
      (found : r.finds memberId path m) (live : memberIsTerminal m = false)
      (room : m.pendingRevalidations.toNat < e.limits.maxPendingRevalidationsPerSet.toNat) :
      MemberChange e setId r path (.beginMemberRevalidation context setId memberId attempt) m
        { m with pendingRevalidations := m.pendingRevalidations + 1 }
  | toggled {context : MutationContext} {memberId : MultipathMemberId} {enabled : Bool}
      {view : Option PathAuthorityView} {m : MemberRecord} (found : r.finds memberId path m)
      (live : memberIsTerminal m = false) (changes : m.adminEnabled ≠ enabled) :
      MemberChange e setId r path (.setMemberAdminEnabled context setId memberId enabled view) m
        (m.toggled r.conditionalAuthorityPermitted view enabled)
  | withdrawn {context : MutationContext} {memberId : MultipathMemberId} {reason : Bytes} {lifecycle : MemberLifecycle}
      {m : MemberRecord} (found : r.finds memberId path m)
      (ends : memberTransition m.lifecycle .withdraw = some lifecycle) :
      MemberChange e setId r path (.withdrawMember context setId memberId reason) m (m.terminate lifecycle)
  | superseded {context : MutationContext} {memberId : MultipathMemberId} {request : MemberRequest} {reason : Bytes}
      {view : Option PathAuthorityView} {m : MemberRecord} (found : r.finds memberId path m)
      (other : path ≠ request.pathId) :
      MemberChange e setId r path (.replaceMember context setId memberId request reason view) m
        { m.terminate .superseded with successor := some e.ids.nextMemberId.1 }

inductive Admission (e : FabricEngine) (setId : MultipathSetId) (r : SetRecord) (path : PathId) :
    Op → MemberRecord → Prop
  | added {op : Op} {context : MutationContext} {requests : List (MemberRequest × Option PathAuthorityView)} {bulk : Bool}
      {e' : FabricEngine} {y : SetRecord} {request : MemberRequest} {view : Option PathAuthorityView}
      (publication : op.Publishes context setId requests bulk) (listed : (request, view) ∈ requests)
      (place : request.pathId = path)
      (minted : e'.ids.nextMemberId.1 ∈ e.ids.upcoming requests.length)
      (policy : y.conditionalAuthorityPermitted = r.conditionalAuthorityPermitted)
      (ended : ∀ m, r.members[path]? = some m → memberIsTerminal m = true) :
      Admission e setId r path op
        (e'.newMember context y .memberAdded request view (r.members[path]?.map MemberRecord.id))
  | replacing {context : MutationContext} {memberId : MultipathMemberId} {request : MemberRequest} {reason : Bytes}
      {view : Option PathAuthorityView} {y : SetRecord} {m : MemberRecord} {predecessor : PathId}
      (found : r.finds memberId predecessor m) (other : predecessor ≠ request.pathId)
      (place : request.pathId = path)
      (policy : y.conditionalAuthorityPermitted = r.conditionalAuthorityPermitted)
      (ended : ∀ m, r.members[path]? = some m → memberIsTerminal m = true) :
      Admission e setId r path (.replaceMember context setId memberId request reason view)
        (e.newMember context y .memberReplaced request view (some memberId))

inductive PlaceChange (e : FabricEngine) (setId : MultipathSetId) (r : SetRecord) (path : PathId) (op : Op) :
    Option MemberRecord → Option MemberRecord → Prop
  | kept (entry : Option MemberRecord) : PlaceChange e setId r path op entry entry
  | changed {m m' : MemberRecord} (change : MemberChange e setId r path op m m') :
      PlaceChange e setId r path op (some m) (some m')
  | removed {context : MutationContext} {memberId : MultipathMemberId} {reason : Bytes} {m : MemberRecord}
      (removes : op = .removeMember context setId memberId reason) (found : r.finds memberId path m) :
      PlaceChange e setId r path op (some m) none
  | admitted {m' : MemberRecord} (entry : Option MemberRecord) (admission : Admission e setId r path op m') :
      PlaceChange e setId r path op entry (some m')

section

variable {e : FabricEngine} {setId : MultipathSetId} {op : Op} {r x : SetRecord} {path : PathId}

theorem PlaceChange.put {members : MemberMap} {place : PathId} {m m' : MemberRecord} (base : members = r.members)
    (found : r.members[place]? = some m) (change : MemberChange e setId r place op m m') :
    PlaceChange e setId r path op r.members[path]? (members.insert place m')[path]? := by
  rw [base, getElem?_insert_eq]
  split
  · rename_i hplace
    rw [← hplace, found]
    exact .changed change
  · exact .kept _

theorem PlaceChange.mapped {members : MemberMap} {f : MemberRecord → MemberRecord} (base : members = r.members)
    (change : ∀ m, r.members[path]? = some m → f m = m ∨ MemberChange e setId r path op m (f m)) :
    PlaceChange e setId r path op r.members[path]? (members.map fun _ m => f m)[path]? := by
  rw [base, getElem?_mapValues]
  cases hfound : r.members[path]? with
  | none => exact .kept _
  | some m =>
      rcases change m hfound with hsame | hchange
      · rw [Option.map_some, hsame]
        exact .kept _
      · exact .changed hchange

theorem SetLifecycle.authoritative_of {lifecycle : SetLifecycle}
    (h : lifecycle = .active ∨ lifecycle = .degraded ∨ lifecycle = .exhausted) : lifecycle.isAuthoritative = true := by
  rcases h with rfl | rfl | rfl <;> rfl

theorem consequences_place {y : SetRecord} {target : SetLifecycle} {context : Option MutationContext}
    (base : y.members = r.members)
    (ends : ∀ event, (target = .withdrawing ∨ target = .withdrawn) ∧ event = MemberEvent.withdraw ∨
      target = .superseded ∧ event = .supersede ∨ target = .retired ∧ event = .retire → op.endsMembers setId event)
    (marks : target = .revoked → ∃ context reason detail, detail.length ≤ 512 ∧ op = .revokeSet context setId reason detail) :
    PlaceChange e setId r path op r.members[path]?
      (applyMemberConsequences e y r.lifecycle target context).members[path]? := by
  have hevent : ∀ event, op.endsMembers setId event → r.lifecycle.isAuthoritative = true →
      PlaceChange e setId r path op r.members[path]? (applyMemberEvent y event).members[path]? := by
    intro event hends hauthoritative
    have hmembers : (applyMemberEvent y event).members[path]? =
        (y.members.map fun _ m => (m.applyEvent event).bumpWatermark)[path]? := by
      change ((y.members.map fun _ m => m.applyEvent event).map fun _ m => m.bumpWatermark)[path]? = _
      simp only [getElem?_mapValues, Option.map_map]
      rfl
    rw [hmembers]
    exact .mapped base fun _ _ => .inr (.ended hends hauthoritative)
  unfold applyMemberConsequences
  split
  · rw [base]
    exact .kept _
  · split
    · rename_i hauthoritative
      have hauthority := SetLifecycle.authoritative_of hauthoritative
      split
      · exact hevent _ (ends _ (.inl ⟨.inl rfl, rfl⟩)) hauthority
      · exact hevent _ (ends _ (.inl ⟨.inr rfl, rfl⟩)) hauthority
      · exact hevent _ (ends _ (.inr (.inl ⟨rfl, rfl⟩))) hauthority
      · exact hevent _ (ends _ (.inr (.inr ⟨rfl, rfl⟩))) hauthority
      · obtain ⟨caller, reason, detail, hbound, rfl⟩ := marks rfl
        change PlaceChange e setId r path _ _
          ((y.members.map fun _ m => markSetNotUsable m).map fun _ m => m.bumpWatermark)[path]?
        have hmembers : ((y.members.map fun _ m => markSetNotUsable m).map fun _ m => m.bumpWatermark)[path]? =
            (y.members.map fun _ m => (markSetNotUsable m).bumpWatermark)[path]? := by
          simp only [getElem?_mapValues, Option.map_map]
          rfl
        rw [hmembers]
        exact .mapped base fun _ _ => .inr (.marked hauthority hbound)
      · rw [base]
        exact .kept _
    · rw [base]
      exact .kept _

theorem duplicateRequest_cons {seen : List PathId} {request : MemberRequest} {rest : List MemberRequest}
    (h : duplicateRequest r setId seen (request :: rest) = none) : request.pathId ∉ seen ∧
      (∀ m, r.members[request.pathId]? = some m → memberIsTerminal m = true) ∧
      duplicateRequest r setId (seen ++ [request.pathId]) rest = none := by
  unfold duplicateRequest at h
  split at h
  · cases h
  · rename_i hunseen
    rw [List.contains_iff_mem] at hunseen
    split at h
    · rename_i hfree
      refine ⟨hunseen, fun m hfound => ?_, h⟩
      rw [hfree] at hfound
      cases hfound
    · rename_i existing hfound
      split at h
      · rename_i hterminal
        refine ⟨hunseen, fun m hm => ?_, h⟩
        rw [hfound] at hm
        cases hm
        exact hterminal
      · cases h

theorem publishMembers_place (context : MutationContext) (e' : FabricEngine) {y : SetRecord} (path : PathId)
    {requests : List (MemberRequest × Option PathAuthorityView)} {seen : List PathId}
    (distinct : duplicateRequest r setId seen (requests.map Prod.fst) = none)
    (unseen : ∀ other, other ∉ seen → y.members[other]? = r.members[other]?)
    (policy : y.conditionalAuthorityPermitted = r.conditionalAuthorityPermitted) :
    (FabricEngine.publishMembers context setId e' y requests).2.1.members[path]? = y.members[path]? ∨
      path ∉ seen ∧ (∀ m, r.members[path]? = some m → memberIsTerminal m = true) ∧
        ∃ (e'' : FabricEngine) (y' : SetRecord) (request : MemberRequest) (view : Option PathAuthorityView),
          (request, view) ∈ requests ∧ request.pathId = path ∧ e''.ids.nextMemberId.1 ∈ e'.ids.upcoming requests.length ∧
          y'.conditionalAuthorityPermitted = r.conditionalAuthorityPermitted ∧
          (FabricEngine.publishMembers context setId e' y requests).2.1.members[path]? =
            some (e''.newMember context y' .memberAdded request view (r.members[path]?.map MemberRecord.id)) := by
  induction requests generalizing e' y seen with
  | nil => exact .inl rfl
  | cons entry rest ih =>
      obtain ⟨request, view⟩ := entry
      obtain ⟨hunseen, hended, hrest⟩ := duplicateRequest_cons distinct
      have hsame := unseen request.pathId hunseen
      obtain ⟨member, hmember⟩ : ∃ member, member = e'.newMember context y .memberAdded request view
          (y.members[request.pathId]?.map MemberRecord.id) := ⟨_, rfl⟩
      have hplace : member.pathId = request.pathId := by
        rw [hmember]
        exact (newMember_admits e' context y .memberAdded request view _ 0).place
      have hinstalled : (y.installMember member).members = y.members.insert request.pathId member := by
        rw [← hplace]
        rfl
      have hlater : ∀ other, other ∉ seen ++ [request.pathId] →
          (y.installMember member).members[other]? = r.members[other]? := by
        intro other hother
        rw [List.mem_append, List.mem_singleton, not_or] at hother
        rw [hinstalled, getElem?_insert_eq, if_neg (fun h => hother.2 h.symm)]
        exact unseen other hother.1
      have hpublished : FabricEngine.publishMembers context setId e' y ((request, view) :: rest) =
          ((FabricEngine.publishMembers context setId (e'.admitPath setId request.pathId) (y.installMember member)
              rest).1,
            (FabricEngine.publishMembers context setId (e'.admitPath setId request.pathId) (y.installMember member)
              rest).2.1,
            member.id :: (FabricEngine.publishMembers context setId (e'.admitPath setId request.pathId)
              (y.installMember member) rest).2.2) := by
        rw [hmember]
        rfl
      rw [hpublished]
      rcases ih (e'.admitPath setId request.pathId) hrest hlater policy with
        hkept | ⟨hnew, hends, e'', y', later, view', hlisted, hpath, hminted, hpolicy, hadmitted⟩
      · dsimp only
        rw [hkept, hinstalled, getElem?_insert_eq]
        split
        · rename_i hpath
          subst hpath
          refine .inr ⟨hunseen, hended, e', y, request, view, List.mem_cons_self, rfl, ?_, policy, ?_⟩
          · rw [List.length_cons, IdFactory.upcoming]
            exact List.mem_cons_self
          · rw [hmember, hsame]
        · exact .inl rfl
      · refine .inr ⟨fun h => hnew (List.mem_append_left _ h), hends, e'', y', later, view',
          List.mem_cons_of_mem _ hlisted, hpath, ?_, hpolicy, hadmitted⟩
        rw [List.length_cons, IdFactory.upcoming]
        exact List.mem_cons_of_mem _ hminted

theorem withdrawn_lifecycle {reason : Bytes} {y : SetRecord} (moved : r.applyTransition .beginWithdraw = .ok y) :
    ({ y with withdrawalReason := reason } : SetRecord).recompute.lifecycle ≠ .revoked ∧
      ({ y with withdrawalReason := reason } : SetRecord).recompute.lifecycle ≠ .superseded ∧
      ({ y with withdrawalReason := reason } : SetRecord).recompute.lifecycle ≠ .retired := by
  rcases SetRecord.applyTransition_beginWithdraw moved with ⟨hdeclared, rfl⟩ | ⟨_, _, rfl⟩
  · have hstay : ({ r.recompute with withdrawalReason := reason } : SetRecord).recompute.lifecycle = .declared :=
      SetRecord.recompute_declared (SetRecord.recompute_declared hdeclared)
    rw [hstay]
    decide
  · have hwithdrawing : ({ ({ r with lifecycle := .withdrawing } : SetRecord) with
        withdrawalReason := reason } : SetRecord).recompute.lifecycle = .withdrawing := rfl
    rw [hwithdrawing]
    decide

theorem RecordEdit.place {summary : Bytes} (edit : RecordEdit e setId r op x summary) (path : PathId) :
    PlaceChange e setId r path op r.members[path]? x.members[path]? := by
  cases edit with
  | collided | supersedes | supersedesRecorded => exact .kept _
  | publish _ moved | minimumChecked _ _ moved | policyChecked _ _ moved | adminChecked _ _ moved
  | completeWithdrawal _ moved =>
      rw [SetRecord.applyTransition_members moved]
      exact .kept _
  | minimumChanged _ _ moved | adminChanged _ _ moved =>
      rw [SetRecord.recompute_members]
      dsimp only
      rw [SetRecord.applyTransition_members moved]
      exact .kept _
  | policyChanged _ permitted moved =>
      have hmembers := SetRecord.applyTransition_members moved
      refine .mapped hmembers fun m _ => ?_
      cases hlive : memberIsTerminal m with
      | true => exact .inl rfl
      | false => exact .inr (.reevaluated hlive)
  | @withdraw context reason y bound moved =>
      have hmembers := SetRecord.applyTransition_members moved
      refine consequences_place (y := ({ y with withdrawalReason := reason } : SetRecord).recompute) hmembers ?_ ?_
      · rintro event (⟨_, rfl⟩ | ⟨hclosed, _⟩ | ⟨hclosed, _⟩)
        · exact ⟨rfl, rfl, bound⟩
        · exact absurd hclosed (withdrawn_lifecycle moved).2.1
        · exact absurd hclosed (withdrawn_lifecycle moved).2.2
      · intro hrevoked
        exact absurd hrevoked (withdrawn_lifecycle moved).1
  | @revoke context reason detail y generation bound _ moved =>
      have hmembers := SetRecord.applyTransition_members moved
      have hlifecycle : y.lifecycle = .revoked := by rw [(SetRecord.applyTransition_revoke moved).2]; rfl
      refine consequences_place (y := { y with revocation := some (revocationOf e context setId generation reason detail) })
        hmembers ?_ fun _ => ⟨_, _, _, bound, rfl⟩
      rintro event (⟨hclosed | hclosed, _⟩ | ⟨hclosed, _⟩ | ⟨hclosed, _⟩)
      all_goals
        rw [hlifecycle] at hclosed
        cases hclosed
  | @retire context reason y bound moved =>
      have hmembers := SetRecord.applyTransition_members moved
      have hlifecycle : y.lifecycle = .retired := by rw [(SetRecord.applyTransition_retire moved).2]; rfl
      refine consequences_place hmembers ?_ ?_
      · rintro event (⟨hclosed | hclosed, _⟩ | ⟨hclosed, _⟩ | ⟨_, rfl⟩)
        · rw [hlifecycle] at hclosed
          cases hclosed
        · rw [hlifecycle] at hclosed
          cases hclosed
        · rw [hlifecycle] at hclosed
          cases hclosed
        · exact ⟨rfl, rfl, bound⟩
      · intro hclosed
        rw [hlifecycle] at hclosed
        cases hclosed
  | @superseded context successor y known moved =>
      have hmembers := SetRecord.applyTransition_members moved
      have hlifecycle : y.lifecycle = .superseded := by rw [(SetRecord.applyTransition_supersede moved).2]; rfl
      refine consequences_place (y := { y with supersededBy := some successor }) hmembers ?_ ?_
      · rintro event (⟨hclosed | hclosed, _⟩ | ⟨_, rfl⟩ | ⟨hclosed, _⟩)
        · rw [hlifecycle] at hclosed
          cases hclosed
        · rw [hlifecycle] at hclosed
          cases hclosed
        · exact ⟨rfl, rfl, known⟩
        · rw [hlifecycle] at hclosed
          cases hclosed
      · intro hclosed
        rw [hlifecycle] at hclosed
        cases hclosed
  | @added context _ requests _ y publication _ _ _ distinct moved =>
      have hmembers := SetRecord.applyTransition_members moved
      have hpolicy := applyTransition_policy moved
      rw [SetRecord.recompute_members]
      rcases publishMembers_place context e path distinct
          (fun other _ => by rw [hmembers]) hpolicy with
        hkept | ⟨_, hended, e', y', request, view, hlisted, hplace, hminted, hsame, hadmitted⟩
      · rw [hkept, hmembers]
        exact .kept _
      · rw [hadmitted]
        exact .admitted _ (.added publication hlisted hplace hminted hsame hended)
  | @removed context memberId reason place m y _ found _ moved =>
      rw [SetRecord.recompute_members]
      dsimp only
      rw [SetRecord.applyTransition_members moved, getElem?_erase_eq]
      split
      · rename_i hplace
        rw [← hplace, found.2]
        exact .removed rfl found
      · exact .kept _
  | @withdrewMember context memberId reason place m lifecycle y _ found _ ends moved =>
      have hmembers := SetRecord.applyTransition_members moved
      exact .put hmembers found.2 (.withdrawn found ends)
  | @replaced context memberId request reason view place m y _ _ _ found other _ _ free moved =>
      have hmembers := SetRecord.applyTransition_members moved
      have hpolicy := applyTransition_policy moved
      have hplace := (newMember_admits e context y .memberReplaced request view (some memberId) 0).place
      have hid : (e.newMember context y .memberReplaced request view (some memberId)).id = e.ids.nextMemberId.1 := by
        have hfresh := (newMember_admits e context y .memberReplaced request view (some memberId) 0).fresh
        exact List.mem_singleton.mp hfresh
      have hended : ∀ m, r.members[request.pathId]? = some m → memberIsTerminal m = true := by
        intro m hfound
        rw [hfound, Option.filter_eq_none_iff] at free
        have hlive := free m rfl
        simpa using hlive
      obtain ⟨successor, hsuccessor⟩ : ∃ successor, successor =
          e.newMember context y .memberReplaced request view (some memberId) := ⟨_, rfl⟩
      rw [← hsuccessor] at hplace hid
      have hreplaced : (y.replaced e context memberId place m request view).members =
          (y.members.insert place { m.terminate .superseded with successor := some successor.id }).insert
            successor.pathId successor := by
        rw [hsuccessor]
        rfl
      rw [hplace, hid] at hreplaced
      rw [hreplaced, getElem?_insert_eq]
      split
      · rename_i hpath
        subst hpath
        rw [hsuccessor]
        exact .admitted _ (.replacing found other rfl hpolicy hended)
      · exact .put hmembers found.2 (.superseded found other)
  | toggled _ _ _ _ found live changes => exact .put rfl found.2 (.toggled found live changes)
  | revalidatedSet _ views allowed =>
      refine .mapped rfl fun m _ => ?_
      unfold SetRecord.revalidateMember
      split
      · exact .inl rfl
      · rename_i hlive
        split
        · exact .inl rfl
        · rename_i view hlooked
          exact .inr (.rebound allowed (Bool.eq_false_iff.mpr hlive) hlooked)
  | revalidatedMember _ _ _ found _ live => exact .put rfl found.2 (.revalidated found live)
  | begun _ _ _ found live room => exact .put rfl found.2 (.begun found live room)
  | released _ _ _ names found pending stale => exact .put rfl found.2 (.released names found pending stale)
  | completed _ _ _ names found pending fresh => exact .put rfl found.2 (.completed names found pending fresh)
  | abandoned _ names found pending => exact .put rfl found.2 (.abandoned names found pending)
  | observed applied open_ found _ => exact .put rfl found (.observed applied open_)
  | invalidated applied open_ found =>
      rw [(dependencyInvalidated_fields _ _ _ _ _ _).2.1]
      exact .put rfl found (.observed applied open_)

end

inductive SealedPlace : Option MemberRecord → Option MemberRecord → Prop
  | kept (entry : Option MemberRecord) : SealedPlace entry entry
  | cleared {m : MemberRecord} (pruned : List MultipathMemberId) : SealedPlace (some m) (some (m.clearLineage pruned))
  | pruned {m : MemberRecord} (terminal : memberIsTerminal m = true) : SealedPlace (some m) none

theorem pruneArchive_place (limits : Limits) (r : SetRecord) (path : PathId) :
    SealedPlace r.members[path]? (r.pruneArchive limits).members[path]? := by
  unfold SetRecord.pruneArchive
  dsimp only
  split
  · exact .kept _
  · rw [getElem?_mapValues, getElem?_eraseAll]
    split
    · rename_i hvictim
      obtain ⟨m, hfound, hterminal⟩ := mem_pruneVictims hvictim
      rw [hfound]
      exact .pruned hterminal
    · cases r.members[path]? with
      | none => exact .kept _
      | some m => exact .cleared _

theorem Sealed.place {limits : Limits} {x r' : SetRecord} {summary : Bytes} (stored : Sealed limits x summary r')
    (path : PathId) : SealedPlace x.members[path]? r'.members[path]? := by
  cases stored with
  | kept => exact .kept _
  | @committed e =>
      have hpruned : ∀ y : SetRecord, y.members = x.members →
          SealedPlace x.members[path]? (y.pruneArchive e.limits).members[path]? := by
        intro y hmembers
        rw [← hmembers]
        exact pruneArchive_place _ _ _
      exact hpruned _ rfl

inductive StepPlace (e : FabricEngine) (setId : MultipathSetId) (r : SetRecord) (path : PathId) (op : Op) :
    Option MemberRecord → Prop
  | stored {entry after : Option MemberRecord} (change : PlaceChange e setId r path op r.members[path]? entry)
      (sealed_ : SealedPlace entry after) : StepPlace e setId r path op after
  | bumped : StepPlace e setId r path op (r.members[path]?.map MemberRecord.bumpWatermark)

theorem step_place {e : FabricEngine} {setId : MultipathSetId} {op : Op} {r : SetRecord} (plain : op.loads = false)
    (found : e.sets[setId]? = some r) : ∃ r', (e.after op).sets[setId]? = some r' ∧
      ∀ path, StepPlace e setId r path op r'.members[path]? := by
  have hstep := FabricEngine.after_sets e op setId
  rw [found] at hstep
  generalize hafter : (e.after op).sets[setId]? = after at hstep
  cases hstep with
  | kept => exact ⟨r, rfl, fun path => .stored (.kept _) (.kept _)⟩
  | @changed _ x r' summary edit stored => exact ⟨r', rfl, fun path => .stored (edit.place path) (stored.place path)⟩
  | @fenced publisher workerBoot cause _ authority =>
      refine ⟨_, rfl, fun path => ?_⟩
      have hbumped : (r.fenced authority e.currentEpoch).members[path]? = r.members[path]?.map MemberRecord.bumpWatermark :=
        getElem?_mapValues _ _ _
      rw [hbumped]
      exact .bumped
  | @epochAdvanced publisher workerBoot session expected attempt advanced =>
      refine ⟨_, rfl, fun path => ?_⟩
      have hbumped : (advanced.epochAdvanced r).members[path]? = r.members[path]?.map MemberRecord.bumpWatermark :=
        getElem?_mapValues _ _ _
      rw [hbumped]
      exact .bumped
  | cleared loads =>
      rw [loads] at plain
      cases plain
  | recovered loads =>
      rw [loads] at plain
      cases plain

end MultipathFabric
