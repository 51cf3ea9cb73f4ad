import MultipathFabric.Awaiting
import MultipathFabric.Invalidation
import MultipathFabric.MemberStanding

namespace MultipathFabric

open OrderedMap MemberRecord

def noted (view : Option PathAuthorityView) : Option (PathAuthorityGeneration × PathAuthorityState) :=
  view.map fun view => (view.generation, view.state)

inductive Op.Shows (setId : MultipathSetId) (r : SetRecord) (path : PathId) : Op → Option PathAuthorityView → Prop
  | published {op : Op} {context : MutationContext} {requests : List (MemberRequest × Option PathAuthorityView)} {bulk : Bool}
      {request : MemberRequest} {view : Option PathAuthorityView} (publication : op.Publishes context setId requests bulk)
      (asked : (request, view) ∈ requests) (place : request.pathId = path) : Shows setId r path op view
  | replaced (context : MutationContext) (memberId : MultipathMemberId) (request : MemberRequest) (reason : Bytes)
      (view : Option PathAuthorityView) (place : request.pathId = path) :
      Shows setId r path (.replaceMember context setId memberId request reason view) view
  | toggled (context : MutationContext) (memberId : MultipathMemberId) (enabled : Bool) (view : Option PathAuthorityView)
      (found : r.memberIndex[memberId]? = some path) :
      Shows setId r path (.setMemberAdminEnabled context setId memberId enabled view) view
  | revalidatedSet (context : MutationContext) (views : ViewTable) {m : MemberRecord} {view : Option PathAuthorityView}
      (found : r.members[path]? = some m) (looked : views[m.pathId]? = some view) :
      Shows setId r path (.revalidateSet context setId views) view
  | revalidatedMember (context : MutationContext) (memberId : MultipathMemberId) (view : Option PathAuthorityView)
      (found : r.memberIndex[memberId]? = some path) :
      Shows setId r path (.revalidateMember context setId memberId (some view)) view
  | completed (context : MutationContext) (ticket : RevalidationTicket) (current : Option PathAuthorityView)
      (names : ticket.setId = setId) (found : r.memberIndex[ticket.memberId]? = some path) :
      Shows setId r path (.completeMemberRevalidation context ticket current) current
  | applied {op : Op} {view : Option PathAuthorityView} {context : Option MutationContext}
      (applies : op.Applies path view context) : Shows setId r path op view

def Op.Observes (op : Op) (setId : MultipathSetId) (r : SetRecord) (path : PathId) (m' : MemberRecord) : Prop :=
  memberIsTerminal m' = true ∨
    (∃ m, r.members[path]? = some m ∧ memberIsTerminal m = false ∧ m'.observed = m.observed) ∨
    ∃ view, op.Shows setId r path view ∧ m'.observed = noted view

theorem standing_observed {m m' : MemberRecord} (h : m'.standing = m.standing) : m'.observed = m.observed :=
  congrArg Standing.observation h

theorem evaluate_observed (m : MemberRecord) (permitted : Bool) (view : Option PathAuthorityView) (explicit : Bool)
    (live : memberIsTerminal m = false) : (m.evaluate permitted view explicit).observed = noted view := by
  have hstanding := evaluate_standing permitted view explicit live
  exact congrArg Standing.observation hstanding

section

variable {e : FabricEngine} {setId : MultipathSetId} {op : Op} {r x : SetRecord} {path : PathId} {m m' : MemberRecord}

theorem Op.Observes.kept (found : r.members[path]? = some m) (same : m'.standing = m.standing) : op.Observes setId r path m' := by
  by_cases hterminal : memberIsTerminal m = true
  · left
    rw [live_of_lifecycle (standing_lifecycle same)]
    exact hterminal
  · exact .inr (.inl ⟨m, found, Bool.eq_false_iff.mpr hterminal, standing_observed same⟩)

theorem Op.Observes.congr (h : op.Observes setId r path m) (same : m'.standing = m.standing) : op.Observes setId r path m' := by
  unfold Observes
  rw [live_of_lifecycle (standing_lifecycle same), standing_observed same]
  exact h

theorem Op.Observes.evaluated {base : MemberRecord} {permitted explicit : Bool} {view : Option PathAuthorityView}
    (shows_ : op.Shows setId r path view) (same : m'.standing = (base.evaluate permitted view explicit).standing) :
    op.Observes setId r path m' := by
  by_cases hterminal : memberIsTerminal base = true
  · left
    rw [evaluate_terminal_standing _ _ _ hterminal] at same
    rw [live_of_lifecycle (congrArg Standing.lifecycle same : m'.lifecycle = base.lifecycle)]
    exact hterminal
  · right
    right
    refine ⟨view, shows_, (standing_observed same).trans ?_⟩
    exact evaluate_observed base permitted view explicit (Bool.eq_false_iff.mpr hterminal)

theorem Op.Observes.untouched (members : x.members = r.members) (hm : x.members[path]? = some m') :
    op.Observes setId r path m' := by
  rw [members] at hm
  exact .kept hm rfl

theorem Op.Observes.put {members : MemberMap} {place : PathId} {put : MemberRecord} (others : members = r.members)
    (at_ : op.Observes setId r place put) (hm : (members.insert place put)[path]? = some m') : op.Observes setId r path m' := by
  rcases member_insert hm with ⟨rfl, rfl⟩ | ⟨_, hkept⟩
  · exact at_
  · rw [others] at hkept
    exact .kept hkept rfl

theorem Op.Observes.consequences {y : SetRecord} {source target : SetLifecycle} {context : Option MutationContext}
    (members : y.members = r.members) (hm : (applyMemberConsequences e y source target context).members[path]? = some m') :
    op.Observes setId r path m' := by
  obtain ⟨m, hfound, hsame⟩ := consequences_member hm
  rw [members] at hfound
  rcases hsame with rfl | ⟨event, hends, hsame⟩ | ⟨_, hsame⟩
  · exact .kept hfound rfl
  · rw [applyEvent_standing] at hsame
    cases htaken : memberTransition m.lifecycle event with
    | none =>
        rw [htaken] at hsame
        exact .kept hfound hsame
    | some next =>
        rw [htaken] at hsame
        have hmoved : memberTransition m.lifecycle event = some m'.lifecycle :=
          htaken.trans (congrArg some (congrArg Standing.lifecycle hsame).symm)
        exact .inl (memberTransition_ends hends hmoved)
  · by_cases hterminal : memberIsTerminal m = true
    · left
      rw [live_of_lifecycle (congrArg Standing.lifecycle hsame : m'.lifecycle = m.lifecycle)]
      exact hterminal
    · exact .inr (.inl ⟨m, hfound, Bool.eq_false_iff.mpr hterminal, congrArg Standing.observation hsame⟩)

theorem newMember_observed (e : FabricEngine) (context : MutationContext) (r : SetRecord) (cause : MembershipCause)
    (request : MemberRequest) (view : Option PathAuthorityView) (predecessor : Option MultipathMemberId) :
    (e.newMember context r cause request view predecessor).observed = noted view :=
  evaluate_observed _ _ _ _ rfl

theorem publishMembers_observed {context : MutationContext} {requests : List (MemberRequest × Option PathAuthorityView)}
    {y : SetRecord} (hm : (FabricEngine.publishMembers context setId e y requests).2.1.members[path]? = some m') :
    y.members[path]? = some m' ∨
      ∃ request view, (request, view) ∈ requests ∧ request.pathId = path ∧ m'.observed = noted view := by
  induction requests generalizing e y with
  | nil => exact .inl hm
  | cons request rest ih =>
      obtain ⟨request, view⟩ := request
      rcases ih hm with hold | ⟨asked, shown, hasked, hplace, hobserved⟩
      · rcases member_insert hold with ⟨hpath, rfl⟩ | ⟨_, hkept⟩
        · right
          have hnew := newMember_admits e context y .memberAdded request view
            (y.members[request.pathId]?.map MemberRecord.id) 0
          exact ⟨request, view, List.mem_cons_self, hnew.place.symm.trans hpath, newMember_observed _ _ _ _ _ _ _⟩
        · exact .inl hkept
      · exact .inr ⟨asked, shown, List.mem_cons_of_mem _ hasked, hplace, hobserved⟩

theorem RecordEdit.notes {summary : Bytes} (edit : RecordEdit e setId r op x summary)
    (hm : x.members[path]? = some m') : op.Observes setId r path m' := by
  cases edit with
  | collided | supersedes | supersedesRecorded => exact .untouched rfl hm
  | publish _ moved | minimumChecked _ _ moved | policyChecked _ _ moved | adminChecked _ _ moved
  | completeWithdrawal _ moved => exact .untouched (SetRecord.applyTransition_members moved) hm
  | minimumChanged _ _ moved | adminChanged _ _ moved =>
      have hmembers := SetRecord.applyTransition_members moved
      exact .untouched hmembers hm
  | policyChanged _ permitted moved =>
      obtain ⟨m, hfound, rfl⟩ := member_map hm
      rw [SetRecord.applyTransition_members moved] at hfound
      split
      · exact .kept hfound rfl
      · rename_i hlive
        rw [Bool.not_eq_true] at hlive
        exact .inr (.inl ⟨m, hfound, hlive, evaluate_observed m _ _ _ hlive⟩)
  | @withdraw _ reason y _ moved =>
      have hmembers := SetRecord.applyTransition_members moved
      exact .consequences (y := ({ y with withdrawalReason := reason } : SetRecord).recompute) hmembers hm
  | @revoke context reason detail y generation _ _ moved =>
      have hmembers := SetRecord.applyTransition_members moved
      exact .consequences (y := { y with revocation := some (revocationOf e context setId generation reason detail) })
        hmembers hm
  | retire _ _ _ moved => exact .consequences (SetRecord.applyTransition_members moved) hm
  | @superseded _ successor y _ moved =>
      have hmembers := SetRecord.applyTransition_members moved
      exact .consequences (y := { y with supersededBy := some successor }) hmembers hm
  | @added context _ requests _ y publication _ _ _ _ moved =>
      rcases publishMembers_observed hm with hkept | ⟨request, view, hasked, hplace, hobserved⟩
      · rw [SetRecord.applyTransition_members moved] at hkept
        exact .kept hkept rfl
      · exact .inr (.inr ⟨view, .published publication hasked hplace, hobserved⟩)
  | removed _ _ _ _ _ _ moved =>
      have hkept := (member_erase hm).2
      rw [SetRecord.applyTransition_members moved] at hkept
      exact .kept hkept rfl
  | withdrewMember _ _ _ _ _ _ ends moved =>
      refine .put (SetRecord.applyTransition_members moved) (.inl ?_) hm
      exact memberTransition_ends (p := False) (.inl rfl) ends
  | @replaced context memberId request reason view place m y _ _ _ _ _ _ _ _ moved =>
      rcases member_insert hm with ⟨hpath, rfl⟩ | ⟨_, hkept⟩
      · have hnew := newMember_admits e context y .memberReplaced request view (some memberId) 0
        have hplace : request.pathId = path := hnew.place.symm.trans hpath
        exact .inr (.inr ⟨view, .replaced _ _ _ _ _ hplace, newMember_observed _ _ _ _ _ _ _⟩)
      · exact .put (SetRecord.applyTransition_members moved) (.inl rfl) hkept
  | toggled _ _ _ _ found =>
      refine .put rfl ?_ hm
      exact .evaluated (.toggled _ _ _ _ found.1) rfl
  | revalidatedSet _ views =>
      obtain ⟨m, hfound, rfl⟩ := member_map hm
      unfold SetRecord.revalidateMember
      split
      · exact .kept hfound rfl
      · split
        · exact .kept hfound rfl
        · rename_i view hlooked
          exact .evaluated (.revalidatedSet _ _ hfound hlooked) rfl
  | revalidatedMember _ _ view found =>
      refine .put rfl ?_ hm
      exact .evaluated (.revalidatedMember _ _ _ found.1) (revalidated_standing _ _ _)
  | completed _ _ _ names found =>
      refine .put rfl ?_ hm
      exact .evaluated (.completed _ _ _ names found.1) (revalidated_standing _ _ _)
  | begun _ _ _ found | released _ _ _ _ found | abandoned _ _ found =>
      refine .put rfl ?_ hm
      exact .kept found.2 rfl
  | observed applied =>
      refine .put rfl ?_ hm
      exact .evaluated (.applied applied) rfl
  | @invalidated _ place view context m applied =>
      have hmembers := (dependencyInvalidated_fields e r place (m.evaluate r.conditionalAuthorityPermitted view false)
        context .pathInvalidated).2.1
      have hobserves : op.Observes setId r place (m.evaluate r.conditionalAuthorityPermitted view false) :=
        .evaluated (.applied applied) rfl
      rw [hmembers] at hm
      exact .put rfl hobserves hm

theorem RecordEdit.frozen {summary : Bytes} (edit : RecordEdit e setId r op x summary) (h : setIsFrozen r = true) :
    setIsFrozen x = true := by
  have hrejects : ∀ {event : SetEvent}, (event.needsOpen = true ∨ event.trimsMembers = true ∨ event = .beginWithdraw ∨
      event = .completeWithdraw ∨ event = .supersede) → transitionAllowed r.lifecycle event ≠ true := by
    intro event hevent
    rw [frozen_rejects h hevent]
    decide
  have hclosed : r.lifecycle.isOpen = false := by
    rcases (SetRecord.setIsFrozen_iff r).mp h with hl | hl | hl | hl <;> rw [hl] <;> rfl
  have hkept : x.lifecycle = r.lifecycle → setIsFrozen x = true := by
    intro hsame
    unfold setIsFrozen
    rw [hsame]
    exact h
  cases edit with
  | collided | supersedes | supersedesRecorded | begun | released | abandoned | observed => exact h
  | toggled | completed => exact hkept (SetRecord.recompute_closed hclosed)
  | publish _ moved | minimumChecked _ _ moved | minimumChanged _ _ moved | policyChecked _ _ moved
  | policyChanged _ _ moved => exact absurd (SetRecord.applyTransition_allowed moved) (hrejects (.inl rfl))
  | adminChecked _ enabled moved | adminChanged _ enabled moved =>
      refine absurd (SetRecord.applyTransition_allowed moved) (hrejects (.inl ?_))
      cases enabled <;> rfl
  | withdraw _ _ _ moved | completeWithdrawal _ moved | superseded _ _ _ moved =>
      refine absurd (SetRecord.applyTransition_allowed moved) (hrejects (.inr (.inr ?_)))
      decide
  | revoke _ _ _ _ _ moved =>
      rw [SetRecord.setIsFrozen_iff, (SetRecord.consequences_cases _ _ _ _ _).1, (SetRecord.applyTransition_revoke moved).2]
      exact .inr (.inr (.inl rfl))
  | retire _ _ _ moved =>
      rw [SetRecord.setIsFrozen_iff, (SetRecord.consequences_cases _ _ _ _ _).1, (SetRecord.applyTransition_retire moved).2]
      exact .inr (.inr (.inr rfl))
  | added _ _ _ allowed => exact absurd allowed (hrejects (.inl rfl))
  | removed _ _ _ _ _ allowed => exact absurd allowed (hrejects (.inr (.inl rfl)))
  | withdrewMember _ _ _ _ _ allowed => exact absurd allowed (hrejects (.inr (.inl rfl)))
  | replaced _ _ _ _ _ _ _ _ _ _ allowed => exact absurd allowed (hrejects (.inl rfl))
  | revalidatedSet _ _ allowed => exact absurd allowed (hrejects (.inl rfl))
  | revalidatedMember _ _ _ _ allowed => exact absurd allowed (hrejects (.inr (.inl rfl)))
  | invalidated _ open_ =>
      rw [h] at open_
      cases open_

end

namespace FabricEngine

variable {e : FabricEngine} {op : Op} {setId : MultipathSetId} {r r' : SetRecord} {path : PathId} {m' : MemberRecord}

theorem after_open (plain : op.loads = false) (before : e.sets[setId]? = some r) (after : (e.after op).sets[setId]? = some r')
    (open_ : setIsFrozen r' = false) : setIsFrozen r = false := by
  by_contra hfrozen
  rw [Bool.not_eq_false] at hfrozen
  have hstill : setIsFrozen r' = true := by
    have hstep := e.after_sets op setId
    rw [before, after] at hstep
    cases hstep with
    | kept => exact hfrozen
    | changed edit stored =>
        unfold setIsFrozen
        rw [sealed_lifecycle stored]
        exact edit.frozen hfrozen
    | fenced | epochAdvanced => exact hfrozen
    | recovered loads =>
        rw [loads] at plain
        cases plain
  rw [hstill] at open_
  cases open_

theorem after_notes (plain : op.loads = false) (found : (e.after op).sets[setId]? = some r')
    (member : r'.members[path]? = some m') :
    ∃ r, e.sets[setId]? = some r ∧ op.Observes setId r path m' := by
  have hstep := e.after_sets op setId
  rw [found] at hstep
  generalize hentry : e.sets[setId]? = entry at hstep
  cases hstep with
  | kept => exact ⟨r', rfl, .kept member rfl⟩
  | @changed r _ _ _ edit stored =>
      obtain ⟨m, hm, hsame⟩ := sealed_standing stored member
      exact ⟨r, rfl, (edit.notes hm).congr hsame⟩
  | created =>
      change (∅ : MemberMap)[path]? = some m' at member
      rw [Std.ExtTreeMap.getElem?_empty] at member
      cases member
  | fenced | epochAdvanced =>
      obtain ⟨m, hm, hsame⟩ := bumped_standing member
      exact ⟨_, rfl, .kept hm hsame⟩
  | recovered loads =>
      rw [loads] at plain
      cases plain

theorem after_current (plain : op.loads = false) (before : e.sets[setId]? = some r)
    (after : (e.after op).sets[setId]? = some r') (current : r'.currentness = .current) :
    r.currentness = .current ∨ ∃ context views, op = .revalidateSet context setId views := by
  have hstep := e.after_sets op setId
  rw [before, after] at hstep
  cases hstep with
  | kept => exact .inl current
  | changed edit stored =>
      rw [sealed_currentness stored] at current
      exact edit.current current
  | fenced | epochAdvanced => cases current
  | recovered loads =>
      rw [loads] at plain
      cases plain

def declares : Op → Bool
  | .declarePathAuthority _ _ => true
  | _ => false

theorem Invalidates.notes {e e' : FabricEngine} {view : Option PathAuthorityView} (h : e.Invalidates path view e' setId)
    (before : e.sets[setId]? = some r) (open_ : setIsFrozen r = false) (after : e'.sets[setId]? = some r')
    (member : r'.members[path]? = some m') (live : memberIsTerminal m' = false) : m'.observed = noted view := by
  cases hm : r.members[path]? with
  | none =>
      have hpassed := (h.passedBy r before (.inr hm)).1
      rw [after] at hpassed
      cases hpassed
      rw [hm] at member
      cases member
  | some m =>
      obtain ⟨x, hx, hreevaluated⟩ := h.dependent r m before open_ hm
      rw [after] at hx
      cases hx
      rw [hreevaluated.rest] at member
      rcases member_insert member with ⟨_, rfl⟩ | ⟨hother, _⟩
      · by_cases hterminal : memberIsTerminal m = true
        · rw [evaluate_ends _ _ _ hterminal] at live
          cases live
        · exact evaluate_observed m _ _ _ (Bool.eq_false_iff.mpr hterminal)
      · exact absurd rfl hother

end FabricEngine

end MultipathFabric
