import MultipathFabric.RecordShape
import MultipathFabric.RevalidationSpec

namespace MultipathFabric

open OrderedMap MemberRecord

structure Standing where
  id : MultipathMemberId
  pathId : PathId
  boundAuthorityGeneration : PathAuthorityGeneration
  lifecycle : MemberLifecycle
  currentness : MemberCurrentness
  adminEnabled : Bool
  observation : Option (PathAuthorityGeneration × PathAuthorityState)

namespace MemberRecord

def observed (m : MemberRecord) : Option (PathAuthorityGeneration × PathAuthorityState) :=
  m.observationOf.map fun view => (view.generation, view.state)

def standing (m : MemberRecord) : Standing :=
  ⟨m.id, m.pathId, m.boundAuthorityGeneration, m.lifecycle, m.currentness, m.adminEnabled, m.observed⟩

variable {m m' : MemberRecord}

theorem standing_lifecycle (h : m'.standing = m.standing) : m'.lifecycle = m.lifecycle := congrArg Standing.lifecycle h

theorem standing_currentness (h : m'.standing = m.standing) : m'.currentness = m.currentness :=
  congrArg Standing.currentness h

theorem standing_usable (h : m'.standing = m.standing) : m'.usable = m.usable := by
  unfold usable
  rw [standing_lifecycle h, standing_currentness h]

theorem live_of_lifecycle (h : m'.lifecycle = m.lifecycle) : memberIsTerminal m' = memberIsTerminal m := by
  unfold memberIsTerminal
  rw [h]

theorem clearLineage_standing (m : MemberRecord) (pruned : List MultipathMemberId) :
    (m.clearLineage pruned).standing = m.standing := rfl

theorem applyEvent_standing (m : MemberRecord) (event : MemberEvent) :
    (m.applyEvent event).standing =
      { m.standing with lifecycle := (memberTransition m.lifecycle event).getD m.lifecycle } := by
  unfold applyEvent
  split
  · rename_i hrejected
    rw [hrejected]
    rfl
  · rename_i next htaken
    rw [htaken]
    split <;> rfl

theorem evaluate_standing (permitted : Bool) (view : Option PathAuthorityView) (explicit : Bool)
    (live : memberIsTerminal m = false) :
    (m.evaluate permitted view explicit).standing =
      { m.standing with
        lifecycle := (memberTransition m.lifecycle (evaluationEvent (m.observe permitted view) explicit)).getD m.lifecycle
        currentness := m.observe permitted view
        observation := view.map fun view => (view.generation, view.state) } := by
  unfold evaluate
  rw [live, if_neg (by decide), applyEvent_standing]
  cases view <;> split <;> rfl

theorem evaluate_terminal_standing (permitted : Bool) (view : Option PathAuthorityView) (explicit : Bool)
    (terminal : memberIsTerminal m = true) :
    (m.evaluate permitted view explicit).standing = { m.standing with currentness := m.observe permitted view } := by
  unfold evaluate
  rw [if_pos terminal]
  rfl

theorem markSetNotUsable_standing (m : MemberRecord) :
    (markSetNotUsable m).standing = { m.standing with currentness := .setNotUsable } := by
  unfold markSetNotUsable
  split
  · rfl
  · rename_i h
    rw [not_not] at h
    rw [← h]
    rfl

end MemberRecord

def IdFactory.upcoming (f : IdFactory) : ℕ → List MultipathMemberId
  | 0 => []
  | n + 1 => f.nextMemberId.1 :: f.nextMemberId.2.upcoming n

def Op.admissions : Op → ℕ
  | .addMember _ _ _ _ | .replaceMember _ _ _ _ _ _ => 1
  | .addMembers _ _ requests => requests.length
  | _ => 0

structure Admits (ids : IdFactory) (count : ℕ) (permitted : Bool) (path : PathId) (m' : MemberRecord) : Prop where
  fresh : m'.id ∈ ids.upcoming count
  place : m'.pathId = path
  standing : ∃ base view, base.lifecycle = MemberLifecycle.pending ∧ base.adminEnabled = true ∧
    m'.standing = (MemberRecord.evaluate base permitted view false).standing

def Op.restores (setId : MultipathSetId) (r : SetRecord) (path : PathId) : Op → Prop
  | .revalidateSet _ target _ | .setConditionalAuthorityPolicy _ target _ => target = setId
  | .revalidateMember _ target memberId _ => target = setId ∧ r.memberIndex[memberId]? = some path
  | .setMemberAdminEnabled _ target memberId enabled _ =>
      target = setId ∧ r.memberIndex[memberId]? = some path ∧ enabled = true
  | .completeMemberRevalidation _ ticket _ => ticket.setId = setId ∧ r.memberIndex[ticket.memberId]? = some path
  | _ => False

inductive Evaluates (setId : MultipathSetId) (r x : SetRecord) (path : PathId) (op : Op) (m base : MemberRecord) :
    Bool → Prop
  | restored (restores : op.restores setId r path) : Evaluates setId r x path op m base true
  | observed (same : base.standing = m.standing) (open_ : setIsFrozen r = false)
      (policy : x.conditionalAuthorityPermitted = r.conditionalAuthorityPermitted) :
      Evaluates setId r x path op m base false
  | disabled (disabled : base.adminEnabled = false) : Evaluates setId r x path op m base false

inductive MemberEdit (e : FabricEngine) (setId : MultipathSetId) (op : Op) (r x : SetRecord) (path : PathId)
    (m' : MemberRecord) : Prop
  | kept {m : MemberRecord} (found : r.members[path]? = some m) (same : m'.standing = m.standing)
      (policy : x.conditionalAuthorityPermitted = r.conditionalAuthorityPermitted ∨ memberIsTerminal m = true)
  | refreshed {m : MemberRecord} {currentness : MemberCurrentness} (found : r.members[path]? = some m)
      (terminal : memberIsTerminal m = true) (same : m'.standing = { m.standing with currentness := currentness })
  | evaluated {m base : MemberRecord} {view : Option PathAuthorityView} {explicit : Bool}
      (found : r.members[path]? = some m) (live : memberIsTerminal m = false)
      (from_ : base.standing = { m.standing with
        boundAuthorityGeneration := base.boundAuthorityGeneration
        adminEnabled := base.adminEnabled })
      (why : Evaluates setId r x path op m base explicit)
      (same : m'.standing = (base.evaluate x.conditionalAuthorityPermitted view explicit).standing)
  | marked {m : MemberRecord} (found : r.members[path]? = some m) (revoked : x.revocation.isSome = true)
      (closed : x.lifecycle = .revoked) (same : m'.standing = { m.standing with currentness := .setNotUsable })
  | ended {m : MemberRecord} {event : MemberEvent} (found : r.members[path]? = some m)
      (ends : event = .withdraw ∨ event = .supersede ∨ event = .retire ∧ x.lifecycle = .retired)
      (moved : memberTransition m.lifecycle event = some m'.lifecycle) (id : m'.id = m.id) (place : m'.pathId = m.pathId)
  | replaced {m : MemberRecord} (found : r.members[path]? = some m) (open_ : r.lifecycle.isOpen = true)
      (lifecycle : m'.lifecycle = .superseded) (id : m'.id = m.id) (place : m'.pathId = m.pathId)
  | admitted (admits : Admits e.ids op.admissions x.conditionalAuthorityPermitted path m')
      (open_ : r.lifecycle.isOpen = true)

theorem consequences_member {e : FabricEngine} {r : SetRecord} {source target : SetLifecycle}
    {context : Option MutationContext} {path : PathId} {m' : MemberRecord}
    (hm : (applyMemberConsequences e r source target context).members[path]? = some m') :
    ∃ m, r.members[path]? = some m ∧ (m' = m ∨
      (∃ event, (event = .withdraw ∨ event = .supersede ∨ event = .retire ∧ target = .retired) ∧
        m'.standing = (m.applyEvent event).standing) ∨
      (target = .revoked ∧ m'.standing = { m.standing with currentness := .setNotUsable })) := by
  have hevent : ∀ {event : MemberEvent}, (applyMemberEvent r event).members[path]? = some m' →
      ∃ m, r.members[path]? = some m ∧ m'.standing = (m.applyEvent event).standing := by
    intro event h
    obtain ⟨m₁, h₁, rfl⟩ := member_map h
    obtain ⟨m, h₂, rfl⟩ := member_map h₁
    exact ⟨m, h₂, rfl⟩
  unfold applyMemberConsequences at hm
  split at hm
  · exact ⟨m', hm, .inl rfl⟩
  · split at hm
    · split at hm
      · obtain ⟨m, hfound, hsame⟩ := hevent hm
        exact ⟨m, hfound, .inr (.inl ⟨_, .inl rfl, hsame⟩)⟩
      · obtain ⟨m, hfound, hsame⟩ := hevent hm
        exact ⟨m, hfound, .inr (.inl ⟨_, .inl rfl, hsame⟩)⟩
      · obtain ⟨m, hfound, hsame⟩ := hevent hm
        exact ⟨m, hfound, .inr (.inl ⟨_, .inr (.inl rfl), hsame⟩)⟩
      · obtain ⟨m, hfound, hsame⟩ := hevent hm
        exact ⟨m, hfound, .inr (.inl ⟨_, .inr (.inr ⟨rfl, rfl⟩), hsame⟩)⟩
      · obtain ⟨m₁, h₁, rfl⟩ := member_map hm
        obtain ⟨m, h₂, rfl⟩ := member_map h₁
        exact ⟨m, h₂, .inr (.inr ⟨rfl, markSetNotUsable_standing m⟩)⟩
      · exact ⟨m', hm, .inl rfl⟩
    · exact ⟨m', hm, .inl rfl⟩

theorem newMember_admits (e : FabricEngine) (context : MutationContext) (r : SetRecord) (cause : MembershipCause)
    (request : MemberRequest) (view : Option PathAuthorityView) (predecessor : Option MultipathMemberId) (count : ℕ) :
    Admits e.ids (count + 1) r.conditionalAuthorityPermitted request.pathId
      (e.newMember context r cause request view predecessor) := by
  have hstanding := evaluate_standing r.conditionalAuthorityPermitted view false
    (show memberIsTerminal { MemberRecord.fresh with
      id := e.ids.nextMemberId.1
      pathId := request.pathId
      boundAuthorityGeneration := request.authorityGeneration
      generation := .first
      predecessor := predecessor
      provenance := makeProvenance context cause r } = false from rfl)
  refine ⟨?_, congrArg Standing.pathId hstanding, _, view, rfl, rfl, rfl⟩
  rw [IdFactory.upcoming, List.mem_cons]
  exact .inl (congrArg Standing.id hstanding)

theorem publishMembers_member {context : MutationContext} {setId : MultipathSetId} {e : FabricEngine} {r : SetRecord}
    {requests : List (MemberRequest × Option PathAuthorityView)} {path : PathId} {m' : MemberRecord}
    (hm : (FabricEngine.publishMembers context setId e r requests).2.1.members[path]? = some m') :
    r.members[path]? = some m' ∨ Admits e.ids requests.length r.conditionalAuthorityPermitted path m' := by
  induction requests generalizing e r with
  | nil => exact .inl hm
  | cons request rest ih =>
      have hnew := newMember_admits e context r .memberAdded request.1 request.2
        (r.members[request.1.pathId]?.map MemberRecord.id) rest.length
      rcases ih hm with hold | hrest
      · rcases member_insert hold with ⟨hpath, rfl⟩ | ⟨_, hkept⟩
        · right
          have hplace := hnew.place
          rw [← hpath, hplace]
          exact hnew
        · exact .inl hkept
      · right
        refine ⟨?_, hrest.place, hrest.standing⟩
        rw [List.length_cons, IdFactory.upcoming, List.mem_cons]
        exact .inr hrest.fresh

section

variable {e : FabricEngine} {setId : MultipathSetId} {op : Op} {r x : SetRecord} {path : PathId} {m' : MemberRecord}

theorem MemberEdit.untouched (policy : x.conditionalAuthorityPermitted = r.conditionalAuthorityPermitted)
    (members : x.members = r.members) (hm : x.members[path]? = some m') : MemberEdit e setId op r x path m' := by
  rw [members] at hm
  exact .kept hm rfl (.inl policy)

theorem MemberEdit.put {y : SetRecord} {place : PathId} {put : MemberRecord}
    (policy : x.conditionalAuthorityPermitted = r.conditionalAuthorityPermitted) (members : y.members = r.members)
    (stored : x.members = y.members.insert place put)
    (at_ : ∀ m, r.members[place]? = some m → MemberEdit e setId op r x place put)
    (found : (r.members[place]?).isSome = true) (hm : x.members[path]? = some m') : MemberEdit e setId op r x path m' := by
  rw [stored] at hm
  rcases member_insert hm with ⟨rfl, rfl⟩ | ⟨_, hkept⟩
  · obtain ⟨m, hfound⟩ := Option.isSome_iff_exists.mp found
    exact at_ m hfound
  · rw [members] at hkept
    exact .kept hkept rfl (.inl policy)

theorem MemberEdit.consequences {y : SetRecord} {source : SetLifecycle} {context : Option MutationContext}
    (policy : x.conditionalAuthorityPermitted = r.conditionalAuthorityPermitted) (members : y.members = r.members)
    (lifecycle : x.lifecycle = y.lifecycle) (revocation : y.lifecycle = .revoked → x.revocation.isSome = true)
    (result : x.members = (applyMemberConsequences e y source y.lifecycle context).members)
    (hm : x.members[path]? = some m') : MemberEdit e setId op r x path m' := by
  rw [result] at hm
  obtain ⟨m, hfound, rfl | ⟨event, hends, hsame⟩ | ⟨hrevoked, hsame⟩⟩ := consequences_member hm
  · rw [members] at hfound
    exact .kept hfound rfl (.inl policy)
  · rw [members] at hfound
    rw [applyEvent_standing] at hsame
    cases htaken : memberTransition m.lifecycle event with
    | none =>
        rw [htaken] at hsame
        exact .kept hfound hsame (.inl policy)
    | some next =>
        rw [htaken] at hsame
        have hmoved : memberTransition m.lifecycle event = some m'.lifecycle :=
          htaken.trans (congrArg some (congrArg Standing.lifecycle hsame).symm)
        rw [← lifecycle] at hends
        exact .ended hfound hends hmoved (congrArg Standing.id hsame) (congrArg Standing.pathId hsame)
  · rw [members] at hfound
    exact .marked hfound (revocation hrevoked) (lifecycle.trans hrevoked) hsame

theorem applyTransition_policy {event : SetEvent} (h : r.applyTransition event = .ok x) :
    x.conditionalAuthorityPermitted = r.conditionalAuthorityPermitted := by
  rw [SetRecord.applyTransition_frame h]

theorem publishMembers_policy (context : MutationContext) (setId : MultipathSetId) (e : FabricEngine) (r : SetRecord)
    (requests : List (MemberRequest × Option PathAuthorityView)) :
    (FabricEngine.publishMembers context setId e r requests).2.1.conditionalAuthorityPermitted =
      r.conditionalAuthorityPermitted := by
  rw [SetRecord.publishMembers_frame]

theorem MemberEdit.rebound {m : MemberRecord} {view : Option PathAuthorityView} (restores : op.restores setId r path)
    (found : r.members[path]? = some m) (live : memberIsTerminal m = false)
    (same : m'.standing = (m.rebound x.conditionalAuthorityPermitted view).standing) :
    MemberEdit e setId op r x path m' := by
  refine .evaluated found live ?_ (.restored restores) same
  rfl

theorem MemberEdit.toggled {m : MemberRecord} {context : MutationContext} {memberId : MultipathMemberId} {enabled : Bool}
    {view : Option PathAuthorityView} (found : r.finds memberId path m) (live : memberIsTerminal m = false)
    (same : m' = m.toggled x.conditionalAuthorityPermitted view enabled) :
    MemberEdit e setId (.setMemberAdminEnabled context setId memberId enabled view) r x path m' := by
  obtain ⟨base, hbase⟩ : ∃ base : MemberRecord, base =
      { m with adminEnabled := enabled, generation := m.generation.next.getD m.generation }.bumpWatermark := ⟨_, rfl⟩
  have hfrom : base.standing = { m.standing with
      boundAuthorityGeneration := base.boundAuthorityGeneration
      adminEnabled := base.adminEnabled } := by
    rw [hbase]
    rfl
  have henabled : base.adminEnabled = enabled := by
    rw [hbase]
    rfl
  have hresult : m'.standing = (base.evaluate x.conditionalAuthorityPermitted view enabled).standing := by
    rw [same, hbase]
    rfl
  cases enabled with
  | false => exact .evaluated found.2 live hfrom (.disabled henabled) hresult
  | true => exact .evaluated found.2 live hfrom (.restored ⟨rfl, found.1, rfl⟩) hresult

theorem revalidated_standing (m : MemberRecord) (permitted : Bool) (view : Option PathAuthorityView) :
    (m.revalidated permitted view).standing = (m.rebound permitted view).standing := by
  unfold MemberRecord.revalidated
  dsimp only
  split <;> rfl

theorem RecordEdit.member {summary : Bytes} (edit : RecordEdit e setId r op x summary)
    (hm : x.members[path]? = some m') : MemberEdit e setId op r x path m' := by
  cases edit with
  | collided | supersedes | supersedesRecorded => exact .untouched rfl rfl hm
  | publish _ moved | minimumChecked _ _ moved | policyChecked _ _ moved | adminChecked _ _ moved
  | completeWithdrawal _ moved =>
      exact .untouched (applyTransition_policy moved) (SetRecord.applyTransition_members moved) hm
  | minimumChanged _ _ moved | adminChanged _ _ moved =>
      have hpolicy := applyTransition_policy moved
      have hmembers := SetRecord.applyTransition_members moved
      exact .untouched hpolicy hmembers hm
  | policyChanged _ permitted moved =>
      obtain ⟨m, hfound, rfl⟩ := member_map hm
      rw [SetRecord.applyTransition_members moved] at hfound
      split
      · rename_i hterminal
        exact .kept hfound rfl (.inr hterminal)
      · rename_i hlive
        refine .evaluated hfound (Bool.eq_false_iff.mpr hlive) ?_ (.restored rfl) rfl
        rfl
  | @withdraw context reason y _ moved =>
      have hpolicy := applyTransition_policy moved
      have hmembers := SetRecord.applyTransition_members moved
      have hnot : ({ y with withdrawalReason := reason } : SetRecord).recompute.lifecycle ≠ .revoked := by
        rcases SetRecord.applyTransition_beginWithdraw moved with ⟨hdeclared, rfl⟩ | ⟨_, _, rfl⟩
        · have hstay : ({ r.recompute with withdrawalReason := reason } : SetRecord).recompute.lifecycle = .declared :=
            SetRecord.recompute_declared (SetRecord.recompute_declared hdeclared)
          rw [hstay]
          decide
        · intro h
          cases h
      refine .consequences (y := ({ y with withdrawalReason := reason } : SetRecord).recompute) ?_ hmembers
        (SetRecord.consequences_cases _ _ _ _ _).1 (fun h => absurd h hnot) rfl hm
      rw [SetRecord.withdrawn, SetRecord.consequences_frame]
      exact hpolicy
  | @revoke context reason detail y generation _ _ moved =>
      have hpolicy := applyTransition_policy moved
      have hmembers := SetRecord.applyTransition_members moved
      refine .consequences
        (y := { y with revocation := some (revocationOf e context setId generation reason detail) }) ?_ hmembers
        (SetRecord.consequences_cases _ _ _ _ _).1 (fun _ => ?_) rfl hm
      · rw [SetRecord.consequences_frame]
        exact hpolicy
      · rw [SetRecord.consequences_frame]
        rfl
  | @retire _ _ y _ moved =>
      have hpolicy := applyTransition_policy moved
      have hmembers := SetRecord.applyTransition_members moved
      have hnot : y.lifecycle ≠ .revoked := by
        rw [(SetRecord.applyTransition_retire moved).2]
        intro h
        cases h
      refine .consequences (y := y) ?_ hmembers (SetRecord.consequences_cases _ _ _ _ _).1 (fun h => absurd h hnot) rfl hm
      rw [SetRecord.consequences_frame]
      exact hpolicy
  | @superseded _ successor y _ moved =>
      have hpolicy := applyTransition_policy moved
      have hmembers := SetRecord.applyTransition_members moved
      have hnot : y.lifecycle ≠ .revoked := by
        rw [(SetRecord.applyTransition_supersede moved).2]
        intro h
        cases h
      refine .consequences (y := { y with supersededBy := some successor }) ?_ hmembers
        (SetRecord.consequences_cases _ _ _ _ _).1 (fun h => absurd h hnot) rfl hm
      rw [SetRecord.consequences_frame]
      exact hpolicy
  | @added context _ requests _ y publication _ allowed _ _ moved =>
      have hopen := transitionAllowed_open rfl allowed
      have hpolicy := (publishMembers_policy context setId e y requests).trans (applyTransition_policy moved)
      have hcount : op.admissions = requests.length := by
        cases publication <;> rfl
      rcases publishMembers_member hm with hkept | hadmitted
      · rw [SetRecord.applyTransition_members moved] at hkept
        exact .kept hkept rfl (.inl hpolicy)
      · rw [← hcount, applyTransition_policy moved, ← hpolicy] at hadmitted
        exact .admitted hadmitted hopen
  | removed _ _ _ _ _ _ moved =>
      have hpolicy := applyTransition_policy moved
      have hkept := (member_erase hm).2
      rw [SetRecord.applyTransition_members moved] at hkept
      exact .kept hkept rfl (.inl hpolicy)
  | withdrewMember _ _ _ _ found _ ends moved =>
      have hpolicy := applyTransition_policy moved
      have hmembers := SetRecord.applyTransition_members moved
      refine .put hpolicy hmembers rfl (fun m hfound => ?_) (by rw [found.2]; rfl) hm
      rw [found.2] at hfound
      cases hfound
      exact .ended found.2 (.inl rfl) ends rfl rfl
  | @replaced context memberId request reason view place m y _ _ _ found _ allowed _ _ moved =>
      have hopen := transitionAllowed_open rfl allowed
      have hpolicy := applyTransition_policy moved
      have hmembers := SetRecord.applyTransition_members moved
      have hnew := newMember_admits e context y .memberReplaced request view (some memberId) 0
      rcases member_insert hm with ⟨hpath, rfl⟩ | ⟨_, hkept⟩
      · rw [← hpath]
        refine .admitted ?_ hopen
        have hplace := hnew.place
        rw [hplace]
        exact hnew
      · rcases member_insert hkept with ⟨rfl, rfl⟩ | ⟨_, hkept⟩
        · exact .replaced found.2 hopen rfl rfl rfl
        · rw [hmembers] at hkept
          exact .kept hkept rfl (.inl hpolicy)
  | @toggled _ _ enabled view place m found live _ =>
      refine .put (y := r) rfl rfl rfl (fun m hfound => ?_) (by rw [found.2]; rfl) hm
      rw [found.2] at hfound
      cases hfound
      exact .toggled found live rfl
  | revalidatedSet _ views allowed =>
      obtain ⟨m, hfound, rfl⟩ := member_map hm
      unfold SetRecord.revalidateMember
      split
      · exact .kept hfound rfl (.inl rfl)
      · rename_i hlive
        split
        · exact .kept hfound rfl (.inl rfl)
        · exact .rebound rfl hfound (Bool.eq_false_iff.mpr hlive) rfl
  | revalidatedMember _ _ view found _ live =>
      refine .put (y := r) rfl rfl rfl (fun m hfound => ?_) (by rw [found.2]; rfl) hm
      rw [found.2] at hfound
      cases hfound
      exact .rebound ⟨rfl, found.1⟩ found.2 live (revalidated_standing _ _ _)
  | begun _ _ _ found _ _ =>
      refine .put (y := r) rfl rfl rfl (fun m hfound => ?_) (by rw [found.2]; rfl) hm
      rw [found.2] at hfound
      cases hfound
      exact .kept found.2 rfl (.inl rfl)
  | released _ _ _ _ found _ _ | abandoned _ _ found _ =>
      refine .put (y := r) rfl rfl rfl (fun m hfound => ?_) (by rw [found.2]; rfl) hm
      rw [found.2] at hfound
      cases hfound
      exact .kept found.2 rfl (.inl rfl)
  | completed _ ticket _ names found _ fresh =>
      refine .put (y := r) rfl rfl rfl (fun m hfound => ?_) (by rw [found.2]; rfl) hm
      rw [found.2] at hfound
      cases hfound
      exact .rebound ⟨names, found.1⟩ found.2 (FabricEngine.staleCompletion_none fresh).2.1 (revalidated_standing _ _ _)
  | @observed _ place view _ m applied open_ found same =>
      refine .put (y := r) rfl rfl rfl (fun m hfound => ?_) (by rw [found]; rfl) hm
      rw [found] at hfound
      cases hfound
      cases hlive : memberIsTerminal m with
      | true => exact .refreshed found hlive (evaluate_terminal_standing _ _ _ hlive)
      | false => exact .evaluated found hlive rfl (.observed rfl open_ rfl) rfl
  | @invalidated _ place view context m applied open_ found =>
      have hmembers := (dependencyInvalidated_fields e r place (m.evaluate r.conditionalAuthorityPermitted view false)
        context .pathInvalidated).2.1
      have hpolicy : (e.dependencyInvalidated r place (m.evaluate r.conditionalAuthorityPermitted view false) context
          .pathInvalidated).conditionalAuthorityPermitted = r.conditionalAuthorityPermitted := by
        unfold FabricEngine.dependencyInvalidated
        dsimp only
        split <;> rfl
      refine .put (y := r) hpolicy rfl hmembers (fun m hfound => ?_) (by rw [found]; rfl) hm
      rw [found] at hfound
      cases hfound
      cases hlive : memberIsTerminal m with
      | true => exact .refreshed found hlive (evaluate_terminal_standing _ _ _ hlive)
      | false =>
          have hsame : (m.evaluate r.conditionalAuthorityPermitted view false).standing = (m.evaluate
              (e.dependencyInvalidated r place (m.evaluate r.conditionalAuthorityPermitted view false) context
                .pathInvalidated).conditionalAuthorityPermitted view false).standing := by
            rw [hpolicy]
          exact .evaluated found hlive rfl (.observed rfl open_ hpolicy) hsame

end

end MultipathFabric
