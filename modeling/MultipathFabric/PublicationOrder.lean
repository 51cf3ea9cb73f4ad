import MultipathFabric.Capacity
import MultipathFabric.Publications

namespace MultipathFabric

open OrderedMap

structure MemberProjection where
  pathId : PathId
  authorityGeneration : PathAuthorityGeneration
  lifecycle : MemberLifecycle
  currentness : MemberCurrentness
  adminEnabled : Bool
  deriving DecidableEq

def MemberRecord.projection (m : MemberRecord) : MemberProjection :=
  ⟨m.pathId, m.boundAuthorityGeneration, m.lifecycle, m.currentness, m.adminEnabled⟩

def SetRecord.projection (r : SetRecord) : List MemberProjection :=
  r.members.toList.map fun entry => entry.2.projection

def MemberRequest.projection (request : MemberRequest) : MemberProjection :=
  ⟨request.pathId, request.authorityGeneration, .current, .current, true⟩

def Shows (members : MemberMap) (requests : List MemberRequest) : Prop :=
  ∀ (path : PathId) (p : MemberProjection), members[path]?.map MemberRecord.projection = some p ↔
    ∃ request ∈ requests, request.pathId = path ∧ p = request.projection

namespace Shows

variable {members members' : MemberMap} {requests requests' : List MemberRequest}

theorem empty : Shows ∅ [] := by
  intro path p
  simp

theorem perm (h : Shows members requests) (order : requests.Perm requests') : Shows members requests' := by
  intro path p
  rw [h path p]
  constructor
  · rintro ⟨request, hrequest, hshown⟩
    exact ⟨request, order.mem_iff.mp hrequest, hshown⟩
  · rintro ⟨request, hrequest, hshown⟩
    exact ⟨request, order.mem_iff.mpr hrequest, hshown⟩

theorem member (h : Shows members requests) {path : PathId} {m : MemberRecord} (found : members[path]? = some m) :
    ∃ request ∈ requests, request.pathId = path ∧ m.projection = request.projection := by
  apply (h path m.projection).mp
  rw [found]
  rfl

theorem live (h : Shows members requests) {path : PathId} {m : MemberRecord} (found : members[path]? = some m) :
    memberIsTerminal m = false := by
  obtain ⟨request, _, _, hprojection⟩ := h.member found
  have hlifecycle : m.lifecycle = .current := congrArg MemberProjection.lifecycle hprojection
  unfold memberIsTerminal
  rw [hlifecycle]
  rfl

theorem install (h : Shows members requests) {request : MemberRequest} {m : MemberRecord}
    (free : members[request.pathId]? = none) (shown : m.projection = request.projection) :
    Shows (members.insert request.pathId m) (requests ++ [request]) := by
  intro path p
  rw [getElem?_insert_eq]
  by_cases hpath : request.pathId = path
  · rw [if_pos hpath, Option.map_some, Option.some_inj, shown]
    constructor
    · intro hp
      exact ⟨request, List.mem_append_right _ List.mem_cons_self, hpath, hp.symm⟩
    · rintro ⟨other, hother, hplace, rfl⟩
      rcases List.mem_append.mp hother with hearlier | hlast
      · have hshown := (h path other.projection).mpr ⟨other, hearlier, hplace, rfl⟩
        rw [← hpath, free] at hshown
        cases hshown
      · rw [List.mem_singleton.mp hlast]
  · rw [if_neg hpath, h path p]
    constructor
    · rintro ⟨other, hother, hshown⟩
      exact ⟨other, List.mem_append_left _ hother, hshown⟩
    · rintro ⟨other, hother, hplace, hp⟩
      rcases List.mem_append.mp hother with hearlier | hlast
      · exact ⟨other, hearlier, hplace, hp⟩
      · rw [List.mem_singleton.mp hlast] at hplace
        exact absurd hplace hpath

theorem congr (h : Shows members requests)
    (same : ∀ path : PathId, members'[path]?.map MemberRecord.projection = members[path]?.map MemberRecord.projection) :
    Shows members' requests := by
  intro path p
  rw [same]
  exact h path p

theorem mem_projection (h : Shows members requests) (p : MemberProjection) :
    p ∈ members.toList.map (fun entry => entry.2.projection) ↔ p ∈ requests.map MemberRequest.projection := by
  constructor
  · intro hp
    obtain ⟨⟨path, m⟩, hentry, rfl⟩ := List.mem_map.mp hp
    obtain ⟨request, hrequest, _, hprojection⟩ := h.member (Std.ExtTreeMap.mem_toList_iff_getElem?_eq_some.mp hentry)
    exact List.mem_map.mpr ⟨request, hrequest, hprojection.symm⟩
  · intro hp
    obtain ⟨request, hrequest, rfl⟩ := List.mem_map.mp hp
    obtain ⟨m, hm, hprojection⟩ :=
      Option.map_eq_some_iff.mp ((h request.pathId request.projection).mpr ⟨request, hrequest, rfl, rfl⟩)
    exact List.mem_map.mpr ⟨(request.pathId, m), Std.ExtTreeMap.mem_toList_iff_getElem?_eq_some.mpr hm, hprojection⟩

theorem unique (h : Shows members requests) (h' : Shows members' requests) :
    (members.map fun _ m => m.projection) = members'.map fun _ m => m.projection := by
  apply Std.ExtTreeMap.ext_getElem?
  intro path
  rw [getElem?_mapValues, getElem?_mapValues]
  apply Option.ext
  intro p
  rw [h path p, h' path p]

end Shows

theorem usableCount_projection (members : MemberMap) : usableCount members =
    ((members.map fun _ m => m.projection).toList.countP fun entry =>
      memberIsUsable entry.2.lifecycle entry.2.currentness) := by
  change count MemberRecord.usable members = _
  rw [← length_filter_toList, Std.ExtTreeMap.toList_map, List.countP_map, List.countP_eq_length_filter]
  rfl

theorem projection_map (r : SetRecord) :
    r.projection = (r.members.map fun _ m => m.projection).toList.map Prod.snd := by
  rw [Std.ExtTreeMap.toList_map, List.map_map]
  rfl

namespace FabricEngine

variable {e : FabricEngine} {context : MutationContext} {setId : MultipathSetId} {r x : SetRecord}

theorem newMember_projection {cause : MembershipCause} {request : MemberRequest} {view : Option PathAuthorityView}
    {predecessor : Option MultipathMemberId}
    (supported : classifyPathAuthority view request.authorityGeneration r.conditionalAuthorityPermitted = .current) :
    (e.newMember context r cause request view predecessor).projection = request.projection := by
  have hstanding := MemberRecord.evaluate_standing r.conditionalAuthorityPermitted view false
    (show memberIsTerminal { MemberRecord.fresh with
      id := e.ids.nextMemberId.1
      pathId := request.pathId
      boundAuthorityGeneration := request.authorityGeneration
      generation := .first
      predecessor := predecessor
      provenance := makeProvenance context cause r } = false from rfl)
  have hobserved : MemberRecord.observe { MemberRecord.fresh with
      id := e.ids.nextMemberId.1
      pathId := request.pathId
      boundAuthorityGeneration := request.authorityGeneration
      generation := .first
      predecessor := predecessor
      provenance := makeProvenance context cause r } r.conditionalAuthorityPermitted view = .current := supported
  rw [hobserved] at hstanding
  have hshown := congrArg
    (fun s : Standing => (⟨s.pathId, s.boundAuthorityGeneration, s.lifecycle, s.currentness, s.adminEnabled⟩ :
      MemberProjection)) hstanding
  exact hshown

theorem duplicateRequest_free {seen : List PathId} {requests : List MemberRequest}
    (h : duplicateRequest r setId seen requests = none) : (requests.map MemberRequest.pathId).Nodup ∧
      ∀ request ∈ requests, request.pathId ∉ seen ∧
        ∀ m, r.members[request.pathId]? = some m → memberIsTerminal m = true := by
  induction requests generalizing seen with
  | nil => exact ⟨List.nodup_nil, fun _ h => by cases h⟩
  | cons request rest ih =>
      obtain ⟨hunseen, hended, hrest⟩ := duplicateRequest_cons h
      obtain ⟨hnodup, hfree⟩ := ih hrest
      constructor
      · rw [List.map_cons, List.nodup_cons]
        refine ⟨fun hmem => ?_, hnodup⟩
        obtain ⟨other, hother, hplace⟩ := List.mem_map.mp hmem
        apply (hfree other hother).1
        rw [hplace]
        exact List.mem_append_right _ List.mem_cons_self
      · intro other hother
        rcases List.mem_cons.mp hother with rfl | hlater
        · exact ⟨hunseen, hended⟩
        · obtain ⟨hfresh, hends⟩ := hfree other hlater
          exact ⟨fun hseen => hfresh (List.mem_append_left _ hseen), hends⟩

theorem publishMembers_shows {requests : List (MemberRequest × Option PathAuthorityView)} {shown : List MemberRequest}
    (shows : Shows r.members shown)
    (supported : ∀ request ∈ requests,
      classifyPathAuthority request.2 request.1.authorityGeneration r.conditionalAuthorityPermitted = .current)
    (distinct : ((requests.map Prod.fst).map MemberRequest.pathId).Nodup)
    (free : ∀ request ∈ requests.map Prod.fst, r.members[request.pathId]? = none) :
    Shows (publishMembers context setId e r requests).2.1.members (shown ++ requests.map Prod.fst) := by
  induction requests generalizing e r shown with
  | nil =>
      rw [List.map_nil, List.append_nil]
      exact shows
  | cons entry rest ih =>
      obtain ⟨request, view⟩ := entry
      obtain ⟨member, hmember⟩ : ∃ member, member = e.newMember context r .memberAdded request view
          (r.members[request.pathId]?.map MemberRecord.id) := ⟨_, rfl⟩
      have hshown : member.projection = request.projection := by
        rw [hmember]
        exact newMember_projection (supported _ List.mem_cons_self)
      have hplace : member.pathId = request.pathId := congrArg MemberProjection.pathId hshown
      have hinstalled : (r.installMember member).members = r.members.insert request.pathId member := by
        rw [← hplace]
        rfl
      have hpublished : (publishMembers context setId e r ((request, view) :: rest)).2.1 =
          (publishMembers context setId (e.admitPath setId request.pathId) (r.installMember member) rest).2.1 := by
        rw [hmember]
        rfl
      rw [List.map_cons, List.map_cons, List.nodup_cons] at distinct
      rw [hpublished, List.map_cons, List.append_cons]
      apply ih
      · rw [hinstalled]
        exact shows.install (free _ List.mem_cons_self) hshown
      · intro other hother
        exact supported other (List.mem_cons_of_mem _ hother)
      · exact distinct.2
      · intro other hother
        rw [hinstalled, getElem?_insert_eq, if_neg]
        · exact free other (List.mem_cons_of_mem _ hother)
        · intro hpath
          apply distinct.1
          rw [hpath]
          exact List.mem_map_of_mem hother

end FabricEngine

structure SetRecord.Gathers (r₀ r : SetRecord) (requests : List MemberRequest) : Prop where
  members : Shows r.members requests
  minimum : r.minimumUsableMembers = r₀.minimumUsableMembers
  enabled : r.adminEnabled = r₀.adminEnabled
  currentness : r.currentness = r₀.currentness
  published : r.lifecycle.isPublished = r₀.lifecycle.isPublished
  closed : r₀.lifecycle.isPublished = false → r.lifecycle = r₀.lifecycle
  derived : requests ≠ [] → r.Derived
  unchanged : requests = [] → r.lifecycle = r₀.lifecycle ∧ r.usableMemberCount = r₀.usableMemberCount

/-- The projection of the set lists the requests in the order of their paths. -/
structure SetRecord.Lists (r : SetRecord) (requests : List MemberRequest) : Prop where
  same : r.projection.Perm (requests.map MemberRequest.projection)
  ordered : r.projection.Pairwise fun p q => compare p.pathId q.pathId = .lt

theorem Shows.lists {r : SetRecord} {requests : List MemberRequest} (h : Shows r.members requests)
    (distinct : (requests.map MemberRequest.pathId).Nodup) : r.Lists requests := by
  have hordered : r.projection.Pairwise fun p q => compare p.pathId q.pathId = .lt := by
    unfold SetRecord.projection
    rw [List.pairwise_map]
    refine Std.ExtTreeMap.ordered_keys_toList.imp_of_mem fun {a b} ha hb hlt => ?_
    obtain ⟨request, _, hplace, hprojection⟩ := h.member (Std.ExtTreeMap.mem_toList_iff_getElem?_eq_some.mp ha)
    obtain ⟨other, _, hplace', hprojection'⟩ := h.member (Std.ExtTreeMap.mem_toList_iff_getElem?_eq_some.mp hb)
    rw [hprojection, hprojection']
    change compare request.pathId other.pathId = .lt
    rw [hplace, hplace']
    exact hlt
  refine ⟨(List.perm_ext_iff_of_nodup ?_ ?_).mpr fun p => h.mem_projection p, hordered⟩
  · refine hordered.imp fun {p q} hlt => ?_
    rintro rfl
    have hself : compare p.pathId p.pathId = .eq := Std.ReflCmp.compare_self
    rw [hself] at hlt
    cases hlt
  · refine List.Nodup.of_map MemberProjection.pathId ?_
    rw [List.map_map]
    exact distinct

structure SetRecord.Agrees (r r' : SetRecord) : Prop where
  projection : r.projection = r'.projection
  usable : r.usableMemberCount = r'.usableMemberCount
  lifecycle : r.lifecycle = r'.lifecycle
  readiness : routeReadiness r.lifecycle r.currentness = routeReadiness r'.lifecycle r'.currentness

namespace SetRecord

variable {r₀ r r' : SetRecord} {requests requests' : List MemberRequest}

theorem Gathers.start (empty : r.members = ∅) : r.Gathers r [] := by
  refine ⟨?_, rfl, rfl, rfl, rfl, fun _ => rfl, fun h => absurd rfl h, fun _ => ⟨rfl, rfl⟩⟩
  rw [empty]
  exact .empty

theorem Gathers.agrees (h : r₀.Gathers r requests) (h' : r₀.Gathers r' requests') (order : requests.Perm requests') :
    r.Agrees r' := by
  have hmaps := (h.members.perm order).unique h'.members
  have hcount : usableCount r.members = usableCount r'.members := by
    rw [usableCount_projection, usableCount_projection, hmaps]
  obtain ⟨husable, hlifecycle⟩ : r.usableMemberCount = r'.usableMemberCount ∧ r.lifecycle = r'.lifecycle := by
    by_cases hnone : requests = []
    · have hnone' : requests' = [] := by
        rw [hnone] at order
        exact order.nil_eq.symm
      obtain ⟨hlifecycle, husable⟩ := h.unchanged hnone
      obtain ⟨hlifecycle', husable'⟩ := h'.unchanged hnone'
      rw [hlifecycle, husable, hlifecycle', husable']
      exact ⟨rfl, rfl⟩
    · have hsome : requests' ≠ [] := by
        intro hnone'
        rw [hnone'] at order
        exact hnone order.eq_nil
      have hderived := h.derived hnone
      have hderived' := h'.derived hsome
      have husable : r.usableMemberCount = r'.usableMemberCount := by
        rw [hderived.counted, hderived'.counted, hcount]
      refine ⟨husable, ?_⟩
      cases hpublished : r₀.lifecycle.isPublished with
      | false => rw [h.closed hpublished, h'.closed hpublished]
      | true =>
          rw [hderived.published (h.published.trans hpublished), hderived'.published (h'.published.trans hpublished),
            husable, h.minimum, h'.minimum, h.enabled, h'.enabled]
  refine ⟨?_, husable, hlifecycle, ?_⟩
  · rw [projection_map, projection_map, hmaps]
  · rw [hlifecycle, h.currentness, h'.currentness]

theorem recompute_isPublished (r : SetRecord) : r.recompute.lifecycle.isPublished = r.lifecycle.isPublished := by
  unfold recompute
  dsimp only
  split
  all_goals
    first
    | rfl
    | rename_i hlifecycle
      rw [derivePublishedLifecycle_published, hlifecycle]
      rfl

theorem recompute_unpublished (h : r.lifecycle.isPublished = false) : r.recompute.lifecycle = r.lifecycle := by
  unfold recompute
  dsimp only
  split
  all_goals
    first
    | rfl
    | rename_i hlifecycle
      rw [hlifecycle] at h
      cases h

theorem memberAdded_recomputes {x : SetRecord} (moved : r.applyTransition .memberAdded = .ok x) :
    x = r ∨ x = r.recompute := by
  unfold applyTransition at moved
  split at moved
  · cases moved
  · cases moved
    exact .inl rfl
  · cases moved
    exact .inr rfl
  all_goals
    rename_i haction
    cases hlifecycle : r.lifecycle
    all_goals
      rw [hlifecycle] at haction
      cases haction

theorem committed_key (e : FabricEngine) (y : SetRecord) (context : MutationContext) (spec : CommitSpec) :
    (y.committed e context spec).key = y.key := by
  simp only [committed, FabricEngine.appendHistory, pruneArchive]
  split <;> rfl

theorem committed_shows {e : FabricEngine} {y : SetRecord} {context : MutationContext} {spec : CommitSpec}
    (h : Shows y.members requests) : Shows (y.committed e context spec).members requests := by
  apply h.congr
  intro path
  have hplace : SealedPlace y.members[path]? (y.committed e context spec).members[path]? :=
    pruneArchive_place e.limits { y with provenance := makeProvenance context spec.cause y } path
  generalize hafter : (y.committed e context spec).members[path]? = after at hplace ⊢
  generalize hbefore : y.members[path]? = before at hplace ⊢
  cases hplace with
  | kept => rfl
  | cleared => rfl
  | pruned terminal =>
      rw [h.live hbefore] at terminal
      cases terminal

theorem Gathers.publish {e base : FabricEngine} {x : SetRecord} {context caller : MutationContext}
    {setId : MultipathSetId} {spec : CommitSpec} {generation : MultipathSetGeneration}
    {membershipGeneration : MembershipGeneration} {batch : List (MemberRequest × Option PathAuthorityView)}
    (h : r₀.Gathers r requests) (nonempty : batch ≠ []) (moved : r.applyTransition .memberAdded = .ok x)
    (supported : unsupportedRequest r batch = none)
    (distinct : duplicateRequest r setId [] (batch.map Prod.fst) = none) :
    r₀.Gathers (((FabricEngine.publishMembers context setId e x batch).2.1.recompute.advanced generation
      membershipGeneration).committed base caller spec) (requests ++ batch.map Prod.fst) := by
  obtain ⟨hnodup, hfree⟩ := FabricEngine.duplicateRequest_free distinct
  have hmembers := applyTransition_members moved
  have hpolicy := applyTransition_policy moved
  have hunpublished : r.lifecycle.isPublished = false → x.lifecycle = r.lifecycle := by
    intro hunpublished
    rcases memberAdded_recomputes moved with rfl | rfl
    · rfl
    · exact recompute_unpublished hunpublished
  have hpublished : x.lifecycle.isPublished = r.lifecycle.isPublished := by
    rcases memberAdded_recomputes moved with rfl | rfl
    · rfl
    · exact recompute_isPublished r
  have hcurrentness : x.currentness = r.currentness := by
    rcases memberAdded_recomputes moved with rfl | rfl <;> rfl
  have hminimum : x.minimumUsableMembers = r.minimumUsableMembers := by rw [applyTransition_frame moved]
  have henabled : x.adminEnabled = r.adminEnabled := by rw [applyTransition_frame moved]
  have hshown : Shows (FabricEngine.publishMembers context setId e x batch).2.1.members
      (requests ++ batch.map Prod.fst) := by
    apply FabricEngine.publishMembers_shows
    · rw [hmembers]
      exact h.members
    · intro request hrequest
      have hclassified := List.findSome?_eq_none_iff.mp supported request hrequest
      rw [hpolicy]
      by_contra hstale
      dsimp only at hclassified
      rw [if_neg hstale] at hclassified
      cases hclassified
    · exact hnodup
    · intro request hrequest
      rw [hmembers]
      cases hfound : r.members[request.pathId]? with
      | none => rfl
      | some m =>
          have hended := (hfree request hrequest).2 m hfound
          rw [h.members.live hfound] at hended
          cases hended
  have hframe := publishMembers_frame context setId e x batch
  generalize (FabricEngine.publishMembers context setId e x batch).2.1 = y at hshown hframe ⊢
  have hlifecycle : y.lifecycle = x.lifecycle := by rw [hframe]
  obtain ⟨hcommitted, hstays, hcount⟩ := committed_standing base (y.recompute.advanced generation membershipGeneration)
    caller spec
  obtain ⟨hcommittedMinimum, hcommittedEnabled, _⟩ := committed_settings base
    (y.recompute.advanced generation membershipGeneration) caller spec
  have husable : usableCount ((y.recompute.advanced generation membershipGeneration).committed base caller spec).members =
      usableCount y.members := pruneArchive_usable _ _
  have hderived : y.recompute.Derived := recompute_derived y
  constructor
  · exact committed_shows hshown
  · rw [hcommittedMinimum, ← h.minimum, ← hminimum, hframe]
    rfl
  · rw [hcommittedEnabled, ← h.enabled, ← henabled, hframe]
    rfl
  · rw [hstays, ← h.currentness, ← hcurrentness, hframe]
    rfl
  · rw [hcommitted, ← h.published, ← hpublished, ← hlifecycle]
    exact recompute_isPublished y
  · intro hclosed
    have hrecord : r.lifecycle.isPublished = false := h.published.trans hclosed
    have hmoved : y.lifecycle.isPublished = false := by
      rw [hlifecycle, hpublished]
      exact hrecord
    rw [hcommitted, ← h.closed hclosed, ← hunpublished hrecord, ← hlifecycle]
    exact recompute_unpublished hmoved
  · intro _
    exact hderived.congr hcount husable hcommitted hcommittedMinimum hcommittedEnabled
  · intro hnone
    have hbatch := (List.append_eq_nil_iff.mp hnone).2
    exact absurd (List.map_eq_nil_iff.mp hbatch) nonempty

end SetRecord

namespace FabricEngine

variable {e e' : FabricEngine} {context : MutationContext} {setId : MultipathSetId} {r₀ r : SetRecord}
  {source : PathId → Option PathAuthorityView}

theorem publication_cases {op : Op} {requests : List (MemberRequest × Option PathAuthorityView)} {operation : Bytes}
    {bulk : Bool} (publication : op.Publishes context setId requests bulk) :
    ((e.addMembersLocked context setId requests operation bulk).answer.1 = e ∧
      ((e.addMembersLocked context setId requests operation bulk).answer.2.succeeded = false ∨
        e.attemptIndex[context.attempt]? ≠ none)) ∨
    ∃ (r x : SetRecord) (spec : CommitSpec) (outcome : FabricOutcome) (generation : MultipathSetGeneration)
      (membershipGeneration : MembershipGeneration), e.sets[setId]? = some r ∧ requests ≠ [] ∧
      (∀ request ∈ requests, request.1.pathId.valid = true ∧ request.1.authorityGeneration.valid = true) ∧
      unsupportedRequest r requests = none ∧ duplicateRequest r setId [] (requests.map Prod.fst) = none ∧
      r.applyTransition .memberAdded = .ok x ∧ r.generation.next = some generation ∧
      r.membershipGeneration.next = some membershipGeneration ∧ outcome.code = .memberAdded ∧
      (e.addMembersLocked context setId requests operation bulk).answer =
        ((e.prepared r op).sealedCommit setId
          ((publishMembers context setId e x requests).2.1.recompute.advanced generation membershipGeneration)
          ⟨context, operation, bulkFields operation setId (requests.map Prod.fst)⟩ spec outcome, outcome) := by
  rcases addMembersLocked_cases e context setId operation publication with ⟨outcome, hrefuses, hanswered⟩ |
    ⟨r, x, spec, outcome, hadmitted, hnonempty, hvalid, hallowed, _, hsupported, hdistinct, _, hnext, hmembership,
      hmoved, hadvances, hchanges, hsummary, _, _, hcode, hcommitted⟩
  · left
    rw [hanswered]
    refine ⟨rfl, ?_⟩
    rcases hrefuses with hrejected | hknown
    · exact .inl (FabricOutcome.rejects_iff.mp hrejected).1
    · right
      intro hunused
      have hlogged := hknown.2
      rw [attemptCheck_unknown (q := ⟨context, operation, _⟩) hunused] at hlogged
      cases hlogged
  · right
    have hplain : op.views = false := by cases publication <;> rfl
    have hedit : RecordEdit e setId r op _ _ := .added context publication hvalid hallowed hsupported hdistinct hmoved
    rw [← hsummary] at hedit
    obtain ⟨generation, membershipGeneration, hgeneration, _, hfollows, hsealed⟩ :=
      Answer.commitLocked_sealed ⟨context, operation, bulkFields operation setId (requests.map Prod.fst)⟩ (e.prepared r op)
        outcome hedit hplain hadvances hnext fun _ => hmembership
    rw [if_pos hchanges] at hfollows
    refine ⟨r, x, spec, _, generation, membershipGeneration, admission_found hadmitted, hnonempty, hvalid, hsupported,
      hdistinct, hmoved, hgeneration, hfollows, ?_, (congrArg LockedResult.answer hcommitted).trans hsealed⟩
    exact hcode

section Calls

variable {call : PublicationCall} {calls : List PublicationCall} {shown rest : List MemberRequest}

theorem allowed_later {r' : SetRecord} (h : r₀.Gathers r shown) (h' : r₀.Gathers r' rest)
    (allowed : transitionAllowed r.lifecycle .memberAdded = true) :
    transitionAllowed r'.lifecycle .memberAdded = true := by
  cases hpublished : r₀.lifecycle.isPublished with
  | false =>
      rw [h'.closed hpublished, ← h.closed hpublished]
      exact allowed
  | true =>
      have hlater := h'.published.trans hpublished
      revert hlater
      cases r'.lifecycle <;> decide

theorem publication_record {base x : FabricEngine} {y : SetRecord} {caller : MutationContext} {spec : CommitSpec}
    {generation : MultipathSetGeneration} {membershipGeneration : MembershipGeneration}
    {batch : List (MemberRequest × Option PathAuthorityView)} (moved : r.applyTransition .memberAdded = .ok y)
    (distinct : (batch.map fun request => request.1.pathId).Nodup) {r' : SetRecord}
    (committed : r' = ((publishMembers context setId x y batch).2.1.recompute.advanced generation
      membershipGeneration).committed base caller spec) :
    r'.id = r.id ∧ r'.key = r.key ∧ r'.conditionalAuthorityPermitted = r.conditionalAuthorityPermitted ∧
      r'.generation = generation ∧ r'.membershipGeneration = membershipGeneration ∧
      r'.members.size ≤ r.members.size + batch.length := by
  have hhead := (SetRecord.SameHead.transition moved).trans (.published context setId x y batch)
  have hpolicy := (publishMembers_policy context setId x y batch).trans (applyTransition_policy moved)
  have hsize := SetRecord.published_size context setId x y batch distinct
  have hnew := newLive_length_le y (batch.map Prod.fst)
  rw [List.length_map] at hnew
  rw [SetRecord.applyTransition_members moved] at hsize
  generalize (publishMembers context setId x y batch).2.1 = z at hhead hpolicy hsize committed
  have hpruned := committed_size base (z.recompute.advanced generation membershipGeneration) caller spec
  have hkept : (z.recompute.advanced generation membershipGeneration).members.size = z.members.size := rfl
  rw [committed]
  refine ⟨?_, ?_, ?_, ?_, ?_, by omega⟩
  · exact (SetRecord.committed_id _ _ _ _).trans hhead.id
  · exact (SetRecord.committed_key _ _ _ _).trans hhead.key
  · exact (SetRecord.committed_settings _ _ _ _).2.2.trans hpolicy
  · exact (committed_generations _ _ _ _).1
  · exact (committed_generations _ _ _ _).2

theorem publication_engine {op : Op} {batch : List (MemberRequest × Option PathAuthorityView)} {bulk : Bool}
    (publication : op.Publishes context setId batch bulk) (r y : SetRecord) (q : Request) (spec : CommitSpec)
    (outcome : FabricOutcome) {e' : FabricEngine}
    (committed : e' = (e.prepared r op).sealedCommit setId y q spec outcome) :
    Keeps e e' ∧ e'.sets[setId]? = some (y.committed (e.prepared r op) q.context spec) ∧
      e'.totalMembers ≤ e.totalMembers + batch.length ∧
      (∀ path ∉ batch.map fun request => request.1.pathId,
        (e'.dependents path).size ≤ (e.dependents path).size) ∧
      ∀ attempt, q.context.attempt ≠ attempt → e.attemptIndex[attempt]? = none → e'.attemptIndex[attempt]? = none := by
  have hkeeps := prepared_keeps e r op
  have hnew := newLive_length_le r (batch.map Prod.fst)
  rw [List.length_map] at hnew
  have htotal : (e.prepared r op).totalMembers ≤ e.totalMembers + batch.length := by
    cases publication with
    | one | many => exact Nat.add_le_add_left hnew _
  rw [committed]
  refine ⟨hkeeps.trans (sealedCommit_keeps _ _ _ _ _ _), ?_, ?_, fun path hpath => ?_, fun attempt hother hunused => ?_⟩
  · rw [sealedCommit_sets, getElem?_insert_eq, if_pos rfl]
  · rw [sealedCommit_totalMembers]
    omega
  · have hsubject : op.subject = some setId := by cases publication <;> rfl
    have hsame : (e.prepared r op).dependents path = e.dependents path := by
      have hdrops : op.drops r ≠ some path := by
        cases publication <;> exact (Option.some_ne_none path).symm
      have hadmits : path ∉ op.admits := by cases publication <;> exact hpath
      rw [prepared_dependents hsubject, if_neg hadmits, if_neg hdrops]
    rw [← hsame]
    exact sealedCommit_noMore _ _ _ _ _ _ path
  · have hlogs := congrArg Prod.snd (sealedCommit_logs hkeeps.limits (prepared_attemptLog e r op) setId y q spec outcome)
    change FabricEngine.attemptIndex _ = _ at hlogs
    rw [hlogs]
    exact BoundedLog.record_none hunused hother

theorem Admissible.later {requests : List MemberRequest} {e' : FabricEngine} {r' : SetRecord}
    (h : Admissible source setId e r (requests ++ rest)) (keeps : Keeps e e')
    (allowed : transitionAllowed r'.lifecycle .memberAdded = true)
    (policy : r'.conditionalAuthorityPermitted = r.conditionalAuthorityPermitted)
    (size : r'.members.size ≤ r.members.size + requests.length)
    (total : e'.totalMembers ≤ e.totalMembers + requests.length)
    (dependents : ∀ path ∉ requests.map MemberRequest.pathId, (e'.dependents path).size ≤ (e.dependents path).size) :
    Admissible source setId e' r' rest := by
  have hmembers := h.members
  have htotal := h.total
  have hdistinct := h.distinct
  rw [List.length_append] at hmembers htotal
  rw [List.map_append, List.nodup_append] at hdistinct
  constructor
  · exact h.named
  · exact allowed
  · exact hdistinct.2.1
  · exact fun request hrequest => h.wellFormed request (List.mem_append_right _ hrequest)
  · rw [policy]
    exact fun request hrequest => h.authorized request (List.mem_append_right _ hrequest)
  · rw [keeps.limits]
    omega
  · rw [keeps.limits]
    omega
  · intro request hrequest
    rw [keeps.limits]
    refine (dependents request.pathId fun hbefore => ?_).trans_lt
      (h.dependents request (List.mem_append_right _ hrequest))
    exact hdistinct.2.2 _ hbefore _ (List.mem_map_of_mem hrequest) rfl

theorem Callable.later {e' : FabricEngine} {r' : SetRecord} (h : Callable setId e r (call :: calls))
    (keeps : Keeps e e') (found : e.sets[setId]? = some r) (found' : e'.sets[setId]? = some r') (id : r'.id = r.id)
    (key : r'.key = r.key) (generation : r.generation.next = some r'.generation)
    (membership : r.membershipGeneration.next = some r'.membershipGeneration)
    (unused : ∀ attempt, call.context.attempt ≠ attempt → e.attemptIndex[attempt]? = none →
      e'.attemptIndex[attempt]? = none) : Callable setId e' r' calls := by
  have hgeneration := Generation.toNat_of_next generation
  have hmembership := Generation.toNat_of_next membership
  have hroom := h.generations
  have hlasts := h.membership
  have hattempts := h.attempts
  rw [List.length_cons] at hroom hlasts
  rw [List.map_cons, List.nodup_cons] at hattempts
  have hcovers : e'.coversSet setId = e.coversSet setId := by
    funext scope
    unfold coversSet
    rw [found, found']
    dsimp only
    rw [id, key]
  constructor
  · intro other hother
    rw [keeps.limits]
    exact h.sized other (List.mem_cons_of_mem _ hother)
  · intro other hother
    rw [← h.callers other (List.mem_cons_of_mem _ hother)]
    unfold callerFaults outOfScope
    rw [keeps.epoch, keeps.fences, keeps.registrations, hcovers]
  · intro other hother
    apply unused _ _ (h.unused other (List.mem_cons_of_mem _ hother))
    intro hsame
    apply hattempts.1
    rw [hsame]
    exact List.mem_map_of_mem hother
  · exact hattempts.2
  · intro i other hother expected hexpected
    have hvalue := h.expected (i + 1) other hother expected hexpected
    omega
  · omega
  · omega

theorem free_later {r' : SetRecord} {requests : List MemberRequest} (gathered : r₀.Gathers r shown)
    (gathers : r₀.Gathers r' (shown ++ requests)) (distinct : ((requests ++ rest).map MemberRequest.pathId).Nodup)
    (free : ∀ request ∈ requests ++ rest, r.members[request.pathId]? = none) :
    ∀ request ∈ rest, r'.members[request.pathId]? = none := by
  intro request hrequest
  rw [List.map_append, List.nodup_append] at distinct
  cases hm : r'.members[request.pathId]? with
  | none => rfl
  | some m =>
      exfalso
      obtain ⟨earlier, hearlier, hplace, -⟩ := gathers.members.member hm
      rcases List.mem_append.mp hearlier with hshown | hcalled
      · have hstanding := (gathered.members request.pathId earlier.projection).mpr ⟨earlier, hshown, hplace, rfl⟩
        rw [free request (List.mem_append_right _ hrequest)] at hstanding
        cases hstanding
      · exact distinct.2.2 _ (List.mem_map_of_mem hcalled) _ (List.mem_map_of_mem hrequest) hplace

theorem call_admits (found : e.sets[setId]? = some r) (gathered : r₀.Gathers r shown)
    (free : ∀ request ∈ call.requests ++ rest, r.members[request.pathId]? = none)
    (admissible : Admissible source setId e r (call.requests ++ rest)) (callable : Callable setId e r (call :: calls)) :
    (call.run source setId e).2.code = .memberAdded ∧
    ∃ r', (call.run source setId e).1.sets[setId]? = some r' ∧ r₀.Gathers r' (shown ++ call.requests) ∧
      (∀ request ∈ rest, r'.members[request.pathId]? = none) ∧
      Admissible source setId (call.run source setId e).1 r' rest ∧
      Callable setId (call.run source setId e).1 r' calls := by
  have hpublishes := call.publishes source setId
  have haccepted := call.accepted found free admissible callable
  rw [call.run_eq] at haccepted
  rw [call.run_eq]
  rcases publication_cases hpublishes with ⟨_, hrejected | hused⟩ |
    ⟨other, x, spec, outcome, generation, membershipGeneration, hfound, hnonempty, _, hsupported, hdistinct, hmoved,
      hgeneration, hmembership, hcode, hanswer⟩
  · rw [haccepted] at hrejected
    cases hrejected
  · exact absurd (callable.unused call List.mem_cons_self) hused
  · rw [found] at hfound
    cases hfound
    have hlooked := call.looked_requests source
    have hpaths : (call.looked source).map (fun request => request.1.pathId) =
        call.requests.map MemberRequest.pathId := by
      rw [← hlooked, List.map_map]
      rfl
    have hlength : (call.looked source).length = call.requests.length := by rw [← hlooked, List.length_map]
    have hnodup : ((call.looked source).map fun request => request.1.pathId).Nodup := by
      rw [hpaths]
      exact admissible.first.distinct
    obtain ⟨r', hr'⟩ : ∃ r', r' = ((publishMembers call.context setId e x (call.looked source)).2.1.recompute.advanced
      generation membershipGeneration).committed (e.prepared r (call.op source setId)) call.context spec := ⟨_, rfl⟩
    have hgathers : r₀.Gathers r' (shown ++ call.requests) := by
      rw [hr', ← hlooked]
      exact gathered.publish hnonempty hmoved hsupported hdistinct
    obtain ⟨hid, hkey, hpolicy, hset, hmembershipSet, hsize⟩ := publication_record hmoved hnodup hr'
    obtain ⟨hkeeps, hstored, htotal, hdependents, hunused⟩ :=
      publication_engine hpublishes r _ _ spec outcome (congrArg Prod.fst hanswer)
    rw [hpaths] at hdependents
    rw [hlength] at htotal hsize
    have hstored' : (e.addMembersLocked call.context setId (call.looked source) call.operation
        call.bulk).answer.1.sets[setId]? = some r' := by
      rw [hr']
      exact hstored
    refine ⟨(congrArg (fun answer => answer.2.code) hanswer).trans hcode, r', hstored', hgathers, ?_, ?_, ?_⟩
    · exact free_later gathered hgathers admissible.distinct free
    · exact admissible.later hkeeps (allowed_later gathered hgathers admissible.allowed) hpolicy hsize htotal hdependents
    · refine callable.later hkeeps found hstored' hid hkey ?_ ?_ hunused
      · rw [hset]
        exact hgeneration
      · rw [hmembershipSet]
        exact hmembership

theorem publishAll_admits (found : e.sets[setId]? = some r) (gathered : r₀.Gathers r shown)
    (free : ∀ request ∈ calls.flatMap PublicationCall.requests, r.members[request.pathId]? = none)
    (admissible : Admissible source setId e r (calls.flatMap PublicationCall.requests))
    (callable : Callable setId e r calls) :
    (publishAll source setId e calls).2 = List.replicate calls.length .memberAdded ∧
    ∃ r', (publishAll source setId e calls).1.sets[setId]? = some r' ∧
      r₀.Gathers r' (shown ++ calls.flatMap PublicationCall.requests) := by
  induction calls generalizing e r shown with
  | nil =>
      refine ⟨rfl, r, found, ?_⟩
      rw [List.flatMap_nil, List.append_nil]
      exact gathered
  | cons call rest ih =>
      rw [List.flatMap_cons] at free admissible
      obtain ⟨hcode, r', hstored, hgathers, hfree, hadmissible, hcallable⟩ :=
        call_admits found gathered free admissible callable
      obtain ⟨hcodes, last, hlast, hall⟩ := ih hstored hgathers hfree hadmissible hcallable
      refine ⟨?_, last, hlast, ?_⟩
      · rw [List.length_cons, List.replicate_succ, ← hcodes, ← hcode]
        rfl
      · rw [List.flatMap_cons, ← List.append_assoc]
        exact hall

theorem Admissible.perm {requests requests' : List MemberRequest} (h : Admissible source setId e r requests)
    (order : requests'.Perm requests) : Admissible source setId e r requests' := by
  have hlength := order.length_eq
  constructor
  · exact h.named
  · exact h.allowed
  · exact (order.map _).nodup_iff.mpr h.distinct
  · exact fun request hrequest => h.wellFormed request (order.mem_iff.mp hrequest)
  · exact fun request hrequest => h.authorized request (order.mem_iff.mp hrequest)
  · rw [hlength]
    exact h.members
  · rw [hlength]
    exact h.total
  · exact fun request hrequest => h.dependents request (order.mem_iff.mp hrequest)

end Calls

/-- A request that no publication to the set `r` accepts: it is malformed, Path Authority does not support it, or its
path has a live relation. -/
def Fails (source : PathId → Option PathAuthorityView) (r : SetRecord) (request : MemberRequest) : Prop :=
  request.pathId.valid = false ∨ request.authorityGeneration.valid = false ∨
    classifyPathAuthority (source request.pathId) request.authorityGeneration r.conditionalAuthorityPermitted ≠ .current ∨
    ∃ m, r.members[request.pathId]? = some m ∧ memberIsTerminal m = false

theorem batch_unchanged {requests : List MemberRequest} (found : e.sets[setId]? = some r)
    (fails : (e.addMembers source context setId requests).2.code ≠ .memberAdded ∨
      ¬(requests.map MemberRequest.pathId).Nodup ∨ ∃ request ∈ requests, Fails source r request) :
    (e.addMembers source context setId requests).1 = e := by
  have hlooked := PublicationCall.looked_requests source (.batch context requests)
  have hcall := PublicationCall.run_eq source setId (.batch context requests) e
  change e.addMembers source context setId requests = _ at hcall
  rw [hcall] at fails ⊢
  rcases publication_cases (PublicationCall.publishes source setId (.batch context requests)) with ⟨hsame, _⟩ |
    ⟨other, x, _, _, _, _, hfound, _, hvalid, hsupported, hdistinct, _, _, _, hadded, hanswer⟩
  · exact hsame
  · exfalso
    rw [found] at hfound
    cases hfound
    rw [hlooked] at hdistinct
    obtain ⟨hnodup, hfree⟩ := duplicateRequest_free hdistinct
    rcases fails with hcode | hrepeats | ⟨request, hrequest, hfails⟩
    · rw [hanswer] at hcode
      exact hcode hadded
    · exact hrepeats hnodup
    · have hmember : (request, source request.pathId) ∈ PublicationCall.looked source (.batch context requests) :=
        List.mem_map_of_mem hrequest
      obtain ⟨hpath, hgeneration⟩ := hvalid _ hmember
      rcases hfails with hmalformed | hmalformed | hstale | ⟨m, hm, hlive⟩
      · exact absurd (hpath.symm.trans hmalformed) (fun h => by cases h)
      · exact absurd (hgeneration.symm.trans hmalformed) (fun h => by cases h)
      · have hclassified := List.findSome?_eq_none_iff.mp hsupported _ hmember
        dsimp only at hclassified
        rw [if_neg hstale] at hclassified
        cases hclassified
      · have hended := (hfree request hrequest).2 m hm
        rw [hlive] at hended
        cases hended

/-- Every way to admit the requests is accepted and ends in the same membership, which lists them, and a batch of which
a request fails admits none. -/
theorem publication_order {requests : List MemberRequest} {calls calls' : List PublicationCall}
    (found : e.sets[setId]? = some r) (empty : r.members = ∅) (admissible : Admissible source setId e r requests)
    (all : (calls.flatMap PublicationCall.requests).Perm requests) (callable : Callable setId e r calls)
    (all' : (calls'.flatMap PublicationCall.requests).Perm requests) (callable' : Callable setId e r calls') :
    ((publishAll source setId e calls).2 = List.replicate calls.length .memberAdded ∧
      (publishAll source setId e calls').2 = List.replicate calls'.length .memberAdded ∧
      ∃ r₁ r₂, (publishAll source setId e calls).1.sets[setId]? = some r₁ ∧
        (publishAll source setId e calls').1.sets[setId]? = some r₂ ∧ r₁.Lists requests ∧ r₁.Agrees r₂) ∧
    ∀ (e : FabricEngine) (r : SetRecord) (context : MutationContext) (batch : List MemberRequest),
      e.sets[setId]? = some r →
      (e.addMembers source context setId batch).2.code ≠ .memberAdded ∨ ¬(batch.map MemberRequest.pathId).Nodup ∨
        (∃ request ∈ batch, Fails source r request) →
      (e.addMembers source context setId batch).1 = e := by
  refine ⟨?_, fun e r context batch hfound hfails => batch_unchanged hfound hfails⟩
  have hfree : ∀ path : PathId, r.members[path]? = none := by
    intro path
    rw [empty]
    rfl
  obtain ⟨hcodes, r₁, hstored, hgathers⟩ := publishAll_admits found (.start empty) (fun request _ => hfree request.pathId)
    (admissible.perm all) callable
  obtain ⟨hcodes', r₂, hstored', hgathers'⟩ := publishAll_admits found (.start empty)
    (fun request _ => hfree request.pathId) (admissible.perm all') callable'
  rw [List.nil_append] at hgathers hgathers'
  exact ⟨hcodes, hcodes', r₁, r₂, hstored, hstored', (hgathers.members.perm all).lists admissible.distinct,
    hgathers.agrees hgathers' (all.trans all'.symm)⟩

def sampleSource (path : PathId) : Option PathAuthorityView := some ⟨path, .first, .authorized⟩

def sampleOther : MemberRequest := ⟨sampleId "pathB", .first⟩

def emptySetRun : FabricEngine :=
  sampleRun [.registerPublisher (sampleId "pub") (sampleId "boot") sampleScope (sampleId "sess"),
    .createSet (sampleContext "a1") (sampleKey "set") ⟨1, true, false⟩, .publishSet (sampleContext "a2") sampleSet]

def oneByOne : List PublicationCall :=
  [.member (sampleContext "a3") sampleRequest, .member (sampleContext "a4") sampleOther]

def inOneBatch : List PublicationCall := [.batch (sampleContext "a3") [sampleOther, sampleRequest]]

theorem callable_sample {calls : List PublicationCall} (found : emptySetRun.sets[sampleSet]? = some r)
    (silent : ∀ call ∈ calls, call.context.expectedSetGeneration = none)
    (sized : ∀ call ∈ calls, call.sized emptySetRun.limits)
    (callers : ∀ call ∈ calls, emptySetRun.callerFaults call.context (emptySetRun.coversSet sampleSet) = [])
    (unused : ∀ call ∈ calls, emptySetRun.attemptIndex[call.context.attempt]? = none)
    (attempts : (calls.map fun call => call.context.attempt).Nodup) (few : calls.length < 2 ^ 63) :
    Callable sampleSet emptySetRun r calls := by
  have hstanding : (emptySetRun.sets[sampleSet]?.map fun r =>
      (decide (r.generation.value.toNat < 8), decide (r.membershipGeneration.value.toNat < 8))) = some (true, true) := by
    decide +kernel
  rw [found, Option.map_some, Option.some_inj, Prod.mk.injEq, decide_eq_true_eq, decide_eq_true_eq] at hstanding
  refine ⟨sized, callers, unused, attempts, ?_, by omega, by omega⟩
  intro i call hcall expected hexpected
  rw [silent call (List.mem_of_getElem? hcall)] at hexpected
  cases hexpected

theorem publication_order_sample :
    (publishAll sampleSource sampleSet emptySetRun oneByOne).2 = [.memberAdded, .memberAdded] ∧
    (publishAll sampleSource sampleSet emptySetRun inOneBatch).2 = [.memberAdded] ∧
    ∃ r₁ r₂, (publishAll sampleSource sampleSet emptySetRun oneByOne).1.sets[sampleSet]? = some r₁ ∧
      (publishAll sampleSource sampleSet emptySetRun inOneBatch).1.sets[sampleSet]? = some r₂ ∧
      r₁.Lists [sampleRequest, sampleOther] ∧ r₁.Agrees r₂ := by
  have hstanding : (emptySetRun.sets[sampleSet]?.map fun r =>
      (r.members.isEmpty, r.members.size, r.lifecycle, r.conditionalAuthorityPermitted)) =
      some (true, 0, .exhausted, false) := by decide +kernel
  obtain ⟨r, hr, hfields⟩ := Option.map_eq_some_iff.mp hstanding
  simp only [Prod.mk.injEq] at hfields
  obtain ⟨hempty, hsize, hlifecycle, hpolicy⟩ := hfields
  have hadmissible : Admissible sampleSource sampleSet emptySetRun r [sampleRequest, sampleOther] := by
    refine ⟨by decide +kernel, ?_, by decide +kernel, by decide +kernel, ?_, ?_, by decide +kernel, by decide +kernel⟩
    · rw [hlifecycle]
      rfl
    · rw [hpolicy]
      decide +kernel
    · rw [hsize]
      decide +kernel
  have hone : Callable sampleSet emptySetRun r oneByOne := by apply callable_sample hr <;> decide +kernel
  have hall : Callable sampleSet emptySetRun r inOneBatch := by apply callable_sample hr <;> decide +kernel
  have hswapped : (inOneBatch.flatMap PublicationCall.requests).Perm [sampleRequest, sampleOther] :=
    List.Perm.swap sampleRequest sampleOther []
  exact (publication_order hr (Std.ExtTreeMap.isEmpty_iff.mp hempty) hadmissible (.refl _) hone hswapped hall).1

end FabricEngine

end MultipathFabric
