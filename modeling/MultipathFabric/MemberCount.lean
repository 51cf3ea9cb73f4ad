import MultipathFabric.PathIndex
import MultipathFabric.StoredSets

namespace MultipathFabric

open OrderedMap

namespace MemberRecord

theorem memberTransition_terminal {source target : MemberLifecycle} {event : MemberEvent} {m m' : MemberRecord}
    (h : memberTransition source event = some target) (hsource : m.lifecycle = source) (htarget : m'.lifecycle = target)
    (terminal : memberIsTerminal m = true) : memberIsTerminal m' = true := by
  unfold memberIsTerminal at terminal ⊢
  rw [hsource] at terminal
  rw [htarget]
  cases source <;> cases event <;> cases h <;> first | rfl | cases terminal

theorem applyEvent_terminal {m : MemberRecord} (event : MemberEvent) (h : memberIsTerminal m = true) :
    memberIsTerminal (m.applyEvent event) = true := by
  unfold applyEvent
  split
  · exact h
  · rename_i next hnext
    split <;> exact memberTransition_terminal hnext rfl rfl h

theorem evaluate_ends {m : MemberRecord} (permitted : Bool) (view : Option PathAuthorityView) (explicit : Bool)
    (h : memberIsTerminal m = true) : memberIsTerminal (m.evaluate permitted view explicit) = true := by
  unfold evaluate
  rw [if_pos h]
  exact h

theorem memberTransition_evaluation {source target : MemberLifecycle} {observed : MemberCurrentness} {explicit : Bool}
    {m m' : MemberRecord} (h : memberTransition source (evaluationEvent observed explicit) = some target)
    (hsource : m.lifecycle = source) (htarget : m'.lifecycle = target) (live : memberIsTerminal m = false) :
    memberIsTerminal m' = false := by
  unfold memberIsTerminal at live ⊢
  rw [hsource] at live
  rw [htarget]
  unfold evaluationEvent at h
  cases source
  case withdrawn | superseded | retired => cases live
  all_goals
    split at h
    · split at h <;> cases h <;> rfl
    · split at h
      · split at h <;> cases h <;> rfl
      · cases h
        rfl

theorem evaluate_live {m : MemberRecord} (permitted : Bool) (view : Option PathAuthorityView) (explicit : Bool)
    (h : memberIsTerminal m = false) : memberIsTerminal (m.evaluate permitted view explicit) = false := by
  have hnot : ¬memberIsTerminal m = true := by
    rw [h]
    exact Bool.false_ne_true
  unfold evaluate
  rw [if_neg hnot]
  dsimp only
  unfold applyEvent
  split
  · split <;> exact h
  · rename_i next hnext
    split at hnext <;> split <;> exact memberTransition_evaluation hnext rfl rfl h

end MemberRecord

namespace SetRecord

def LiveFrom (r x : SetRecord) : Prop :=
  ∀ (path : PathId) (m' : MemberRecord), x.members[path]? = some m' → memberIsTerminal m' = false →
    ∃ m, r.members[path]? = some m ∧ memberIsTerminal m = false

theorem LiveFrom.le {r x : SetRecord} (h : LiveFrom r x) : liveMemberCount x ≤ liveMemberCount r := by
  apply count_le_count
  intro path m' hm' hlive
  rw [Bool.not_eq_true'] at hlive
  obtain ⟨m, hm, hm_live⟩ := h path m' hm' hlive
  refine ⟨m, hm, ?_⟩
  rw [hm_live]
  rfl

theorem LiveFrom.trans {a b c : SetRecord} (h : LiveFrom a b) (h' : LiveFrom b c) : LiveFrom a c := by
  intro path m hm hlive
  obtain ⟨m', hm', hlive'⟩ := h' path m hm hlive
  exact h path m' hm' hlive'

theorem LiveFrom.of_eq {r x : SetRecord} (h : x.members = r.members) : LiveFrom r x := by
  intro path m hm hlive
  rw [h] at hm
  exact ⟨m, hm, hlive⟩

theorem LiveFrom.mapped {r x : SetRecord} {f : MemberRecord → MemberRecord}
    (h : x.members = r.members.map fun _ m => f m)
    (ends : ∀ m, memberIsTerminal m = true → memberIsTerminal (f m) = true) : LiveFrom r x := by
  intro path m' hm' hlive
  rw [h] at hm'
  obtain ⟨m, hm, rfl⟩ := member_map hm'
  refine ⟨m, hm, ?_⟩
  by_contra hterminal
  rw [Bool.not_eq_false] at hterminal
  rw [ends m hterminal] at hlive
  cases hlive

theorem LiveFrom.withMember {r : SetRecord} {path : PathId} {m m' : MemberRecord} (found : r.members[path]? = some m)
    (ends : memberIsTerminal m = true → memberIsTerminal m' = true) : LiveFrom r (r.withMember path m') := by
  intro other found' hfound' hlive
  rcases member_insert hfound' with ⟨rfl, rfl⟩ | ⟨_, hold⟩
  · refine ⟨m, found, ?_⟩
    by_contra hterminal
    rw [Bool.not_eq_false] at hterminal
    rw [ends hterminal] at hlive
    cases hlive
  · exact ⟨found', hold, hlive⟩

theorem LiveFrom.transition {r x : SetRecord} {event : SetEvent} (h : r.applyTransition event = .ok x) :
    LiveFrom r x := .of_eq (applyTransition_members h)

theorem LiveFrom.bumped (r : SetRecord) : LiveFrom r r.bumpWatermark := .mapped rfl fun _ h => h

theorem markSetNotUsable_terminal {m : MemberRecord} (h : memberIsTerminal m = true) :
    memberIsTerminal (markSetNotUsable m) = true := by
  unfold markSetNotUsable
  split <;> exact h

theorem LiveFrom.consequences (e : FabricEngine) (r : SetRecord) (source target : SetLifecycle)
    (context : Option MutationContext) : LiveFrom r (applyMemberConsequences e r source target context) := by
  have hevent : ∀ event, LiveFrom r (applyMemberEvent r event) := by
    intro event
    have happlied : LiveFrom r { r with members := r.members.map fun _ m => m.applyEvent event } :=
      .mapped rfl fun _ h => MemberRecord.applyEvent_terminal event h
    exact (happlied.trans (.bumped _)).trans (.of_eq rfl)
  unfold applyMemberConsequences
  split
  · exact .of_eq rfl
  · split
    · cases target with
      | withdrawing | withdrawn | superseded | retired => exact hevent _
      | revoked =>
          have hmarked : LiveFrom r { r with members := r.members.map fun _ m => markSetNotUsable m } :=
            .mapped rfl fun _ h => markSetNotUsable_terminal h
          exact (hmarked.trans (.bumped _)).trans (.of_eq rfl)
      | _ => exact .of_eq rfl
    · exact .of_eq rfl

end SetRecord

open SetRecord

namespace MemberRecord

theorem rebound_ends {m : MemberRecord} (permitted : Bool) (view : Option PathAuthorityView)
    (h : memberIsTerminal m = true) : memberIsTerminal (m.rebound permitted view) = true := by
  unfold rebound
  exact evaluate_ends _ _ _ h

theorem revalidated_ends {m : MemberRecord} (permitted : Bool) (view : Option PathAuthorityView)
    (h : memberIsTerminal m = true) : memberIsTerminal (m.revalidated permitted view) = true := by
  unfold revalidated
  dsimp only
  split <;> exact rebound_ends permitted view h

theorem release_ends {m : MemberRecord} (h : memberIsTerminal m = true) : memberIsTerminal m.release = true := h

end MemberRecord

theorem RecordEdit.liveFrom {e : FabricEngine} {setId : MultipathSetId} {r x : SetRecord} {op : Op} {summary : Bytes}
    (edit : RecordEdit e setId r op x summary) (shape : op.admits = []) : r.LiveFrom x := by
  cases edit with
  | collided | supersedes | supersedesRecorded => exact .of_eq rfl
  | publish _ moved | minimumChecked _ _ moved | policyChecked _ _ moved | adminChecked _ _ moved
  | completeWithdrawal _ moved => exact .transition moved
  | minimumChanged _ _ moved | adminChanged _ _ moved => exact .trans (.transition moved) (.of_eq rfl)
  | policyChanged _ _ moved =>
      apply (LiveFrom.transition moved).trans
      apply LiveFrom.mapped rfl
      intro m h
      rw [if_pos h]
      exact h
  | withdraw _ _ _ moved | revoke _ _ _ _ _ moved | retire _ _ _ moved | superseded _ _ _ moved =>
      refine .trans (.transition moved) (.trans ?_ (.consequences _ _ _ _ _))
      exact .of_eq rfl
  | added _ publication _ _ _ _ moved =>
      cases publication with
      | one => cases shape
      | many requests =>
          rw [Op.admits, List.map_eq_nil_iff] at shape
          subst shape
          exact .trans (.transition moved) (.of_eq rfl)
  | removed _ _ _ _ _ _ moved =>
      intro path m hm hlive
      have hold := member_erase hm
      rw [applyTransition_members moved] at hold
      exact ⟨m, hold.2, hlive⟩
  | withdrewMember _ _ _ _ found _ ends moved =>
      have hfound := found.2
      rw [← applyTransition_members moved] at hfound
      refine .trans (.transition moved) (.trans (.withMember hfound fun h => ?_) (.of_eq rfl))
      exact MemberRecord.memberTransition_terminal ends rfl rfl h
  | replaced => cases shape
  | toggled _ _ _ _ found live =>
      exact .trans (.withMember found.2 fun h => by rw [live] at h; cases h) (.of_eq rfl)
  | revalidatedSet =>
      apply LiveFrom.mapped rfl
      intro m h
      unfold SetRecord.revalidateMember
      rw [if_pos h]
      exact h
  | revalidatedMember _ _ _ found =>
      exact .trans (.withMember found.2 (MemberRecord.revalidated_ends _ _)) (.of_eq rfl)
  | begun _ _ _ found => exact .withMember found.2 id
  | released _ _ _ _ found => exact .withMember found.2 id
  | completed _ _ _ _ found =>
      refine .trans (.withMember found.2 fun h => ?_) (.of_eq rfl)
      exact MemberRecord.release_ends (MemberRecord.revalidated_ends _ _ h)
  | abandoned _ _ found => exact .withMember found.2 id
  | observed _ _ found => exact .withMember found (MemberRecord.evaluate_ends _ _ _)
  | invalidated _ _ found =>
      apply LiveFrom.trans (.withMember found (MemberRecord.evaluate_ends _ _ _))
      exact .of_eq (dependencyInvalidated_fields _ _ _ _ _ _).2.1

namespace SetRecord

def Unoccupied (r : SetRecord) (path : PathId) : Prop :=
  ∀ m : MemberRecord, r.members[path]? = some m → memberIsTerminal m = true

theorem live_insert {r x : SetRecord} {path : PathId} {m : MemberRecord} (h : x.members = r.members.insert path m) :
    liveMemberCount x + (if (r.members[path]?.filter fun m => !memberIsTerminal m).isSome then 1 else 0) =
      liveMemberCount r + (if memberIsTerminal m then 0 else 1) := by
  have hcount := count_insert (fun m => !memberIsTerminal m) r.members path m
  rw [← h] at hcount
  refine hcount.trans ?_
  cases memberIsTerminal m <;> rfl

theorem live_admitted {r x : SetRecord} {path : PathId} {m : MemberRecord} (h : x.members = r.members.insert path m)
    (free : r.Unoccupied path) (live : memberIsTerminal m = false) : liveMemberCount x = liveMemberCount r + 1 := by
  have hcount := live_insert h
  have hfree : (r.members[path]?.filter fun m => !memberIsTerminal m) = none := by
    rw [Option.filter_eq_none_iff]
    intro m hm
    simp [free m hm]
  rw [hfree, live] at hcount
  simpa using hcount

theorem live_ended {r x : SetRecord} {path : PathId} {m m' : MemberRecord} (h : x.members = r.members.insert path m')
    (found : r.members[path]? = some m) (ends : memberIsTerminal m' = true) :
    liveMemberCount x + (if memberIsTerminal m then 0 else 1) = liveMemberCount r := by
  have hcount := live_insert h
  rw [found, ends] at hcount
  cases hm : memberIsTerminal m <;> simpa [Option.filter, hm] using hcount

theorem newMember_live (e : FabricEngine) (context : MutationContext) (r : SetRecord) (cause : MembershipCause)
    (request : MemberRequest) (view : Option PathAuthorityView) (predecessor : Option MultipathMemberId) :
    memberIsTerminal (e.newMember context r cause request view predecessor) = false := by
  unfold FabricEngine.newMember
  exact MemberRecord.evaluate_live _ _ _ rfl

theorem installMember_members (r : SetRecord) (m : MemberRecord) :
    (r.installMember m).members = r.members.insert m.pathId m := rfl

theorem Unoccupied.installMember {r : SetRecord} {path : PathId} {m : MemberRecord} (h : r.Unoccupied path)
    (other : m.pathId ≠ path) : (r.installMember m).Unoccupied path := by
  intro found hfound
  rw [installMember_members, getElem?_insert_eq, if_neg other] at hfound
  exact h found hfound

theorem distinctRequests {r : SetRecord} {setId : MultipathSetId} {requests : List MemberRequest} {seen : List PathId}
    (h : duplicateRequest r setId seen requests = none) :
    (requests.map MemberRequest.pathId).Nodup ∧
      ∀ request ∈ requests, request.pathId ∉ seen ∧ r.Unoccupied request.pathId := by
  induction requests generalizing seen with
  | nil => simp
  | cons request rest ih =>
      unfold duplicateRequest at h
      split at h
      · cases h
      · rename_i hseen
        rw [List.contains_iff_mem] at hseen
        have hrest : duplicateRequest r setId (seen ++ [request.pathId]) rest = none ∧ r.Unoccupied request.pathId := by
          split at h
          · rename_i hnone
            refine ⟨h, fun m hm => ?_⟩
            rw [hnone] at hm
            cases hm
          · rename_i existing hfound
            split at h
            · rename_i hterminal
              refine ⟨h, fun m hm => ?_⟩
              rw [hfound] at hm
              cases hm
              exact hterminal
            · cases h
        obtain ⟨hnodup, hall⟩ := ih hrest.1
        constructor
        · rw [List.map_cons, List.nodup_cons]
          refine ⟨fun hmem => ?_, hnodup⟩
          obtain ⟨other, hother, hpath⟩ := List.mem_map.mp hmem
          apply (hall other hother).1
          simp [hpath]
        · rintro other hother
          rcases List.mem_cons.mp hother with rfl | hother
          · exact ⟨hseen, hrest.2⟩
          · obtain ⟨hnew, hfree⟩ := hall other hother
            exact ⟨fun hmem => hnew (List.mem_append_left _ hmem), hfree⟩

theorem published_live (context : MutationContext) (setId : MultipathSetId) (e : FabricEngine) (r : SetRecord)
    (requests : List (MemberRequest × Option PathAuthorityView))
    (distinct : (requests.map fun request => request.1.pathId).Nodup)
    (free : ∀ request ∈ requests, r.Unoccupied request.1.pathId) :
    liveMemberCount (FabricEngine.publishMembers context setId e r requests).2.1 =
      liveMemberCount r + requests.length := by
  induction requests generalizing e r with
  | nil => rfl
  | cons request rest ih =>
      rw [List.map_cons, List.nodup_cons] at distinct
      obtain ⟨m, hm⟩ : ∃ m, m = e.newMember context r .memberAdded request.1 request.2
          (r.members[request.1.pathId]?.map MemberRecord.id) := ⟨_, rfl⟩
      have hpath : m.pathId = request.1.pathId := by
        rw [hm]
        exact newMember_pathId _ _ _ _ _ _ _
      have hlive : memberIsTerminal m = false := by
        rw [hm]
        exact newMember_live _ _ _ _ _ _ _
      have hinstalled : liveMemberCount (r.installMember m) = liveMemberCount r + 1 := by
        refine live_admitted (installMember_members r m) ?_ hlive
        rw [hpath]
        exact free request List.mem_cons_self
      unfold FabricEngine.publishMembers
      dsimp only
      rw [← hm, ih _ _ distinct.2, hinstalled, List.length_cons]
      · omega
      · intro other hother
        refine (free other (List.mem_cons_of_mem _ hother)).installMember fun heq => ?_
        apply distinct.1
        rw [← hpath, heq]
        exact List.mem_map.mpr ⟨other, hother, rfl⟩

theorem published_size (context : MutationContext) (setId : MultipathSetId) (e : FabricEngine) (r : SetRecord)
    (requests : List (MemberRequest × Option PathAuthorityView))
    (distinct : (requests.map fun request => request.1.pathId).Nodup) :
    (FabricEngine.publishMembers context setId e r requests).2.1.members.size =
      r.members.size + (newLive r (requests.map Prod.fst)).length := by
  induction requests generalizing e r with
  | nil => rfl
  | cons request rest ih =>
      rw [List.map_cons, List.nodup_cons] at distinct
      obtain ⟨m, hm⟩ : ∃ m, m = e.newMember context r .memberAdded request.1 request.2
          (r.members[request.1.pathId]?.map MemberRecord.id) := ⟨_, rfl⟩
      have hpath : m.pathId = request.1.pathId := by
        rw [hm]
        exact newMember_pathId _ _ _ _ _ _ _
      have hothers : newLive (r.installMember m) (rest.map Prod.fst) = newLive r (rest.map Prod.fst) := by
        apply List.filter_congr
        intro other hother
        obtain ⟨entry, hentry, rfl⟩ := List.mem_map.mp hother
        rw [installMember_members, getElem?_insert_eq, if_neg]
        intro heq
        apply distinct.1
        rw [← hpath, heq]
        exact List.mem_map.mpr ⟨entry, hentry, rfl⟩
      unfold FabricEngine.publishMembers
      dsimp only
      rw [← hm, ih _ _ distinct.2, hothers, installMember_members, Std.ExtTreeMap.size_insert, hpath,
        Std.ExtTreeMap.contains_eq_isSome_getElem?, List.map_cons]
      unfold newLive
      cases hfound : r.members[request.1.pathId]? with
      | none =>
          rw [List.filter_cons_of_pos (by simp [hfound]), List.length_cons]
          simp
          omega
      | some existing =>
          rw [List.filter_cons_of_neg (by simp [hfound])]
          simp

end SetRecord

def Op.requests : Op → List MemberRequest
  | .addMember _ _ request _ => [request]
  | .addMembers _ _ requests => requests.map Prod.fst
  | _ => []

def Op.overwrites (r : SetRecord) : Op → Prop
  | .replaceMember _ _ _ request _ _ => request.pathId ∈ r.members
  | _ => False

namespace RecordEdit

variable {e : FabricEngine} {setId : MultipathSetId} {r x : SetRecord} {op : Op} {summary : Bytes}

theorem live (edit : RecordEdit e setId r op x summary) :
    liveMemberCount x ≤ liveMemberCount r ∨
      (duplicateRequest r setId [] op.requests = none ∧
        liveMemberCount x = liveMemberCount r + op.requests.length) ∨
      ∃ context memberId request reason view path m, op = .replaceMember context setId memberId request reason view ∧
        r.finds memberId path m ∧
        liveMemberCount x + (if memberIsTerminal m then 0 else 1) = liveMemberCount r + 1 := by
  by_cases shape : op.admits = []
  · exact .inl (edit.liveFrom shape).le
  cases edit with
  | @added context _ requests _ y publication _ _ _ distinct moved =>
      have hrequests : op.requests = requests.map Prod.fst := by cases publication <;> rfl
      obtain ⟨hnodup, hfree⟩ := distinctRequests distinct
      rw [List.map_map] at hnodup
      have hmembers := applyTransition_members moved
      have hpublished := published_live context setId e y requests hnodup fun request hrequest => by
        intro m hm
        rw [hmembers] at hm
        exact (hfree request.1 (List.mem_map.mpr ⟨request, hrequest, rfl⟩)).2 m hm
      have hmoved : liveMemberCount y = liveMemberCount r := by
        unfold liveMemberCount
        rw [hmembers]
      refine .inr (.inl ⟨by rw [hrequests]; exact distinct, ?_⟩)
      rw [hrequests, List.length_map, ← hmoved]
      exact hpublished
  | @replaced context memberId request reason view path m y known valid bound found other _ _ free moved =>
      have hmembers := applyTransition_members moved
      have hfound : y.members[path]? = some m := by
        rw [hmembers]
        exact found.2
      have hsuccessor : (e.newMember context y .memberReplaced request view (some memberId)).pathId = request.pathId :=
        newMember_pathId _ _ _ _ _ _ _
      obtain ⟨superseded, hsuperseded⟩ : ∃ superseded : MemberRecord, superseded =
          { m.terminate .superseded with
            successor := some (e.newMember context y .memberReplaced request view (some memberId)).id } := ⟨_, rfl⟩
      have hends : memberIsTerminal superseded = true := by rw [hsuperseded]; rfl
      have hended := live_ended (x := y.withMember path superseded) rfl hfound hends
      have hfree : (y.withMember path superseded).Unoccupied
          (e.newMember context y .memberReplaced request view (some memberId)).pathId := by
        rw [hsuccessor]
        intro existing hexisting
        rcases member_insert hexisting with ⟨heq, _⟩ | ⟨_, hold⟩
        · exact absurd heq other
        · rw [hmembers] at hold
          rw [Option.filter_eq_none_iff] at free
          have hlive := free existing hold
          simpa using hlive
      have hadmitted := live_admitted (installMember_members (y.withMember path superseded) _) hfree
        (newMember_live e context y .memberReplaced request view (some memberId))
      refine .inr (.inr ⟨context, memberId, request, reason, view, path, m, rfl, found, ?_⟩)
      have hmoved : liveMemberCount y = liveMemberCount r := by
        unfold liveMemberCount
        rw [hmembers]
      have hreplaced : liveMemberCount (y.replaced e context memberId path m request view) =
          liveMemberCount (y.withMember path superseded) + 1 := by
        rw [← hadmitted, hsuperseded]
        rfl
      rw [hreplaced]
      omega
  | observed applied | invalidated applied => cases applied <;> exact absurd rfl shape
  | _ => exact absurd rfl shape

theorem balance (edit : RecordEdit e setId r op x summary) (counted : r.members.size ≤ e.totalMembers) :
    x.members.size + e.totalMembers ≤ r.members.size + (e.prepared r op).totalMembers ∧
      (¬op.overwrites r →
        x.members.size + e.totalMembers = r.members.size + (e.prepared r op).totalMembers) := by
  by_cases shape : op.reshapes = false
  · have hprepared : e.prepared r op = e := by cases op <;> first | rfl | cases shape
    rw [edit.size shape, hprepared]
    exact ⟨Nat.le_refl _, fun _ => rfl⟩
  cases edit with
  | @added context _ requests _ y publication _ _ _ distinct moved =>
      obtain ⟨hnodup, _⟩ := distinctRequests distinct
      rw [List.map_map] at hnodup
      have hpublished := published_size context setId e y requests hnodup
      have htotal : (e.prepared r op).totalMembers = e.totalMembers + (newLive r (requests.map Prod.fst)).length := by
        cases publication <;> rfl
      have hsame : newLive y (requests.map Prod.fst) = newLive r (requests.map Prod.fst) := by
        unfold newLive
        rw [applyTransition_members moved]
      rw [hsame, applyTransition_members moved] at hpublished
      have hequal : (FabricEngine.publishMembers context setId e y requests).2.1.members.size + e.totalMembers =
          r.members.size + (e.prepared r op).totalMembers := by omega
      exact ⟨Nat.le_of_eq hequal, fun _ => hequal⟩
  | @removed context memberId reason path m y _ found _ moved =>
      have hmembers := applyTransition_members moved
      have hpresent : r.members.contains path = true := by
        rw [Std.ExtTreeMap.contains_eq_isSome_getElem?, found.2]
        rfl
      have hpositive : 0 < r.members.size := size_pos_of_getElem? found.2
      have hsize : (y.members.erase path).size = r.members.size - 1 := by
        rw [hmembers, Std.ExtTreeMap.size_erase, if_pos hpresent]
      have htotal : (e.prepared r (.removeMember context setId memberId reason)).totalMembers = e.totalMembers - 1 := by
        unfold FabricEngine.prepared
        dsimp only
        rw [found.1]
      have hequal : (y.members.erase path).size + e.totalMembers = r.members.size +
          (e.prepared r (.removeMember context setId memberId reason)).totalMembers := by omega
      exact ⟨Nat.le_of_eq hequal, fun _ => hequal⟩
  | @replaced context memberId request reason view path m y known valid bound found other _ _ free moved =>
      have hmembers := applyTransition_members moved
      have hfound : y.members[path]? = some m := by
        rw [hmembers]
        exact found.2
      obtain ⟨base, hbase⟩ : ∃ base, base = y.withMember path
          { m.terminate .superseded with
            successor := some (e.newMember context y .memberReplaced request view (some memberId)).id } := ⟨_, rfl⟩
      have hsize : base.members.size = r.members.size := by
        rw [hbase, withMember_size hfound, hmembers]
      have hmem : base.members.contains request.pathId = true ↔ request.pathId ∈ r.members := by
        rw [Std.ExtTreeMap.contains_iff_mem, hbase, SamePaths.withMember hfound, hmembers]
      have hreplaced : (y.replaced e context memberId path m request view).members.size =
          (base.members.insert request.pathId (e.newMember context y .memberReplaced request view (some memberId))).size := by
        rw [hbase, ← newMember_pathId e context y .memberReplaced request view (some memberId)]
        rfl
      have htotal : (e.prepared r (.replaceMember context setId memberId request reason view)).totalMembers =
          e.totalMembers + 1 := rfl
      rw [hreplaced, Std.ExtTreeMap.size_insert, htotal]
      constructor
      · split <;> omega
      · intro hnew
        rw [if_neg fun h => hnew (hmem.mp h)]
        omega
  | observed applied | invalidated applied => cases applied <;> exact absurd rfl shape
  | _ => exact absurd rfl shape

end RecordEdit

end MultipathFabric
