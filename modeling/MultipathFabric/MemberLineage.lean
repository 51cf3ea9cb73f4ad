import MultipathFabric.Tickets

/-!
The lineage of members: which relation has taken the place of which, over runs with replacement, admission at the path of
an ended relation, removal and pruning.
-/

namespace MultipathFabric

open OrderedMap MemberRecord FabricEngine

def MemberRecord.kin (m : MemberRecord) : MultipathMemberId × Option MultipathMemberId × Option MultipathMemberId :=
  (m.id, m.predecessor, m.successor)

namespace MemberRecord

variable {m m' : MemberRecord}

theorem kin_id (h : m'.kin = m.kin) : m'.id = m.id := congrArg Prod.fst h

theorem kin_predecessor (h : m'.kin = m.kin) : m'.predecessor = m.predecessor :=
  congrArg (fun kin => kin.2.1) h

theorem kin_successor (h : m'.kin = m.kin) : m'.successor = m.successor :=
  congrArg (fun kin => kin.2.2) h

theorem applyEvent_kin (m : MemberRecord) (event : MemberEvent) : (m.applyEvent event).kin = m.kin := by
  unfold applyEvent
  split
  · rfl
  · split <;> rfl

theorem evaluate_kin (m : MemberRecord) (permitted : Bool) (view : Option PathAuthorityView) (explicit : Bool) :
    (m.evaluate permitted view explicit).kin = m.kin := by
  unfold evaluate
  split
  · rfl
  · rw [applyEvent_kin]
    dsimp only
    split <;> rfl

theorem revalidated_kin (m : MemberRecord) (permitted : Bool) (view : Option PathAuthorityView) :
    (m.revalidated permitted view).kin = m.kin := by
  have hrebound : (m.rebound permitted view).kin = m.kin := evaluate_kin _ _ _ _
  unfold revalidated
  dsimp only
  split <;> exact hrebound

end MemberRecord

structure SetRecord.Lineal (once : Prop) (f : IdFactory) (r : SetRecord) : Prop where
  minted : r.Minted f
  named : ∀ (path : PathId) (m : MemberRecord) (id : MultipathMemberId), r.members[path]? = some m →
    m.predecessor = some id ∨ m.successor = some id → ¬f.Awaits .mem id.view
  forward : ∀ (p q : PathId) (m s : MemberRecord), r.members[p]? = some m → r.members[q]? = some s →
    m.successor = some s.id → s.predecessor = some m.id
  backward : once → ∀ (p q : PathId) (m s : MemberRecord), r.members[p]? = some m → r.members[q]? = some s →
    s.predecessor = some m.id → m.successor = some s.id

namespace SetRecord

variable {once : Prop} {f : IdFactory} {r x : SetRecord} {k : ℕ}

theorem Lineal.skip (h : r.Lineal once f) (lasts : f.Lasts k) : r.Lineal once (f.skip k) where
  minted := h.minted.skip lasts
  named path m id hm hnames hawaits := h.named path m id hm hnames (hawaits.of_skip lasts)
  forward := h.forward
  backward := h.backward

theorem Lineal.congr (h : r.Lineal once f) (minted : x.Minted f)
    (known : ∀ (path : PathId) (m' : MemberRecord), x.members[path]? = some m' →
      ∃ m, r.members[path]? = some m ∧ m'.kin = m.kin) : x.Lineal once f := by
  constructor
  · exact minted
  · intro path m' id hm' hnames
    obtain ⟨m, hm, hkin⟩ := known path m' hm'
    rw [kin_predecessor hkin, kin_successor hkin] at hnames
    exact h.named path m id hm hnames
  · intro p q m' s' hm' hs' hsuccessor
    obtain ⟨m, hm, hkin⟩ := known p m' hm'
    obtain ⟨s, hs, hkin'⟩ := known q s' hs'
    rw [kin_successor hkin, kin_id hkin'] at hsuccessor
    rw [kin_predecessor hkin', kin_id hkin]
    exact h.forward p q m s hm hs hsuccessor
  · intro honce p q m' s' hm' hs' hpredecessor
    obtain ⟨m, hm, hkin⟩ := known p m' hm'
    obtain ⟨s, hs, hkin'⟩ := known q s' hs'
    rw [kin_predecessor hkin', kin_id hkin] at hpredecessor
    rw [kin_successor hkin, kin_id hkin']
    exact h.backward honce p q m s hm hs hpredecessor

theorem Lineal.same (h : r.Lineal once f) (index : x.memberIndex = r.memberIndex) (members : x.members = r.members) :
    x.Lineal once f := by
  have hsame : ∀ (path : PathId) (m : MemberRecord), x.members[path]? = some m → r.members[path]? = some m := by
    intro path m hm
    rw [members] at hm
    exact hm
  exact h.congr (h.minted.congr index fun path m hm => ⟨m, hsame path m hm, rfl⟩) fun path m hm => ⟨m, hsame path m hm, rfl⟩

theorem Lineal.moved {event : SetEvent} (h : r.Lineal once f) (moved : r.applyTransition event = .ok x) : x.Lineal once f :=
  h.same (SameIds.transition moved).index (applyTransition_members moved)

theorem Minted.pruned_member (h : r.Minted f) (limits : Limits) {path : PathId} {m' : MemberRecord}
    (hm' : (r.pruneArchive limits).members[path]? = some m') : ∃ m, r.members[path]? = some m ∧ m'.id = m.id ∧
      (∀ id, m'.predecessor = some id → m.predecessor = some id) ∧
      (∀ id, m'.successor = some id → m.successor = some id) ∧
      ∀ (q : PathId) (s' : MemberRecord), (r.pruneArchive limits).members[q]? = some s' →
        (m.predecessor = some s'.id → m'.predecessor = some s'.id) ∧
        (m.successor = some s'.id → m'.successor = some s'.id) := by
  have hplace : ∀ (path : PathId) (m' : MemberRecord), (r.pruneArchive limits).members[path]? = some m' →
      ∃ m, r.members[path]? = some m ∧ m' = m.clearLineage (victimIds r (pruneVictims limits r)) ∧
        m.id ∉ victimIds r (pruneVictims limits r) := by
    intro path m' hm'
    rw [pruneArchive_getElem?] at hm'
    split at hm'
    · cases hm'
    · rename_i hkept
      obtain ⟨m, hm, rfl⟩ := Option.map_eq_some_iff.mp hm'
      refine ⟨m, hm, rfl, fun hvictim => ?_⟩
      obtain ⟨victim, hpruned, m₀, hm₀, hsame⟩ := mem_victimIds.mp hvictim
      rw [h.place_unique hm₀ hm hsame] at hpruned
      exact hkept hpruned
  have hcleared {reference : Option MultipathMemberId} {pruned : List MultipathMemberId} {id : MultipathMemberId} :
      (reference.filter fun id => !pruned.contains id) = some id ↔ reference = some id ∧ id ∉ pruned := by
    rw [Option.filter_eq_some_iff]
    simp
  obtain ⟨m, hm, rfl, -⟩ := hplace path m' hm'
  refine ⟨m, hm, rfl, fun id hnames => (hcleared.mp hnames).1, fun id hnames => (hcleared.mp hnames).1, ?_⟩
  intro q s' hs'
  obtain ⟨s, -, rfl, hkept⟩ := hplace q s' hs'
  exact ⟨fun hnames => hcleared.mpr ⟨hnames, hkept⟩, fun hnames => hcleared.mpr ⟨hnames, hkept⟩⟩

theorem Lineal.pruned (h : r.Lineal once f) (limits : Limits) : (r.pruneArchive limits).Lineal once f := by
  constructor
  · exact h.minted.pruned limits
  · intro path m' id hm' hnames
    obtain ⟨m, hm, -, hpredecessor, hsuccessor, -⟩ := h.minted.pruned_member limits hm'
    exact h.named path m id hm (hnames.imp (hpredecessor id) (hsuccessor id))
  · intro p q m' s' hm' hs' hnames
    obtain ⟨m, hm, hid, -, hsuccessor, -⟩ := h.minted.pruned_member limits hm'
    obtain ⟨s, hs, hid', -, -, hkept⟩ := h.minted.pruned_member limits hs'
    have hforward := h.forward p q m s hm hs (hid' ▸ hsuccessor _ hnames)
    rw [← hid] at hforward
    exact (hkept p m' hm').1 hforward
  · intro honce p q m' s' hm' hs' hnames
    obtain ⟨m, hm, hid, -, -, hkept⟩ := h.minted.pruned_member limits hm'
    obtain ⟨s, hs, hid', hpredecessor, -, -⟩ := h.minted.pruned_member limits hs'
    have hbackward := h.backward honce p q m s hm hs (hid ▸ hpredecessor _ hnames)
    rw [← hid'] at hbackward
    exact (hkept q s' hs').2 hbackward

theorem Lineal.sealed_ {limits : Limits} {summary : Bytes} (h : r.Lineal once f) (stored : Sealed limits r summary x) :
    x.Lineal once f := by
  cases stored with
  | kept => exact h.same rfl rfl
  | @committed e context spec generation membershipGeneration =>
      have hready : ({ r with
          generation := generation
          membershipGeneration := membershipGeneration
          provenance := makeProvenance context spec.cause
            { r with generation := generation, membershipGeneration := membershipGeneration } } : SetRecord).Lineal once f :=
        h.same rfl rfl
      exact (hready.pruned e.limits).same rfl rfl

theorem Lineal.install (h : r.Lineal once f) (lasts : f.Lasts 1) {member : MemberRecord}
    (minted : member.id = f.nextMemberId.1) (predecessor : member.predecessor = r.members[member.pathId]?.map MemberRecord.id)
    (successor : member.successor = none) : (r.installMember member).Lineal once (f.skip 1) := by
  have hawaited : f.Awaits .mem member.id.view := by
    rw [minted]
    exact IdFactory.next_awaited lasts .mem
  have hnew : ∀ (path : PathId) (m : MemberRecord), r.members[path]? = some m → m.id ≠ member.id := by
    intro path m hm hsame
    rw [← hsame] at hawaited
    exact h.minted.members path m hm hawaited
  have hunnamed : ∀ (path : PathId) (m : MemberRecord), r.members[path]? = some m →
      m.predecessor ≠ some member.id ∧ m.successor ≠ some member.id := by
    intro path m hm
    exact ⟨fun hnames => h.named path m _ hm (.inl hnames) hawaited, fun hnames => h.named path m _ hm (.inr hnames) hawaited⟩
  have hplace : ∀ (path : PathId) (m : MemberRecord), (r.installMember member).members[path]? = some m →
      path = member.pathId ∧ m = member ∨ path ≠ member.pathId ∧ r.members[path]? = some m := by
    intro path m hm
    rcases member_insert hm with ⟨rfl, rfl⟩ | ⟨hother, hkept⟩
    · exact .inl ⟨rfl, rfl⟩
    · exact .inr ⟨fun heq => hother heq.symm, hkept⟩
  constructor
  · exact h.minted.install lasts minted
  · intro path m id hm hnames hawaits
    have hbefore := hawaits.of_skip lasts
    rcases hplace path m hm with ⟨rfl, rfl⟩ | ⟨-, hkept⟩
    · rw [predecessor, successor] at hnames
      rcases hnames with hpredecessor | hnone
      · obtain ⟨existing, hexisting, rfl⟩ := Option.map_eq_some_iff.mp hpredecessor
        exact h.minted.members _ existing hexisting hbefore
      · cases hnone
    · exact h.named path m id hkept hnames hbefore
  · intro p q m s hm hs hsuccessor
    rcases hplace p m hm with ⟨rfl, rfl⟩ | ⟨-, hm₀⟩
    · rw [successor] at hsuccessor
      cases hsuccessor
    · rcases hplace q s hs with ⟨rfl, rfl⟩ | ⟨-, hs₀⟩
      · exact absurd hsuccessor (hunnamed p m hm₀).2
      · exact h.forward p q m s hm₀ hs₀ hsuccessor
  · intro honce p q m s hm hs hpredecessor
    rcases hplace q s hs with ⟨rfl, rfl⟩ | ⟨-, hs₀⟩
    · rw [predecessor] at hpredecessor
      obtain ⟨existing, hexisting, hsame⟩ := Option.map_eq_some_iff.mp hpredecessor
      rcases hplace p m hm with ⟨rfl, rfl⟩ | ⟨hother, hm₀⟩
      · exact absurd hsame (hnew _ existing hexisting)
      · exact absurd (h.minted.place_unique hexisting hm₀ hsame).symm hother
    · rcases hplace p m hm with ⟨rfl, rfl⟩ | ⟨-, hm₀⟩
      · exact absurd hpredecessor (hunnamed q s hs₀).1
      · exact h.backward honce p q m s hm₀ hs₀ hpredecessor

theorem Lineal.replace (h : r.Lineal once f) (lasts : f.Lasts 1) {path : PathId} {m old member : MemberRecord}
    (found : r.members[path]? = some m) (other : path ≠ member.pathId)
    (kin : old.kin = (m.id, m.predecessor, some member.id)) (minted : member.id = f.nextMemberId.1)
    (predecessor : member.predecessor = some m.id) (successor : member.successor = none)
    (single : once → m.successor = none) : ((r.withMember path old).installMember member).Lineal once (f.skip 1) := by
  have hold_id : old.id = m.id := congrArg Prod.fst kin
  have hold_predecessor : old.predecessor = m.predecessor := congrArg (fun kin => kin.2.1) kin
  have hold_successor : old.successor = some member.id := congrArg (fun kin => kin.2.2) kin
  have hawaited : f.Awaits .mem member.id.view := by
    rw [minted]
    exact IdFactory.next_awaited lasts .mem
  have hnew : ∀ (p : PathId) (x : MemberRecord), r.members[p]? = some x → x.id ≠ member.id := by
    intro p x hx hsame
    rw [← hsame] at hawaited
    exact h.minted.members p x hx hawaited
  have hplace : ∀ (p : PathId) (x : MemberRecord), ((r.withMember path old).installMember member).members[p]? = some x →
      p = member.pathId ∧ x = member ∨ p = path ∧ x = old ∨ p ≠ path ∧ r.members[p]? = some x := by
    intro p x hx
    rcases member_insert hx with ⟨rfl, rfl⟩ | ⟨_, hput⟩
    · exact .inl ⟨rfl, rfl⟩
    · rcases member_insert hput with ⟨rfl, rfl⟩ | ⟨hpath, hkept⟩
      · exact .inr (.inl ⟨rfl, rfl⟩)
      · exact .inr (.inr ⟨fun heq => hpath heq.symm, hkept⟩)
  constructor
  · have hput : (r.withMember path old).Minted f := by
      refine h.minted.congr rfl fun p x hx => ?_
      rcases member_insert hx with ⟨rfl, rfl⟩ | ⟨-, hkept⟩
      · exact ⟨m, found, hold_id⟩
      · exact ⟨x, hkept, rfl⟩
    exact hput.install lasts minted
  · intro p x id hx hnames hawaits
    rcases hplace p x hx with ⟨-, rfl⟩ | ⟨-, rfl⟩ | ⟨-, hkept⟩
    · rw [predecessor, successor] at hnames
      rcases hnames with hpredecessor | hnone
      · cases hpredecessor
        exact h.minted.members path m found (hawaits.of_skip lasts)
      · cases hnone
    · rw [hold_predecessor, hold_successor] at hnames
      rcases hnames with hpredecessor | hsuccessor
      · exact h.named path m id found (.inl hpredecessor) (hawaits.of_skip lasts)
      · cases hsuccessor
        rw [minted] at hawaits
        exact IdFactory.not_awaited lasts (IdFactory.next_counter lasts).le hawaits
    · exact h.named p x id hkept hnames (hawaits.of_skip lasts)
  · intro p q x s hx hs hsuccessor
    rcases hplace p x hx with ⟨-, rfl⟩ | ⟨-, rfl⟩ | ⟨-, hx₀⟩
    · rw [successor] at hsuccessor
      cases hsuccessor
    · rw [hold_successor] at hsuccessor
      have hsame : s.id = member.id := (Option.some.inj hsuccessor).symm
      rcases hplace q s hs with ⟨-, rfl⟩ | ⟨-, rfl⟩ | ⟨-, hs₀⟩
      · rw [predecessor, hold_id]
      · exact absurd (hold_id.symm.trans hsame) (hnew path m found)
      · exact absurd hsame (hnew q s hs₀)
    · rcases hplace q s hs with ⟨-, rfl⟩ | ⟨-, rfl⟩ | ⟨-, hs₀⟩
      · exact absurd hawaited (h.named p x _ hx₀ (.inr hsuccessor))
      · rw [hold_id] at hsuccessor
        rw [hold_predecessor]
        exact h.forward p path x m hx₀ found hsuccessor
      · exact h.forward p q x s hx₀ hs₀ hsuccessor
  · intro honce p q x s hx hs hpredecessor
    rcases hplace q s hs with ⟨-, rfl⟩ | ⟨-, rfl⟩ | ⟨-, hs₀⟩
    · rw [predecessor] at hpredecessor
      have hsame : m.id = x.id := Option.some.inj hpredecessor
      rcases hplace p x hx with ⟨-, rfl⟩ | ⟨-, rfl⟩ | ⟨hpath, hx₀⟩
      · exact absurd hsame (hnew path m found)
      · exact hold_successor
      · exact absurd (h.minted.place_unique found hx₀ hsame).symm hpath
    · rw [hold_predecessor] at hpredecessor
      rw [hold_id]
      rcases hplace p x hx with ⟨-, rfl⟩ | ⟨-, rfl⟩ | ⟨-, hx₀⟩
      · exact absurd hawaited (h.named path m _ found (.inl hpredecessor))
      · rw [hold_id] at hpredecessor
        have hself := h.backward honce path path m m found found hpredecessor
        rw [single honce] at hself
        cases hself
      · exact h.backward honce p path x m hx₀ found hpredecessor
    · rcases hplace p x hx with ⟨-, rfl⟩ | ⟨-, rfl⟩ | ⟨-, hx₀⟩
      · exact absurd hawaited (h.named q s _ hs₀ (.inl hpredecessor))
      · rw [hold_id] at hpredecessor
        have hself := h.backward honce path q m s found hs₀ hpredecessor
        rw [single honce] at hself
        cases hself
      · exact h.backward honce p q x s hx₀ hs₀ hpredecessor

theorem newMember_kin (e : FabricEngine) (context : MutationContext) (r : SetRecord) (cause : MembershipCause)
    (request : MemberRequest) (view : Option PathAuthorityView) (predecessor : Option MultipathMemberId) :
    (e.newMember context r cause request view predecessor).kin = (e.ids.nextMemberId.1, predecessor, none) :=
  evaluate_kin _ _ _ _

theorem Lineal.published {context : MutationContext} {setId : MultipathSetId} {e : FabricEngine}
    (h : r.Lineal once e.ids) (requests : List (MemberRequest × Option PathAuthorityView))
    (lasts : e.ids.Lasts requests.length) :
    (publishMembers context setId e r requests).2.1.Lineal once (e.ids.skip requests.length) := by
  induction requests generalizing e r with
  | nil => exact h
  | cons request rest ih =>
      have hkin := newMember_kin e context r .memberAdded request.1 request.2
        (r.members[request.1.pathId]?.map MemberRecord.id)
      have hplace := SetRecord.newMember_pathId e context r .memberAdded request.1 request.2
        (r.members[request.1.pathId]?.map MemberRecord.id)
      refine ih (e := e.admitPath setId request.1.pathId) (h.install lasts.one ?_ ?_ ?_) lasts.next
      · exact congrArg Prod.fst hkin
      · rw [hplace]
        exact congrArg (fun kin => kin.2.1) hkin
      · exact congrArg (fun kin => kin.2.2) hkin

end SetRecord

theorem MemberChange.kin {e : FabricEngine} {setId : MultipathSetId} {r : SetRecord} {path : PathId} {op : Op}
    {m m' : MemberRecord} (change : MemberChange e setId r path op m m') :
    m'.kin = m.kin ∨ op.admissions ≠ 0 ∧ m'.id = m.id ∧ m'.predecessor = m.predecessor := by
  cases change with
  | ended => exact .inl (applyEvent_kin _ _)
  | marked =>
      left
      unfold markSetNotUsable
      split <;> rfl
  | observed | reevaluated | rebound | toggled => exact .inl (evaluate_kin _ _ _ _)
  | revalidated | completed => exact .inl (revalidated_kin _ _ _)
  | released | abandoned | begun | withdrawn => exact .inl rfl
  | superseded => exact .inr ⟨one_ne_zero, rfl, rfl⟩

theorem Op.Publishes.count {op : Op} {context : MutationContext} {setId : MultipathSetId}
    {requests : List (MemberRequest × Option PathAuthorityView)} {bulk : Bool}
    (publication : op.Publishes context setId requests bulk) : op.admissions = requests.length := by
  cases publication <;> rfl

theorem RecordEdit.lineal {once : Prop} {e : FabricEngine} {setId : MultipathSetId} {r x : SetRecord} {op : Op}
    {summary : Bytes} (edit : RecordEdit e setId r op x summary) (h : r.Lineal once e.ids) (lasts : e.ids.Lasts op.mints)
    (single : once → ∀ context memberId request reason view, op = .replaceMember context setId memberId request reason view →
      ∀ path m, r.finds memberId path m → m.successor = none) (found : r.Found) :
    x.Lineal once (e.ids.skip op.mints) := by
  by_cases hplain : op.admissions = 0
  · refine (h.skip lasts).congr (edit.minted h.minted lasts) fun path m' hm' => ?_
    have hplace := edit.place path
    rw [hm'] at hplace
    generalize r.members[path]? = entry at hplace ⊢
    cases hplace with
    | kept => exact ⟨m', rfl, rfl⟩
    | changed change => exact ⟨_, rfl, change.kin.resolve_right fun hreplaces => hreplaces.1 hplain⟩
    | admitted _ admission =>
        cases admission with
        | added publication listed =>
            have hcount : op.admissions = _ := publication.count
            rw [hplain] at hcount
            rw [List.length_eq_zero_iff.mp hcount.symm] at listed
            cases listed
        | replacing => cases hplain
  · cases edit with
    | observed applied => exact absurd (by cases applied <;> rfl) hplain
    | invalidated applied => exact absurd (by cases applied <;> rfl) hplain
    | @added context _ requests _ y publication _ _ _ _ moved =>
        have hcount : op.mints = requests.length := by cases publication <;> rfl
        rw [hcount] at lasts ⊢
        exact ((h.moved moved).published requests lasts).same rfl rfl
    | @replaced context memberId request reason view path m y _ _ _ finds other _ _ _ moved =>
        obtain ⟨m₀, hm₀, hnamed⟩ := found memberId path finds.1
        rw [finds.2] at hm₀
        cases hm₀
        have hkin := SetRecord.newMember_kin e context y .memberReplaced request view (some memberId)
        have hplace := SetRecord.newMember_pathId e context y .memberReplaced request view (some memberId)
        have hat : y.members[path]? = some m := by
          rw [SetRecord.applyTransition_members moved]
          exact finds.2
        obtain ⟨successor, hsuccessor⟩ : ∃ successor, successor =
            e.newMember context y .memberReplaced request view (some memberId) := ⟨_, rfl⟩
        rw [← hsuccessor] at hkin hplace
        have hreplaced : ((y.withMember path { m.terminate .superseded with successor := some successor.id }).installMember
            successor).Lineal once (e.ids.skip 1) := by
          apply (h.moved moved).replace lasts hat
          · rw [hplace]
            exact other
          · rfl
          · exact congrArg Prod.fst hkin
          · rw [hnamed]
            exact congrArg (fun kin => kin.2.1) hkin
          · exact congrArg (fun kin => kin.2.2) hkin
          · exact fun honce => single honce _ _ _ _ _ rfl path m finds
        rw [hsuccessor] at hreplaced
        exact hreplaced.same rfl rfl
    | _ => exact absurd rfl hplain

namespace SetRecord

variable {f : IdFactory} {r x : SetRecord}

theorem Minted.sealed_member {limits : Limits} {summary : Bytes} (h : r.Minted f) (stored : Sealed limits r summary x)
    {path : PathId} {m' : MemberRecord} (hm' : x.members[path]? = some m') : ∃ m, r.members[path]? = some m ∧ m'.id = m.id ∧
      ∀ (q : PathId) (s' : MemberRecord), x.members[q]? = some s' → (m'.predecessor = some s'.id ↔ m.predecessor = some s'.id) := by
  cases stored with
  | kept => exact ⟨m', hm', rfl, fun _ _ _ => Iff.rfl⟩
  | @committed e context spec generation membershipGeneration =>
      have hready : ({ r with
          generation := generation
          membershipGeneration := membershipGeneration
          provenance := makeProvenance context spec.cause
            { r with generation := generation, membershipGeneration := membershipGeneration } } : SetRecord).Minted f :=
        h.congr rfl fun path m hm => ⟨m, hm, rfl⟩
      obtain ⟨m, hm, hid, hnamed, -, hkept⟩ := hready.pruned_member e.limits hm'
      exact ⟨m, hm, hid, fun q s' hs' => ⟨hnamed _, (hkept q s' hs').1⟩⟩

theorem Lineal.mapped {once : Prop} {g : MemberRecord → MemberRecord} (h : r.Lineal once f)
    (index : x.memberIndex = r.memberIndex) (members : x.members = r.members.map fun _ m => g m)
    (kin : ∀ m, (g m).kin = m.kin) : x.Lineal once f := by
  refine h.congr (h.minted.mapped index members fun m => kin_id (kin m)) fun path m' hm' => ?_
  rw [members] at hm'
  obtain ⟨m, hm, rfl⟩ := member_map hm'
  exact ⟨m, hm, kin m⟩

end SetRecord

theorem RecordEdit.predecessor {e : FabricEngine} {setId : MultipathSetId} {r x : SetRecord} {op : Op} {summary : Bytes}
    (edit : RecordEdit e setId r op x summary) {path : PathId} {m' : MemberRecord} (hm' : x.members[path]? = some m')
    (fresh : m'.id ∉ e.ids.upcoming op.admissions) :
    ∃ m, r.members[path]? = some m ∧ m'.id = m.id ∧ m'.predecessor = m.predecessor := by
  have hplace := edit.place path
  rw [hm'] at hplace
  generalize r.members[path]? = entry at hplace ⊢
  cases hplace with
  | kept => exact ⟨m', rfl, rfl, rfl⟩
  | changed change =>
      rcases change.kin with hkin | ⟨-, hid, hpredecessor⟩
      · exact ⟨_, rfl, kin_id hkin, kin_predecessor hkin⟩
      · exact ⟨_, rfl, hid, hpredecessor⟩
  | admitted _ admission =>
      obtain ⟨_, hminted⟩ := FabricEngine.admission_mints admission
      exact absurd hminted fresh

namespace FabricEngine

variable {once : Prop} {e : FabricEngine} {op : Op}

/-- A step that mints within the counter and loads consistent lineage; where every relation is replaced `once`, a
replacement names a relation that has no successor. -/
structure MintsLineal (once : Prop) (e : FabricEngine) (op : Op) : Prop where
  mints : e.MintsAhead op
  single : once → ∀ context setId memberId request reason view,
    op = .replaceMember context setId memberId request reason view →
    ∀ r path m, e.sets[setId]? = some r → r.finds memberId path m → m.successor = none
  loads : ∀ path files decoded fallback, op = .loadStore path files →
    readAndDecode path e.limits files = .ok (decoded, fallback) → decoded.epoch.next.isSome = true →
    decoded.authorityGeneration.next.isSome = true → ∀ r ∈ decoded.sets, r.Lineal once e.ids

def Lineal (once : Prop) (e : FabricEngine) : Prop :=
  ∀ (setId : MultipathSetId) (r : SetRecord), e.sets[setId]? = some r → r.Lineal once e.ids

theorem Lineal.after {config : FabricConfig} (h : e.Lineal once) (run : Reachable config e)
    (step : e.MintsLineal once op) : (e.after op).Lineal once := by
  rcases after_ids e op with hids | ⟨hids, hsets⟩
  · intro setId r' hr'
    have hlasts := step.mints.lasts
    have hstep := e.after_sets op setId
    rw [hr'] at hstep
    rw [hids]
    generalize hentry : e.sets[setId]? = entry at hstep
    cases hstep with
    | kept => exact (h setId r' hentry).skip hlasts
    | changed edit stored =>
        refine (edit.lineal (h setId _ hentry) hlasts ?_ (found_of_run run setId _ hentry)).sealed_ stored
        rintro honce context memberId request reason view rfl path m hm
        exact step.single honce _ _ _ _ _ _ rfl _ path m hentry hm
    | created =>
        have hnone : ∀ (path : PathId) (m : MemberRecord), (∅ : MemberMap)[path]? ≠ some m := by
          intro path m hm
          rw [Std.ExtTreeMap.getElem?_empty] at hm
          cases hm
        constructor
        · exact ⟨fun path m hm => absurd hm (hnone path m), fun path m hm => absurd hm (hnone path m)⟩
        · exact fun path m _ hm => absurd hm (hnone path m)
        · exact fun p _ m _ hm => absurd hm (hnone p m)
        · exact fun _ p _ m _ hm => absurd hm (hnone p m)
    | fenced | epochAdvanced => exact ((h setId _ hentry).skip hlasts).mapped rfl rfl fun _ => rfl
    | @recovered path files decoded fallback loading r loads read stored named bounds epoch authority =>
        have hloaded := step.loads path files decoded fallback loads read (by rw [epoch]; rfl) (by rw [authority]; rfl)
        have hbumped : SetRecord.Lineal once e.ids { r with members := r.members.map fun _ m => m.bumpWatermark } :=
          (hloaded r stored).mapped rfl rfl fun _ => rfl
        exact (hbumped.skip hlasts).mapped rfl rfl fun _ => rfl
  · intro setId r' hr'
    rw [hsets] at hr'
    rw [hids]
    exact h setId r' hr'

theorem Lineal.names {setId : MultipathSetId} {r' : SetRecord} {path : PathId} {m' : MemberRecord} (h : e.Lineal once)
    (plain : op.loads = false) (ahead : e.MintsAhead op) (found' : (e.after op).sets[setId]? = some r')
    (hm' : r'.members[path]? = some m') (spent : ¬e.ids.Awaits .mem m'.id.view) : ∃ r m, e.sets[setId]? = some r ∧
      r.members[path]? = some m ∧ m'.id = m.id ∧
      ∀ (q : PathId) (s' : MemberRecord), r'.members[q]? = some s' →
        (m'.predecessor = some s'.id ↔ m.predecessor = some s'.id) := by
  have hfresh : m'.id ∉ e.ids.upcoming op.admissions :=
    fun hmem => spent (IdFactory.upcoming_awaited ahead.admits hmem)
  have hstep := e.after_sets op setId
  rw [found'] at hstep
  generalize hentry : e.sets[setId]? = entry at hstep
  have hmapped (r : SetRecord) (members : r'.members = r.members.map fun _ m => m.bumpWatermark) :
      ∃ r₀ m, some r = some r₀ ∧ r₀.members[path]? = some m ∧ m'.id = m.id ∧
        ∀ (q : PathId) (s' : MemberRecord), r'.members[q]? = some s' →
          (m'.predecessor = some s'.id ↔ m.predecessor = some s'.id) := by
    rw [members] at hm'
    obtain ⟨m, hm, rfl⟩ := member_map hm'
    exact ⟨r, m, rfl, hm, rfl, fun _ _ _ => Iff.rfl⟩
  cases hstep with
  | kept => exact ⟨r', m', rfl, hm', rfl, fun _ _ _ => Iff.rfl⟩
  | changed edit stored =>
      obtain ⟨y, hy, hid, hnames⟩ := (edit.minted (h setId _ hentry).minted ahead.lasts).sealed_member stored hm'
      rw [hid] at hfresh
      obtain ⟨m, hm, hid', hpredecessor⟩ := edit.predecessor hy hfresh
      refine ⟨_, m, rfl, hm, hid.trans hid', fun q s' hs' => ?_⟩
      rw [← hpredecessor]
      exact hnames q s' hs'
  | created =>
      cases (Std.ExtTreeMap.getElem?_empty.symm.trans hm' : none = some m')
  | fenced => exact hmapped _ rfl
  | epochAdvanced => exact hmapped _ rfl
  | recovered loads =>
      rw [loads] at plain
      cases plain

end FabricEngine

end MultipathFabric
