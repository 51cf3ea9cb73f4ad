import MultipathFabric.MemberIndex
import MultipathFabric.MemberStanding

namespace MultipathFabric

open OrderedMap MemberRecord

def Op.restoresMember (setId : MultipathSetId) (memberId : MultipathMemberId) : Op → Prop
  | .revalidateSet _ target _ | .setConditionalAuthorityPolicy _ target _ => target = setId
  | .revalidateMember _ target named _ => target = setId ∧ named = memberId
  | .completeMemberRevalidation _ ticket _ => ticket.setId = setId ∧ ticket.memberId = memberId
  | .setMemberAdminEnabled _ target named enabled _ => target = setId ∧ named = memberId ∧ enabled = true
  | _ => False

theorem Op.restores_member {setId : MultipathSetId} {r : SetRecord} {path : PathId} {m : MemberRecord} {op : Op}
    (h : op.restores setId r path) (indexed : r.Found) (found : r.members[path]? = some m) :
    op.restoresMember setId m.id := by
  have hid : ∀ {named : MultipathMemberId}, r.memberIndex[named]? = some path → named = m.id := by
    intro named hindex
    obtain ⟨m', hm', rfl⟩ := indexed named path hindex
    rw [found] at hm'
    cases hm'
    rfl
  cases op with
  | revalidateSet | setConditionalAuthorityPolicy => exact h
  | revalidateMember => exact ⟨h.1, hid h.2⟩
  | completeMemberRevalidation => exact ⟨h.1, hid h.2⟩
  | setMemberAdminEnabled => exact ⟨h.1, hid h.2.1, h.2.2⟩
  | _ => exact h.elim

theorem Op.restoresMember_request {setId : MultipathSetId} {memberId : MultipathMemberId} {op : Op}
    (h : op.restoresMember setId memberId) : op.subject = some setId ∧ ∃ q, op.request = some q := by
  cases op with
  | revalidateSet | setConditionalAuthorityPolicy => exact ⟨congrArg some h, _, rfl⟩
  | revalidateMember | completeMemberRevalidation | setMemberAdminEnabled => exact ⟨congrArg some h.1, _, rfl⟩
  | _ => exact h.elim

namespace MemberRecord

variable {m m' : MemberRecord}

theorem live_of_usable (h : m.usable = true) : memberIsTerminal m = false := by
  rw [memberIsTerminal, ((usable_iff m).mp h).1]
  rfl

theorem transition_unusable {lifecycle : MemberLifecycle} {currentness : MemberCurrentness}
    (h : (memberTransition lifecycle (evaluationEvent currentness false)).getD lifecycle = .current)
    (pending : lifecycle ≠ .pending) : lifecycle = .current := by
  revert h
  unfold evaluationEvent
  cases lifecycle
  case pending => exact absurd rfl pending
  case current => exact fun _ => rfl
  all_goals
    split
    · decide
    · split <;> decide

theorem observed_unusable {base : MemberRecord} {permitted : Bool} {view : Option PathAuthorityView}
    (stands : m.Stands permitted false) (live : memberIsTerminal m = false) (from_ : base.standing = m.standing)
    (same : m'.standing = (base.evaluate permitted view false).standing) (usable : m'.usable = true) :
    m.usable = true := by
  have hlive : memberIsTerminal base = false := (live_of_lifecycle (standing_lifecycle from_)).trans live
  rw [evaluate_standing _ _ _ hlive] at same
  obtain ⟨hcurrent, _⟩ := (usable_iff m').mp usable
  have hlifecycle : m'.lifecycle = _ := congrArg Standing.lifecycle same
  rw [hlifecycle, standing_lifecycle from_] at hcurrent
  have hwas := transition_unusable hcurrent stands.evaluated
  refine (usable_iff m).mpr ⟨hwas, ?_⟩
  rcases stands.current hwas with h | ⟨hfalse, _⟩
  · exact h
  · cases hfalse

theorem disabled_unusable {base : MemberRecord} {permitted explicit : Bool} {view : Option PathAuthorityView}
    (live : memberIsTerminal base = false) (disabled : base.adminEnabled = false)
    (same : m'.standing = (base.evaluate permitted view explicit).standing) : m'.usable = false := by
  by_contra husable
  rw [Bool.not_eq_false] at husable
  rw [evaluate_standing _ _ _ live] at same
  have hcurrent : m'.currentness = base.observe permitted view := congrArg Standing.currentness same
  rw [((usable_iff m').mp husable).2, observe, disabled] at hcurrent
  cases hcurrent

end MemberRecord

section

variable {e : FabricEngine} {setId : MultipathSetId} {op : Op} {r x : SetRecord} {path : PathId} {m m' : MemberRecord}

theorem SetRecord.Stands.unrevoked (h : r.Stands) (open_ : setIsFrozen r = false) : r.revocation.isSome = false := by
  by_contra hrevoked
  rw [Bool.not_eq_false] at hrevoked
  unfold setIsFrozen at open_
  rcases h.revoked hrevoked with hl | hl
  all_goals
    rw [hl] at open_
    cases open_

theorem MemberEdit.restores (edit : MemberEdit e setId op r x path m') (stands : r.Stands)
    (found : r.members[path]? = some m) (same : m'.id = m.id) (fresh : m.id ∉ e.ids.upcoming op.admissions)
    (before : m.usable = false) (usable : m'.usable = true) : op.restores setId r path := by
  have hnot : ¬m.usable = true := by
    rw [before]
    decide
  cases edit with
  | kept hfound hsame =>
      rw [found] at hfound
      cases hfound
      rw [standing_usable hsame] at usable
      exact absurd usable hnot
  | refreshed hfound terminal hsame =>
      have hlive := live_of_usable usable
      rw [live_of_lifecycle (congrArg Standing.lifecycle hsame), terminal] at hlive
      cases hlive
  | @evaluated m₀ base view explicit hfound live from_ why hsame =>
      rw [found] at hfound
      cases hfound
      cases why with
      | restored restores => exact restores
      | observed hbase open_ hpolicy =>
          have hstood := stands.members path m found live
          rw [stands.unrevoked open_, ← hpolicy] at hstood
          exact absurd (observed_unusable hstood live hbase hsame usable) hnot
      | disabled hdisabled =>
          have hlive := (live_of_lifecycle (congrArg Standing.lifecycle from_)).trans live
          rw [disabled_unusable hlive hdisabled hsame] at usable
          cases usable
  | marked hfound _ _ hsame =>
      have hcurrent : m'.currentness = .setNotUsable := congrArg Standing.currentness hsame
      rw [((usable_iff m').mp usable).2] at hcurrent
      cases hcurrent
  | ended hfound ends moved =>
      have hlive := live_of_usable usable
      rw [memberTransition_ends ends moved] at hlive
      cases hlive
  | replaced hfound _ lifecycle =>
      rw [((usable_iff m').mp usable).1] at lifecycle
      cases lifecycle
  | admitted admits =>
      rw [← same] at fresh
      exact absurd admits.fresh fresh

theorem Answer.accepted {q : Request} {result : FabricEngine × FabricOutcome} {r' : SetRecord}
    (answer : Answer e op q result) (subject : op.subject = some setId) (found : e.sets[setId]? = some r)
    (after : result.1.sets[setId]? = some r') (member : r.members[path]? = some m) (member' : r'.members[path]? = some m')
    (before : m.usable = false) (usable : m'.usable = true) : result.2.succeeded = true ∨ r.generation.next = none := by
  have hsame : r' = r → result.2.succeeded = true ∨ r.generation.next = none := by
    rintro rfl
    rw [member] at member'
    cases member'
    rw [before] at usable
    cases usable
  cases answer with
  | refused | replayed =>
      apply hsame
      rw [found] at after
      exact (Option.some.inj after).symm
  | left _ _ named hfound _ _ stalls =>
      rw [subject] at named
      cases named
      rw [found] at hfound
      cases hfound
      rcases stalls with hexhausted | hkept
      · exact .inr hexhausted
      · change (e.sets.insert setId _)[setId]? = _ at after
        rw [getElem?_insert_eq, if_pos rfl] at after
        cases after
        obtain ⟨m₀, hm₀, hlifecycle, hcurrentness⟩ := hkept path m' member'
        rw [member] at hm₀
        cases hm₀
        unfold MemberRecord.usable at before usable
        rw [hlifecycle, hcurrentness, before] at usable
        cases usable
  | answered _ _ _ _ _ accepted | committed _ _ _ _ _ _ _ _ accepted | superseded _ _ _ _ _ _ _ _ _ _ _ accepted
  | viewed _ _ _ _ _ accepted | created _ _ _ _ _ _ accepted => exact .inl accepted

theorem MemberEdit.known (edit : MemberEdit e setId op r x path m') (fresh : m'.id ∉ e.ids.upcoming op.admissions) :
    ∃ m, r.members[path]? = some m ∧ m'.id = m.id := by
  cases edit with
  | kept found same => exact ⟨_, found, congrArg Standing.id same⟩
  | refreshed found _ same => exact ⟨_, found, congrArg Standing.id same⟩
  | evaluated found live from_ _ same =>
      have hlive := (live_of_lifecycle (congrArg Standing.lifecycle from_)).trans live
      rw [evaluate_standing _ _ _ hlive] at same
      exact ⟨_, found, (congrArg Standing.id same).trans (congrArg Standing.id from_)⟩
  | marked found _ _ same => exact ⟨_, found, congrArg Standing.id same⟩
  | ended found _ _ same => exact ⟨_, found, same⟩
  | replaced found _ _ same => exact ⟨_, found, same⟩
  | admitted admits => exact absurd admits.fresh fresh

theorem step_known (plain : op.loads = false) {r' : SetRecord} (after : (e.after op).sets[setId]? = some r')
    (member : r'.members[path]? = some m') (fresh : m'.id ∉ e.ids.upcoming op.admissions) :
    ∃ r m, e.sets[setId]? = some r ∧ r.members[path]? = some m ∧ m'.id = m.id := by
  have hstep := e.after_sets op setId
  rw [after] at hstep
  generalize hentry : e.sets[setId]? = entry at hstep
  cases hstep with
  | kept => exact ⟨r', m', rfl, member, rfl⟩
  | @changed r _ _ _ edit stored =>
      obtain ⟨m₁, hm₁, hsame⟩ := sealed_standing stored member
      have hid : m'.id = m₁.id := congrArg Standing.id hsame
      rw [hid] at fresh
      obtain ⟨m, hm, hknown⟩ := (edit.member hm₁).known fresh
      exact ⟨r, m, rfl, hm, hid.trans hknown⟩
  | created =>
      change (∅ : MemberMap)[path]? = some m' at member
      rw [Std.ExtTreeMap.getElem?_empty] at member
      cases member
  | fenced | epochAdvanced =>
      obtain ⟨m, hm, hsame⟩ := bumped_standing member
      exact ⟨_, m, rfl, hm, congrArg Standing.id hsame⟩
  | recovered loads =>
      rw [loads] at plain
      cases plain

theorem step_restores (stands : r.Stands) (indexed : r.Found) (plain : op.loads = false) (found : e.sets[setId]? = some r)
    {r' : SetRecord} (after : (e.after op).sets[setId]? = some r') (member : r.members[path]? = some m)
    (member' : r'.members[path]? = some m') (same : m'.id = m.id) (fresh : m.id ∉ e.ids.upcoming op.admissions)
    (before : m.usable = false) (usable : m'.usable = true) :
    op.restoresMember setId m.id ∧ ((e.exec op).2.succeeded = true ∨ r.generation.next = none) := by
  have hbumped : ∀ {members : MemberMap}, members = r.members.map (fun _ m => m.bumpWatermark) →
      members[path]? = some m' → m'.usable = m.usable := by
    rintro members rfl hm'
    obtain ⟨m₀, hm₀, hsame⟩ := bumped_standing hm'
    rw [member] at hm₀
    cases hm₀
    exact standing_usable hsame
  have hnot : m'.usable ≠ m.usable := by
    rw [before, usable]
    decide
  have hacts : op.restoresMember setId m.id := by
    have hstep := e.after_sets op setId
    rw [found, after] at hstep
    cases hstep with
    | kept =>
        rw [member] at member'
        cases member'
        exact absurd rfl hnot
    | changed edit stored =>
        obtain ⟨m₁, hm₁, hsame⟩ := sealed_standing stored member'
        rw [standing_usable hsame] at usable
        have hid : m₁.id = m.id := (congrArg Standing.id hsame).symm.trans same
        exact Op.restores_member ((edit.member hm₁).restores stands member hid fresh before usable) indexed member
    | fenced | epochAdvanced => exact absurd (hbumped rfl member') hnot
    | recovered loads =>
        rw [loads] at plain
        cases plain
  obtain ⟨hsubject, q, hrequest⟩ := Op.restoresMember_request hacts
  exact ⟨hacts, (e.exec_answer hrequest).accepted hsubject found after member member' before usable⟩

end

/-- The steps that neither load a store nor act explicitly on a member, nor hand its identity out again. -/
structure Op.LeavesMember (setId : MultipathSetId) (memberId : MultipathMemberId) (e : FabricEngine) (op : Op) : Prop where
  plain : op.loads = false
  passive : ¬op.restoresMember setId memberId
  fresh : memberId ∉ e.ids.upcoming op.admissions

/-- In every state of an engine that loads only saved stores, a step other than a load makes a member usable again only
as an explicit act on it, which is accepted unless the generation of the set is exhausted; without such an act the member
stays unusable for ever. -/
theorem restored_explicitly {e : FabricEngine} (h : Lived (fun _ _ => True) e) (setId : MultipathSetId) (path : PathId)
    (r : SetRecord) (m : MemberRecord) (found : e.sets[setId]? = some r) (member : r.members[path]? = some m)
    (before : m.usable = false) :
    (∀ op : Op, op.loads = false → m.id ∉ e.ids.upcoming op.admissions → ∀ (r' : SetRecord) (m' : MemberRecord),
      (e.after op).sets[setId]? = some r' → r'.members[path]? = some m' → m'.id = m.id → m'.usable = true →
      op.restoresMember setId m.id ∧ ((e.exec op).2.succeeded = true ∨ r.generation.next = none)) ∧
    ∀ e', Continues (Op.LeavesMember setId m.id) e e' → ∀ (r' : SetRecord) (m' : MemberRecord),
      e'.sets[setId]? = some r' → r'.members[path]? = some m' → m'.id = m.id → m'.usable = false := by
  have hrecord : ∀ {x : FabricEngine} {rx : SetRecord}, Lived (fun _ _ => True) x → x.sets[setId]? = some rx →
      rx.Stands ∧ rx.Found := fun hx hrx =>
    ⟨(stands_rule _).holds hx hrx, ((found_rule _).lived (fun _ h => h.1) hx setId _ hrx).2⟩
  constructor
  · intro op plain fresh r' m' after member' same usable
    obtain ⟨hstands, hfound⟩ := hrecord h found
    exact step_restores hstands hfound plain found after member member' same fresh before usable
  · intro e' continued
    refine (continued.keeps (P := fun x => Lived (fun _ _ => True) x ∧ ∀ (r' : SetRecord) (m' : MemberRecord),
      x.sets[setId]? = some r' → r'.members[path]? = some m' → m'.id = m.id → m'.usable = false) ⟨h, ?_⟩ ?_).2
    · intro r' m' hr' hm' _
      rw [found] at hr'
      cases hr'
      rw [member] at hm'
      cases hm'
      exact before
    · rintro x op - ⟨hlived, hunusable⟩ leaves
      refine ⟨.step hlived op leaves.plain trivial, ?_⟩
      intro r' m' hr' hm' same
      by_contra husable
      rw [Bool.not_eq_false] at husable
      have hfresh := leaves.fresh
      rw [← same] at hfresh
      obtain ⟨rx, mx, hrx, hmx, hid⟩ := step_known leaves.plain hr' hm' hfresh
      obtain ⟨hstands, hfound⟩ := hrecord hlived hrx
      have hknown : mx.id = m.id := hid.symm.trans same
      rw [hid] at hfresh
      have hacts := (step_restores hstands hfound leaves.plain hrx hr' hmx hm' hid hfresh
        (hunusable rx mx hrx hmx hknown) husable).1
      rw [hknown] at hacts
      exact leaves.passive hacts

theorem shown_member {α : Type} (e : FabricEngine) (setId : MultipathSetId) (path : PathId) (f : MemberRecord → α) (a : α)
    (h : (e.sets[setId]?.bind fun r => r.members[path]?.map f) = some a) :
    ∃ r m, e.sets[setId]? = some r ∧ r.members[path]? = some m ∧ f m = a := by
  obtain ⟨r, hr, hbind⟩ := Option.bind_eq_some_iff.mp h
  obtain ⟨m, hm, hf⟩ := Option.map_eq_some_iff.mp hbind
  exact ⟨r, m, hr, hm, hf⟩

def revokedSteps : List Op :=
  sampleSteps ++ [.applyPathAuthority (sampleContext "a4") { sampleView with state := .revoked }]

def revalidatesMember : Op := .revalidateMember (sampleContext "a5") sampleSet sampleMember (some (some sampleView))

theorem restored_explicitly_sample : ∃ r m, (sampleRun revokedSteps).sets[sampleSet]? = some r ∧
    r.members[samplePath]? = some m ∧ revalidatesMember.restoresMember sampleSet m.id ∧
    (((sampleRun revokedSteps).exec revalidatesMember).2.succeeded = true ∨ r.generation.next = none) := by
  have hlived : Lived (fun _ _ => True) (sampleRun revokedSteps) := by
    exact Lived.afterAll (.init sampleConfig sampleIds) (by decide) fun _ _ _ _ => trivial
  obtain ⟨r, m, hr, hm, hbefore⟩ := shown_member (sampleRun revokedSteps) sampleSet samplePath
      (fun m => (m.usable, m.id)) (false, sampleMember) (by decide +kernel)
  obtain ⟨r', m', hr', hm', hafter⟩ := shown_member ((sampleRun revokedSteps).after revalidatesMember) sampleSet samplePath
      (fun m => (m.usable, m.id)) (true, sampleMember) (by decide +kernel)
  obtain ⟨hunusable, hid⟩ := Prod.mk.inj hbefore
  obtain ⟨husable, hid'⟩ := Prod.mk.inj hafter
  exact ⟨r, m, hr, hm, (restored_explicitly hlived sampleSet samplePath r m hr hm hunusable).1 revalidatesMember rfl
    List.not_mem_nil r' m' hr' hm' (hid'.trans hid.symm) husable⟩

def FabricEngine.RestoresExplicitly (e : FabricEngine) (op : Op) : Prop :=
  ∀ (setId : MultipathSetId) (path : PathId) (r r' : SetRecord) (m m' : MemberRecord), e.sets[setId]? = some r →
    (e.after op).sets[setId]? = some r' → r.members[path]? = some m → r'.members[path]? = some m' → m'.id = m.id →
    m.id ∉ e.ids.upcoming op.admissions → m.usable = false → m'.usable = true →
    op.restoresMember setId m.id ∧ (e.exec op).2.succeeded = true

def pendingStore : StoreFiles where
  target :=
    let e := sampleRun sampleSteps
    (encodeStore { e with
      sets := e.sets.map fun _ (r : SetRecord) =>
        { r with members := r.members.map fun _ (m : MemberRecord) => { m with lifecycle := .pending } } }).toOption
  temporary := none
  backup := none

def pendingSteps : List Op :=
  [.loadStore (text "store") pendingStore,
    .registerPublisher (sampleId "pub") (sampleId "boot") sampleScope (sampleId "sess")]

def authorizesPath : Op :=
  .applyPathAuthority { sampleContext "a4" with epoch := (sampleRun pendingSteps).currentEpoch } sampleView

def savedStore : StoreFiles where
  target := (encodeStore (sampleRun sampleSteps)).toOption
  temporary := none
  backup := none

/-- A view makes a member usable that a store brought in pending, and a load makes one usable that was so when it was
saved. -/
theorem restored_explicitly_fails :
    (¬∀ config e, Reachable config e → ∀ op : Op, op.loads = false → e.RestoresExplicitly op) ∧
    ¬∀ e, Lived (fun _ _ => True) e → ∀ op, e.RestoresExplicitly op := by
  constructor
  · intro h
    obtain ⟨r, m, hr, hm, hbefore⟩ := shown_member (sampleRun pendingSteps) sampleSet samplePath
      (fun m => (m.usable, m.id)) (false, sampleMember) (by decide +kernel)
    obtain ⟨r', m', hr', hm', hafter⟩ := shown_member ((sampleRun pendingSteps).after authorizesPath) sampleSet samplePath
      (fun m => (m.usable, m.id)) (true, sampleMember) (by decide +kernel)
    obtain ⟨hunusable, hid⟩ := Prod.mk.inj hbefore
    obtain ⟨husable, hid'⟩ := Prod.mk.inj hafter
    exact (h sampleConfig _ (sampleRun_reachable pendingSteps) authorizesPath rfl sampleSet samplePath r r' m m' hr hr' hm
      hm' (hid'.trans hid.symm) List.not_mem_nil hunusable husable).1
  · intro h
    have hlived : Lived (fun _ _ => True) (sampleRun revokedSteps) := by
      exact Lived.afterAll (.init sampleConfig sampleIds) (by decide) fun _ _ _ _ => trivial
    obtain ⟨r, m, hr, hm, hbefore⟩ := shown_member (sampleRun revokedSteps) sampleSet samplePath
      (fun m => (m.usable, m.id)) (false, sampleMember) (by decide +kernel)
    obtain ⟨r', m', hr', hm', hafter⟩ :=
      shown_member ((sampleRun revokedSteps).after (.loadStore (text "store") savedStore)) sampleSet samplePath
      (fun m => (m.usable, m.id)) (true, sampleMember) (by decide +kernel)
    obtain ⟨hunusable, hid⟩ := Prod.mk.inj hbefore
    obtain ⟨husable, hid'⟩ := Prod.mk.inj hafter
    exact (h _ hlived (.loadStore (text "store") savedStore) sampleSet samplePath r r' m m' hr hr' hm hm'
      (hid'.trans hid.symm) List.not_mem_nil hunusable husable).1

end MultipathFabric
