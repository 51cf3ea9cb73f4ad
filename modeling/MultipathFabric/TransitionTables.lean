import MultipathFabric.Restoration

namespace MultipathFabric

open OrderedMap MemberRecord Relation

def Op.setEvent : Op → Option SetEvent
  | .createSet _ _ _ => some .declare
  | .publishSet _ _ => some .publish
  | .setMinimumUsableMembers _ _ _ => some .minimumChanged
  | .setConditionalAuthorityPolicy _ _ _ => some .policyChanged
  | .setAdminEnabled _ _ enabled => some (if enabled then .adminEnabled else .adminDisabled)
  | .withdrawSet _ _ _ => some .beginWithdraw
  | .completeWithdrawal _ _ => some .completeWithdraw
  | .revokeSet _ _ _ _ => some .revoke
  | .retireSet _ _ _ => some .retire
  | .supersedeSet _ _ _ => some .supersede
  | .addMember _ _ _ _ | .addMembers _ _ _ => some .memberAdded
  | .removeMember _ _ _ _ | .withdrawMember _ _ _ _ => some .memberRemoved
  | .replaceMember _ _ _ _ _ _ => some .memberReplaced
  | .setMemberAdminEnabled _ _ _ _ _ | .revalidateMember _ _ _ _ | .completeMemberRevalidation _ _ _ =>
      some .membershipRecheck
  | .revalidateSet _ _ _ => some .revalidateSet
  | .declarePathAuthority _ _ | .applyPathAuthority _ _ | .refreshPath _ _ _ | .reconcilePath _ _ _ =>
      some .dependencyInvalidated
  | .fenceWorker _ _ _ | .advanceEpoch _ _ _ _ _ | .loadStore _ _ => some .epochAdvance
  | _ => none

def SetTransitionAction.Leads (before : SetLifecycle) : SetTransitionAction → SetLifecycle → Prop
  | .reject, _ => False
  | .stay, after => after = before
  | .recompute, after | .becomePublished, after => after.isPublished = true
  | .becomeAdminDisabled, after => after = .adminDisabled
  | .becomeWithdrawing, after => after = .withdrawing
  | .becomeWithdrawn, after => after = .withdrawn
  | .becomeSuperseded, after => after = .superseded
  | .becomeRevoked, after => after = .revoked
  | .becomeRetired, after => after = .retired

def SetTransitionAction.Effect (before : SetLifecycle) (action : SetTransitionAction) (after : SetRecord) : Prop :=
  action.Leads before after.lifecycle ∧ (action = .recompute ∨ action = .becomePublished →
    after.lifecycle =
      derivePublishedLifecycle (usableCount after.members) after.minimumUsableMembers after.adminEnabled)

def SetLifecycle.Moves (event : SetEvent) (before after : SetLifecycle) : Prop :=
  after = before ∨ (setTransition before event).Leads before after

def SetLifecycle.isServing : SetLifecycle → Bool
  | .active | .degraded | .exhausted => true
  | _ => false

def SetEvent.recomputes : SetEvent → Bool
  | .memberAdded | .memberRemoved | .memberReplaced | .membershipRecheck | .minimumChanged | .policyChanged
  | .adminEnabled | .revalidateSet | .dependencyInvalidated => true
  | _ => false

def SetLifecycle.Rederived (before after : SetLifecycle) : Prop :=
  after = before ∨ (before.isServing = true ∧ after.isPublished = true)

theorem SetLifecycle.Rederived.moves {before after : SetLifecycle} {event : SetEvent}
    (h : before.Rederived after) (recomputes : event.recomputes = true) : before.Moves event after := by
  rcases h with hsame | ⟨hserving, hpublished⟩
  · exact .inl hsame
  · right
    have hrecompute : setTransition before event = .recompute := by
      revert hserving recomputes
      cases before <;> cases event <;> decide
    rw [hrecompute]
    exact hpublished

namespace SetRecord

variable {r x y z : SetRecord}

theorem recompute_lifecycle (r : SetRecord) : r.recompute.lifecycle = r.lifecycle ∨
    (r.lifecycle.isPublished = true ∧ r.recompute.lifecycle.isPublished = true) := by
  unfold recompute
  dsimp only
  cases r.lifecycle
  case active | degraded | exhausted | adminDisabled => exact .inr ⟨rfl, derivePublishedLifecycle_published _ _ _⟩
  all_goals exact .inl rfl

theorem applyTransition_moves {event : SetEvent} (moved : r.applyTransition event = .ok x) :
    r.lifecycle.Moves event x.lifecycle := by
  unfold applyTransition at moved
  unfold SetLifecycle.Moves
  split at moved
  · cases moved
  · cases moved
    exact .inl rfl
  · rename_i haction
    cases moved
    rw [haction]
    exact (recompute_lifecycle r).imp (fun h => h) And.right
  · rename_i haction
    cases moved
    rw [haction]
    exact .inr (derivePublishedLifecycle_published _ _ _)
  all_goals
    rename_i haction
    cases moved
    rw [haction]
    exact .inr rfl

theorem Derived.disabled (h : r.Derived) (disabled : r.lifecycle = .adminDisabled) : r.adminEnabled = false := by
  have hderived := h.published (by rw [disabled]; rfl)
  rw [disabled] at hderived
  by_contra henabled
  rw [Bool.not_eq_false] at henabled
  rw [henabled] at hderived
  unfold derivePublishedLifecycle at hderived
  simp only [Bool.not_true, Bool.false_eq_true, if_false] at hderived
  split at hderived
  · cases hderived
  · split at hderived <;> cases hderived

theorem Derived.rederived (h : r.Derived) (lifecycle : r.lifecycle.Rederived z.lifecycle)
    (enabled : z.adminEnabled = r.adminEnabled) : r.lifecycle.Rederived z.recompute.lifecycle := by
  rcases recompute_lifecycle z with hsame | ⟨hpublished, hagain⟩
  · rw [hsame]
    exact lifecycle
  · rcases lifecycle with hz | ⟨hserving, _⟩
    · by_cases hdisabled : r.lifecycle = .adminDisabled
      · left
        have hflag := h.disabled hdisabled
        rw [hdisabled] at hz ⊢
        unfold recompute
        dsimp only
        rw [hz, enabled, hflag]
        rfl
      · right
        rw [hz] at hpublished
        refine ⟨?_, hagain⟩
        revert hpublished hdisabled
        cases r.lifecycle <;> decide
    · exact .inr ⟨hserving, hagain⟩

theorem applyTransition_rederived {event : SetEvent} (moved : r.applyTransition event = .ok y)
    (recomputes : event.recomputes = true) (enables : event ≠ .adminEnabled) : r.lifecycle.Rederived y.lifecycle := by
  rcases applyTransition_moves moved with hsame | hleads
  · exact .inl hsame
  · have hallowed := applyTransition_allowed moved
    unfold transitionAllowed at hallowed
    revert hleads hallowed
    cases hl : r.lifecycle
    case active | degraded | exhausted =>
      intro hleads _
      refine .inr ⟨rfl, ?_⟩
      revert hleads
      cases event
      all_goals first | (cases recomputes; done) | exact fun hleads => hleads
    all_goals
      intro hleads hallowed
      left
      revert hleads hallowed
      cases event
      all_goals first | (cases recomputes; done) | exact absurd rfl enables | skip
      all_goals first | exact fun hleads _ => hleads | (intro _ hallowed; cases hallowed)

theorem adminEnabled_moves (moved : r.applyTransition .adminEnabled = .ok y) :
    r.lifecycle.Moves .adminEnabled ({ y with adminEnabled := true } : SetRecord).recompute.lifecycle := by
  have hrecompute := recompute_lifecycle { y with adminEnabled := true }
  unfold applyTransition at moved
  cases hl : r.lifecycle
  all_goals
    rw [hl] at moved
    cases moved
  case declared =>
    left
    exact recompute_declared hl
  all_goals
    right
    rcases hrecompute with hsame | ⟨_, hpublished⟩
    · rw [hsame]
      rcases recompute_lifecycle r with hagain | ⟨_, hpublished⟩
      · change r.recompute.lifecycle.isPublished = true
        rw [hagain, hl]
        rfl
      · exact hpublished
    · exact hpublished

theorem adminDisabled_moves (moved : r.applyTransition .adminDisabled = .ok y) :
    r.lifecycle.Moves .adminDisabled ({ y with adminEnabled := false } : SetRecord).recompute.lifecycle := by
  unfold applyTransition at moved
  cases hl : r.lifecycle
  all_goals
    rw [hl] at moved
    cases moved
  case declared =>
    left
    exact recompute_declared hl
  all_goals exact .inr rfl

end SetRecord

open SetRecord

section

variable {e : FabricEngine} {setId : MultipathSetId} {r x : SetRecord} {op : Op} {summary : Bytes}

theorem publishMembers_settings (context : MutationContext) (setId : MultipathSetId) (e : FabricEngine) (r : SetRecord)
    (requests : List (MemberRequest × Option PathAuthorityView)) :
    (FabricEngine.publishMembers context setId e r requests).2.1.lifecycle = r.lifecycle ∧
      (FabricEngine.publishMembers context setId e r requests).2.1.adminEnabled = r.adminEnabled := by
  induction requests generalizing e r with
  | nil => exact ⟨rfl, rfl⟩
  | cons request rest ih => exact ih _ _

theorem RecordEdit.moves (edit : RecordEdit e setId r op x summary) (h : r.Derived) :
    x.lifecycle = r.lifecycle ∨ ∃ event, op.setEvent = some event ∧ r.lifecycle.Moves event x.lifecycle := by
  have hinput : ∀ {event : SetEvent} {y z : SetRecord}, op.setEvent = some event → event.recomputes = true →
      event ≠ .adminEnabled → r.applyTransition event = .ok y → z.lifecycle = y.lifecycle →
      z.adminEnabled = y.adminEnabled →
      ∃ event, op.setEvent = some event ∧ r.lifecycle.Moves event z.recompute.lifecycle := by
    intro event y z hevent recomputes enables moved lifecycle enabled
    have hrederived := applyTransition_rederived moved recomputes enables
    rw [← lifecycle] at hrederived
    have hflag : z.adminEnabled = r.adminEnabled := by
      rw [enabled, applyTransition_frame moved]
    exact ⟨event, hevent, (h.rederived hrederived hflag).moves recomputes⟩
  have hrecheck : ∀ {event : SetEvent} {z : SetRecord}, op.setEvent = some event → event.recomputes = true →
      z.lifecycle = r.lifecycle → z.adminEnabled = r.adminEnabled →
      ∃ event, op.setEvent = some event ∧ r.lifecycle.Moves event z.recompute.lifecycle := by
    intro event z hevent recomputes lifecycle enabled
    exact ⟨event, hevent, (h.rederived (.inl lifecycle) enabled).moves recomputes⟩
  cases edit with
  | collided | supersedes | supersedesRecorded | begun | released | abandoned | observed => exact .inl rfl
  | publish _ moved | minimumChecked _ _ moved | policyChecked _ _ moved | adminChecked _ _ moved
  | completeWithdrawal _ moved => exact .inr ⟨_, rfl, applyTransition_moves moved⟩
  | minimumChanged _ _ moved => exact .inr (hinput rfl rfl (by decide) moved (by rfl) (by rfl))
  | policyChanged _ _ moved => exact .inr (hinput rfl rfl (by decide) moved (by rfl) (by rfl))
  | @adminChanged context enabled y moved =>
      right
      refine ⟨_, rfl, ?_⟩
      cases enabled with
      | true => exact adminEnabled_moves moved
      | false => exact adminDisabled_moves moved
  | @withdraw _ reason y _ moved =>
      rcases applyTransition_beginWithdraw moved with ⟨hdeclared, rfl⟩ | ⟨_, _, rfl⟩
      · left
        unfold SetRecord.withdrawn
        rw [(consequences_cases _ _ _ _ _).1, hdeclared]
        exact recompute_declared (recompute_declared hdeclared)
      · right
        refine ⟨_, rfl, ?_⟩
        have hmoves := applyTransition_moves moved
        unfold SetRecord.withdrawn
        rw [(consequences_cases _ _ _ _ _).1]
        exact hmoves
  | revoke _ _ _ _ _ moved | retire _ _ _ moved | superseded _ _ _ moved =>
      right
      refine ⟨_, rfl, ?_⟩
      rw [(consequences_cases _ _ _ _ _).1]
      have hmoves := applyTransition_moves moved
      exact hmoves
  | added _ publication _ _ _ _ moved =>
      obtain ⟨hlifecycle, henabled⟩ := publishMembers_settings _ setId e _ _
      refine .inr (hinput ?_ rfl (by decide) moved hlifecycle henabled)
      cases publication <;> rfl
  | removed _ _ _ _ _ _ moved => exact .inr (hinput rfl rfl (by decide) moved (by rfl) (by rfl))
  | withdrewMember _ _ _ _ _ _ _ moved => exact .inr (hinput rfl rfl (by decide) moved (by rfl) (by rfl))
  | replaced _ _ _ _ _ _ _ _ _ _ _ _ _ moved => exact .inr (hinput rfl rfl (by decide) moved (by rfl) (by rfl))
  | toggled | revalidatedMember | completed => exact .inr (hrecheck rfl rfl (by rfl) (by rfl))
  | revalidatedSet => exact .inr (hrecheck rfl rfl (by rfl) (by rfl))
  | invalidated applied =>
      right
      have hevent : op.setEvent = some .dependencyInvalidated := by
        cases applied <;> rfl
      unfold FabricEngine.dependencyInvalidated
      dsimp only
      split <;> exact hrecheck hevent rfl (by rfl) (by rfl)

def SetRecord.RetiresTogether (r : SetRecord) : Prop :=
  ∀ (path : PathId) (m : MemberRecord), r.members[path]? = some m → m.lifecycle = .retired → r.lifecycle = .retired

def MemberLifecycle.Moves (before after : MemberLifecycle) : Prop :=
  after = before ∨ ∃ event, memberTransition before event = some after

theorem evaluate_moves {base m' : MemberRecord} {permitted explicit : Bool} {view : Option PathAuthorityView}
    (live : memberIsTerminal base = false) (same : m'.standing = (base.evaluate permitted view explicit).standing) :
    base.lifecycle.Moves m'.lifecycle := by
  rw [evaluate_standing _ _ _ live] at same
  have hlifecycle : m'.lifecycle = _ := congrArg Standing.lifecycle same
  rw [hlifecycle]
  cases hmoved : memberTransition base.lifecycle (evaluationEvent (base.observe permitted view) explicit) with
  | none => exact .inl rfl
  | some next => exact .inr ⟨_, hmoved⟩

variable {path : PathId} {m m' : MemberRecord}

theorem MemberEdit.moves (edit : MemberEdit e setId op r x path m') (retires : r.RetiresTogether)
    (found : r.members[path]? = some m) (fresh : m'.id ∉ e.ids.upcoming op.admissions) :
    m.lifecycle.Moves m'.lifecycle := by
  have hsame : ∀ {m₀ : MemberRecord}, r.members[path]? = some m₀ → m₀ = m := by
    intro m₀ hm₀
    rw [found] at hm₀
    exact (Option.some.inj hm₀).symm
  cases edit with
  | kept hfound same =>
      rw [← hsame hfound]
      exact .inl (congrArg Standing.lifecycle same)
  | refreshed hfound _ same =>
      rw [← hsame hfound]
      exact .inl (congrArg Standing.lifecycle same)
  | @evaluated m₀ base view explicit hfound live from_ _ same =>
      rw [← hsame hfound]
      have hlifecycle : base.lifecycle = m₀.lifecycle := congrArg Standing.lifecycle from_
      rw [← hlifecycle]
      exact evaluate_moves ((live_of_lifecycle hlifecycle).trans live) same
  | marked hfound _ _ same =>
      rw [← hsame hfound]
      exact .inl (congrArg Standing.lifecycle same)
  | ended hfound _ moved =>
      rw [← hsame hfound]
      exact .inr ⟨_, moved⟩
  | @replaced m₀ hfound open_ lifecycle =>
      rw [← hsame hfound, lifecycle]
      have hopen : m₀.lifecycle ≠ .retired := by
        intro hretired
        rw [retires path m₀ hfound hretired] at open_
        cases open_
      revert hopen
      cases hl : m₀.lifecycle
      case superseded => exact fun _ => .inl rfl
      case retired => exact fun h => absurd rfl h
      all_goals exact fun _ => .inr ⟨.supersede, rfl⟩
  | admitted admits => exact absurd admits.fresh fresh

theorem memberTransition_retired {lifecycle : MemberLifecycle} {event : MemberEvent}
    (moved : memberTransition lifecycle event = some .retired) : event = .retire := by
  revert moved
  cases lifecycle <;> cases event <;> decide

theorem transition_unretired {lifecycle : MemberLifecycle} (currentness : MemberCurrentness) (explicit : Bool)
    (live : lifecycle ≠ .retired) :
    (memberTransition lifecycle (evaluationEvent currentness explicit)).getD lifecycle ≠ .retired := by
  unfold evaluationEvent
  revert live
  split
  · cases explicit <;> cases lifecycle <;> decide
  · split
    · cases explicit <;> cases lifecycle <;> decide
    · cases lifecycle <;> decide

theorem evaluate_unretired {base m' : MemberRecord} {permitted explicit : Bool} {view : Option PathAuthorityView}
    (live : memberIsTerminal base = false) (same : m'.standing = (base.evaluate permitted view explicit).standing) :
    m'.lifecycle ≠ .retired := by
  rw [evaluate_standing _ _ _ live] at same
  have hlifecycle : m'.lifecycle = _ := congrArg Standing.lifecycle same
  rw [hlifecycle]
  apply transition_unretired
  intro hretired
  rw [memberIsTerminal, hretired] at live
  cases live

theorem RecordEdit.retires (edit : RecordEdit e setId r op x summary) (h : r.RetiresTogether) : x.RetiresTogether := by
  intro path m' hm hretired
  have hwas : ∀ {m : MemberRecord}, r.members[path]? = some m → m.lifecycle = .retired → x.lifecycle = .retired := by
    intro m hfound hm
    have hset := h path m hfound hm
    rcases edit.final (by rw [hset]; rfl) with hkept | hended
    · rw [hkept, hset]
    · exact hended
  cases edit.member hm with
  | kept found same =>
      have hlifecycle : m'.lifecycle = _ := congrArg Standing.lifecycle same
      rw [hlifecycle] at hretired
      exact hwas found hretired
  | refreshed found _ same | marked found _ _ same =>
      have hlifecycle : m'.lifecycle = _ := congrArg Standing.lifecycle same
      rw [hlifecycle] at hretired
      exact hwas found hretired
  | evaluated found live from_ _ same =>
      have hlive := (live_of_lifecycle (congrArg Standing.lifecycle from_)).trans live
      exact absurd hretired (evaluate_unretired hlive same)
  | @ended m event found ends moved =>
      rw [hretired] at moved
      rcases ends with rfl | rfl | ⟨_, hset⟩
      · exact absurd (memberTransition_retired moved) (by decide)
      · exact absurd (memberTransition_retired moved) (by decide)
      · exact hset
  | replaced _ _ lifecycle =>
      rw [lifecycle] at hretired
      cases hretired
  | admitted admits =>
      obtain ⟨base, view, hpending, _, hsame⟩ := admits.standing
      exact absurd hretired (evaluate_unretired (by rw [memberIsTerminal, hpending]; rfl) hsame)

theorem SetRecord.RetiresTogether.framed (h : r.RetiresTogether) (members : ∀ (path : PathId) (m' : MemberRecord),
      x.members[path]? = some m' → ∃ m, r.members[path]? = some m ∧ m'.standing = m.standing)
    (lifecycle : x.lifecycle = r.lifecycle) : x.RetiresTogether := by
  intro path m' hm hretired
  obtain ⟨m, hfound, hsame⟩ := members path m' hm
  rw [lifecycle]
  exact h path m hfound ((standing_lifecycle hsame).symm.trans hretired)

theorem retires_rule (allowed : FabricEngine → Op → Prop) : RecordRule allowed SetRecord.RetiresTogether where
  declared e context setId key options summary path m hm := by
    change (∅ : MemberMap)[path]? = some m at hm
    rw [Std.ExtTreeMap.getElem?_empty] at hm
    cases hm
  edited e op setId r x summary _ _ retires edit := edit.retires retires
  sealed_ limits x summary r' retires stored :=
    retires.framed (fun path m' hm => sealed_standing stored hm) (sealed_lifecycle stored)
  fenced r authority epoch retires := retires.framed (fun path m' hm => bumped_standing hm) rfl
  epochAdvanced e r retires := retires.framed (fun path m' hm => bumped_standing hm) rfl
  restored r retires := by
    refine retires.framed ?_ rfl
    intro path m' hm
    obtain ⟨m, hfound, rfl⟩ := member_map hm
    exact ⟨m, hfound, restored_standing m⟩
  recovered e r retires := by
    refine retires.framed ?_ rfl
    intro path m' hm
    obtain ⟨m₁, hfound, hsame⟩ := bumped_standing hm
    obtain ⟨m, hfound, hsame'⟩ := bumped_standing hfound
    exact ⟨m, hfound, hsame.trans hsame'⟩

def Op.FlagsUnexhausted (e : FabricEngine) (op : Op) : Prop :=
  ∀ (context : MutationContext) (setId : MultipathSetId) (enabled : Bool) (r : SetRecord),
    op = .setAdminEnabled context setId enabled → e.sets[setId]? = some r → r.generation.next.isSome = true

theorem step_moves {r' : SetRecord} (derived : r.Derived) (plain : op.loads = false) (flags : op.FlagsUnexhausted e)
    (found : e.sets[setId]? = some r) (after : (e.after op).sets[setId]? = some r')
    (changed : r'.lifecycle ≠ r.lifecycle) :
    ∃ event, op.setEvent = some event ∧ (setTransition r.lifecycle event).Effect r.lifecycle r' := by
  have hstep := e.after_sets op setId
  rw [found, after] at hstep
  cases hstep with
  | kept | fenced | epochAdvanced => exact absurd rfl changed
  | changed edit stored =>
      have hsame := sealed_lifecycle stored
      have hderived : r'.Derived := by
        refine (edit.derived derived ?_).sealed_ stored
        intro context enabled hop
        exact flags context setId enabled r hop found
      rw [hsame] at changed
      rcases edit.moves derived with hkept | ⟨event, hevent, hkept | hleads⟩
      · exact absurd hkept changed
      · exact absurd hkept changed
      · refine ⟨event, hevent, ?_, ?_⟩
        · rw [hsame]
          exact hleads
        · intro hrecomputes
          rw [← hderived.counted]
          apply hderived.published
          rw [hsame]
          rcases hrecomputes with haction | haction
          all_goals
            rw [haction] at hleads
            exact hleads
  | recovered loads =>
      rw [loads] at plain
      cases plain

theorem step_member_moves {r' : SetRecord} (retires : r.RetiresTogether) (plain : op.loads = false)
    (found : e.sets[setId]? = some r) (after : (e.after op).sets[setId]? = some r') (member : r.members[path]? = some m)
    (member' : r'.members[path]? = some m') (fresh : m'.id ∉ e.ids.upcoming op.admissions) :
    m.lifecycle.Moves m'.lifecycle := by
  have hbumped : ∀ {members : MemberMap}, members = r.members.map (fun _ m => m.bumpWatermark) →
      members[path]? = some m' → m.lifecycle.Moves m'.lifecycle := by
    rintro members rfl hm'
    obtain ⟨m₀, hm₀, hsame⟩ := bumped_standing hm'
    rw [member] at hm₀
    cases hm₀
    exact .inl (standing_lifecycle hsame)
  have hstep := e.after_sets op setId
  rw [found, after] at hstep
  cases hstep with
  | kept =>
      rw [member] at member'
      cases member'
      exact .inl rfl
  | changed edit stored =>
      obtain ⟨m₁, hm₁, hsame⟩ := sealed_standing stored member'
      have hid : m'.id = m₁.id := congrArg Standing.id hsame
      rw [hid] at fresh
      rw [standing_lifecycle hsame]
      exact (edit.member hm₁).moves retires member fresh
  | fenced | epochAdvanced => exact hbumped rfl member'
  | recovered loads =>
      rw [loads] at plain
      cases plain

end

def SetLifecycle.Step (before after : SetLifecycle) : Prop := ∃ event, (setTransition before event).Leads before after

def MemberLifecycle.Step (before after : MemberLifecycle) : Prop := ∃ event, memberTransition before event = some after

theorem SetLifecycle.Step.retired {after : SetLifecycle} (h : SetLifecycle.Step .retired after) : after = .retired := by
  obtain ⟨event, hleads⟩ := h
  revert hleads
  cases event
  all_goals first | exact fun hleads => hleads | exact fun hleads => hleads.elim

theorem MemberLifecycle.Step.retired {after : MemberLifecycle} : ¬MemberLifecycle.Step .retired after := by
  rintro ⟨event, hmoved⟩
  revert hmoved
  cases event <;> cases after <;> decide

theorem SetLifecycle.retired_path {before after : SetLifecycle} (h : ReflTransGen SetLifecycle.Step before after)
    (retired : before = .retired) : after = .retired := by
  induction h with
  | refl => exact retired
  | tail _ hstep ih =>
      rw [ih] at hstep
      exact hstep.retired

theorem MemberLifecycle.retired_path {before after : MemberLifecycle} (h : ReflTransGen MemberLifecycle.Step before after)
    (retired : before = .retired) : after = .retired := by
  induction h with
  | refl => exact retired
  | tail _ hstep ih =>
      rw [ih] at hstep
      exact absurd hstep MemberLifecycle.Step.retired

structure Op.Tabled (e : FabricEngine) (op : Op) : Prop where
  plain : op.loads = false
  flags : op.FlagsUnexhausted e

theorem step_present {e : FabricEngine} {op : Op} {setId : MultipathSetId} {r : SetRecord} (plain : op.loads = false)
    (found : e.sets[setId]? = some r) : ∃ r', (e.after op).sets[setId]? = some r' := by
  have hstep := e.after_sets op setId
  rw [found] at hstep
  generalize (e.after op).sets[setId]? = entry at hstep
  cases hstep with
  | kept | changed | fenced | epochAdvanced => exact ⟨_, rfl⟩
  | cleared loads | recovered loads =>
      rw [loads] at plain
      cases plain

/-- The states of the runs that set flags only on sets whose generation has a successor. -/
abbrev FabricEngine.Tabled (e : FabricEngine) : Prop := Lived (fun e op => op.FlagsUnexhausted e) e

theorem FabricEngine.Tabled.records {e : FabricEngine} (h : e.Tabled) {setId : MultipathSetId} {r : SetRecord}
    (found : e.sets[setId]? = some r) : r.Derived ∧ r.RetiresTogether := by
  constructor
  · exact (derived_rule fun _ context setId enabled r hflags hr => hflags context setId enabled r rfl hr).holds h found
  · exact (retires_rule _).holds h found

theorem FabricEngine.Tabled.after {e : FabricEngine} {op : Op} (h : e.Tabled) (tabled : op.Tabled e) :
    (e.after op).Tabled :=
  .step h op tabled.plain tabled.flags

theorem run_moves {e e' : FabricEngine} {setId : MultipathSetId} {r : SetRecord} (h : e.Tabled)
    (found : e.sets[setId]? = some r) (continued : Continues (fun x op => op.Tabled x) e e') :
    ∃ r', e'.sets[setId]? = some r' ∧ ReflTransGen SetLifecycle.Step r.lifecycle r'.lifecycle := by
  refine (continued.keeps (P := fun x => x.Tabled ∧ ∃ r', x.sets[setId]? = some r' ∧
    ReflTransGen SetLifecycle.Step r.lifecycle r'.lifecycle) ⟨h, r, found, .refl⟩ ?_).2
  rintro x op - ⟨htabled, rx, hrx, hpath⟩ tabled
  refine ⟨htabled.after tabled, ?_⟩
  obtain ⟨r', hr'⟩ := step_present tabled.plain hrx
  refine ⟨r', hr', ?_⟩
  by_cases hchanged : r'.lifecycle = rx.lifecycle
  · rw [hchanged]
    exact hpath
  · obtain ⟨event, -, heffect⟩ :=
      step_moves (htabled.records hrx).1 tabled.plain tabled.flags hrx hr' hchanged
    exact hpath.tail ⟨event, heffect.1⟩

theorem run_member_moves {e e' : FabricEngine} {setId : MultipathSetId} {r r' : SetRecord} {path : PathId}
    {m m' : MemberRecord} (h : e.Tabled) (found : e.sets[setId]? = some r) (member : r.members[path]? = some m)
    (continued : Continues (fun x op => op.Tabled x ∧ m.id ∉ x.ids.upcoming op.admissions) e e')
    (found' : e'.sets[setId]? = some r') (member' : r'.members[path]? = some m') (same : m'.id = m.id) :
    ReflTransGen MemberLifecycle.Step m.lifecycle m'.lifecycle := by
  refine (continued.keeps (P := fun x => x.Tabled ∧ ∀ (r' : SetRecord) (m' : MemberRecord),
    x.sets[setId]? = some r' → r'.members[path]? = some m' → m'.id = m.id →
      ReflTransGen MemberLifecycle.Step m.lifecycle m'.lifecycle) ⟨h, ?_⟩ ?_).2 r' m' found' member' same
  · intro r' m' hr' hm' _
    rw [found] at hr'
    cases hr'
    rw [member] at hm'
    cases hm'
    exact .refl
  · rintro x op - ⟨htabled, hpath⟩ ⟨tabled, fresh⟩
    refine ⟨htabled.after tabled, ?_⟩
    intro r' m' hr' hm' same
    rw [← same] at fresh
    obtain ⟨rx, mx, hrx, hmx, hid⟩ := step_known tabled.plain hr' hm' fresh
    have hbefore := hpath rx mx hrx hmx (hid.symm.trans same)
    rcases step_member_moves (htabled.records hrx).2 tabled.plain hrx hr' hmx hm' fresh with hkept | hmoved
    · rw [hkept]
      exact hbefore
    · exact hbefore.tail hmoved

def FabricEngine.MovesSets (e : FabricEngine) (op : Op) : Prop :=
  ∀ (setId : MultipathSetId) (r r' : SetRecord), e.sets[setId]? = some r → (e.after op).sets[setId]? = some r' →
    r'.lifecycle ≠ r.lifecycle →
    ∃ event, op.setEvent = some event ∧ (setTransition r.lifecycle event).Effect r.lifecycle r'

def FabricEngine.MovesMembers (e : FabricEngine) (op : Op) : Prop :=
  ∀ (setId : MultipathSetId) (path : PathId) (r r' : SetRecord) (m m' : MemberRecord), e.sets[setId]? = some r →
    (e.after op).sets[setId]? = some r' → r.members[path]? = some m → r'.members[path]? = some m' → m'.id = m.id →
    m.id ∉ e.ids.upcoming op.admissions → m'.lifecycle ≠ m.lifecycle →
    ∃ event, memberTransition m.lifecycle event = some m'.lifecycle

/-- In every state of an engine that loads only saved stores, a step other than a load moves sets and members by their
tables, and a run of such steps follows paths of the tables, which never leave the retired lifecycle. -/
theorem refines_tables {e : FabricEngine} (h : Lived (fun e op => op.FlagsUnexhausted e) e) :
    (∀ op : Op, op.Tabled e → e.MovesSets op ∧ e.MovesMembers op) ∧
    ∀ (setId : MultipathSetId) (r : SetRecord), e.sets[setId]? = some r →
      (∀ e', Continues (fun x op => op.Tabled x) e e' → ∃ r', e'.sets[setId]? = some r' ∧
        ReflTransGen SetLifecycle.Step r.lifecycle r'.lifecycle ∧ (r.lifecycle = .retired → r'.lifecycle = .retired)) ∧
      ∀ (path : PathId) (m : MemberRecord), r.members[path]? = some m →
        ∀ e', Continues (fun x op => op.Tabled x ∧ m.id ∉ x.ids.upcoming op.admissions) e e' →
          ∀ (r' : SetRecord) (m' : MemberRecord), e'.sets[setId]? = some r' → r'.members[path]? = some m' →
            m'.id = m.id → ReflTransGen MemberLifecycle.Step m.lifecycle m'.lifecycle ∧
              (m.lifecycle = .retired → m'.lifecycle = .retired) := by
  refine ⟨?_, ?_⟩
  · intro op tabled
    constructor
    · intro setId r r' found after
      exact step_moves (FabricEngine.Tabled.records h found).1 tabled.plain tabled.flags found after
    · intro setId path r r' m m' found after member member' same fresh changed
      rw [← same] at fresh
      have hmoves := step_member_moves (FabricEngine.Tabled.records h found).2 tabled.plain found after member member' fresh
      exact hmoves.resolve_left changed
  · intro setId r found
    refine ⟨?_, ?_⟩
    · intro e' continued
      obtain ⟨r', hr', hpath⟩ := run_moves h found continued
      exact ⟨r', hr', hpath, SetLifecycle.retired_path hpath⟩
    · intro path m member e' continued r' m' hr' hm' same
      have hpath := run_member_moves h found member continued hr' hm' same
      exact ⟨hpath, MemberLifecycle.retired_path hpath⟩

def publishesSet : Op := .publishSet (sampleContext "a4") sampleSet

theorem refines_tables_sample :
    (sampleRun sampleSteps).MovesSets publishesSet ∧ (sampleRun sampleSteps).MovesMembers publishesSet := by
  have hlived : Lived (fun e op => op.FlagsUnexhausted e) (sampleRun sampleSteps) := by
    apply Lived.afterAll (.init sampleConfig sampleIds) (by decide)
    rintro earlier op later hsplit context setId enabled r rfl
    have hmem : Op.setAdminEnabled context setId enabled ∈ sampleSteps := by
      rw [hsplit]
      exact List.mem_append_right _ List.mem_cons_self
    simp [sampleSteps] at hmem
  exact (refines_tables hlived).1 publishesSet ⟨rfl, fun _ _ _ _ hop => by cases hop⟩

def alteredStore (ops : List Op) (alter : SetRecord → SetRecord) : StoreFiles where
  target := (encodeStore { sampleRun ops with sets := (sampleRun ops).sets.map fun _ r => alter r }).toOption
  temporary := none
  backup := none

def reloads (files : StoreFiles) : List Op :=
  [.loadStore (text "store") files,
    .registerPublisher (sampleId "pub") (sampleId "boot") sampleScope (sampleId "sess")]

def reloadedContext (attempt : String) : MutationContext := { sampleContext attempt with epoch := ⟨2⟩ }

def retiredStore : StoreFiles :=
  alteredStore sampleSteps fun r => { r with members := r.members.map fun _ m => { m with lifecycle := .retired } }

def replacesMember : Op :=
  .replaceMember (reloadedContext "b1") sampleSet sampleMember ⟨sampleId "pathB", .first⟩ []
    (some ⟨sampleId "pathB", .first, .authorized⟩)

def stalledSteps : List Op :=
  reloads (alteredStore (sampleSteps ++ [publishesSet]) fun r => { r with generation := ⟨18446744073709551615⟩ }) ++
    [.setAdminEnabled (reloadedContext "b1") sampleSet false]

def revalidatesSet : Op :=
  .revalidateSet (reloadedContext "b2") sampleSet ((∅ : ViewTable).insert samplePath (some sampleView))

/-- A replacement supersedes a retired member, and a set that a rejected disabling has left behind becomes active again. -/
theorem refines_tables_fails :
    (¬∀ config e, Reachable config e → ∀ op : Op, op.loads = false → e.MovesMembers op) ∧
    ¬∀ config e, Reachable config e → ∀ op : Op, op.loads = false → e.MovesSets op := by
  constructor
  · intro h
    obtain ⟨r, m, hr, hm, hbefore⟩ := shown_member (sampleRun (reloads retiredStore)) sampleSet samplePath
      (fun m => (m.lifecycle, m.id)) (.retired, sampleMember) (by decide +kernel)
    obtain ⟨r', m', hr', hm', hafter⟩ := shown_member ((sampleRun (reloads retiredStore)).after replacesMember) sampleSet
      samplePath (fun m => (m.lifecycle, m.id)) (.superseded, sampleMember) (by decide +kernel)
    have hfresh : sampleMember ∉ (sampleRun (reloads retiredStore)).ids.upcoming replacesMember.admissions := by
      decide +kernel
    obtain ⟨hretired, hid⟩ := Prod.mk.inj hbefore
    obtain ⟨hsuperseded, hid'⟩ := Prod.mk.inj hafter
    rw [← hid] at hfresh
    obtain ⟨event, hmoved⟩ := h sampleConfig _ (sampleRun_reachable _) replacesMember rfl sampleSet samplePath r r' m m' hr
      hr' hm hm' (hid'.trans hid.symm) hfresh (by rw [hretired, hsuperseded]; decide)
    rw [hretired] at hmoved
    exact MemberLifecycle.Step.retired ⟨event, hmoved⟩
  · intro h
    obtain ⟨r, hr, hbefore⟩ : ∃ r, (sampleRun stalledSteps).sets[sampleSet]? = some r ∧ r.lifecycle = .adminDisabled :=
      Option.map_eq_some_iff.mp (by decide +kernel)
    obtain ⟨r', hr', hafter⟩ : ∃ r', ((sampleRun stalledSteps).after revalidatesSet).sets[sampleSet]? = some r' ∧
        r'.lifecycle = .active :=
      Option.map_eq_some_iff.mp (by decide +kernel)
    obtain ⟨event, hevent, hleads, -⟩ := h sampleConfig _ (sampleRun_reachable stalledSteps) revalidatesSet rfl sampleSet r r'
      hr hr' (by rw [hbefore, hafter]; decide)
    cases hevent
    rw [hbefore, hafter] at hleads
    cases hleads

end MultipathFabric
