import MultipathFabric.AuthoritySpec
import MultipathFabric.RequestChecks

namespace MultipathFabric

open OrderedMap

namespace SetRecord

structure KeepsMember (m m' : MemberRecord) : Prop where
  fields : { m' with
    invalidationWatermark := m.invalidationWatermark
    predecessor := m.predecessor
    successor := m.successor } = m
  predecessor : m'.predecessor = m.predecessor ∨ m'.predecessor = none
  successor : m'.successor = m.successor ∨ m'.successor = none

structure StampsOnly (r r' : SetRecord) : Prop where
  fields : { r' with
    authorityGeneration := r.authorityGeneration
    governingEpoch := r.governingEpoch
    currentness := r.currentness
    invalidationWatermark := r.invalidationWatermark
    history := r.history
    members := r.members
    usableMemberCount := r.usableMemberCount } = r
  members : ∀ path : PathId,
    (r'.members[path]?.map fun m => { m with invalidationWatermark := ⟨0⟩ }) =
      r.members[path]?.map fun m => { m with invalidationWatermark := ⟨0⟩ }

/-- What may have become of a terminal set: only RETIRE and REVOKE, where the table allows them, end it further. -/
structure FrozenSince (r r' : SetRecord) : Prop where
  lifecycle : r'.lifecycle = r.lifecycle ∨ (r.lifecycle = .withdrawn ∧ r'.lifecycle = .revoked) ∨
    (r.lifecycle ≠ .retired ∧ r'.lifecycle = .retired)
  still : r'.lifecycle = r.lifecycle → r.StampsOnly r'
  lineage : r'.supersededBy = r.supersededBy ∧ r'.supersedes = r.supersedes
  revocation : r'.revocation = r.revocation ∨ r.lifecycle = .withdrawn
  members : ∀ (path : PathId) (m' : MemberRecord), r'.members[path]? = some m' →
    ∃ m, r.members[path]? = some m ∧ KeepsMember m m'

theorem KeepsMember.refl (m : MemberRecord) : KeepsMember m m := ⟨rfl, .inl rfl, .inl rfl⟩

theorem KeepsMember.trans {m m' m'' : MemberRecord} (h : KeepsMember m m') (h' : KeepsMember m' m'') :
    KeepsMember m m'' where
  fields := by
    rw [← h.fields, ← h'.fields]
  predecessor := by
    rcases h'.predecessor with heq | hnone
    · rw [heq]
      exact h.predecessor
    · exact .inr hnone
  successor := by
    rcases h'.successor with heq | hnone
    · rw [heq]
      exact h.successor
    · exact .inr hnone

theorem StampsOnly.refl (r : SetRecord) : r.StampsOnly r := ⟨rfl, fun _ => rfl⟩

theorem StampsOnly.trans {r x r' : SetRecord} (h : r.StampsOnly x) (h' : x.StampsOnly r') : r.StampsOnly r' where
  fields := by
    rw [← h.fields, ← h'.fields]
  members path := (h'.members path).trans (h.members path)

theorem StampsOnly.keepsMember {r r' : SetRecord} (h : r.StampsOnly r') {path : PathId} {m' : MemberRecord}
    (hm : r'.members[path]? = some m') : ∃ m, r.members[path]? = some m ∧ KeepsMember m m' := by
  have hsame := h.members path
  rw [hm] at hsame
  obtain ⟨m, hfound, heq⟩ := Option.map_eq_some_iff.mp hsame.symm
  refine ⟨m, hfound, ?_, ?_, ?_⟩
  all_goals
    cases m
    cases m'
    simp_all

theorem StampsOnly.since {r r' : SetRecord} (h : r.StampsOnly r') : r.FrozenSince r' where
  lifecycle := .inl (by rw [← h.fields])
  still _ := h
  lineage := ⟨by rw [← h.fields], by rw [← h.fields]⟩
  revocation := .inl (by rw [← h.fields])
  members _ _ hm := h.keepsMember hm

theorem FrozenSince.trans {r x r' : SetRecord} (h : r.FrozenSince x) (h' : x.FrozenSince r') : r.FrozenSince r' where
  lifecycle := by
    rcases h.lifecycle with hl | ⟨hfrom, hto⟩ | ⟨hfrom, hto⟩
    · rw [← hl]
      exact h'.lifecycle
    · rcases h'.lifecycle with hl' | ⟨hfrom', _⟩ | ⟨_, hto'⟩
      · exact .inr (.inl ⟨hfrom, hl'.trans hto⟩)
      · rw [hto] at hfrom'
        cases hfrom'
      · exact .inr (.inr ⟨by rw [hfrom]; decide, hto'⟩)
    · rcases h'.lifecycle with hl' | ⟨hfrom', _⟩ | ⟨_, hto'⟩
      · exact .inr (.inr ⟨hfrom, hl'.trans hto⟩)
      · rw [hto] at hfrom'
        cases hfrom'
      · exact .inr (.inr ⟨hfrom, hto'⟩)
  still := by
    intro heq
    have hmiddle : x.lifecycle = r.lifecycle := by
      rcases h.lifecycle with hl | ⟨hfrom, hto⟩ | ⟨hfrom, hto⟩
      · exact hl
      all_goals
        rcases h'.lifecycle with hl' | ⟨hfrom', _⟩ | ⟨_, hto'⟩
        all_goals simp_all
    exact (h.still hmiddle).trans (h'.still (heq.trans hmiddle.symm))
  lineage := ⟨h'.lineage.1.trans h.lineage.1, h'.lineage.2.trans h.lineage.2⟩
  revocation := by
    rcases h'.revocation with heq | hfrom
    · rw [heq]
      exact h.revocation
    · rcases h.lifecycle with hl | ⟨hfrom', _⟩ | ⟨_, hto⟩
      · exact .inr (hl ▸ hfrom)
      · exact .inr hfrom'
      · rw [hto] at hfrom
        cases hfrom
  members path m'' hm := by
    obtain ⟨m', hm', hkept'⟩ := h'.members path m'' hm
    obtain ⟨m, hfound, hkept⟩ := h.members path m' hm'
    exact ⟨m, hfound, hkept.trans hkept'⟩

theorem setIsFrozen_iff (r : SetRecord) :
    setIsFrozen r = true ↔ r.lifecycle = .withdrawn ∨ r.lifecycle = .superseded ∨ r.lifecycle = .revoked ∨
      r.lifecycle = .retired := by
  simp [setIsFrozen, or_assoc]

theorem FrozenSince.frozen {r r' : SetRecord} (h : r.FrozenSince r') (hr : setIsFrozen r = true) :
    setIsFrozen r' = true := by
  rw [setIsFrozen_iff] at hr ⊢
  rcases h.lifecycle with hl | ⟨_, hl⟩ | ⟨_, hl⟩
  · rw [hl]
    exact hr
  · exact .inr (.inr (.inl hl))
  · exact .inr (.inr (.inr hl))

theorem committed_lineage (e : FabricEngine) (y : SetRecord) (context : MutationContext) (spec : CommitSpec) :
    (y.committed e context spec).supersededBy = y.supersededBy ∧ (y.committed e context spec).supersedes = y.supersedes ∧
      (y.committed e context spec).revocation = y.revocation := by
  simp only [committed, FabricEngine.appendHistory, pruneArchive]
  split <;> exact ⟨rfl, rfl, rfl⟩

theorem sealed_lineage {limits : Limits} {x r' : SetRecord} {summary : Bytes} (h : Sealed limits x summary r') :
    r'.supersededBy = x.supersededBy ∧ r'.supersedes = x.supersedes ∧ r'.revocation = x.revocation := by
  cases h with
  | kept _ => exact ⟨rfl, rfl, rfl⟩
  | committed _ _ _ _ _ => exact committed_lineage _ _ _ _

theorem StampsOnly.bumped {r r' : SetRecord} (hmembers : r'.members = r.members.map fun _ m => m.bumpWatermark)
    (hfields : { r' with
      authorityGeneration := r.authorityGeneration
      governingEpoch := r.governingEpoch
      currentness := r.currentness
      invalidationWatermark := r.invalidationWatermark
      history := r.history
      members := r.members
      usableMemberCount := r.usableMemberCount } = r) : r.StampsOnly r' where
  fields := hfields
  members path := by
    rw [hmembers, getElem?_mapValues]
    cases r.members[path]? <;> rfl

theorem stampsOnly_fenced (r : SetRecord) (authority : MultipathAuthorityGeneration) (epoch : CoordinatorEpoch) :
    r.StampsOnly (r.fenced authority epoch) :=
  .bumped rfl rfl

theorem stampsOnly_epochAdvanced (e : FabricEngine) (r : SetRecord) : r.StampsOnly (e.epochAdvanced r) :=
  .bumped rfl rfl

theorem stampsOnly_recovered (e : FabricEngine) (r : SetRecord) : r.StampsOnly (e.recoveredSet r) := by
  have hbumped : r.StampsOnly { r with members := r.members.map fun _ m => m.bumpWatermark } := .bumped rfl rfl
  exact hbumped.trans (.bumped rfl rfl)

end SetRecord

def Op.retiresOrRevokes (setId : MultipathSetId) : Op → Prop
  | .revokeSet _ target _ _ | .retireSet _ target _ => target = setId
  | _ => False

def Op.stamps : Op → Prop
  | .fenceWorker _ _ _ | .advanceEpoch _ _ _ _ _ | .loadStore _ _ => True
  | _ => False

namespace FabricEngine

def callerCheck (e : FabricEngine) : Op → Checked Unit
  | .supersedeSet context predecessor successor => do
      e.authorityCheck context none (some predecessor)
      e.authorityCheck context none (some successor)
      Checked.unlessAnswered (e.attemptCheck context (text "supersede_set")
        [text "supersede_set", predecessor.view, successor.view])
  | .setMemberAdminEnabled context setId memberId enabled _ => do
      e.authorityCheck context none (some setId)
      Checked.unlessAnswered (e.attemptCheck context (text "set_member_admin_enabled")
        [text "set_member_admin_enabled", setId.view, memberId.view, flagText enabled])
  | .beginMemberRevalidation context setId _ _ => e.authorityCheck context none (some setId)
  | .completeMemberRevalidation context ticket _ => e.authorityCheck context none (some ticket.setId)
  | _ => .ok ()

end FabricEngine

theorem frozen_rejects {r : SetRecord} (h : setIsFrozen r = true) {event : SetEvent}
    (hlive : event.needsOpen = true ∨ event.trimsMembers = true ∨ event = .beginWithdraw ∨
      event = .completeWithdraw ∨ event = .supersede) :
    transitionAllowed r.lifecycle event = false := by
  rcases (SetRecord.setIsFrozen_iff r).mp h with hl | hl | hl | hl
  all_goals
    rw [hl]
    revert hlive
    cases event <;> decide

def SetLifecycle.isFinal : SetLifecycle → Bool
  | .superseded | .revoked | .retired => true
  | _ => false

theorem SetLifecycle.final_closed {lifecycle : SetLifecycle} (h : lifecycle.isFinal = true) :
    lifecycle.isOpen = false ∧ lifecycle ≠ .declared ∧ lifecycle ≠ .withdrawing ∧ lifecycle ≠ .withdrawn := by
  revert h
  cases lifecycle <;> decide

theorem RecordEdit.final {e : FabricEngine} {setId : MultipathSetId} {r x : SetRecord} {op : Op} {summary : Bytes}
    (edit : RecordEdit e setId r op x summary) (h : r.lifecycle.isFinal = true) :
    x.lifecycle = r.lifecycle ∨ x.lifecycle = .retired := by
  obtain ⟨hclosed, hdeclared, hwithdrawing, hwithdrawn⟩ := SetLifecycle.final_closed h
  have hshut : r.lifecycle.isOpen ≠ true := by
    rw [hclosed]
    decide
  have hplain : ∀ {event : SetEvent} {y : SetRecord}, event.isPlain = true → r.applyTransition event = .ok y → y = r := by
    intro event y hevent moved
    exact (SetRecord.applyTransition_plain hevent moved).resolve_right fun hopen => hshut hopen.1
  have hneeds : ∀ {event : SetEvent}, event.needsOpen = true → transitionAllowed r.lifecycle event ≠ true :=
    fun hevent hallowed => hshut (transitionAllowed_open hevent hallowed)
  have htrims : ∀ {event : SetEvent}, event.trimsMembers = true → transitionAllowed r.lifecycle event ≠ true := by
    intro event hevent hallowed
    exact (transitionAllowed_trims hevent hallowed).elim hshut hwithdrawing
  cases edit with
  | collided | supersedes | supersedesRecorded | begun | released | abandoned | observed => exact .inl rfl
  | toggled | completed => exact .inl (SetRecord.recompute_closed hclosed)
  | publish _ moved | minimumChecked _ _ moved | policyChecked _ _ moved =>
      rw [hplain rfl moved]
      exact .inl rfl
  | adminChecked _ enabled moved =>
      rw [hplain (by cases enabled <;> rfl) moved]
      exact .inl rfl
  | minimumChanged _ _ moved | policyChanged _ _ moved => exact absurd (SetRecord.applyTransition_allowed moved) (hneeds rfl)
  | adminChanged _ enabled moved =>
      exact absurd (SetRecord.applyTransition_allowed moved) (hneeds (by cases enabled <;> rfl))
  | withdraw _ _ _ moved =>
      rcases SetRecord.applyTransition_beginWithdraw moved with ⟨hfrom, _⟩ | ⟨_, hopen, _⟩
      · exact absurd hfrom hdeclared
      · exact absurd hopen hshut
  | completeWithdrawal _ moved => exact absurd (SetRecord.applyTransition_completeWithdraw moved).1 hwithdrawing
  | revoke _ _ _ _ _ moved =>
      rcases (SetRecord.applyTransition_revoke moved).1 with hopen | hfrom | hfrom
      · exact absurd hopen hshut
      · exact absurd hfrom hwithdrawing
      · exact absurd hfrom hwithdrawn
  | retire _ _ _ moved =>
      right
      rw [(SetRecord.consequences_cases _ _ _ _ _).1, (SetRecord.applyTransition_retire moved).2]
      rfl
  | superseded _ _ _ moved =>
      rcases (SetRecord.applyTransition_supersede moved).1 with hopen | hfrom
      · exact absurd hopen hshut
      · exact absurd hfrom hwithdrawing
  | added _ _ _ allowed => exact absurd allowed (hneeds rfl)
  | removed _ _ _ _ _ allowed => exact absurd allowed (htrims rfl)
  | withdrewMember _ _ _ _ _ allowed => exact absurd allowed (htrims rfl)
  | replaced _ _ _ _ _ _ _ _ _ _ allowed => exact absurd allowed (hneeds rfl)
  | revalidatedSet _ _ allowed => exact absurd allowed (hneeds rfl)
  | revalidatedMember _ _ _ _ allowed => exact absurd allowed (htrims rfl)
  | invalidated _ open_ =>
      rcases setIsFrozen_false open_ with hopen | hfrom
      · exact absurd hopen hshut
      · exact absurd hfrom hwithdrawing

structure FrozenThrough (setId : MultipathSetId) (r : SetRecord) (ops : List Op) (entry : Option SetRecord) :
    Prop where
  since : ∀ r', entry = some r' → r.FrozenSince r'
  stamped : (∀ op ∈ ops, ¬op.retiresOrRevokes setId) → ∀ r', entry = some r' → r.StampsOnly r'
  untouched : (∀ op ∈ ops, ¬op.retiresOrRevokes setId ∧ ¬op.stamps) → entry = some r

theorem FrozenThrough.refl {setId : MultipathSetId} (r : SetRecord) : FrozenThrough setId r [] (some r) := by
  refine ⟨fun r' heq => ?_, fun _ r' heq => ?_, fun _ => rfl⟩
  all_goals cases heq
  · exact (SetRecord.StampsOnly.refl r).since
  · exact .refl r

theorem FrozenThrough.cons {setId : MultipathSetId} {r x : SetRecord} {op : Op} {rest : List Op}
    {entry : Option SetRecord} (h : FrozenThrough setId r [op] (some x)) (hrest : FrozenThrough setId x rest entry) :
    FrozenThrough setId r (op :: rest) entry where
  since r' heq := (h.since x rfl).trans (hrest.since r' heq)
  stamped hnone r' heq := by
    have hfirst : ∀ other ∈ [op], ¬other.retiresOrRevokes setId := by
      intro other hother
      rw [List.mem_singleton.mp hother]
      exact hnone op List.mem_cons_self
    exact (h.stamped hfirst x rfl).trans
      (hrest.stamped (fun other hother => hnone other (List.mem_cons_of_mem _ hother)) r' heq)
  untouched hnone := by
    have hfirst : ∀ other ∈ [op], ¬other.retiresOrRevokes setId ∧ ¬other.stamps := by
      intro other hother
      rw [List.mem_singleton.mp hother]
      exact hnone op List.mem_cons_self
    rw [hrest.untouched fun other hother => hnone other (List.mem_cons_of_mem _ hother)]
    exact h.untouched hfirst

end MultipathFabric
