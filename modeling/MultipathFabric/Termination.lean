import MultipathFabric.AuthoritySpec
import MultipathFabric.RequestChecks

namespace MultipathFabric

open OrderedMap

def memberEnded (lifecycle : SetLifecycle) (m : MemberRecord) : Bool :=
  match lifecycle with
  | .withdrawing | .withdrawn | .superseded => memberIsTerminal m
  | .revoked => memberIsTerminal m || m.currentness == .setNotUsable
  | .retired => m.lifecycle == .retired
  | _ => true

namespace SetRecord

def All (r : SetRecord) (p : MemberRecord → Prop) : Prop :=
  ∀ (path : PathId) (m : MemberRecord), r.members[path]? = some m → p m

def Ended (r : SetRecord) : Prop := r.All fun m => memberEnded r.lifecycle m = true

structure Settled (r : SetRecord) : Prop where
  ended : r.Ended
  counted : r.usableMemberCount = usableCount r.members

end SetRecord

theorem memberEnded_open {lifecycle : SetLifecycle} (h : lifecycle.isOpen = true) (m : MemberRecord) :
    memberEnded lifecycle m = true := by
  cases lifecycle
  all_goals first | rfl | cases h

theorem memberEnded_congr (lifecycle : SetLifecycle) {m m' : MemberRecord} (hlifecycle : m'.lifecycle = m.lifecycle)
    (hcurrentness : m'.currentness = m.currentness) : memberEnded lifecycle m' = memberEnded lifecycle m := by
  unfold memberEnded memberIsTerminal
  rw [hlifecycle, hcurrentness]

theorem memberEnded_congr_lifecycle {lifecycle : SetLifecycle} {m m' : MemberRecord}
    (hnot : lifecycle ≠ .revoked) (hlifecycle : m'.lifecycle = m.lifecycle) :
    memberEnded lifecycle m' = memberEnded lifecycle m := by
  unfold memberEnded memberIsTerminal
  rw [hlifecycle]
  cases lifecycle
  all_goals first | rfl | exact absurd rfl hnot

theorem live_memberEnded {lifecycle : SetLifecycle} {m : MemberRecord} (hended : memberEnded lifecycle m = true)
    (hlive : memberIsTerminal m = false) : lifecycle.isOpen = true ∨ lifecycle = .revoked := by
  cases lifecycle
  case revoked => exact .inr rfl
  case retired =>
    rw [memberEnded, beq_iff_eq] at hended
    simp [memberIsTerminal, hended] at hlive
  case withdrawing | withdrawn | superseded =>
    rw [memberEnded, hlive] at hended
    cases hended
  all_goals exact .inl rfl

theorem usable_memberEnded {lifecycle : SetLifecycle} {m : MemberRecord} (hended : memberEnded lifecycle m = true)
    (husable : m.usable = true) : lifecycle.isOpen = true := by
  have hlive : memberIsTerminal m = false := by
    by_contra h
    rw [usable_of_terminal (by simpa using h)] at husable
    cases husable
  rcases live_memberEnded hended hlive with h | h
  · exact h
  · rw [h, memberEnded, hlive, Bool.false_or, beq_iff_eq] at hended
    simp [MemberRecord.usable, memberIsUsable, hended] at husable

namespace MemberRecord

theorem applyEvent_withdraw (m : MemberRecord) : memberIsTerminal (m.applyEvent .withdraw) = true := by
  unfold applyEvent
  cases h : m.lifecycle
  all_goals
    simp only [memberTransition, memberTransitionRow, MemberEvent.raw]
    simp [memberIsTerminal, h]

theorem applyEvent_supersede (m : MemberRecord) : memberIsTerminal (m.applyEvent .supersede) = true := by
  unfold applyEvent
  cases h : m.lifecycle
  all_goals
    simp only [memberTransition, memberTransitionRow, MemberEvent.raw]
    simp [memberIsTerminal, h]

theorem applyEvent_retire (m : MemberRecord) : (m.applyEvent .retire).lifecycle = .retired := by
  unfold applyEvent
  cases h : m.lifecycle
  all_goals
    simp only [memberTransition, memberTransitionRow, MemberEvent.raw]
    simp [h]

theorem evaluate_terminal {m : MemberRecord} (h : memberIsTerminal m = true) (permitted : Bool)
    (view : Option PathAuthorityView) (explicit : Bool) :
    (m.evaluate permitted view explicit).lifecycle = m.lifecycle := by
  unfold evaluate
  rw [if_pos h]

theorem markSetNotUsable_currentness (m : MemberRecord) : (markSetNotUsable m).currentness = .setNotUsable := by
  unfold markSetNotUsable
  split
  · rfl
  · rename_i h
    exact not_not.mp h

end MemberRecord

namespace SetRecord

theorem ended_open {r : SetRecord} (h : r.lifecycle.isOpen = true) : r.Ended := fun _ m _ => memberEnded_open h m

theorem ended_recompute {r : SetRecord} (h : r.Ended) : r.recompute.Ended := by
  cases hopen : r.lifecycle.isOpen
  · intro path m hm
    rw [recompute_closed hopen]
    exact h path m hm
  · exact ended_open (recompute_open hopen)

theorem settled_recompute {r : SetRecord} (h : r.Ended) : r.recompute.Settled := ⟨ended_recompute h, rfl⟩

theorem ended_plain {r x : SetRecord} {event : SetEvent} (h : r.Ended) (hplain : event.isPlain = true)
    (hmoved : r.applyTransition event = .ok x) : x.Ended := by
  rcases applyTransition_plain hplain hmoved with rfl | ⟨_, hopen⟩
  · exact h
  · exact ended_open hopen

theorem counted_transition {r x : SetRecord} {event : SetEvent}
    (h : r.usableMemberCount = usableCount r.members) (hmoved : r.applyTransition event = .ok x) :
    x.usableMemberCount = usableCount x.members := by
  unfold applyTransition at hmoved
  split at hmoved
  all_goals first | (cases hmoved; exact h) | (cases hmoved; rfl) | cases hmoved

theorem settled_plain {r x : SetRecord} {event : SetEvent} (h : r.Settled) (hplain : event.isPlain = true)
    (hmoved : r.applyTransition event = .ok x) : x.Settled :=
  ⟨ended_plain h.ended hplain hmoved, counted_transition h.counted hmoved⟩

theorem ended_withMember {r : SetRecord} (h : r.Ended) {path : PathId} {m : MemberRecord}
    (hm : memberEnded r.lifecycle m = true) : (r.withMember path m).Ended := by
  intro other m' hfound
  rcases member_insert hfound with ⟨_, rfl⟩ | ⟨_, hfound⟩
  · exact hm
  · exact h other m' hfound

theorem settled_withMember {r : SetRecord} (h : r.Settled) {path : PathId} {m m' : MemberRecord}
    (hfound : r.members[path]? = some m) (hlifecycle : m'.lifecycle = m.lifecycle)
    (hcurrentness : m'.currentness = m.currentness) : (r.withMember path m').Settled where
  ended := ended_withMember h.ended (by
    rw [memberEnded_congr _ hlifecycle hcurrentness]
    exact h.ended path m hfound)
  counted := by
    have husable : m'.usable = m.usable := by rw [MemberRecord.usable, hlifecycle, hcurrentness, MemberRecord.usable]
    exact h.counted.trans (usableCount_insert_same hfound husable).symm

theorem settled_bumpWatermark {r : SetRecord} (h : r.Settled) : r.bumpWatermark.Settled where
  ended := by
    intro path m hm
    obtain ⟨m, hfound, rfl⟩ := member_map hm
    exact h.ended path m hfound
  counted := by
    have hsame : usableCount r.bumpWatermark.members = usableCount r.members :=
      count_map_eq r.members fun _ => rfl
    exact h.counted.trans hsame.symm

theorem Settled.congr {r x : SetRecord} (h : r.Settled) (hlifecycle : x.lifecycle = r.lifecycle)
    (hmembers : x.members = r.members) (hcount : x.usableMemberCount = r.usableMemberCount) : x.Settled where
  ended := by
    intro path m hm
    rw [hlifecycle]
    exact h.ended path m (hmembers ▸ hm)
  counted := by rw [hcount, hmembers, h.counted]

theorem settled_sealed {limits : Limits} {x r' : SetRecord} {summary : Bytes} (h : x.Settled)
    (hsealed : Sealed limits x summary r') : r'.Settled where
  ended := by
    intro path m' hm
    rw [sealed_lifecycle hsealed]
    obtain ⟨m, hfound, rfl | ⟨pruned, rfl⟩⟩ := sealed_member hsealed hm
    · exact h.ended path _ hfound
    · exact (memberEnded_congr x.lifecycle rfl rfl).trans (h.ended path m hfound)
  counted := by
    cases hsealed with
    | kept _ => exact h.counted
    | committed _ _ _ _ _ =>
        simp only [committed, FabricEngine.appendHistory, pruneArchive_usableMemberCount, pruneArchive_usable]
        exact h.counted

theorem settled_applyMemberEvent {r : SetRecord} {event : MemberEvent}
    (h : ∀ m : MemberRecord, memberEnded r.lifecycle (m.applyEvent event) = true) :
    (applyMemberEvent r event).Settled where
  ended := by
    intro path m hm
    obtain ⟨m, hfound, rfl⟩ := member_map hm
    obtain ⟨m, _, rfl⟩ := member_map hfound
    exact (memberEnded_congr _ rfl rfl).trans (h m)
  counted := rfl

theorem settled_consequences {e : FabricEngine} {r : SetRecord} {source : SetLifecycle}
    {context : Option MutationContext} (hsource : source = .active ∨ source = .degraded ∨ source = .exhausted)
    (htarget : r.lifecycle.isOpen = false) (hnot : r.lifecycle ≠ .withdrawn) :
    (applyMemberConsequences e r source r.lifecycle context).Settled := by
  have hne : source ≠ r.lifecycle := by
    rintro rfl
    rcases hsource with h | h | h <;> rw [h] at htarget <;> cases htarget
  unfold applyMemberConsequences
  rw [if_neg hne, if_pos hsource]
  cases hl : r.lifecycle
  case withdrawing =>
    refine settled_applyMemberEvent fun m => ?_
    rw [hl]
    exact m.applyEvent_withdraw
  case superseded =>
    refine settled_applyMemberEvent fun m => ?_
    rw [hl]
    exact m.applyEvent_supersede
  case retired =>
    refine settled_applyMemberEvent fun m => ?_
    rw [hl, memberEnded, beq_iff_eq]
    exact m.applyEvent_retire
  case revoked =>
    refine ⟨fun path m hm => ?_, rfl⟩
    obtain ⟨m, hfound, rfl⟩ := member_map hm
    obtain ⟨m, _, rfl⟩ := member_map hfound
    refine (memberEnded_congr _ rfl rfl).trans ?_
    change memberEnded .revoked (markSetNotUsable m) = true
    rw [memberEnded, MemberRecord.markSetNotUsable_currentness]
    simp
  case withdrawn => exact absurd hl hnot
  all_goals
    rw [hl] at htarget
    cases htarget

end SetRecord

def Op.ends : Op → Option MultipathSetId
  | .withdrawSet _ setId _ | .supersedeSet _ setId _ | .revokeSet _ setId _ _ | .retireSet _ setId _
  | .setMemberAdminEnabled _ setId _ _ _ => some setId
  | .completeMemberRevalidation _ ticket _ => some ticket.setId
  | _ => none

def SetRecord.Reaches (e : FabricEngine) (r : SetRecord) : Op → Prop
  | .withdrawSet _ _ _ => r.lifecycle = .adminDisabled → r.All fun m => memberIsTerminal m = true
  | .supersedeSet _ _ _ =>
      r.lifecycle = .declared ∨ r.lifecycle = .adminDisabled → r.All fun m => memberIsTerminal m = true
  | .revokeSet _ _ _ _ =>
      r.lifecycle = .declared ∨ r.lifecycle = .adminDisabled →
        r.All fun m => memberIsTerminal m = true ∨ m.currentness = .setNotUsable
  | .retireSet _ _ _ =>
      r.lifecycle ≠ .active → r.lifecycle ≠ .degraded → r.lifecycle ≠ .exhausted →
        r.All fun m => m.lifecycle = .retired
  | .setMemberAdminEnabled _ _ memberId enabled _ =>
      r.lifecycle = .revoked → ∀ path m, r.finds memberId path m → memberIsTerminal m = true ∨ m.adminEnabled = enabled
  | .completeMemberRevalidation context ticket _ =>
      r.lifecycle = .revoked → ∀ path m, r.finds ticket.memberId path m →
        (staleCompletion e context ticket r m).isSome = true
  | _ => True

theorem staleCompletion_live {e : FabricEngine} {context : MutationContext} {ticket : RevalidationTicket}
    {r : SetRecord} {m : MemberRecord} (h : staleCompletion e context ticket r m = none) :
    memberIsTerminal m = false := by
  unfold staleCompletion at h
  split at h
  · cases h
  · split at h
    · cases h
    · split at h
      · cases h
      · split at h
        · cases h
        · rename_i hlive
          simpa using hlive

theorem memberTransition_withdraw {lifecycle next : MemberLifecycle}
    (h : memberTransition lifecycle .withdraw = some next) : next = .withdrawn := by
  cases lifecycle
  all_goals
    first
      | (cases h; rfl)
      | cases h

namespace SetRecord

variable {e : FabricEngine} {setId : MultipathSetId} {r x : SetRecord}

theorem settled_terminated (lifecycle : SetLifecycle) {context : Option MutationContext} (h : r.Settled)
    (hx : x.members = r.members) (hcount : x.usableMemberCount = r.usableMemberCount)
    (hlifecycle : x.lifecycle = lifecycle) (hclosed : lifecycle.isOpen = false) (hnot : lifecycle ≠ .withdrawn)
    (hreach : ¬(r.lifecycle = .active ∨ r.lifecycle = .degraded ∨ r.lifecycle = .exhausted) →
      r.All fun m => memberEnded lifecycle m = true) :
    (applyMemberConsequences e x r.lifecycle x.lifecycle context).Settled := by
  by_cases hsource : r.lifecycle = .active ∨ r.lifecycle = .degraded ∨ r.lifecycle = .exhausted
  · exact settled_consequences hsource (by rw [hlifecycle]; exact hclosed) (by rw [hlifecycle]; exact hnot)
  · rcases (consequences_cases e x r.lifecycle x.lifecycle context).2 with h' | h'
    · exact absurd h' hsource
    · rw [h']
      refine ⟨fun path m hm => ?_, by rw [hcount, hx, h.counted]⟩
      rw [hlifecycle]
      exact hreach hsource path m (hx ▸ hm)

theorem settled_withdrawn {context : MutationContext} {reason : Bytes} (h : r.Settled)
    (hreach : r.lifecycle = .adminDisabled → r.All fun m => memberIsTerminal m = true)
    (hmoved : r.applyTransition .beginWithdraw = .ok x) : (r.withdrawn e x context reason).Settled := by
  rcases applyTransition_beginWithdraw hmoved with ⟨hdeclared, rfl⟩ | ⟨hnot, hopen, rfl⟩
  · have hstay : ({ r.recompute with withdrawalReason := reason } : SetRecord).recompute.lifecycle = .declared :=
      recompute_declared (recompute_declared hdeclared)
    have hsame : r.withdrawn e r.recompute context reason =
        ({ r.recompute with withdrawalReason := reason } : SetRecord).recompute := by
      simp only [withdrawn, applyMemberConsequences, hstay, hdeclared, if_true]
    rw [hsame]
    exact settled_recompute (ended_open (recompute_open (hdeclared ▸ rfl)))
  · rw [withdrawn]
    refine settled_terminated .withdrawing h rfl h.counted.symm (recompute_closed rfl) rfl (by decide) fun hsource => ?_
    refine hreach ?_
    cases hl : r.lifecycle
    all_goals simp_all [SetLifecycle.isOpen]

theorem settled_live {path : PathId} {m m' : MemberRecord} (h : r.Settled) (hfound : r.members[path]? = some m)
    (hlive : memberIsTerminal m = false) (hnot : r.lifecycle ≠ .revoked) :
    (r.withMember path m').recompute.Settled := by
  rcases live_memberEnded (h.ended path m hfound) hlive with hopen | hrevoked
  · exact settled_recompute (ended_open hopen)
  · exact absurd hrevoked hnot

theorem ended_terminal (h : r.Settled)
    (hclosing : r.lifecycle = .withdrawing ∨ r.lifecycle = .withdrawn ∨ r.lifecycle = .superseded) :
    r.All fun m => memberIsTerminal m = true := by
  intro path m hm
  have hended := h.ended path m hm
  rcases hclosing with hl | hl | hl
  all_goals
    rw [hl] at hended
    exact hended

theorem publishMembers_lifecycle (context : MutationContext) (setId : MultipathSetId) (e : FabricEngine)
    (r : SetRecord) (requests : List (MemberRequest × Option PathAuthorityView)) :
    (FabricEngine.publishMembers context setId e r requests).2.1.lifecycle = r.lifecycle := by
  induction requests generalizing e r with
  | nil => rfl
  | cons request rest ih => exact ih _ _

theorem settled_recovered {r : SetRecord} (h : r.Ended) (e : FabricEngine) : (e.recoveredSet r).Settled where
  ended := by
    intro path m hm
    obtain ⟨m', hbumped, rfl⟩ := member_map hm
    obtain ⟨m, hfound, rfl⟩ := member_map hbumped
    exact (memberEnded_congr _ rfl rfl).trans (h path m hfound)
  counted := rfl

theorem settled_edit {op : Op} {summary : Bytes} (h : r.Settled)
    (hreach : op.ends = some setId → r.Reaches e op) (hedit : RecordEdit e setId r op x summary) : x.Settled := by
  cases hedit with
  | collided context key options minted => exact h.congr rfl rfl rfl
  | publish context moved => exact settled_plain h rfl moved
  | minimumChecked context minimum moved => exact settled_plain h rfl moved
  | minimumChanged context minimum moved bound =>
      refine settled_recompute fun path m hm => ?_
      exact ended_plain h.ended rfl moved path m hm
  | policyChecked context permitted moved => exact settled_plain h rfl moved
  | policyChanged context permitted moved =>
      have hopen := transitionAllowed_open rfl (applyTransition_allowed moved)
      refine settled_recompute (ended_open ?_)
      rcases applyTransition_plain rfl moved with rfl | ⟨_, hopen'⟩
      · exact hopen
      · exact hopen'
  | adminChecked context enabled moved => cases enabled <;> exact settled_plain h rfl moved
  | adminChanged context enabled moved =>
      refine settled_recompute fun path m hm => ?_
      cases enabled <;> exact ended_plain h.ended rfl moved path m hm
  | withdraw context reason bound moved => exact settled_withdrawn h (hreach rfl) moved
  | completeWithdrawal context moved =>
      obtain ⟨hwithdrawing, rfl⟩ := applyTransition_completeWithdraw moved
      refine ⟨fun path m hm => ?_, h.counted⟩
      have hended := h.ended path m hm
      rw [hwithdrawing] at hended
      exact hended
  | revoke context reason detail bound next moved =>
      obtain ⟨hfrom, rfl⟩ := applyTransition_revoke moved
      refine settled_terminated .revoked h rfl rfl rfl rfl (by decide) fun hsource path m hm => ?_
      change (memberIsTerminal m || m.currentness == .setNotUsable) = true
      rw [Bool.or_eq_true, beq_iff_eq]
      by_cases hunreached : r.lifecycle = .declared ∨ r.lifecycle = .adminDisabled
      · exact hreach rfl hunreached path m hm
      · refine .inl (ended_terminal h ?_ path m hm)
        rcases hfrom with hopen | hclosing
        · cases hl : r.lifecycle
          all_goals simp_all [SetLifecycle.isOpen]
        · exact hclosing.elim .inl fun h => .inr (.inl h)
  | retire context reason bound moved =>
      obtain ⟨_, rfl⟩ := applyTransition_retire moved
      refine settled_terminated .retired h rfl rfl rfl rfl (by decide) fun hsource path m hm => ?_
      rw [not_or, not_or] at hsource
      rw [memberEnded, beq_iff_eq]
      exact hreach rfl hsource.1 hsource.2.1 hsource.2.2 path m hm
  | superseded context successor known moved =>
      obtain ⟨hfrom, rfl⟩ := applyTransition_supersede moved
      refine settled_terminated .superseded h rfl rfl rfl rfl (by decide) fun hsource path m hm => ?_
      by_cases hunreached : r.lifecycle = .declared ∨ r.lifecycle = .adminDisabled
      · exact hreach rfl hunreached path m hm
      · refine ended_terminal h (.inl ?_) path m hm
        rcases hfrom with hopen | hclosing
        · cases hl : r.lifecycle
          all_goals simp_all [SetLifecycle.isOpen]
        · exact hclosing
  | supersedes context predecessor known taken accepts fresh => exact h.congr rfl rfl rfl
  | supersedesRecorded context predecessor known taken accepts fresh => exact h.congr rfl rfl rfl
  | added context publication valid allowed supported distinct moved =>
      refine settled_recompute (ended_open ?_)
      rw [publishMembers_lifecycle]
      rcases applyTransition_plain rfl moved with rfl | ⟨_, hopen⟩
      · exact transitionAllowed_open rfl allowed
      · exact hopen
  | removed context memberId reason bound found allowed moved =>
      refine settled_recompute fun path m hm => ?_
      exact ended_plain h.ended rfl moved path m (member_erase hm).2
  | withdrewMember context memberId reason bound found allowed ends moved =>
      refine settled_recompute (ended_withMember (ended_plain h.ended rfl moved) ?_)
      rcases applyTransition_plain rfl moved with rfl | ⟨_, hopen⟩
      · rcases transitionAllowed_trims rfl allowed with hopen | hclosing
        · exact memberEnded_open hopen _
        · rw [hclosing, memberTransition_withdraw ends]
          rfl
      · exact memberEnded_open hopen _
  | replaced context memberId request reason view known valid bound found other allowed supported free moved =>
      refine settled_recompute (ended_open ?_)
      rcases applyTransition_plain rfl moved with rfl | ⟨_, hopen⟩
      · exact transitionAllowed_open rfl allowed
      · exact hopen
  | toggled context memberId enabled view found live changes =>
      refine settled_live h found.2 live fun hrevoked => ?_
      rcases hreach rfl hrevoked _ _ found with hterminal | hsame
      · rw [live] at hterminal
        cases hterminal
      · exact changes hsame
  | revalidatedSet context views allowed =>
      have hopen := transitionAllowed_open rfl allowed
      exact ⟨ended_open (recompute_open hopen), rfl⟩
  | revalidatedMember context memberId view found allowed live =>
      refine settled_live h found.2 live fun hrevoked => ?_
      rcases transitionAllowed_trims rfl allowed with hopen | hclosing
      · rw [hrevoked] at hopen
        cases hopen
      · rw [hrevoked] at hclosing
        cases hclosing
  | begun context memberId attempt found live room => exact settled_withMember h found.2 rfl rfl
  | released context ticket current names found pending stale => exact settled_withMember h found.2 rfl rfl
  | completed context ticket current names found pending fresh =>
      refine settled_live h found.2 (staleCompletion_live fresh) fun hrevoked => ?_
      have hstale := hreach (congrArg some names) hrevoked _ _ found
      rw [fresh] at hstale
      cases hstale
  | abandoned ticket names found pending => exact settled_withMember h found.2 rfl rfl
  | observed applied open_ found same => exact settled_withMember h found same.1 same.2
  | @invalidated op path view context m applied open_ found =>
      obtain ⟨hlifecycle, hmembers, hcount⟩ := dependencyInvalidated_fields e r path
        (m.evaluate r.conditionalAuthorityPermitted view false) context .pathInvalidated
      refine Settled.congr (settled_recompute (ended_withMember h.ended ?_)) hlifecycle hmembers hcount
      rcases setIsFrozen_false open_ with hopen | hclosing
      · exact memberEnded_open hopen _
      · have hterminal := h.ended path m found
        have hnot : r.lifecycle ≠ .revoked := by rw [hclosing]; decide
        rw [memberEnded_congr_lifecycle hnot (MemberRecord.evaluate_terminal ?_ _ _ _)]
        · exact hterminal
        · rw [hclosing] at hterminal
          exact hterminal

/-- What a set in one of the closing lifecycles owes: the ending has reached every member. -/
structure TerminationReached (r : SetRecord) : Prop where
  retired : r.lifecycle = .retired → r.All fun m => m.lifecycle = .retired
  withdrawn : r.lifecycle = .withdrawing ∨ r.lifecycle = .withdrawn ∨ r.lifecycle = .superseded →
    r.All fun m => m.lifecycle = .withdrawn ∨ m.lifecycle = .superseded ∨ m.lifecycle = .retired
  revoked : r.lifecycle = .revoked → r.All fun m => memberIsTerminal m = false → m.currentness = .setNotUsable
  unusable : r.lifecycle.isOpen = false → r.usableMemberCount = 0

theorem memberIsTerminal_iff (m : MemberRecord) :
    memberIsTerminal m = true ↔ m.lifecycle = .withdrawn ∨ m.lifecycle = .superseded ∨ m.lifecycle = .retired := by
  simp [memberIsTerminal, or_assoc]

theorem Settled.reached {r : SetRecord} (h : r.Settled) : r.TerminationReached where
  retired := by
    intro hl path m hm
    have hended := h.ended path m hm
    rw [hl] at hended
    exact beq_iff_eq.mp hended
  withdrawn := by
    intro hclosing path m hm
    exact (memberIsTerminal_iff m).mp (ended_terminal h hclosing path m hm)
  revoked := by
    intro hl path m hm hlive
    have hended := h.ended path m hm
    rw [hl] at hended
    change (memberIsTerminal m || m.currentness == .setNotUsable) = true at hended
    rw [hlive, Bool.false_or, beq_iff_eq] at hended
    exact hended
  unusable := by
    intro hclosed
    rw [h.counted]
    by_contra hcount
    obtain ⟨path, m, hm, husable⟩ := exists_of_count_pos (Nat.pos_of_ne_zero hcount)
    rw [usable_memberEnded (h.ended path m hm) husable] at hclosed
    cases hclosed

end SetRecord

def FabricEngine.loadedSets (e : FabricEngine) : Op → List SetRecord
  | .loadStore path files =>
      match readAndDecode path e.limits files with
      | .ok (decoded, _) =>
          if decoded.epoch.next.isSome && decoded.authorityGeneration.next.isSome then decoded.sets else []
      | .error _ => []
  | _ => []

/-- The condition on one step from `e`. A loaded store must hold sets that are themselves settled, as a store
that a run of such steps has saved does. -/
def FabricEngine.Reaches (e : FabricEngine) (op : Op) : Prop :=
  (∀ setId r, op.ends = some setId → e.sets[setId]? = some r → r.Reaches e op) ∧
    ∀ r ∈ e.loadedSets op, r.Ended

theorem settled_step {e : FabricEngine} {op : Op} {setId : MultipathSetId} {entry entry' : Option SetRecord}
    (hstep : SetStep e op setId entry entry') (hentry : e.sets[setId]? = entry) (hreach : e.Reaches op)
    (h : ∀ r, entry = some r → r.Settled) : ∀ r, entry' = some r → r.Settled := by
  cases hstep with
  | kept => exact h
  | changed edit stored =>
      intro r' heq
      cases heq
      have hsettled := h _ rfl
      exact SetRecord.settled_sealed
        (SetRecord.settled_edit hsettled (fun hends => hreach.1 setId _ hends hentry) edit) stored
  | created creates caller named bound minted =>
      intro r heq
      cases heq
      refine ⟨fun path m hm => ?_, ?_⟩
      · simp [FabricEngine.appendHistory, FabricEngine.declaredRecord] at hm
      · exact (count_empty MemberRecord.usable).symm
  | fenced fences next owner =>
      intro r heq
      cases heq
      exact SetRecord.settled_bumpWatermark ((h _ rfl).congr rfl rfl rfl)
  | epochAdvanced advances bounds epoch authority =>
      intro r heq
      cases heq
      exact (SetRecord.settled_bumpWatermark ((h _ rfl).congr rfl rfl rfl)).congr rfl rfl rfl
  | cleared loads =>
      intro r heq
      cases heq
  | recovered loads read stored named bounds epoch authority =>
      intro r heq
      cases heq
      refine SetRecord.settled_recovered (hreach.2 _ ?_) _
      rw [loads, FabricEngine.loadedSets, read]
      dsimp only
      rw [epoch, authority]
      exact stored

theorem settled_of_run {config : FabricConfig} {e : FabricEngine} (run : Run FabricEngine.Reaches config e) :
    ∀ (setId : MultipathSetId) (r : SetRecord), e.sets[setId]? = some r → r.Settled := by
  induction run with
  | init ids =>
      intro setId r h
      simp [FabricEngine.init] at h
  | @step e _ op reaches ih =>
      intro setId
      exact settled_step (e.after_sets op setId) rfl reaches (ih setId)

/-- In every run whose steps, as far as they are taken up, all reach the members, every ended set has reached its
members. -/
theorem terminationReached_of_run (config : FabricConfig) (e : FabricEngine)
    (run : Run (FabricEngine.TakenUp FabricEngine.Reaches) config e) (setId : MultipathSetId) (r : SetRecord)
    (h : e.sets[setId]? = some r) : r.TerminationReached :=
  (settled_of_run run.takenUp setId r h).reached

theorem FabricEngine.reaches_other {op : Op} (hends : op.ends = none)
    (hload : ∀ e : FabricEngine, e.loadedSets op = []) (e : FabricEngine) : e.Reaches op := by
  refine ⟨fun setId r h => ?_, fun r h => ?_⟩
  · rw [hends] at h
    cases h
  · rw [hload] at h
    cases h

theorem terminationReached_of_run_retired :
    ∃ r, ((sampleRun (sampleSteps ++ [.publishSet (sampleContext "a4") sampleSet])).after
      (.retireSet (sampleContext "a5") sampleSet [])).sets[sampleSet]? = some r ∧ r.TerminationReached := by
  have hactive : (sampleRun (sampleSteps ++ [.publishSet (sampleContext "a4") sampleSet])).sets[sampleSet]?.map
      SetRecord.lifecycle = some .active := by
    decide +kernel
  have hretired : (((sampleRun (sampleSteps ++ [.publishSet (sampleContext "a4") sampleSet])).after
      (.retireSet (sampleContext "a5") sampleSet [])).sets[sampleSet]?).isSome = true := by
    decide +kernel
  have hrun : Run (FabricEngine.TakenUp FabricEngine.Reaches) sampleConfig
      (sampleRun (sampleSteps ++ [.publishSet (sampleContext "a4") sampleSet])) := by
    refine Run.afterAll (fun op hop => ?_) (.init sampleIds)
    simp only [sampleSteps, List.cons_append, List.nil_append, List.mem_cons, List.not_mem_nil, or_false] at hop
    rcases hop with rfl | rfl | rfl | rfl | rfl
    all_goals exact fun e _ => FabricEngine.reaches_other rfl (fun _ => rfl) e
  obtain ⟨r, hr⟩ := Option.isSome_iff_exists.mp hretired
  have hreach : (sampleRun (sampleSteps ++ [.publishSet (sampleContext "a4") sampleSet])).Reaches
      (.retireSet (sampleContext "a5") sampleSet []) := by
    refine ⟨fun setId r hends hfound => ?_, fun _ h => by cases h⟩
    cases hends
    rw [hfound] at hactive
    exact fun hnot => absurd (Option.some.inj hactive) hnot
  exact ⟨r, hr, terminationReached_of_run sampleConfig _ (.step hrun _ fun _ => hreach) sampleSet r hr⟩

/-- A set retired before it was published keeps its member as it was. -/
theorem terminationReached_fails :
    ¬∀ (config : FabricConfig) (e : FabricEngine), Reachable config e →
      ∀ (setId : MultipathSetId) (r : SetRecord), e.sets[setId]? = some r → r.TerminationReached := by
  intro h
  have hrun : ((sampleRun (sampleSteps ++ [.retireSet (sampleContext "a4") sampleSet []])).sets[sampleSet]?.map
      fun r => (r.lifecycle, r.members[samplePath]?.map MemberRecord.lifecycle)) =
      some (.retired, some .current) := by
    decide +kernel
  obtain ⟨r, hfound, hr⟩ := Option.map_eq_some_iff.mp hrun
  obtain ⟨hretired, hmember⟩ := Prod.mk.inj hr
  obtain ⟨m, hm, hcurrent⟩ := Option.map_eq_some_iff.mp hmember
  have hreached : m.lifecycle = .retired :=
    (h _ _ (sampleRun_reachable _) sampleSet r hfound).retired hretired samplePath m hm
  rw [hcurrent] at hreached
  cases hreached

end MultipathFabric
