import MultipathFabric.Counters
import MultipathFabric.FreshIdentities
import MultipathFabric.Recovery

namespace MultipathFabric

open OrderedMap Checked MemberRecord

theorem Watermark.lt_bump {w : Watermark} (room : w.next.isSome = true) :
    w.value.toNat < (w.next.getD w).value.toNat := by
  obtain ⟨next, hnext⟩ := Option.isSome_iff_exists.mp room
  have hvalue := toNat_of_next hnext
  rw [hnext, Option.getD_some]
  omega

theorem Watermark.eq_of_toNat {w w' : Watermark} (h : w.value.toNat = w'.value.toNat) : w = w' := by
  cases w
  cases w'
  exact congrArg _ (UInt64.toNat_inj.mp h)

theorem Watermark.lt_later_bump {w later : Watermark} (room : w.next.isSome = true)
    (le : w.value.toNat ≤ later.value.toNat) : w.value.toNat < (later.next.getD later).value.toNat := by
  rcases Nat.lt_or_eq_of_le le with hlt | heq
  · exact lt_of_lt_of_le hlt later.le_bump
  · rw [← eq_of_toNat heq]
    exact lt_bump room

def Op.Rebinds (setId : MultipathSetId) (op : Op) : Prop := ∃ context views, op = .revalidateSet context setId views

namespace MemberRecord

structure Rests (calm : Prop) (m m' : MemberRecord) : Prop where
  lifecycle : m'.lifecycle = m.lifecycle
  currentness : m'.currentness = m.currentness
  adminEnabled : m'.adminEnabled = m.adminEnabled
  bound : calm → m'.boundAuthorityGeneration = m.boundAuthorityGeneration

structure Marks (calm : Prop) (m m' : MemberRecord) : Prop where
  ascends : m.invalidationWatermark.value.toNat ≤ m'.invalidationWatermark.value.toNat
  rests : memberIsTerminal m = false → m.invalidationWatermark.next.isSome = true →
    m'.invalidationWatermark = m.invalidationWatermark → m.Rests calm m'

variable {calm : Prop} {m m' m'' : MemberRecord}

theorem Rests.refl (m : MemberRecord) : m.Rests calm m := ⟨rfl, rfl, rfl, fun _ => rfl⟩

theorem Rests.trans (h : m.Rests calm m') (h' : m'.Rests calm m'') : m.Rests calm m'' where
  lifecycle := h'.lifecycle.trans h.lifecycle
  currentness := h'.currentness.trans h.currentness
  adminEnabled := h'.adminEnabled.trans h.adminEnabled
  bound hcalm := (h'.bound hcalm).trans (h.bound hcalm)

theorem Rests.live (h : m.Rests calm m') (live : memberIsTerminal m = false) : memberIsTerminal m' = false := by
  rw [live_of_lifecycle h.lifecycle]
  exact live

theorem Marks.of_rests (same : m'.invalidationWatermark = m.invalidationWatermark) (rests : m.Rests calm m') :
    m.Marks calm m' := by
  refine ⟨?_, fun _ _ _ => rests⟩
  rw [same]

theorem Marks.refl (m : MemberRecord) : m.Marks calm m := .of_rests rfl (.refl m)

theorem Marks.trans (h : m.Marks calm m') (h' : m'.Marks calm m'') : m.Marks calm m'' := by
  refine ⟨h.ascends.trans h'.ascends, fun live room same => ?_⟩
  have hfirst : m'.invalidationWatermark = m.invalidationWatermark := by
    apply Watermark.eq_of_toNat
    have hsecond := h'.ascends
    rw [same] at hsecond
    exact le_antisymm hsecond h.ascends
  have hrests := h.rests live room hfirst
  refine hrests.trans (h'.rests (hrests.live live) ?_ (same.trans hfirst.symm))
  rw [hfirst]
  exact room

theorem Marks.bumped {moved : MemberRecord}
    (before : m.invalidationWatermark.value.toNat ≤ moved.invalidationWatermark.value.toNat)
    (after : moved.bumpWatermark.invalidationWatermark.value.toNat ≤ m'.invalidationWatermark.value.toNat) :
    m.Marks calm m' := by
  refine ⟨before.trans (moved.invalidationWatermark.le_bump.trans after), fun _ room same => ?_⟩
  have hmoved := lt_of_lt_of_le (Watermark.lt_later_bump room before) after
  rw [same] at hmoved
  exact absurd hmoved (lt_irrefl _)

theorem marks_event (m : MemberRecord) (event : MemberEvent) : m.Marks calm (m.applyEvent event) := by
  unfold applyEvent
  split
  · exact .refl m
  · rename_i next _
    by_cases hmoves : next = m.lifecycle
    · rw [if_neg (not_not_intro hmoves)]
      exact .of_rests rfl ⟨hmoves, rfl, rfl, fun _ => rfl⟩
    · rw [if_pos hmoves]
      exact .bumped (le_refl m.invalidationWatermark.value.toNat) (le_refl _)

theorem marks_evaluated (m : MemberRecord) (permitted : Bool) (view : Option PathAuthorityView) (explicit : Bool) :
    m.Marks calm (m.evaluate permitted view explicit) := by
  unfold evaluate
  split
  · rename_i hterminal
    refine ⟨le_refl _, fun live => ?_⟩
    rw [live] at hterminal
    cases hterminal
  · dsimp only
    refine Marks.trans ?_ (marks_event _ _)
    by_cases hobserved : m.currentness = m.observe permitted view
    · rw [if_neg (not_not_intro hobserved)]
      exact .of_rests rfl ⟨rfl, hobserved.symm, rfl, fun _ => rfl⟩
    · rw [if_pos hobserved]
      exact .bumped (le_refl m.invalidationWatermark.value.toNat) (le_refl _)

theorem marks_rebound (m : MemberRecord) (stirs : ¬calm) (permitted : Bool) (view : Option PathAuthorityView) :
    m.Marks calm (m.rebound permitted view) := by
  unfold rebound
  refine Marks.trans ?_ (marks_evaluated _ _ _ _)
  exact .of_rests rfl ⟨rfl, rfl, rfl, fun hcalm => absurd hcalm stirs⟩

theorem marks_revalidated (m : MemberRecord) (permitted : Bool) (view : Option PathAuthorityView) :
    m.Marks calm (m.revalidated permitted view) := by
  have hrebound := (ascends_rebound m permitted view).watermark
  unfold revalidated
  dsimp only
  split
  · exact .bumped hrebound (le_refl _)
  · rename_i hsteady
    refine ⟨hrebound, fun live _ _ => ?_⟩
    unfold revalidationChanged at hsteady
    simp only [Bool.or_eq_true, bne_iff_ne, not_or, not_not] at hsteady
    obtain ⟨⟨hlifecycle, hcurrentness⟩, hbound⟩ := hsteady
    exact ⟨hlifecycle.symm, hcurrentness.symm, rebound_adminEnabled m permitted view, fun _ => hbound.symm⟩

theorem marks_toggled (m : MemberRecord) (permitted : Bool) (view : Option PathAuthorityView) (enabled : Bool) :
    m.Marks calm (m.toggled permitted view enabled) := by
  have hmoved : m.Marks calm (MemberRecord.bumpWatermark
      { m with adminEnabled := enabled, generation := m.generation.next.getD m.generation }) :=
    .bumped (le_refl m.invalidationWatermark.value.toNat) (le_refl _)
  exact hmoved.trans (marks_evaluated _ _ _ _)

end MemberRecord

variable {e : FabricEngine} {setId : MultipathSetId} {op : Op} {r x : SetRecord} {path : PathId} {m m' : MemberRecord}
  {calm : Prop}

theorem MemberChange.marks (change : MemberChange e setId r path op m m') (stirs : op.Rebinds setId → ¬calm) :
    m.Marks calm m' := by
  cases change with
  | ended => exact .bumped (ascends_event _ _).watermark (le_refl _)
  | marked => exact .bumped (ascends_marked _).watermark (le_refl _)
  | observed | reevaluated => exact marks_evaluated _ _ _ _
  | rebound => exact marks_rebound _ (stirs ⟨_, _, rfl⟩) _ _
  | revalidated => exact marks_revalidated _ _ _
  | completed => exact (marks_revalidated _ _ _).trans (.of_rests rfl ⟨rfl, rfl, rfl, fun _ => rfl⟩)
  | released | abandoned | begun => exact .of_rests rfl ⟨rfl, rfl, rfl, fun _ => rfl⟩
  | toggled => exact marks_toggled _ _ _ _
  | withdrawn | superseded => exact .bumped (le_refl m.invalidationWatermark.value.toNat) (le_refl _)

theorem StepPlace.relates {R : MemberRecord → MemberRecord → Prop} (refl : ∀ k, R k k)
    (trans : ∀ k k' k'', R k k' → R k' k'' → R k k'') (bumped : R m m.bumpWatermark)
    (cleared : ∀ k pruned, R k (MemberRecord.clearLineage k pruned))
    (changed : ∀ k', MemberChange e setId r path op m k' → R m k') (place : StepPlace e setId r path op (some m'))
    (found : r.members[path]? = some m) (same : m'.id = m.id) (fresh : m.id ∉ e.ids.upcoming op.admissions) : R m m' := by
  generalize hafter : some m' = after at place
  cases place with
  | bumped =>
      rw [found] at hafter
      cases hafter
      exact bumped
  | @stored entry _ change sealed_ =>
      have hsealed : ∀ middle, entry = some middle → R middle m' ∧ m'.id = middle.id := by
        rintro middle rfl
        cases sealed_ with
        | kept =>
            cases hafter
            exact ⟨refl m', rfl⟩
        | cleared pruned =>
            cases hafter
            exact ⟨cleared _ pruned, rfl⟩
        | pruned => cases hafter
      rw [found] at change
      generalize hbefore : some m = before at change
      cases change with
      | kept =>
          cases hbefore
          exact (hsealed m rfl).1
      | changed change =>
          cases hbefore
          exact trans m _ m' (changed _ change) (hsealed _ rfl).1
      | removed =>
          cases sealed_ with
          | kept => cases hafter
      | admitted _ admission =>
          obtain ⟨hadmits, hminted⟩ := FabricEngine.admission_mints admission
          rw [← (hsealed _ rfl).2, same] at hminted
          exact absurd hminted fresh

theorem StepPlace.marks (place : StepPlace e setId r path op (some m')) (found : r.members[path]? = some m)
    (same : m'.id = m.id) (fresh : m.id ∉ e.ids.upcoming op.admissions) (stirs : op.Rebinds setId → ¬calm) :
    m.Marks calm m' := by
  refine place.relates (R := Marks calm) .refl (fun _ _ _ => .trans) ?_ ?_ ?_ found same fresh
  · exact .bumped (le_refl m.invalidationWatermark.value.toNat) (le_refl _)
  · exact fun k _ => .of_rests rfl ⟨rfl, rfl, rfl, fun _ => rfl⟩
  · exact fun k' change => change.marks stirs

namespace FabricEngine

structure Survives (calm : Prop) (setId : MultipathSetId) (e e' : FabricEngine) (r r' : SetRecord) (m m' : MemberRecord) :
    Prop where
  member : m.Marks calm m'
  set : r.Ascends r'
  epoch : e.currentEpoch.value.toNat ≤ e'.currentEpoch.value.toNat
  found : e.sets[setId]? = some r
  found' : e'.sets[setId]? = some r'

/-- A step of a window: no load, and no rebinding where the window is `calm`. -/
structure InWindow (calm : Prop) (setId : MultipathSetId) (e : FabricEngine) (op : Op) : Prop where
  plain : op.loads = false
  ahead : e.MintsAhead op
  stirs : op.Rebinds setId → ¬calm

theorem spent_after {memberId : MultipathMemberId} (ahead : e.MintsAhead op) (spent : ¬e.ids.Awaits .mem memberId.view) :
    ¬(e.after op).ids.Awaits .mem memberId.view := by
  intro hawaits
  apply spent
  rcases e.after_ids op with hids | ⟨hids, -⟩
  · rw [hids] at hawaits
    exact hawaits.of_skip ahead.lasts
  · rw [hids] at hawaits
    exact hawaits

theorem InWindow.survives {memberId : MultipathMemberId} {r' : SetRecord} (step : e.InWindow calm setId op)
    (spent : ¬e.ids.Awaits .mem memberId.view) (found' : (e.after op).sets[setId]? = some r')
    (hm' : r'.members[path]? = some m') (named : m'.id = memberId) :
    ∃ r m, Survives calm setId e (e.after op) r r' m m' ∧ r.members[path]? = some m ∧ m.id = memberId := by
  have hfresh : memberId ∉ e.ids.upcoming op.admissions := by
    intro hmem
    exact spent (IdFactory.upcoming_awaited step.ahead.admits hmem)
  rw [← named] at hfresh
  obtain ⟨r, m, hr, hm, hsame⟩ := step_known step.plain found' hm' hfresh
  obtain ⟨stored, hstored, hplace⟩ := step_place step.plain hr
  rw [found'] at hstored
  cases hstored
  have hpath := hplace path
  rw [hm'] at hpath
  rw [hsame] at hfresh
  have hascends := e.after_ascends step.plain
  obtain ⟨stored, hstored, hset⟩ := hascends.sets setId r hr
  rw [found'] at hstored
  cases hstored
  exact ⟨r, m, ⟨hpath.marks hm hsame hfresh step.stirs, hset, hascends.epoch, hr, found'⟩, hm, hsame.symm.trans named⟩

theorem Survives.trans {e' e'' : FabricEngine} {r' r'' : SetRecord} {m'' : MemberRecord}
    (h : Survives calm setId e e' r r' m m') (h' : Survives calm setId e' e'' r' r'' m' m'') :
    Survives calm setId e e'' r r'' m m'' :=
  ⟨h.member.trans h'.member, h.set.trans h'.set, h.epoch.trans h'.epoch, h.found, h'.found'⟩

/-- What has not gone on at the end has not gone on in between. -/
theorem Survives.still {e' e'' : FabricEngine} {r' r'' : SetRecord} {m'' : MemberRecord}
    (h : Survives calm setId e e' r r' m m') (h' : Survives calm setId e' e'' r' r'' m' m'')
    (member : m''.invalidationWatermark = m.invalidationWatermark)
    (set : r''.invalidationWatermark = r.invalidationWatermark) (epoch : e.currentEpoch = e''.currentEpoch) :
    m'.invalidationWatermark = m.invalidationWatermark ∧ r'.invalidationWatermark = r.invalidationWatermark ∧
      e'.currentEpoch = e.currentEpoch := by
  have hmember := h'.member.ascends
  have hset := h'.set.watermark
  have hepoch := h'.epoch
  rw [member] at hmember
  rw [set] at hset
  rw [← epoch] at hepoch
  refine ⟨?_, ?_, ?_⟩
  · exact Watermark.eq_of_toNat (le_antisymm hmember h.member.ascends)
  · exact Watermark.eq_of_toNat (le_antisymm hset h.set.watermark)
  · exact Generation.ext (UInt64.toNat_inj.mp (le_antisymm hepoch h.epoch))

theorem window_spent {e' : FabricEngine} {memberId : MultipathMemberId} (window : Continues (InWindow calm setId) e e')
    (spent : ¬e.ids.Awaits .mem memberId.view) : ¬e'.ids.Awaits .mem memberId.view := by
  apply window.keeps (P := fun x => ¬x.ids.Awaits .mem memberId.view) spent
  exact fun x op _ hspent hstep => spent_after hstep.ahead hspent

theorem window_survives {e' : FabricEngine} {memberId : MultipathMemberId} {r' : SetRecord}
    (window : Continues (InWindow calm setId) e e') (spent : ¬e.ids.Awaits .mem memberId.view)
    (found' : e'.sets[setId]? = some r') (hm' : r'.members[path]? = some m') (named : m'.id = memberId) :
    ∃ r m, Survives calm setId e e' r r' m m' ∧ r.members[path]? = some m ∧ m.id = memberId := by
  have hsurvives : ∀ (r' : SetRecord) (path : PathId) (m' : MemberRecord), e'.sets[setId]? = some r' →
      r'.members[path]? = some m' → m'.id = memberId →
        ∃ r m, Survives calm setId e e' r r' m m' ∧ r.members[path]? = some m ∧ m.id = memberId := by
    apply window.keeps (P := fun x => ∀ (r' : SetRecord) (path : PathId) (m' : MemberRecord), x.sets[setId]? = some r' →
      r'.members[path]? = some m' → m'.id = memberId →
        ∃ r m, Survives calm setId e x r r' m m' ∧ r.members[path]? = some m ∧ m.id = memberId)
    · exact fun r' path m' hr' hm' hid => ⟨r', m', ⟨.refl m', .refl r', le_refl _, hr', hr'⟩, hm', hid⟩
    · intro x op hx hsurvives hstep r'' path m'' hr'' hm'' hid
      obtain ⟨r', m', hlast, hm', hid'⟩ := hstep.survives (window_spent hx spent) hr'' hm'' hid
      obtain ⟨r, m, hfirst, hm, hid⟩ := hsurvives r' path m' hlast.found hm' hid'
      exact ⟨r, m, hfirst.trans hlast, hm, hid⟩
  exact hsurvives r' path m' found' hm' named

theorem begin_ticket {context : MutationContext} {memberId : MultipathMemberId} {attempt : RevalidationAttemptId}
    {ticket : RevalidationTicket} (issued : (e.beginMemberRevalidation context setId memberId attempt).2.2 = some ticket) :
    ∃ r path m, e.sets[setId]? = some r ∧ r.finds memberId path m ∧ memberIsTerminal m = false ∧
      m.pendingRevalidations.toNat < e.limits.maxPendingRevalidationsPerSet.toNat ∧
      (e.beginMemberRevalidation context setId memberId attempt).1 =
        e.putSet setId (r.withMember path { m with pendingRevalidations := m.pendingRevalidations + 1 }) ∧
      ticket = ⟨setId, memberId, attempt, m.generation, r.invalidationWatermark, m.invalidationWatermark, e.currentEpoch,
        m.boundAuthorityGeneration, true⟩ := by
  revert issued
  unfold beginMemberRevalidation
  dsimp only
  split
  · rename_i result h
    intro issued
    simp only [Checked.bind_ok, Checked.require_ok, Checked.present_ok, Checked.pure_ok, decide_eq_true_eq,
      Bool.not_eq_true'] at h
    obtain ⟨_, _, _, _, r, hset, path, hpath, m, hmember, _, hlive, _, hroom, rfl⟩ := h
    exact ⟨r, path, m, requireSet_ok hset, ⟨hpath, hmember⟩, hlive, hroom, rfl, (Option.some_inj.mp issued).symm⟩
  · intro issued
    cases issued

theorem complete_fresh {context : MutationContext} {ticket : RevalidationTicket} {current : Option PathAuthorityView}
    (accepted : (e.completeMemberRevalidation context ticket current).2.succeeded = true) :
    ∃ r path m, e.sets[ticket.setId]? = some r ∧ r.finds ticket.memberId path m ∧ m.pendingRevalidations ≠ 0 ∧
      staleCompletion e context ticket r m = none := by
  unfold completeMemberRevalidation at accepted
  have hok := accepted_ok ?_ accepted
  · simp only [Checked.bind_ok, Checked.present_ok, Checked.require_ok, bne_iff_ne] at hok
    obtain ⟨_, _, _, _, _, _, r, hset, path, hpath, m, hmember, _, hpending, hok⟩ := hok
    refine ⟨r, path, m, requireSet_ok hset, ⟨hpath, hmember⟩, hpending, ?_⟩
    split at hok
    · rename_i rejection hstale
      rw [Checked.pure_ok] at hok
      rw [← hok, (FabricOutcome.rejects_iff.mp (staleCompletion_rejects hstale)).1] at accepted
      cases accepted
    · assumption
  · refine .bind (.require rfl) fun _ _ => .bind (.require rfl) fun _ _ =>
      .bind (authorityCheck_refuses _ _ _ _) fun _ _ => .bind (requireSet_refuses _ _) fun _ _ =>
        .bind (.present rfl) fun _ _ => .bind (.present rfl) fun _ _ => .bind (.require rfl) fun _ _ => ?_
    split
    · exact .pure _
    · exact .ite (.pure _) (.pure _)

theorem staleCompletion_same {context : MutationContext} {ticket : RevalidationTicket} {r : SetRecord} {m : MemberRecord}
    (h : staleCompletion e context ticket r m = none) : r.invalidationWatermark = ticket.setWatermark ∧
      m.invalidationWatermark = ticket.memberWatermark ∧ ticket.epoch = e.currentEpoch := by
  unfold staleCompletion at h
  split at h
  · cases h
  · rename_i hmarks
    rw [not_or, not_not, not_not] at hmarks
    split at h
    · cases h
    · rename_i hepoch
      exact ⟨hmarks.1, hmarks.2, not_not.mp hepoch⟩

/-- Between the issue of a ticket and an accepted completion with it, at whatever moment `x`, the member has been live and
what it was when the ticket was issued, the set has taken no mark, and the epoch has stood. The binding too has been the
same, where no revalidation of the whole set came in between. -/
theorem completion_uninterrupted {config : FabricConfig} {x e' : FabricEngine} {context caller : MutationContext}
    {memberId : MultipathMemberId} {attempt : RevalidationAttemptId} {ticket : RevalidationTicket}
    {current : Option PathAuthorityView} (h : Run (TakenUp MintsAhead) config e)
    (issued : (e.beginMemberRevalidation context setId memberId attempt).2.2 = some ticket)
    (opens : Continues (TakenUp (InWindow calm setId)) (e.after (.beginMemberRevalidation context setId memberId attempt)) x)
    (lasts : Continues (TakenUp (InWindow calm setId)) x e') (room : ticket.memberWatermark.next.isSome = true)
    (accepted : (e'.completeMemberRevalidation caller ticket current).2.succeeded = true) :
    ∃ (r r' : SetRecord) (path : PathId) (m m' : MemberRecord), e.sets[setId]? = some r ∧ x.sets[setId]? = some r' ∧
      r.members[path]? = some m ∧ r'.members[path]? = some m' ∧ m.id = memberId ∧ m'.id = memberId ∧
      memberIsTerminal m = false ∧ m.Rests calm m' ∧
      r'.invalidationWatermark = r.invalidationWatermark ∧ x.currentEpoch = e.currentEpoch := by
  have run := h.takenUp
  have before := opens.takenUp
  have later := lasts.takenUp
  obtain ⟨r, path, m, hr, ⟨hindex, hm⟩, hlive, -, -, rfl⟩ := begin_ticket issued
  obtain ⟨m₀, hm₀, hid⟩ := found_of_run run.reachable setId r hr memberId path hindex
  rw [hm] at hm₀
  cases hm₀
  have hminted := (ahead_of_run run setId r hr).2
  have hspent : ¬e.ids.Awaits .mem memberId.view := by
    rw [← hid]
    exact hminted.members path m hm
  have hbegin : e.InWindow calm setId (.beginMemberRevalidation context setId memberId attempt) := by
    refine ⟨rfl, mintsAhead_of_plain rfl e.ids.counter.toNat_lt, ?_⟩
    rintro ⟨_, _, hop⟩
    cases hop
  have hbegun := spent_after hbegin.ahead hspent
  have hreachable : Reachable config e' := later.reachable (before.reachable (.step run.reachable _ trivial))
  obtain ⟨r₃, path₃, m₃, hr₃, ⟨hindex₃, hm₃⟩, -, hfresh⟩ := complete_fresh accepted
  obtain ⟨hsetMark, hmark, hepoch⟩ := staleCompletion_same hfresh
  dsimp only at hr₃ hindex₃ hsetMark hmark hepoch room
  obtain ⟨m₀, hm₀, hid₃⟩ := found_of_run hreachable setId r₃ hr₃ memberId path₃ hindex₃
  rw [hm₃] at hm₀
  cases hm₀
  obtain ⟨r₂, m₂, hlast, hm₂, hid₂⟩ := window_survives later (window_spent before hbegun) hr₃ hm₃ hid₃
  obtain ⟨r₁, m₁, hmiddle, hm₁, hid₁⟩ := window_survives before hbegun hlast.found hm₂ hid₂
  obtain ⟨r₀, m₀, hfirst, hm₀, hid₀⟩ := hbegin.survives hspent hmiddle.found hm₁ hid₁
  rw [hfirst.found] at hr
  cases hr
  have hplace : path = path₃ := hminted.place_unique hm hm₀ (hid.trans hid₀.symm)
  subst hplace
  rw [hm] at hm₀
  cases hm₀
  have hwindow := hfirst.trans hmiddle
  obtain ⟨hstill, hset, hepochs⟩ := hwindow.still hlast hmark hsetMark hepoch
  exact ⟨r, r₂, path, m, m₂, hwindow.found, hwindow.found', hm, hm₂, hid, hid₂, hlive,
    hwindow.member.rests hlive room hstill, hset, hepochs⟩

def begins : Op := .beginMemberRevalidation (sampleContext "a4") sampleSet sampleMember (sampleId "r1")

def begun : Option RevalidationTicket :=
  ((sampleRun sampleSteps).beginMemberRevalidation (sampleContext "a4") sampleSet sampleMember (sampleId "r1")).2.2

def declaresOther : Op := .declarePathAuthority (sampleContext "a5") ⟨sampleId "pathB", .first, .authorized⟩

theorem sampleRun_ahead : Run (TakenUp MintsAhead) sampleConfig (sampleRun sampleSteps) := by
  refine .step (.step (.step (.step (.init sampleIds) _ fun _ => ?_) _ fun _ => ?_) _ fun _ => ?_) _ fun _ => ?_
  all_goals
    refine mintsAhead_of_plain rfl ?_
    unfold IdFactory.Lasts
    decide +kernel

theorem completion_uninterrupted_sample : ∃ (r r' : SetRecord) (m m' : MemberRecord),
    (sampleRun sampleSteps).sets[sampleSet]? = some r ∧
    (((sampleRun sampleSteps).after begins).after declaresOther).sets[sampleSet]? = some r' ∧ m.id = sampleMember ∧
    m'.id = sampleMember ∧ m.Rests True m' ∧ r'.invalidationWatermark = r.invalidationWatermark := by
  have hticket : begun.any (fun ticket => ticket.memberWatermark.next.isSome &&
      ((((sampleRun sampleSteps).after begins).after declaresOther).completeMemberRevalidation (sampleContext "a6") ticket
        (some sampleView)).2.succeeded) = true := by decide +kernel
  obtain ⟨ticket, hissued, hchecks⟩ := (Option.any_eq_true _ _).mp hticket
  rw [Bool.and_eq_true] at hchecks
  have hstep : InWindow True sampleSet ((sampleRun sampleSteps).after begins) declaresOther := by
    refine ⟨rfl, mintsAhead_of_plain rfl ?_, ?_⟩
    · unfold IdFactory.Lasts
      decide +kernel
    · rintro ⟨_, _, hop⟩
      cases hop
  obtain ⟨r, r', path, m, m', hr, hr', -, -, hid, hid', -, hrests, hmark, -⟩ := completion_uninterrupted sampleRun_ahead
    hissued (.step (.init rfl) ⟨declaresOther, fun _ => hstep, rfl⟩) (.init rfl) hchecks.1 hchecks.2
  exact ⟨r, r', m, m', hr, hr', hid, hid', hrests, hmark⟩

end FabricEngine

def Op.tickets : Op → Bool
  | .beginMemberRevalidation _ _ _ _ | .completeMemberRevalidation _ _ _ | .abandonMemberRevalidation _ => true
  | _ => false

inductive Op.Uses (ticket : RevalidationTicket) : Op → Prop
  | completes (context : MutationContext) (current : Option PathAuthorityView) :
      Uses ticket (.completeMemberRevalidation context ticket current)
  | abandons : Uses ticket (.abandonMemberRevalidation ticket)

def RevalidationTicket.names (setId : MultipathSetId) (memberId : MultipathMemberId) (ticket : RevalidationTicket) : Bool :=
  ticket.setId == setId && ticket.memberId == memberId

def FabricEngine.serves (e : FabricEngine) : Op → Bool
  | .completeMemberRevalidation context ticket _ =>
      ticket.valid && (ticket.setId.valid && ticket.memberId.valid) &&
        (match e.authorityCheck context none (some ticket.setId) with | .ok _ => true | .error _ => false) &&
        (e.memberPath ticket.setId ticket.memberId).isSome
  | .abandonMemberRevalidation ticket => ticket.valid && (e.memberPath ticket.setId ticket.memberId).isSome
  | _ => false

structure Ledger where
  engine : FabricEngine
  held : List RevalidationTicket

namespace Ledger

def Starts (config : FabricConfig) (s : Ledger) : Prop := ∃ ids, s = ⟨.init config ids, []⟩

/-- A holder uses a ticket that is out, until it is used up; nobody uses another. -/
inductive Step : Ledger → Ledger → Prop
  | begins {e : FabricEngine} {held : List RevalidationTicket} (context : MutationContext) (setId : MultipathSetId)
      (memberId : MultipathMemberId) (attempt : RevalidationAttemptId) :
      Step ⟨e, held⟩ ⟨e.after (.beginMemberRevalidation context setId memberId attempt),
        (e.beginMemberRevalidation context setId memberId attempt).2.2.toList ++ held⟩
  | uses {e : FabricEngine} {before later : List RevalidationTicket} {ticket : RevalidationTicket} {op : Op}
      (uses : op.Uses ticket) :
      Step ⟨e, before ++ ticket :: later⟩
        ⟨e.after op, if e.serves op then before ++ later else before ++ ticket :: later⟩
  | acts {e : FabricEngine} {held : List RevalidationTicket} (op : Op) (plain : op.loads = false)
      (ahead : FabricEngine.TakenUp FabricEngine.MintsAhead e op) (other : op.tickets = false) : Step ⟨e, held⟩ ⟨e.after op, held⟩

end Ledger

namespace MemberRecord

theorem applyEvent_pending (m : MemberRecord) (event : MemberEvent) :
    (m.applyEvent event).pendingRevalidations = m.pendingRevalidations := by
  unfold applyEvent
  split
  · rfl
  · split <;> rfl

theorem evaluate_pending (m : MemberRecord) (permitted : Bool) (view : Option PathAuthorityView) (explicit : Bool) :
    (m.evaluate permitted view explicit).pendingRevalidations = m.pendingRevalidations := by
  unfold evaluate
  split
  · rfl
  · rw [applyEvent_pending]
    dsimp only
    split <;> rfl

theorem revalidated_pending (m : MemberRecord) (permitted : Bool) (view : Option PathAuthorityView) :
    (m.revalidated permitted view).pendingRevalidations = m.pendingRevalidations := by
  have hrebound : (m.rebound permitted view).pendingRevalidations = m.pendingRevalidations := evaluate_pending _ _ _ _
  unfold revalidated
  dsimp only
  split <;> exact hrebound

end MemberRecord

theorem MemberChange.pending (change : MemberChange e setId r path op m m') (other : op.tickets = false) :
    m'.pendingRevalidations = m.pendingRevalidations := by
  cases change with
  | ended => exact applyEvent_pending _ _
  | marked =>
      unfold markSetNotUsable
      split <;> rfl
  | observed | reevaluated | rebound | toggled => exact evaluate_pending _ _ _ _
  | revalidated => exact revalidated_pending _ _ _
  | completed | released | abandoned | begun => cases other
  | withdrawn | superseded => rfl

theorem MemberChange.id (change : MemberChange e setId r path op m m') : m'.id = m.id := by
  have hrevalidated (view : Option PathAuthorityView) :
      (m.revalidated r.conditionalAuthorityPermitted view).id = m.id := by
    have hrebound : (m.rebound r.conditionalAuthorityPermitted view).id = m.id := SetRecord.evaluate_id _ _ _ _
    unfold MemberRecord.revalidated
    dsimp only
    split <;> exact hrebound
  cases change with
  | ended => exact SetRecord.applyEvent_id _ _
  | marked =>
      unfold markSetNotUsable
      split <;> rfl
  | observed | reevaluated | rebound | toggled => exact SetRecord.evaluate_id _ _ _ _
  | revalidated | completed => exact hrevalidated _
  | released | abandoned | begun | withdrawn | superseded => rfl

theorem Admission.pending (admission : Admission e setId r path op m) : m.pendingRevalidations = 0 := by
  cases admission <;> exact evaluate_pending _ _ _ _

theorem SealedPlace.kept_of {entry : Option MemberRecord} (h : SealedPlace entry (some m')) :
    ∃ m, entry = some m ∧ m'.id = m.id ∧ m'.pendingRevalidations = m.pendingRevalidations := by
  generalize hafter : some m' = after at h
  cases h with
  | kept => exact ⟨m', hafter.symm, rfl, rfl⟩
  | cleared =>
      cases hafter
      exact ⟨_, rfl, rfl, rfl⟩
  | pruned => cases hafter

namespace FabricEngine

theorem step_pending {r' : SetRecord} (plain : op.loads = false) (other : op.tickets = false)
    (found' : (e.after op).sets[setId]? = some r') (hm' : r'.members[path]? = some m') :
    (∃ r m, e.sets[setId]? = some r ∧ r.members[path]? = some m ∧ m'.id = m.id ∧
      m'.pendingRevalidations = m.pendingRevalidations) ∨
      (m'.id ∈ e.ids.upcoming op.admissions ∧ m'.pendingRevalidations = 0) := by
  cases hr : e.sets[setId]? with
  | none =>
      have hstep := e.after_sets op setId
      rw [hr, found'] at hstep
      cases hstep with
      | created =>
          cases (Std.ExtTreeMap.getElem?_empty.symm.trans hm' : none = some m')
      | recovered loads =>
          rw [loads] at plain
          cases plain
  | some r =>
      obtain ⟨stored, hstored, hplace⟩ := step_place plain hr
      rw [found'] at hstored
      cases hstored
      have hpath := hplace path
      rw [hm'] at hpath
      generalize hafter : some m' = after at hpath
      cases hpath with
      | bumped =>
          obtain ⟨m, hm, rfl⟩ := Option.map_eq_some_iff.mp hafter.symm
          exact .inl ⟨r, m, rfl, hm, rfl, rfl⟩
      | stored change sealed_ =>
          rw [← hafter] at sealed_
          obtain ⟨middle, rfl, hid, hpending⟩ := sealed_.kept_of
          generalize hbefore : r.members[path]? = before at change
          cases change with
          | kept => exact .inl ⟨r, middle, rfl, hbefore, hid, hpending⟩
          | @changed m _ change =>
              exact .inl ⟨r, m, rfl, hbefore, hid.trans change.id, hpending.trans (change.pending other)⟩
          | admitted _ admission =>
              right
              rw [hid, hpending]
              exact ⟨(admission_mints admission).2, admission.pending⟩

theorem memberPath_finds {memberId : MultipathMemberId} (run : Reachable config e)
    (h : (e.memberPath setId memberId).isSome = true) :
    ∃ r path m, e.sets[setId]? = some r ∧ r.finds memberId path m ∧ m.id = memberId := by
  obtain ⟨path, hpath⟩ := Option.isSome_iff_exists.mp h
  obtain ⟨r, hr, hindex⟩ := Option.bind_eq_some_iff.mp hpath
  obtain ⟨m, hm, hid⟩ := found_of_run run setId r hr memberId path hindex
  exact ⟨r, path, m, hr, ⟨hindex, hm⟩, hid⟩

theorem commitLocked_places {base : FabricEngine} {spec : CommitSpec} {outcome : FabricOutcome}
    (p : Std.ExtTreeMap MultipathSetId SetRecord → Prop) (q : Request) (edit : RecordEdit e setId r op x spec.summary)
    (plain : op.views = false) (advances : spec.advanceSetGeneration = true) (next : r.generation.next.isSome = true)
    (membership : spec.advanceMembershipGeneration = true → r.membershipGeneration.next.isSome = true)
    (h : ∀ r' : SetRecord, (∀ place : PathId, SealedPlace x.members[place]? r'.members[place]?) →
      p (base.sets.insert setId r')) : p (base.commitLocked setId x q.context q.operation q.fields spec outcome).1.sets := by
  obtain ⟨generation, membershipGeneration, -, -, -, hcommit⟩ :=
    Answer.commitLocked_sealed q base outcome edit plain advances next membership
  rw [hcommit, sealedCommit_sets]
  refine h _ fun place => ?_
  exact pruneArchive_place base.limits
    { x.advanced generation membershipGeneration with
      provenance := makeProvenance q.context spec.cause (x.advanced generation membershipGeneration) } place

def Puts (e : FabricEngine) (setId : MultipathSetId) (r : SetRecord) (path : PathId) (after : MemberRecord)
    (sets : Std.ExtTreeMap MultipathSetId SetRecord) : Prop :=
  ∃ r' : SetRecord, sets = e.sets.insert setId r' ∧
    ∀ place : PathId, SealedPlace (r.members.insert path after)[place]? r'.members[place]?

theorem complete_serves {context : MutationContext} {ticket : RevalidationTicket} (current : Option PathAuthorityView)
    (known : ticket.valid = true ∧ (ticket.setId.valid && ticket.memberId.valid) = true)
    (authorized : e.authorityCheck context none (some ticket.setId) = .ok ()) (taken : e.sets[ticket.setId]? = some r)
    (found : r.finds ticket.memberId path m) (pending : m.pendingRevalidations ≠ 0) :
    ∃ after : MemberRecord, e.Puts ticket.setId r path after (e.completeMemberRevalidation context ticket current).1.sets ∧
      after.id = m.id ∧ after.pendingRevalidations = m.release.pendingRevalidations := by
  have hpending : (m.pendingRevalidations != 0) = true := bne_iff_ne.mpr pending
  unfold completeMemberRevalidation
  simp only [known.1, known.2, require_true, ok_bind, authorized, requireSet, taken, found.1, found.2, Checked.present,
    hpending]
  cases hstale : staleCompletion e context ticket r m with
  | some rejection => exact ⟨m.release, ⟨r.withMember path m.release, rfl, fun place => .kept _⟩, rfl, rfl⟩
  | none =>
      obtain ⟨after, hafter⟩ : ∃ after, after = (m.revalidated r.conditionalAuthorityPermitted current).release := ⟨_, rfl⟩
      have hpends : after.pendingRevalidations = m.release.pendingRevalidations := by
        rw [hafter]
        unfold release
        rw [revalidated_pending]
      have hid : after.id = m.id := by
        rw [hafter]
        exact (MemberChange.completed rfl found pending hstale).id
      refine ⟨after, ?_, hid, hpends⟩
      rw [hafter]
      by_cases hchanged : m.revalidationChanged (m.rebound r.conditionalAuthorityPermitted current) = true
      · have hedit : RecordEdit e ticket.setId r (.completeMemberRevalidation context ticket current) _ _ :=
          .completed context ticket current rfl found pending hstale
        simp only [hchanged, if_true, conclude, pure, Except.pure]
        refine commitLocked_places (e.Puts ticket.setId r path _) (.onSet context (text "complete_member_revalidation")
          ticket.setId [ticket.memberId.view, ticket.attempt.view]) hedit rfl rfl (staleCompletion_none hstale).2.2 ?_ ?_
        · exact (absurd · Bool.false_ne_true)
        · exact fun r' places => ⟨r', rfl, places⟩
      · simp only [hchanged, Bool.false_eq_true, if_false, conclude, pure, Except.pure]
        exact ⟨_, rfl, fun place => .kept _⟩

theorem abandon_serves {ticket : RevalidationTicket} (valid : ticket.valid = true) (taken : e.sets[ticket.setId]? = some r)
    (found : r.finds ticket.memberId path m) (pending : m.pendingRevalidations ≠ 0) :
    (e.abandonMemberRevalidation ticket).1 = e.putSet ticket.setId (r.withMember path m.release) ∧
      (e.abandonMemberRevalidation ticket).2.succeeded = true := by
  have hpending : (m.pendingRevalidations != 0) = true := bne_iff_ne.mpr pending
  unfold abandonMemberRevalidation
  simp only [valid, require_true, ok_bind, requireSet, taken, found.1, found.2, Checked.present, hpending, conclude, pure,
    Except.pure]
  exact ⟨rfl, rfl⟩

theorem serves_puts {ticket : RevalidationTicket} (run : Reachable config e) (uses : op.Uses ticket)
    (serves : e.serves op = true) (pending : ∀ (r : SetRecord) (path : PathId) (m : MemberRecord),
      e.sets[ticket.setId]? = some r → r.members[path]? = some m → m.id = ticket.memberId → m.pendingRevalidations ≠ 0) :
    ∃ (r : SetRecord) (path : PathId) (m after : MemberRecord), e.sets[ticket.setId]? = some r ∧
      r.members[path]? = some m ∧ m.id = ticket.memberId ∧ e.Puts ticket.setId r path after (e.after op).sets ∧
      after.id = m.id ∧ after.pendingRevalidations = m.release.pendingRevalidations := by
  cases uses with
  | completes context current =>
      unfold FabricEngine.serves at serves
      simp only [Bool.and_eq_true] at serves
      obtain ⟨⟨⟨hvalid, hknown⟩, hauthorized⟩, hpath⟩ := serves
      obtain ⟨r, path, m, hr, hfinds, hid⟩ := memberPath_finds run hpath
      have hauthority : e.authorityCheck context none (some ticket.setId) = .ok () := by
        split at hauthorized
        · assumption
        · cases hauthorized
      obtain ⟨after, hputs, hsame, hpends⟩ := complete_serves current ⟨hvalid, Bool.and_eq_true _ _ ▸ hknown⟩ hauthority hr
        hfinds (pending r path m hr hfinds.2 hid)
      exact ⟨r, path, m, after, hr, hfinds.2, hid, hputs, hsame, hpends⟩
  | abandons =>
      unfold FabricEngine.serves at serves
      rw [Bool.and_eq_true] at serves
      obtain ⟨r, path, m, hr, hfinds, hid⟩ := memberPath_finds run serves.2
      have habandons := abandon_serves serves.1 hr hfinds (pending r path m hr hfinds.2 hid)
      exact ⟨r, path, m, m.release, hr, hfinds.2, hid, ⟨_, congrArg FabricEngine.sets habandons.1, fun place => .kept _⟩,
        rfl, rfl⟩

theorem unserved_same {ticket : RevalidationTicket} (uses : op.Uses ticket) (serves : e.serves op = false) :
    e.after op = e := by
  cases uses with
  | completes context current =>
      change (e.completeMemberRevalidation context ticket current).1 = e
      unfold completeMemberRevalidation conclude
      split
      · rename_i result hok
        simp only [Checked.bind_ok, Checked.present_ok, Checked.require_ok] at hok
        obtain ⟨_, hvalid, _, hknown, _, hauthority, r, hset, path, hpath, _⟩ := hok
        have hserves : e.serves (.completeMemberRevalidation context ticket current) = true := by
          unfold FabricEngine.serves memberPath
          simp only [hvalid, hknown, hauthority, requireSet_ok hset, hpath, Option.bind_some, Option.isSome_some,
            Bool.and_self]
        rw [serves] at hserves
        cases hserves
      · rfl
  | abandons =>
      change (e.abandonMemberRevalidation ticket).1 = e
      unfold abandonMemberRevalidation conclude
      split
      · rename_i result hok
        simp only [Checked.bind_ok, Checked.present_ok, Checked.require_ok] at hok
        obtain ⟨_, hvalid, r, hset, path, hpath, _⟩ := hok
        have hserves : e.serves (.abandonMemberRevalidation ticket) = true := by
          unfold FabricEngine.serves memberPath
          simp only [hvalid, requireSet_ok hset, hpath, Option.bind_some, Option.isSome_some, Bool.and_self]
        rw [serves] at hserves
        cases hserves
      · rfl

end FabricEngine

namespace Ledger

open FabricEngine

/-- As many revalidations of a member are pending as tickets for it are out, and no more than are allowed. -/
structure Counted (e : FabricEngine) (held : List RevalidationTicket) : Prop where
  pending : ∀ (setId : MultipathSetId) (r : SetRecord) (path : PathId) (m : MemberRecord), e.sets[setId]? = some r →
    r.members[path]? = some m → m.pendingRevalidations.toNat = held.countP (RevalidationTicket.names setId m.id)
  bounded : ∀ (setId : MultipathSetId) (r : SetRecord) (path : PathId) (m : MemberRecord), e.sets[setId]? = some r →
    r.members[path]? = some m → m.pendingRevalidations.toNat ≤ e.limits.maxPendingRevalidationsPerSet.toNat

variable {config : FabricConfig} {held held' : List RevalidationTicket} {e' : FabricEngine}

theorem Counted.put {after : MemberRecord} (counted : Counted e held) (minted : r.Minted e.ids)
    (found : e.sets[setId]? = some r) (hm : r.members[path]? = some m) (puts : e.Puts setId r path after e'.sets)
    (limits : e'.limits = e.limits) (id : after.id = m.id)
    (pending : after.pendingRevalidations.toNat = held'.countP (RevalidationTicket.names setId m.id))
    (bounded : after.pendingRevalidations.toNat ≤ e.limits.maxPendingRevalidationsPerSet.toNat)
    (others : ∀ other memberId, other ≠ setId ∨ memberId ≠ m.id →
      held'.countP (RevalidationTicket.names other memberId) = held.countP (RevalidationTicket.names other memberId)) :
    Counted e' held' := by
  obtain ⟨r', sets, places⟩ := puts
  have hmembers : ∀ (other : MultipathSetId) (x : SetRecord) (place : PathId) (k : MemberRecord),
      e'.sets[other]? = some x → x.members[place]? = some k →
        k.pendingRevalidations.toNat = held'.countP (RevalidationTicket.names other k.id) ∧
          k.pendingRevalidations.toNat ≤ e.limits.maxPendingRevalidationsPerSet.toNat := by
    intro other x place k hx hk
    rw [sets, getElem?_insert_eq] at hx
    split at hx
    · rename_i hset
      cases hx
      subst hset
      have hplace := places place
      rw [hk] at hplace
      obtain ⟨middle, hmiddle, hid, hsame⟩ := hplace.kept_of
      rw [hid, hsame]
      rw [getElem?_insert_eq] at hmiddle
      split at hmiddle
      · cases hmiddle
        rw [id]
        exact ⟨pending, bounded⟩
      · rename_i hplace
        have hother : middle.id ≠ m.id := fun heq => hplace (minted.place_unique hm hmiddle heq.symm)
        rw [others setId middle.id (.inr hother)]
        exact ⟨counted.pending setId r place middle found hmiddle, counted.bounded setId r place middle found hmiddle⟩
    · rename_i hset
      rw [others other k.id (.inl fun heq => hset heq.symm)]
      exact ⟨counted.pending other x place k hx hk, counted.bounded other x place k hx hk⟩
  constructor
  · exact fun other x place k hx hk => (hmembers other x place k hx hk).1
  · intro other x place k hx hk
    rw [limits]
    exact (hmembers other x place k hx hk).2

theorem Counted.acts (counted : Counted e held) (plain : op.loads = false) (ahead : e.MintsAhead op)
    (other : op.tickets = false) (spent : ∀ ticket ∈ held, ¬e.ids.Awaits .mem ticket.memberId.view) :
    Counted (e.after op) held := by
  have hnone : ∀ (setId : MultipathSetId) (memberId : MultipathMemberId), memberId ∈ e.ids.upcoming op.admissions →
      held.countP (RevalidationTicket.names setId memberId) = 0 := by
    intro setId memberId hmem
    rw [List.countP_eq_zero]
    intro ticket hticket hnames
    unfold RevalidationTicket.names at hnames
    rw [Bool.and_eq_true, beq_iff_eq, beq_iff_eq] at hnames
    apply spent ticket hticket
    rw [hnames.2]
    exact IdFactory.upcoming_awaited ahead.admits hmem
  constructor
  · intro setId r' path m' hr' hm'
    rcases step_pending plain other hr' hm' with ⟨r, m, hr, hm, hid, hsame⟩ | ⟨hminted, hzero⟩
    · rw [hid, hsame]
      exact counted.pending setId r path m hr hm
    · rw [hzero, hnone setId m'.id hminted]
      rfl
  · intro setId r' path m' hr' hm'
    rw [after_limits]
    rcases step_pending plain other hr' hm' with ⟨r, m, hr, hm, -, hsame⟩ | ⟨-, hzero⟩
    · rw [hsame]
      exact counted.bounded setId r path m hr hm
    · rw [hzero]
      exact Nat.zero_le _

structure Sound (config : FabricConfig) (s : Ledger) : Prop where
  run : Run MintsAhead config s.engine
  valid : ∀ ticket ∈ s.held, ticket.valid = true
  spent : ∀ ticket ∈ s.held, ¬s.engine.ids.Awaits .mem ticket.memberId.view
  counted : Counted s.engine s.held

theorem names_self (ticket : RevalidationTicket) : ticket.names ticket.setId ticket.memberId = true := by
  unfold RevalidationTicket.names
  rw [beq_self_eq_true, beq_self_eq_true]
  rfl

theorem names_other {ticket : RevalidationTicket} {memberId : MultipathMemberId}
    (h : setId ≠ ticket.setId ∨ memberId ≠ ticket.memberId) : ticket.names setId memberId = false := by
  unfold RevalidationTicket.names
  rw [Bool.and_eq_false_iff, beq_eq_false_iff_ne, beq_eq_false_iff_ne]
  exact h.imp Ne.symm Ne.symm

theorem sound_begins (room : config.limits.maxPendingRevalidationsPerSet.toNat < 2 ^ 32) (h : Sound config ⟨e, held⟩)
    (context : MutationContext) (setId : MultipathSetId) (memberId : MultipathMemberId) (attempt : RevalidationAttemptId) :
    Sound config ⟨e.after (.beginMemberRevalidation context setId memberId attempt),
      (e.beginMemberRevalidation context setId memberId attempt).2.2.toList ++ held⟩ := by
  have hahead : e.MintsAhead (.beginMemberRevalidation context setId memberId attempt) :=
    mintsAhead_of_plain rfl e.ids.counter.toNat_lt
  have hrun := h.run.step _ hahead
  have hspent : ∀ ticket ∈ held, ¬(e.after (.beginMemberRevalidation context setId memberId attempt)).ids.Awaits .mem
      ticket.memberId.view := fun ticket hticket => spent_after hahead (h.spent ticket hticket)
  cases hissued : (e.beginMemberRevalidation context setId memberId attempt).2.2 with
  | none =>
      have hsame : e.after (.beginMemberRevalidation context setId memberId attempt) = e := by
        change (e.beginMemberRevalidation context setId memberId attempt).1 = e
        revert hissued
        unfold beginMemberRevalidation
        dsimp only
        split
        · rename_i result hok
          intro hissued
          simp only [Checked.bind_ok, Checked.pure_ok] at hok
          obtain ⟨_, _, _, _, _, _, _, _, _, _, _, _, _, _, rfl⟩ := hok
          cases hissued
        · exact fun _ => rfl
      rw [hsame]
      exact h
  | some ticket =>
      obtain ⟨r, path, m, hr, ⟨hindex, hm⟩, hlive, hpending, hafter, hticket⟩ := begin_ticket hissued
      obtain ⟨k, hk, hid⟩ := found_of_run h.run.reachable setId r hr memberId path hindex
      rw [hm] at hk
      cases hk
      have hminted := (ahead_of_run h.run setId r hr).2
      refine ⟨hrun, ?_, ?_, ?_⟩
      · intro other hother
        rcases List.mem_cons.mp hother with rfl | hold
        · rw [hticket]
        · exact h.valid other hold
      · intro other hother
        rcases List.mem_cons.mp hother with rfl | hold
        · apply spent_after hahead
          rw [hticket, ← hid]
          exact hminted.members path m hm
        · exact hspent other hold
      · have hroom : (m.pendingRevalidations + 1).toNat = m.pendingRevalidations.toNat + 1 := by
          rw [h.run.limits] at hpending
          rw [UInt32.toNat_add]
          apply Nat.mod_eq_of_lt
          exact lt_of_le_of_lt hpending room
        have hown : ticket.names setId m.id = true := by
          rw [hticket, hid]
          exact names_self _
        refine h.counted.put hminted hr hm ⟨_, congrArg FabricEngine.sets hafter, fun place => .kept _⟩
          (e.after_limits _) rfl ?_ ?_ ?_
        · change (m.pendingRevalidations + 1).toNat = (ticket :: held).countP _
          rw [hroom, List.countP_cons_of_pos hown, h.counted.pending setId r path m hr hm]
        · change (m.pendingRevalidations + 1).toNat ≤ _
          rw [hroom]
          exact hpending
        · intro other otherId hother
          change (ticket :: held).countP _ = _
          rw [List.countP_cons_of_neg]
          rw [names_other]
          · exact Bool.false_ne_true
          · rw [hticket]
            rw [hid] at hother
            exact hother

theorem sound_uses {before later : List RevalidationTicket} {ticket : RevalidationTicket} (uses : op.Uses ticket)
    (h : Sound config ⟨e, before ++ ticket :: later⟩) :
    Sound config ⟨e.after op, if e.serves op then before ++ later else before ++ ticket :: later⟩ := by
  have hahead : e.MintsAhead op := by
    cases uses <;> exact mintsAhead_of_plain rfl e.ids.counter.toNat_lt
  cases hserves : e.serves op with
  | false =>
      rw [unserved_same uses hserves]
      exact h
  | true =>
      rw [if_pos rfl]
      have hheld : ∀ other ∈ before ++ later, other ∈ before ++ ticket :: later := by
        intro other hother
        rw [List.mem_append, List.mem_cons]
        exact (List.mem_append.mp hother).imp_right .inr
      have hcount (setId : MultipathSetId) (memberId : MultipathMemberId) :
          (before ++ ticket :: later).countP (RevalidationTicket.names setId memberId) =
            (before ++ later).countP (RevalidationTicket.names setId memberId) +
              if ticket.names setId memberId = true then 1 else 0 := by
        rw [List.countP_append, List.countP_append, List.countP_cons]
        omega
      have hpending : ∀ (r : SetRecord) (path : PathId) (m : MemberRecord), e.sets[ticket.setId]? = some r →
          r.members[path]? = some m → m.id = ticket.memberId → m.pendingRevalidations.toNat =
            (before ++ later).countP (RevalidationTicket.names ticket.setId m.id) + 1 := by
        intro r path m hr hm hid
        rw [h.counted.pending ticket.setId r path m hr hm, hcount, hid, if_pos (names_self ticket)]
      obtain ⟨r, path, m, after, hr, hm, hid, hputs, hsame, hreleased⟩ := serves_puts h.run.reachable uses hserves
        fun r path m hr hm hid hzero => by
          have hone := hpending r path m hr hm hid
          rw [hzero] at hone
          exact absurd hone (Nat.succ_ne_zero _).symm
      have hone := hpending r path m hr hm hid
      have hafter : after.pendingRevalidations.toNat + 1 = m.pendingRevalidations.toNat := by
        have hzero : m.pendingRevalidations ≠ 0 := by
          intro hzero
          rw [hzero] at hone
          exact absurd hone (Nat.succ_ne_zero _).symm
        have hle : (1 : UInt32) ≤ m.pendingRevalidations := by
          rw [UInt32.le_iff_toNat_le, hone]
          exact Nat.le_add_left 1 _
        rw [hreleased]
        unfold release
        dsimp only
        rw [if_neg hzero, UInt32.toNat_sub_of_le _ _ hle, hone]
        rfl
      refine ⟨h.run.step op hahead, fun other hother => h.valid other (hheld other hother), fun other hother =>
        spent_after hahead (h.spent other (hheld other hother)), ?_⟩
      refine h.counted.put (ahead_of_run h.run _ r hr).2 hr hm hputs (e.after_limits op) hsame ?_ ?_ ?_
      · change after.pendingRevalidations.toNat = (before ++ later).countP _
        omega
      · have hbound : m.pendingRevalidations.toNat ≤ e.limits.maxPendingRevalidationsPerSet.toNat :=
          h.counted.bounded ticket.setId r path m hr hm
        change after.pendingRevalidations.toNat ≤ e.limits.maxPendingRevalidationsPerSet.toNat
        omega
      · intro other memberId hother
        rw [hid] at hother
        rw [hcount, if_neg]
        · rfl
        · rw [names_other hother]
          exact Bool.false_ne_true

theorem sound_reached {s : Ledger} (room : config.limits.maxPendingRevalidationsPerSet.toNat < 2 ^ 32)
    (run : TransitionSystem.Reaches (Starts config) Step s) : Sound config s := by
  refine TransitionSystem.Invariant.reached ⟨?_, ?_⟩ run
  · rintro _ ⟨ids, rfl⟩
    have hnone : ∀ (setId : MultipathSetId) (r : SetRecord), (FabricEngine.init config ids).sets[setId]? ≠ some r := by
      intro setId r hr
      cases (Std.ExtTreeMap.getElem?_empty.symm.trans hr : none = some r)
    constructor
    · exact .init ids
    · intro ticket hticket
      cases hticket
    · intro ticket hticket
      cases hticket
    · exact ⟨fun setId r _ _ hr => absurd hr (hnone setId r), fun setId r _ _ hr => absurd hr (hnone setId r)⟩
  · rintro s s' - h step
    cases step with
    | begins context setId memberId attempt => exact sound_begins room h context setId memberId attempt
    | uses uses => exact sound_uses uses h
    | @acts e held op plain ahead other =>
        rcases e.after_eq_or_takesUp op with hsame | hup
        · rw [hsame]
          exact h
        · exact ⟨h.run.step op (ahead hup), h.valid, fun ticket hticket => spent_after (ahead hup) (h.spent ticket hticket),
            h.counted.acts plain (ahead hup) other h.spent⟩

/-- Tickets are conserved: as many revalidations of a member are pending as tickets for it are out, never more than are
allowed, and whoever holds one of them can give it back. -/
theorem tickets_conserved {s : Ledger} (room : config.limits.maxPendingRevalidationsPerSet.toNat < 2 ^ 32)
    (run : TransitionSystem.Reaches (Starts config) Step s) (found : s.engine.sets[setId]? = some r)
    (member : r.members[path]? = some m) :
    m.pendingRevalidations.toNat = s.held.countP (RevalidationTicket.names setId m.id) ∧
      s.held.countP (RevalidationTicket.names setId m.id) ≤ config.limits.maxPendingRevalidationsPerSet.toNat ∧
      ∀ ticket ∈ s.held, ticket.names setId m.id = true → (s.engine.abandonMemberRevalidation ticket).2.succeeded = true := by
  have h := sound_reached room run
  have hpending := h.counted.pending setId r path m found member
  refine ⟨hpending, ?_, ?_⟩
  · rw [← hpending, ← h.run.limits]
    exact h.counted.bounded setId r path m found member
  · intro ticket hticket hnames
    have hpositive : m.pendingRevalidations ≠ 0 := by
      intro hzero
      rw [hzero] at hpending
      have hsome := List.countP_pos_iff.mpr ⟨ticket, hticket, hnames⟩
      rw [← hpending] at hsome
      exact absurd hsome (lt_irrefl _)
    unfold RevalidationTicket.names at hnames
    rw [Bool.and_eq_true, beq_iff_eq, beq_iff_eq] at hnames
    obtain ⟨rfl, hmember⟩ := hnames
    have hlisted := (ahead_of_run h.run _ r found).2.listed path m member
    rw [← hmember] at hlisted
    exact (abandon_serves (h.valid ticket hticket) found ⟨hlisted, member⟩ hpositive).2

theorem reaches_acts {config : FabricConfig} (run : TransitionSystem.Reaches (Starts config) Step ⟨e, held⟩)
    (plain : op.loads = false) (lasts : e.ids.counter.toNat + op.mints < 2 ^ 64) (other : op.tickets = false) :
    TransitionSystem.Reaches (Starts config) Step ⟨e.after op, held⟩ :=
  .step run (.acts op plain (fun _ => mintsAhead_of_plain plain lasts) other)

def beginsAgain : Op := .beginMemberRevalidation (sampleContext "a4") sampleSet sampleMember (sampleId "r2")

def begunAgain : Option RevalidationTicket :=
  (((sampleRun sampleSteps).after begins).beginMemberRevalidation (sampleContext "a4") sampleSet sampleMember
    (sampleId "r2")).2.2

theorem tickets_conserved_sample : ∃ (s : Ledger) (r : SetRecord) (m : MemberRecord),
    TransitionSystem.Reaches (Starts sampleConfig) Step s ∧ s.engine.sets[sampleSet]? = some r ∧
    r.members[samplePath]? = some m ∧ m.pendingRevalidations.toNat = 1 ∧
    m.pendingRevalidations.toNat = s.held.countP (RevalidationTicket.names sampleSet m.id) ∧
    ∀ ticket ∈ s.held, ticket.names sampleSet m.id = true →
      (s.engine.abandonMemberRevalidation ticket).2.succeeded = true := by
  have hmembers : TransitionSystem.Reaches (Starts sampleConfig) Step ⟨sampleRun sampleSteps, []⟩ := by
    refine reaches_acts (reaches_acts (reaches_acts (reaches_acts (.init ⟨sampleIds, rfl⟩) rfl ?_ rfl) rfl ?_ rfl) rfl ?_
      rfl) rfl ?_ rfl
    all_goals decide +kernel
  obtain ⟨second, hsecond⟩ := Option.isSome_iff_exists.mp (show begunAgain.isSome = true by decide +kernel)
  have hfirst : begun.any (fun ticket =>
      (((sampleRun sampleSteps).after begins).after beginsAgain).serves (.abandonMemberRevalidation ticket) &&
        ((((sampleRun sampleSteps).after begins).after beginsAgain).after
          (.abandonMemberRevalidation ticket)).sets[sampleSet]?.any fun r =>
            r.members[samplePath]?.any fun m => m.pendingRevalidations == 1) = true := by decide +kernel
  obtain ⟨first, hfirst, hchecks⟩ := (Option.any_eq_true _ _).mp hfirst
  rw [Bool.and_eq_true] at hchecks
  obtain ⟨r, hr, hmember⟩ := (Option.any_eq_true _ _).mp hchecks.2
  obtain ⟨m, hm, hone⟩ := (Option.any_eq_true _ _).mp hmember
  have hbegun := hmembers.step (.begins (sampleContext "a4") sampleSet sampleMember (sampleId "r1"))
  unfold begun at hfirst
  rw [hfirst] at hbegun
  have hbegunAgain := hbegun.step (.begins (sampleContext "a4") sampleSet sampleMember (sampleId "r2"))
  unfold begunAgain begins at hsecond
  rw [hsecond] at hbegunAgain
  have hgiven := hbegunAgain.step (@Step.uses _ [second] [] first _ .abandons)
  have hserves := hchecks.1
  unfold begins beginsAgain at hserves
  rw [if_pos hserves] at hgiven
  obtain ⟨hcount, -, hback⟩ := tickets_conserved (by decide) hgiven hr hm
  exact ⟨_, r, m, hgiven, hr, hm, congrArg UInt32.toNat (eq_of_beq hone), hcount, hback⟩

end Ledger

end MultipathFabric
