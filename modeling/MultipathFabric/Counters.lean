import MultipathFabric.Attempts
import MultipathFabric.ExpectedGenerations
import MultipathFabric.Invalidation
import MultipathFabric.MemberGenerations
import MultipathFabric.Verdicts

namespace MultipathFabric

open OrderedMap Checked

theorem Watermark.le_bump (w : Watermark) : w.value.toNat ≤ (w.next.getD w).value.toNat := by
  cases hnext : w.next with
  | none => exact le_refl _
  | some next =>
      have hvalue := toNat_of_next hnext
      rw [Option.getD_some]
      omega

theorem Generation.le_advance {d : GenerationDomain} (g : Generation d) :
    g.value.toNat ≤ (g.next.getD g).value.toNat := by
  apply Generation.Follows.le
  cases hnext : g.next with
  | none => exact .inl rfl
  | some next => exact .inr hnext

namespace MemberRecord

structure Ascends (m m' : MemberRecord) : Prop where
  generation : m.generation.value.toNat ≤ m'.generation.value.toNat
  watermark : m.invalidationWatermark.value.toNat ≤ m'.invalidationWatermark.value.toNat

variable {m m' m'' : MemberRecord}

theorem Ascends.refl (m : MemberRecord) : m.Ascends m := ⟨le_refl _, le_refl _⟩

theorem Ascends.trans (h : m.Ascends m') (h' : m'.Ascends m'') : m.Ascends m'' :=
  ⟨h.generation.trans h'.generation, h.watermark.trans h'.watermark⟩

theorem Ascends.same (generation : m'.generation = m.generation)
    (watermark : m'.invalidationWatermark = m.invalidationWatermark) : m.Ascends m' := by
  constructor
  · rw [generation]
  · rw [watermark]

theorem ascends_bumped (m : MemberRecord) : m.Ascends m.bumpWatermark := ⟨le_refl _, m.invalidationWatermark.le_bump⟩

theorem ascends_event (m : MemberRecord) (event : MemberEvent) : m.Ascends (m.applyEvent event) := by
  unfold applyEvent
  split
  · exact .refl m
  · split
    · exact m.ascends_bumped.trans (.same rfl rfl)
    · exact .same rfl rfl

theorem ascends_evaluated (m : MemberRecord) (permitted : Bool) (view : Option PathAuthorityView) (explicit : Bool) :
    m.Ascends (m.evaluate permitted view explicit) := by
  unfold evaluate
  split
  · exact .same rfl rfl
  · refine Ascends.trans ?_ (ascends_event _ _)
    dsimp only
    split
    · exact Ascends.trans (.same rfl rfl) ((ascends_bumped _).trans (.same rfl rfl))
    · exact .same rfl rfl

theorem ascends_rebound (m : MemberRecord) (permitted : Bool) (view : Option PathAuthorityView) :
    m.Ascends (m.rebound permitted view) := by
  unfold rebound
  have hbound : m.Ascends { m with
      boundAuthorityGeneration := (view.map PathAuthorityView.generation).getD m.boundAuthorityGeneration } :=
    .same rfl rfl
  exact hbound.trans (ascends_evaluated _ _ _ _)

theorem ascends_revalidated (m : MemberRecord) (permitted : Bool) (view : Option PathAuthorityView) :
    m.Ascends (m.revalidated permitted view) := by
  unfold revalidated
  dsimp only
  split
  · refine (m.ascends_rebound permitted view).trans ((ascends_bumped _).trans ?_)
    exact ⟨Generation.le_advance _, le_refl _⟩
  · exact m.ascends_rebound permitted view

theorem ascends_marked (m : MemberRecord) : m.Ascends (markSetNotUsable m) := by
  unfold markSetNotUsable
  split
  · exact m.ascends_bumped.trans (.same rfl rfl)
  · exact .refl m

theorem ascends_terminated (m : MemberRecord) (lifecycle : MemberLifecycle) : m.Ascends (m.terminate lifecycle) :=
  ⟨Generation.le_advance _, Watermark.le_bump _⟩

theorem ascends_toggled (m : MemberRecord) (permitted : Bool) (view : Option PathAuthorityView) (enabled : Bool) :
    m.Ascends (m.toggled permitted view enabled) := by
  unfold toggled
  have hmoved : m.Ascends { m with adminEnabled := enabled, generation := m.generation.next.getD m.generation } :=
    ⟨Generation.le_advance _, le_refl _⟩
  exact hmoved.trans ((ascends_bumped _).trans (ascends_evaluated _ _ _ _))

end MemberRecord

open MemberRecord

variable {e : FabricEngine} {setId : MultipathSetId} {op : Op} {r x : SetRecord} {path : PathId} {m m' : MemberRecord}

theorem MemberChange.ascends (change : MemberChange e setId r path op m m') : m.Ascends m' := by
  cases change with
  | ended => exact (ascends_event _ _).trans (ascends_bumped _)
  | marked => exact (ascends_marked _).trans (ascends_bumped _)
  | observed | reevaluated => exact ascends_evaluated _ _ _ _
  | rebound => exact ascends_rebound _ _ _
  | revalidated => exact ascends_revalidated _ _ _
  | completed => exact (ascends_revalidated _ _ _).trans (.same rfl rfl)
  | released | abandoned | begun => exact .same rfl rfl
  | toggled => exact ascends_toggled _ _ _ _
  | withdrawn => exact ascends_terminated _ _
  | superseded => exact ⟨Generation.le_advance _, Watermark.le_bump _⟩

theorem Admission.subject (admission : Admission e setId r path op m) : op.subject = some setId := by
  cases admission with
  | added publication => cases publication <;> rfl
  | replacing => rfl

theorem StepPlace.ascends (place : StepPlace e setId r path op (some m')) (found : r.members[path]? = some m)
    (same : m'.id = m.id)
    (fresh : op.subject = some setId → path ∈ op.admits → m.id ∉ e.ids.upcoming op.admissions) : m.Ascends m' := by
  generalize hafter : some m' = after at place
  cases place with
  | bumped =>
      rw [found] at hafter
      cases hafter
      exact ascends_bumped m
  | @stored entry _ change sealed_ =>
      have hsealed : ∀ middle, entry = some middle → middle.Ascends m' ∧ m'.id = middle.id := by
        rintro middle rfl
        cases sealed_ with
        | kept =>
            cases hafter
            exact ⟨.refl m', rfl⟩
        | cleared =>
            cases hafter
            exact ⟨.same rfl rfl, rfl⟩
        | pruned => cases hafter
      rw [found] at change
      generalize hbefore : some m = before at change
      cases change with
      | kept =>
          cases hbefore
          exact (hsealed m rfl).1
      | changed change =>
          cases hbefore
          exact change.ascends.trans (hsealed _ rfl).1
      | removed =>
          cases sealed_ with
          | kept => cases hafter
      | admitted _ admission =>
          obtain ⟨hadmits, hminted⟩ := FabricEngine.admission_mints admission
          rw [← (hsealed _ rfl).2, same] at hminted
          exact absurd hminted (fresh admission.subject hadmits)

namespace SetRecord

structure Ascends (r r' : SetRecord) : Prop where
  generation : r.generation.value.toNat ≤ r'.generation.value.toNat
  membership : r.membershipGeneration.value.toNat ≤ r'.membershipGeneration.value.toNat
  watermark : r.invalidationWatermark.value.toNat ≤ r'.invalidationWatermark.value.toNat

variable {r r' r'' : SetRecord}

theorem Ascends.refl (r : SetRecord) : r.Ascends r := ⟨le_refl _, le_refl _, le_refl _⟩

theorem Ascends.trans (h : r.Ascends r') (h' : r'.Ascends r'') : r.Ascends r'' :=
  ⟨h.generation.trans h'.generation, h.membership.trans h'.membership, h.watermark.trans h'.watermark⟩

end SetRecord

theorem consequences_watermark (e : FabricEngine) (y : SetRecord) (source target : SetLifecycle)
    (context : Option MutationContext) : y.invalidationWatermark.value.toNat ≤
      (applyMemberConsequences e y source target context).invalidationWatermark.value.toNat := by
  unfold applyMemberConsequences
  split
  · exact le_refl _
  · split
    · cases target <;> first | exact le_refl _ | exact Watermark.le_bump _
    · exact le_refl _

theorem RecordEdit.watermark_le {summary : Bytes} (edit : RecordEdit e setId r op x summary) :
    r.invalidationWatermark.value.toNat ≤ x.invalidationWatermark.value.toNat := by
  have htransition : ∀ {event : SetEvent} {y : SetRecord}, r.applyTransition event = .ok y →
      y.invalidationWatermark = r.invalidationWatermark := by
    intro event y hmoved
    rw [SetRecord.applyTransition_frame hmoved]
  cases edit with
  | collided | supersedes | supersedesRecorded | revalidatedSet | revalidatedMember | begun | released
  | completed | abandoned | toggled | observed => exact le_refl _
  | publish _ moved | minimumChecked _ _ moved | policyChecked _ _ moved | adminChecked _ _ moved
  | completeWithdrawal _ moved | minimumChanged _ _ moved | policyChanged _ _ moved | adminChanged _ _ moved
  | removed _ _ _ _ _ _ moved | withdrewMember _ _ _ _ _ _ _ moved | replaced _ _ _ _ _ _ _ _ _ _ _ _ _ moved =>
      have hwatermark := htransition moved
      exact (congrArg (fun w => w.value.toNat) hwatermark).ge
  | withdraw _ _ _ moved | revoke _ _ _ _ _ moved | retire _ _ _ moved | superseded _ _ _ moved =>
      have hwatermark := htransition moved
      refine le_trans ?_ (consequences_watermark _ _ _ _ _)
      exact (congrArg (fun w => w.value.toNat) hwatermark).ge
  | @added context _ requests _ y _ _ _ _ _ moved =>
      have hwatermark := htransition moved
      have hpublished : (FabricEngine.publishMembers context setId e y requests).2.1.invalidationWatermark =
          y.invalidationWatermark := by
        rw [SetRecord.publishMembers_frame]
      exact (congrArg (fun w => w.value.toNat) (hpublished.trans hwatermark)).ge
  | invalidated =>
      unfold FabricEngine.dependencyInvalidated
      dsimp only
      split <;> exact Watermark.le_bump _

theorem Sealed.ascends {limits : Limits} {r' : SetRecord} {summary : Bytes} (stored : Sealed limits x summary r') :
    x.Ascends r' := by
  cases stored with
  | kept set => exact ⟨set.le, le_refl _, le_refl _⟩
  | committed _ _ _ set membership =>
      unfold SetRecord.committed SetRecord.pruneArchive
      dsimp only
      split <;> exact ⟨set.le, membership.le, le_refl _⟩

theorem SetStep.ascends {after : Option SetRecord} (h : SetStep e op setId (some r) after) (plain : op.loads = false) :
    ∃ r', after = some r' ∧ r.Ascends r' := by
  cases h with
  | kept => exact ⟨r, rfl, .refl r⟩
  | @changed _ x r' _ edit stored =>
      have hmembership : r.membershipGeneration.value.toNat ≤ x.membershipGeneration.value.toNat := by
        rw [edit.sameHead.membershipGeneration]
      have hedit : r.Ascends x := ⟨edit.generation_le, hmembership, edit.watermark_le⟩
      exact ⟨r', rfl, hedit.trans stored.ascends⟩
  | fenced | epochAdvanced => exact ⟨_, rfl, le_refl _, le_refl _, Watermark.le_bump _⟩
  | cleared loads =>
      rw [loads] at plain
      cases plain
  | recovered loads =>
      rw [loads] at plain
      cases plain

def Op.advancesAuthority : Op → Bool
  | .registerPublisher _ _ _ _ | .unregisterPublisher _ _ | .fenceWorker _ _ _ | .advanceEpoch _ _ _ _ _ => true
  | _ => false

namespace FabricEngine

def withAuthority (e : FabricEngine) (authority : MultipathAuthorityGeneration) : FabricEngine :=
  { e with currentAuthorityGeneration := authority }

structure Charged (e : FabricEngine) (op : Op) : Prop where
  advances : (e.exec op).2.succeeded = true → (e.exec op).2.code ≠ .idempotent →
    e.currentAuthorityGeneration.next = some (e.after op).currentAuthorityGeneration
  refuses : (e.exec op).2.succeeded = false → (e.exec op).2.code = .generationOverflow ∨
    ∀ authority, ((e.withAuthority authority).exec op).2.succeeded = false

inductive Charges (e : FabricEngine) : Checked (FabricEngine × FabricOutcome) → Checked (FabricEngine × FabricOutcome) → Prop
  | refused {outcome : FabricOutcome} (idle : outcome.rejects = true ∨ outcome.code = .idempotent) :
      Charges e (.error outcome) (.error outcome)
  | exhausted {outcome : FabricOutcome} {other : Checked (FabricEngine × FabricOutcome)}
      (rejects : outcome.succeeded = false) (code : outcome.code = .generationOverflow) : Charges e (.error outcome) other
  | stalled {result : FabricEngine × FabricOutcome} {other : Checked (FabricEngine × FabricOutcome)}
      (rejects : result.2.succeeded = false) (code : result.2.code = .generationOverflow) : Charges e (.ok result) other
  | advanced {result : FabricEngine × FabricOutcome} {other : Checked (FabricEngine × FabricOutcome)}
      (accepted : result.2.succeeded = true)
      (next : e.currentAuthorityGeneration.next = some result.1.currentAuthorityGeneration) : Charges e (.ok result) other

theorem Charges.bind {α : Type} {check : Checked α} {f g : α → Checked (FabricEngine × FabricOutcome)}
    (refuses : Refuses (fun outcome => outcome.code = .idempotent) check) (next : ∀ a, check = .ok a → Charges e (f a) (g a)) :
    Charges e (check >>= f) (check >>= g) := by
  cases check with
  | error outcome => exact .refused (refuses outcome rfl)
  | ok a => exact next a rfl

theorem Charges.charged {run : FabricEngine → Checked (FabricEngine × FabricOutcome)}
    (runs : ∀ e : FabricEngine, e.exec op = conclude e (run e))
    (charges : ∀ authority, Charges e (run e) (run (e.withAuthority authority))) : e.Charged op := by
  constructor
  · intro haccepted hcode
    change _ = some (e.exec op).1.currentAuthorityGeneration
    rw [runs] at haccepted hcode ⊢
    have hcharges := charges e.currentAuthorityGeneration
    generalize run e = own, run (e.withAuthority e.currentAuthorityGeneration) = other at hcharges haccepted hcode
    cases hcharges with
    | refused idle =>
        rcases idle with hrejects | hidempotent
        · rw [conclude, (FabricOutcome.rejects_iff.mp hrejects).1] at haccepted
          cases haccepted
        · exact absurd hidempotent hcode
    | exhausted rejects | stalled rejects =>
        rw [conclude, rejects] at haccepted
        cases haccepted
    | advanced _ next => exact next
  · intro hrejected
    by_cases hcode : (e.exec op).2.code = .generationOverflow
    · exact .inl hcode
    · right
      intro authority
      rw [runs] at hrejected hcode ⊢
      have hcharges := charges authority
      generalize run e = own, run (e.withAuthority authority) = other at hcharges hrejected hcode
      cases hcharges with
      | refused => exact hrejected
      | exhausted _ code | stalled _ code => exact absurd code hcode
      | advanced accepted =>
          rw [conclude, accepted] at hrejected
          cases hrejected

theorem charged (op : Op) (authorizes : op.advancesAuthority = true)
    (room : ∀ publisher workerBoot, op = .unregisterPublisher publisher workerBoot → publisher.valid = true →
      workerBoot.valid = true → e.registrations[(⟨publisher, workerBoot⟩ : WorkerKey)]?.isSome = true →
      e.currentAuthorityGeneration.next.isSome = true) : e.Charged op := by
  cases op with
  | registerPublisher publisher workerBoot scope session =>
      refine Charges.charged (fun _ => rfl) fun authority => ?_
      refine .bind (.require rfl) fun _ _ => .bind (.require rfl) fun _ _ => .bind (.require rfl) fun _ _ =>
        .bind (.require rfl) fun _ _ => .bind (.unlessAnswered ?_) fun _ _ => .bind ?_ fun _ _ => ?_
      · intro outcome h
        obtain ⟨fence, _, rfl⟩ := Option.map_eq_some_iff.mp h
        exact .inl rfl
      · intro outcome h
        unfold registrationCheck at h
        split at h
        · right
          rw [Checked.require_error h]
          rfl
        · left
          rw [Checked.require_error h]
          rfl
      · dsimp only
        split
        · exact .stalled rfl rfl
        · rename_i next hnext
          exact .advanced rfl hnext
  | unregisterPublisher publisher workerBoot =>
      refine Charges.charged (fun _ => rfl) fun authority => ?_
      refine .bind (.require rfl) fun _ hids => .bind (.present rfl) fun registration hfound => ?_
      rw [Checked.require_ok, Bool.and_eq_true] at hids
      rw [Checked.present_ok] at hfound
      obtain ⟨next, hnext⟩ := Option.isSome_iff_exists.mp (room _ _ rfl hids.1 hids.2 (by rw [hfound]; rfl))
      refine .advanced rfl ?_
      dsimp only
      rw [hnext]
      rfl
  | fenceWorker publisher workerBoot cause =>
      refine Charges.charged (fun _ => rfl) fun authority => ?_
      refine .bind (.require rfl) fun _ _ => .bind (.require rfl) fun _ _ => .bind (.unlessAnswered ?_) fun _ _ => ?_
      · intro outcome h
        obtain ⟨fence, _, rfl⟩ := Option.map_eq_some_iff.mp h
        exact .inr rfl
      · unfold Checked.present
        cases hnext : e.currentAuthorityGeneration.next with
        | none => exact .exhausted rfl rfl
        | some next =>
            refine .advanced rfl ?_
            rw [hnext, fenceSets, (rewriteSets_keeps _ _ _).authority]
  | advanceEpoch publisher workerBoot session expected attempt =>
      refine Charges.charged (fun _ => rfl) fun authority => ?_
      refine .bind (.require rfl) fun _ _ => .bind (.unlessAnswered ?_) fun _ _ => .bind (.present rfl) fun registration _ =>
        .bind (.require rfl) fun _ _ => .bind (.require rfl) fun _ _ => ?_
      · intro outcome h
        obtain ⟨fence, _, rfl⟩ := Option.map_eq_some_iff.mp h
        exact .inl rfl
      · unfold Checked.present
        cases hepoch : e.currentEpoch.next with
        | none => exact .exhausted rfl rfl
        | some epoch =>
            cases hnext : e.currentAuthorityGeneration.next with
            | none => exact .exhausted rfl rfl
            | some next =>
                refine .advanced rfl ?_
                rw [hnext, (rewriteSets_keeps _ _ _).authority]
  | _ => cases authorizes

end FabricEngine

def Op.spends : Op → Option MultipathMemberId
  | .withdrawMember _ _ memberId _ | .replaceMember _ _ memberId _ _ _ | .setMemberAdminEnabled _ _ memberId _ _
  | .revalidateMember _ _ memberId _ => some memberId
  | .completeMemberRevalidation _ ticket _ => some ticket.memberId
  | _ => none

def Op.Moves (r : SetRecord) : Op → Prop
  | .revalidateMember _ _ memberId looked => ∃ view path m, looked = some view ∧ r.finds memberId path m ∧
      m.revalidationChanged (m.rebound r.conditionalAuthorityPermitted view) = true
  | .completeMemberRevalidation _ ticket current => ∃ path m, r.finds ticket.memberId path m ∧
      m.revalidationChanged (m.rebound r.conditionalAuthorityPermitted current) = true
  | _ => True

namespace FabricEngine

structure Pays (e : FabricEngine) (op : Op) (setId : MultipathSetId) (r : SetRecord) : Prop where
  set : op.Moves r → ∃ r', (e.after op).sets[setId]? = some r' ∧ r.generation.next = some r'.generation
  membership : op.changesMembership = true → ∃ r', (e.after op).sets[setId]? = some r' ∧
    r.membershipGeneration.next = some r'.membershipGeneration
  member : ∀ memberId path m, op.spends = some memberId → r.finds memberId path m → m.generation.next.isSome = true

theorem committed_generations (base : FabricEngine) (y : SetRecord) (context : MutationContext) (spec : CommitSpec) :
    (y.committed base context spec).generation = y.generation ∧
      (y.committed base context spec).membershipGeneration = y.membershipGeneration := by
  unfold SetRecord.committed SetRecord.pruneArchive
  dsimp only
  split <;> exact ⟨rfl, rfl⟩

theorem spare_of_clear {memberId : MultipathMemberId} {path : PathId} {m : MemberRecord} (clear : e.violations op = [])
    (named : op.subject = some setId) (found : e.sets[setId]? = some r) (spends : op.spends = some memberId)
    (finds : r.finds memberId path m)
    (withdraws : ∀ context reason, op = .withdrawMember context setId memberId reason → m.lifecycle ≠ .withdrawn)
    (toggles : ∀ context enabled view, op = .setMemberAdminEnabled context setId memberId enabled view →
      m.adminEnabled ≠ enabled) : m.generation.next.isSome = true := by
  rw [Option.isSome_iff_ne_none]
  cases op with
  | withdrawMember context own other reason =>
      cases named
      cases spends
      simp only [violations, atSet, found, Option.elim, atMember_finds finds, if_neg (withdraws _ _ rfl)] at clear
      simp [Precedence.faultIf] at clear
      tauto
  | replaceMember context own other request reason view =>
      cases named
      cases spends
      simp only [violations, atSet, found, Option.elim, replacementFaults, atMember_finds finds] at clear
      simp [Precedence.faultIf] at clear
      tauto
  | setMemberAdminEnabled context own other enabled view =>
      cases named
      cases spends
      simp only [violations, atSet, found, Option.elim, atMember_finds finds, if_neg (toggles _ _ _ rfl)] at clear
      simp [Precedence.faultIf] at clear
      tauto
  | revalidateMember context own other looked =>
      cases named
      cases spends
      simp only [violations, atSet, found, Option.elim, atMember_finds finds] at clear
      simp [Precedence.faultIf] at clear
      tauto
  | completeMemberRevalidation context ticket current =>
      cases named
      cases spends
      simp only [violations, found, finds.1, finds.2, Option.elim, completionFaults] at clear
      simp [Precedence.faultIf] at clear
      tauto
  | _ => cases spends

theorem Verdict.clear (verdict : e.Verdict op (e.exec op).2) (accepted : (e.exec op).2.succeeded = true)
    (code : (e.exec op).2.code ≠ .idempotent) : e.violations op = [] := by
  rcases verdict with ⟨_, q, _, hknown⟩ | ⟨_, hclear⟩ | ⟨_, _, hrejects⟩
  · exact absurd (attemptCheck_code hknown accepted) code
  · exact hclear
  · rw [hrejects.1] at accepted
    cases accepted

theorem pays_of_accepted {q : Request} (verdict : e.Verdict op (e.exec op).2) (request : op.request = some q)
    (named : op.subject = some setId) (found : e.sets[setId]? = some r) (accepted : (e.exec op).2.succeeded = true)
    (code : (e.exec op).2.code ≠ .idempotent) : e.Pays op setId r := by
  have hclear := verdict.clear accepted code
  have hanswer := exec_answer e request
  change Answer e op q (e.exec op) at hanswer
  have hafter : e.after op = (e.exec op).1 := rfl
  have hmember : ∀ memberId path (m : MemberRecord), op.spends = some memberId → r.finds memberId path m →
      (∀ context reason, op = .withdrawMember context setId memberId reason → m.lifecycle ≠ .withdrawn) →
      (∀ context enabled view, op = .setMemberAdminEnabled context setId memberId enabled view →
        m.adminEnabled ≠ enabled) → m.generation.next.isSome = true :=
    fun _ _ _ spends finds => spare_of_clear hclear named found spends finds
  generalize e.exec op = result at hanswer accepted code hafter
  cases hanswer with
  | refused rejects | left _ _ _ _ _ rejects =>
      rw [rejects] at accepted
      cases accepted
  | replayed known => exact absurd (attemptCheck_code known.2 accepted) code
  | answered _ named' found' _ _ _ _ rechecks idles =>
      rw [named] at named'
      cases named'
      rw [found] at found'
      cases found'
      have hrechecks : op.rechecks = true := by
        by_contra h
        exact code (rechecks (by simpa using h))
      cases op with
      | revalidateMember context own memberId looked =>
          refine ⟨?_, ?_, ?_⟩
          · rintro ⟨view, path, m, hlooked, hfinds, hchanged⟩
            obtain ⟨view', path', m', hlooked', hfinds', hquiet, _⟩ := idles
            rw [hlooked] at hlooked'
            cases hlooked'
            rw [finds_unique hfinds hfinds'] at hquiet
            rw [hquiet] at hchanged
            cases hchanged
          · intro h
            cases h
          · intro other path m spends finds
            exact hmember other path m spends finds (fun _ _ h => by cases h) fun _ _ _ h => by cases h
      | completeMemberRevalidation context ticket current =>
          refine ⟨?_, ?_, ?_⟩
          · rintro ⟨path, m, hfinds, hchanged⟩
            obtain ⟨path', m', hfinds', _, hquiet, _⟩ := idles
            rw [finds_unique hfinds hfinds'] at hquiet
            rw [hquiet] at hchanged
            cases hchanged
          · intro h
            cases h
          · intro other path m spends finds
            exact hmember other path m spends finds (fun _ _ h => by cases h) fun _ _ _ h => by cases h
      | _ => cases hrechecks
  | @committed own old x spec outcome generation membershipGeneration _ named' found' edit _ _ next _ _ _ _ moves =>
      rw [named] at named'
      cases named'
      rw [found] at found'
      cases found'
      have hstored : (e.after op).sets[setId]? =
          some ((x.advanced generation membershipGeneration).committed (e.prepared r op) q.context spec) := by
        rw [hafter, sealedCommit_sets, getElem?_insert_eq, if_pos rfl]
      obtain ⟨hset, hmembership⟩ :=
        committed_generations (e.prepared r op) (x.advanced generation membershipGeneration) q.context spec
      generalize spec.summary = summary at edit
      refine ⟨fun _ => ⟨_, hstored, ?_⟩, fun hchanges => ⟨_, hstored, ?_⟩, fun memberId path m spends finds => ?_⟩
      · rw [hset]
        exact next
      · rw [if_pos hchanges] at moves
        rw [hmembership]
        exact moves
      · refine hmember memberId path m spends finds ?_ ?_
        · rintro context reason rfl
          cases edit with
          | withdrewMember _ _ _ _ hfinds _ ends =>
              rw [finds_unique finds hfinds] at ends
              intro h
              rw [h] at ends
              cases ends
          | observed applied | invalidated applied => cases applied
          | added _ publication => cases publication
        · rintro context enabled view rfl
          cases edit with
          | toggled _ _ _ _ hfinds _ changes =>
              rw [finds_unique finds hfinds] at changes
              exact changes
          | observed applied | invalidated applied => cases applied
          | added _ publication => cases publication
  | @superseded predecessor successor old new x spec outcome generation supersedes _ distinct _ found' _ _ _ _ _ next =>
      subst supersedes
      cases named
      rw [found] at found'
      cases found'
      have hstored : (e.after (.supersedeSet q.context setId successor)).sets[setId]? =
          some ((x.advanced generation r.membershipGeneration).committed
            (e.putSet successor { new with supersedes := some setId }) q.context spec) := by
        rw [hafter, supersedeSuccessor_sets, getElem?_insert_eq, if_neg distinct.symm, sealedCommit_sets,
          getElem?_insert_eq, if_pos rfl]
      refine ⟨fun _ => ⟨_, hstored, ?_⟩, fun h => ?_, fun _ _ _ spends => ?_⟩
      · rw [(committed_generations _ _ _ _).1]
        exact next
      · cases h
      · cases spends
  | viewed _ _ applied =>
      have hnames : op.subject = none := by cases applied <;> rfl
      rw [hnames] at named
      cases named
  | created creates =>
      subst creates
      cases named

structure Ascends (e e' : FabricEngine) : Prop where
  epoch : e.currentEpoch.value.toNat ≤ e'.currentEpoch.value.toNat
  authority : e.currentAuthorityGeneration.value.toNat ≤ e'.currentAuthorityGeneration.value.toNat
  sets : ∀ (setId : MultipathSetId) (r : SetRecord), e.sets[setId]? = some r →
    ∃ r' : SetRecord, e'.sets[setId]? = some r' ∧ r.Ascends r'

theorem Ascends.refl (e : FabricEngine) : e.Ascends e := ⟨le_refl _, le_refl _, fun _ r hr => ⟨r, hr, .refl r⟩⟩

theorem Ascends.trans {e' e'' : FabricEngine} (h : e.Ascends e') (h' : e'.Ascends e'') : e.Ascends e'' := by
  refine ⟨h.epoch.trans h'.epoch, h.authority.trans h'.authority, fun setId r hr => ?_⟩
  obtain ⟨r', hr', hfirst⟩ := h.sets setId r hr
  obtain ⟨r'', hr'', hsecond⟩ := h'.sets setId r' hr'
  exact ⟨r'', hr'', hfirst.trans hsecond⟩

theorem after_ascends (e : FabricEngine) (plain : op.loads = false) : e.Ascends (e.after op) := by
  refine ⟨?_, ?_, fun setId r hr => ?_⟩
  · rcases e.after_epoch plain with h | h
    · rw [h]
    · exact Generation.Follows.le (.inr h)
  · rcases e.after_authority plain with h | h
    · rw [h]
    · rw [h]
      exact Generation.le_advance _
  · have hstep := after_sets e op setId
    rw [hr] at hstep
    exact hstep.ascends plain

/-- A step that no counter is lost in: it does not load, it gives no relation the identity that stands at its path, and
it does not unregister a publisher at the last authority generation. -/
structure Sparing (e : FabricEngine) (op : Op) : Prop where
  plain : op.loads = false
  fresh : ∀ setId r path m, op.subject = some setId → e.sets[setId]? = some r → r.members[path]? = some m →
    path ∈ op.admits → m.id ∉ e.ids.upcoming op.admissions
  room : ∀ publisher workerBoot, op = .unregisterPublisher publisher workerBoot → publisher.valid = true →
    workerBoot.valid = true → e.registrations[(⟨publisher, workerBoot⟩ : WorkerKey)]?.isSome = true →
    e.currentAuthorityGeneration.next.isSome = true

theorem Sparing.quiet (plain : op.loads = false) (admits : op.admits = [])
    (keeps : ∀ publisher workerBoot, op ≠ .unregisterPublisher publisher workerBoot) : e.Sparing op := by
  refine ⟨plain, fun _ _ _ _ _ _ _ h => ?_, fun publisher workerBoot h => absurd h (keeps publisher workerBoot)⟩
  rw [admits] at h
  cases h

/-- What an operation owes to the counters that it moves, and the rejection that it gives where one is exhausted. -/
structure Accounts (e : FabricEngine) (op : Op) : Prop where
  requests : ∀ q setId r, op.request = some q → op.subject = some setId → e.sets[setId]? = some r →
    (e.exec op).2.succeeded = true → (e.exec op).2.code ≠ .idempotent → e.Pays op setId r
  dependents : ∀ path view context (setId : MultipathSetId) (r r' : SetRecord), op.Applies path view context →
    e.sets[setId]? = some r → (e.after op).sets[setId]? = some r' →
    r'.generation = if r'.lifecycle = r.lifecycle then r.generation else r.generation.next.getD r.generation
  authority : op.advancesAuthority = true → e.Charged op
  epoch : ∀ publisher workerBoot session expected attempt,
    op = .advanceEpoch publisher workerBoot session expected attempt → (e.exec op).2.succeeded = true →
    e.currentEpoch.next = some (e.after op).currentEpoch
  rejected : op.context.isSome = true → (e.exec op).2.succeeded = false →
    (∀ code ∈ e.violations op, code = .generationOverflow) → (e.exec op).2.code = .generationOverflow

theorem viewed_generation (linked : e.Linked) {path : PathId} {view : Option PathAuthorityView}
    {context : Option MutationContext} {r' : SetRecord} (applied : op.Applies path view context)
    (found : e.sets[setId]? = some r) (found' : (e.after op).sets[setId]? = some r') :
    r'.generation = if r'.lifecycle = r.lifecycle then r.generation else r.generation.next.getD r.generation := by
  rcases after_viewed linked applied with hsame | hviewed
  · rw [hsame, found] at found'
    cases found'
    rw [if_pos rfl]
  · by_cases hpassed : PassedBy r path
    · rw [((hviewed setId).passedBy r found hpassed).1] at found'
      cases found'
      rw [if_pos rfl]
    · unfold PassedBy at hpassed
      rw [not_or] at hpassed
      obtain ⟨m, hm⟩ := Option.ne_none_iff_exists'.mp hpassed.2
      obtain ⟨x, hx, hreevaluated⟩ := (hviewed setId).dependent r m found (by simpa using hpassed.1) hm
      rw [found'] at hx
      cases hx
      exact hreevaluated.generation

theorem accepted_ok {run : Checked (FabricEngine × FabricOutcome)} (refuses : Refuses (fun _ => False) run)
    (accepted : (conclude e run).2.succeeded = true) : run = .ok (conclude e run) := by
  cases run with
  | ok result => rfl
  | error outcome =>
      have hrejects := FabricOutcome.rejects_iff.mp ((refuses outcome rfl).resolve_right not_false)
      change outcome.succeeded = true at accepted
      rw [hrejects.1] at accepted
      cases accepted

theorem advanceEpoch_advances {publisher : PublisherId} {workerBoot : WorkerBootId} {session : SessionId}
    {expected : CoordinatorEpoch} {attempt : MutationAttemptId}
    (accepted : (e.advanceEpoch publisher workerBoot session expected attempt).2.succeeded = true) :
    e.currentEpoch.next = some (e.advanceEpoch publisher workerBoot session expected attempt).1.currentEpoch := by
  unfold advanceEpoch at accepted ⊢
  have hok := accepted_ok ?_ accepted
  · simp only [Checked.bind_ok, Checked.present_ok, Checked.pure_ok] at hok
    obtain ⟨_, _, _, _, _, _, _, _, _, _, epoch, hepoch, authority, _, hresult⟩ := hok
    rw [← hresult, (rewriteSets_keeps _ _ _).epoch]
    exact hepoch
  · refine .bind (.require rfl) fun _ _ => .bind (.unlessAnswered ?_) fun _ _ => .bind (.present rfl) fun _ _ =>
      .bind (.require rfl) fun _ _ => .bind (.require rfl) fun _ _ => .bind (.present rfl) fun _ _ =>
        .bind (.present rfl) fun _ _ => .pure _
    intro outcome h
    obtain ⟨fence, _, rfl⟩ := Option.map_eq_some_iff.mp h
    exact .inl rfl

theorem accounts_of_run {config : FabricConfig} (run : Reachable config e) (sparing : e.Sparing op) : e.Accounts op := by
  constructor
  · intro q setId r request named found accepted code
    exact pays_of_accepted (verdict_of_run run (by rw [request_context request]; rfl)) request named found accepted code
  · intro path view context setId r r' applied found found'
    exact viewed_generation (linked_of_run run) applied found found'
  · intro advances
    exact charged op advances sparing.room
  · rintro publisher workerBoot session expected attempt rfl accepted
    exact advanceEpoch_advances accepted
  · intro hcontext hrejected honly
    rcases verdict_of_run run hcontext with ⟨haccepted, _⟩ | ⟨haccepted, _⟩ | ⟨fault, hfault, hrejects⟩
    · rw [haccepted] at hrejected
      cases hrejected
    · rw [haccepted] at hrejected
      cases hrejected
    · rw [hrejects.2.1]
      exact honly fault (List.mem_of_head? hfault)

/-- Over every run whose steps are sparing no counter goes back, and none is exhausted and passed over. -/
theorem counters_of_run {config : FabricConfig} {e : FabricEngine} (history : Run Sparing config e) :
    (∀ e', Continues Sparing e e' → e.Ascends e') ∧
    (∀ e' setId path memberId m m', Continues (fun x op => x.Sparing op ∧ ∃ k, (x.after op).Retains setId path memberId k)
      e e' → e.Retains setId path memberId m → e'.Retains setId path memberId m' → m.Ascends m') ∧
    ∀ op, e.Sparing op → e.Accounts op := by
  refine ⟨fun e' later => ?_, fun e' setId path memberId m m' later before after => ?_, fun op sparing => ?_⟩
  · apply later.keeps (P := fun x => e.Ascends x)
    · exact .refl e
    · intro x op _ hascends hsparing
      exact hascends.trans (after_ascends x hsparing.plain)
  · obtain ⟨last, hlast, hascends⟩ : ∃ last, e'.Retains setId path memberId last ∧ m.Ascends last := by
      apply later.keeps (P := fun x => ∃ last, x.Retains setId path memberId last ∧ m.Ascends last)
      · exact ⟨m, before, .refl m⟩
      · rintro x op _ ⟨last, ⟨r, hr, hlast, hid⟩, hascends⟩ ⟨hsparing, next, r', hr', hnext, hid'⟩
        obtain ⟨stored, hstored, hplace⟩ := step_place hsparing.plain hr
        rw [hr'] at hstored
        cases hstored
        have hpath := hplace path
        rw [hnext] at hpath
        have hstep := hpath.ascends hlast (hid'.trans hid.symm) fun hsubject =>
          hsparing.fresh setId r path last hsubject hr hlast
        exact ⟨next, ⟨r', hr', hnext, hid'⟩, hascends.trans hstep⟩
    obtain ⟨r, hr, hm, _⟩ := hlast
    obtain ⟨r', hr', hm', _⟩ := after
    rw [hr] at hr'
    cases hr'
    rw [hm] at hm'
    cases hm'
    exact hascends
  · exact accounts_of_run history.reachable sparing

def admitting : Op := .addMember (sampleContext "a3") sampleSet sampleRequest (some sampleView)

theorem counters_of_run_sample : ∃ r r', (sampleRun (sampleSteps.take 3)).sets[sampleSet]? = some r ∧
    ((sampleRun (sampleSteps.take 3)).after admitting).sets[sampleSet]? = some r' ∧
    r.generation.next = some r'.generation := by
  obtain ⟨r, hr⟩ := Option.isSome_iff_exists.mp
    (show (sampleRun (sampleSteps.take 3)).sets[sampleSet]?.isSome = true by decide +kernel)
  have hfree : ((sampleRun (sampleSteps.take 3)).sets[sampleSet]?.bind fun r => r.members[samplePath]?).isNone = true := by
    decide +kernel
  have haccepted : ((sampleRun (sampleSteps.take 3)).exec admitting).2.succeeded = true := by decide +kernel
  have hcode : ((sampleRun (sampleSteps.take 3)).exec admitting).2.code ≠ .idempotent := by decide +kernel
  have hhistory : Run Sparing sampleConfig (sampleRun (sampleSteps.take 3)) := by
    refine Run.afterAll (fun op hop e => ?_) (.init sampleIds)
    simp only [sampleSteps, List.take, List.mem_cons, List.not_mem_nil, or_false] at hop
    rcases hop with rfl | rfl | rfl <;> exact .quiet rfl rfl fun _ _ h => by cases h
  have hsparing : (sampleRun (sampleSteps.take 3)).Sparing admitting := by
    refine ⟨rfl, fun setId other path m hsubject hother hm hadmits => ?_, fun _ _ h => by cases h⟩
    cases hsubject
    rw [List.mem_singleton.mp hadmits] at hm
    rw [hother, Option.bind_some, show samplePath = sampleRequest.pathId from rfl, hm] at hfree
    cases hfree
  obtain ⟨r', hr', hnext⟩ :=
    (((counters_of_run hhistory).2.2 admitting hsparing).requests _ sampleSet r rfl rfl hr haccepted hcode).set trivial
  exact ⟨r, r', hr, hr', hnext⟩

/-- A publisher is unregistered at the last authority generation, which stays. -/
theorem counters_fail : ¬∀ (config : FabricConfig) (e : FabricEngine) (op : Op), Reachable config e → op.loads = false →
    op.advancesAuthority = true → (e.exec op).2.succeeded = true → (e.exec op).2.code ≠ .idempotent →
    e.currentAuthorityGeneration.next = some (e.after op).currentAuthorityGeneration := by
  intro h
  have hnext := h exhaustedConfig ((init exhaustedConfig sampleIds).after
      (.registerPublisher (sampleId "pub") (sampleId "boot") sampleScope (sampleId "sess")))
    (.unregisterPublisher (sampleId "pub") (sampleId "boot")) (.step (.init sampleIds) _ trivial) rfl rfl
    (by decide +kernel) (by decide +kernel)
  have hexhausted : ((init exhaustedConfig sampleIds).after (.registerPublisher (sampleId "pub") (sampleId "boot")
      sampleScope (sampleId "sess"))).currentAuthorityGeneration.next = none := by decide +kernel
  rw [hexhausted] at hnext
  cases hnext

end FabricEngine

end MultipathFabric
