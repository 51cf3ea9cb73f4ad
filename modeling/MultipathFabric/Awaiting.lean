import MultipathFabric.Atomicity
import MultipathFabric.Capacity
import MultipathFabric.Fencing
import MultipathFabric.Frozen
import MultipathFabric.LiveAuthority
import MultipathFabric.LivedRuns
import MultipathFabric.PathIndex
import MultipathFabric.Recovery

namespace MultipathFabric

open OrderedMap SetRecord Checked

theorem Answer.reports {e : FabricEngine} {op : Op} {q : Request} {result : FabricEngine × FabricOutcome}
    (answer : Answer e op q result) : result.2.usableMembers = none ∨ e.Replays op q result.2 ∨
      ∃ (setId : MultipathSetId) (r : SetRecord), result.1.sets[setId]? = some r ∧ result.2.Reports r := by
  cases answer with
  | refused _ silent | left _ _ _ _ _ _ _ silent | viewed _ _ _ _ _ _ silent => exact .inl silent
  | replayed known => exact .inr (.inl known)
  | @answered setId r x _ _ _ _ _ _ _ reports =>
      refine .inr (.inr ⟨setId, _, ?_, reports⟩)
      change (e.sets.insert setId x)[setId]? = some x
      rw [getElem?_insert_eq, if_pos rfl]
  | @committed setId r x spec outcome generation membershipGeneration _ _ _ _ _ _ _ _ _ reports =>
      refine .inr (.inr ⟨setId, _, ?_, reports⟩)
      dsimp only
      rw [FabricEngine.sealedCommit_sets, getElem?_insert_eq, if_pos rfl]
  | @superseded predecessor successor old new x spec outcome generation _ _ distinct _ _ _ _ _ _ _ _ _ reports =>
      refine .inr (.inr ⟨predecessor, _, ?_, reports⟩)
      dsimp only
      rw [FabricEngine.supersedeSuccessor_sets, getElem?_insert_eq, if_neg distinct.symm, FabricEngine.sealedCommit_sets,
        getElem?_insert_eq, if_pos rfl]
  | @created key options outcome _ _ _ _ _ _ _ reports =>
      refine .inr (.inr ⟨e.ids.nextSetId.1, _, ?_, reports⟩)
      change (FabricEngine.putSet _ _ _).sets[e.ids.nextSetId.1]? = _
      rw [FabricEngine.putSet, getElem?_insert_eq, if_pos rfl]

namespace FabricEngine

theorem conclude_silent {e : FabricEngine} {run : Checked (FabricEngine × FabricOutcome)}
    (refuses : Refuses (fun outcome => outcome.usableMembers = none) run)
    (answers : ∀ result, run = .ok result → result.2.usableMembers = none) : (conclude e run).2.usableMembers = none := by
  cases run with
  | ok result => exact answers result rfl
  | error outcome =>
      rcases refuses outcome rfl with hrejected | hsilent
      · exact (FabricOutcome.rejects_iff.mp hrejected).2
      · exact hsilent

theorem registerPublisher_silent (e : FabricEngine) (publisher : PublisherId) (workerBoot : WorkerBootId)
    (scope : AuthorityScope) (session : SessionId) :
    (e.registerPublisher publisher workerBoot scope session).2.usableMembers = none := by
  refine conclude_silent ?_ fun result h => ?_
  · refine .bind (.require rfl) fun _ _ => .bind (.require rfl) fun _ _ => .bind (.require rfl) fun _ _ =>
      .bind (.require rfl) fun _ _ => .bind (.unlessAnswered fun outcome houtcome => ?_) fun _ _ => .bind ?_ fun _ _ => ?_
    · obtain ⟨fence, _, rfl⟩ := Option.map_eq_some_iff.mp houtcome
      exact .inr rfl
    · unfold registrationCheck
      split
      · intro outcome houtcome
        unfold Checked.require at houtcome
        split at houtcome
        · cases houtcome
        · cases houtcome
          exact .inr rfl
      · exact .require rfl
    · dsimp only
      split <;> exact .pure _
  · simp only [Checked.bind_ok] at h
    obtain ⟨_, _, _, _, _, _, _, _, _, _, _, _, h⟩ := h
    split at h
    · rw [Checked.pure_ok] at h
      subst h
      rfl
    · rw [Checked.pure_ok] at h
      subst h
      rfl

theorem unregisterPublisher_silent (e : FabricEngine) (publisher : PublisherId) (workerBoot : WorkerBootId) :
    (e.unregisterPublisher publisher workerBoot).2.usableMembers = none := by
  refine conclude_silent ?_ fun result h => ?_
  · exact .bind (.require rfl) fun _ _ => .bind (.present rfl) fun _ _ => .pure _
  · simp only [Checked.bind_ok, Checked.pure_ok] at h
    obtain ⟨_, _, _, _, rfl⟩ := h
    rfl

theorem fenceWorker_silent (e : FabricEngine) (publisher : PublisherId) (workerBoot : WorkerBootId) (cause : Bytes) :
    (e.fenceWorker publisher workerBoot cause).2.usableMembers = none := by
  refine conclude_silent ?_ fun result h => ?_
  · refine .bind (.require rfl) fun _ _ => .bind (.require rfl) fun _ _ =>
      .bind (.unlessAnswered fun outcome houtcome => ?_) fun _ _ => .bind (.present rfl) fun _ _ => .pure _
    obtain ⟨fence, _, rfl⟩ := Option.map_eq_some_iff.mp houtcome
    exact .inr rfl
  · simp only [Checked.bind_ok, Checked.pure_ok] at h
    obtain ⟨_, _, _, _, _, _, authority, _, rfl⟩ := h
    rfl

theorem advanceEpoch_silent (e : FabricEngine) (publisher : PublisherId) (workerBoot : WorkerBootId)
    (session : SessionId) (expected : CoordinatorEpoch) (attempt : MutationAttemptId) :
    (e.advanceEpoch publisher workerBoot session expected attempt).2.usableMembers = none := by
  refine conclude_silent ?_ fun result h => ?_
  · refine .bind (.require rfl) fun _ _ => .bind (.unlessAnswered fun outcome houtcome => ?_) fun _ _ =>
      .bind (.present rfl) fun _ _ => .bind (.require rfl) fun _ _ => .bind (.require rfl) fun _ _ =>
        .bind (.present rfl) fun _ _ => .bind (.present rfl) fun _ _ => .pure _
    obtain ⟨fence, _, rfl⟩ := Option.map_eq_some_iff.mp houtcome
    exact .inr rfl
  · simp only [Checked.bind_ok, Checked.pure_ok] at h
    obtain ⟨_, _, _, _, _, _, _, _, _, _, epoch, _, authority, _, rfl⟩ := h
    rfl

theorem loadStore_silent (e : FabricEngine) (path : Bytes) (files : StoreFiles) :
    (e.loadStore path files).2.usableMembers = none := by
  unfold loadStore
  split
  · rfl
  · split
    · rename_i rejection hread
      exact (FabricOutcome.rejects_iff.mp (readAndDecode_rejects hread)).2
    · refine conclude_silent ?_ fun result h => ?_
      · exact .bind (.present rfl) fun _ _ => .bind (.present rfl) fun _ _ => .pure _
      · simp only [Checked.bind_ok, Checked.pure_ok] at h
        obtain ⟨epoch, _, authority, _, rfl⟩ := h
        split
        · rename_i rejection hinstalled
          exact (FabricOutcome.rejects_iff.mp (installSets_rejects hinstalled)).2
        · rfl

theorem beginMemberRevalidation_silent (e : FabricEngine) (context : MutationContext) (setId : MultipathSetId)
    (memberId : MultipathMemberId) (attempt : RevalidationAttemptId) :
    (e.beginMemberRevalidation context setId memberId attempt).2.1.usableMembers = none := by
  unfold beginMemberRevalidation
  dsimp only
  split
  · rename_i result h
    simp only [Checked.bind_ok, Checked.pure_ok] at h
    obtain ⟨_, _, _, _, _, _, _, _, _, _, _, _, _, _, rfl⟩ := h
    rfl
  · rename_i rejection h
    have hrefuses : Refuses (fun _ => False) (α := FabricEngine × FabricOutcome × Option RevalidationTicket)
        (.error rejection) := by
      rw [← h]
      exact .bind (.require rfl) fun _ _ => .bind (authorityCheck_refuses _ _ _ _) fun _ _ =>
        .bind (requireSet_refuses _ _) fun _ _ => .bind (.present rfl) fun _ _ => .bind (.present rfl) fun _ _ =>
          .bind (.require rfl) fun _ _ => .bind (.require rfl) fun _ _ => .pure _
    exact (FabricOutcome.rejects_iff.mp ((hrefuses rejection rfl).resolve_right fun h => h)).2

theorem abandonMemberRevalidation_silent (e : FabricEngine) (ticket : RevalidationTicket) :
    (e.abandonMemberRevalidation ticket).2.usableMembers = none := by
  refine conclude_silent ?_ fun result h => ?_
  · exact .bind (.require rfl) fun _ _ => .bind (requireSet_refuses _ _) fun _ _ => .bind (.present rfl) fun _ _ =>
      .bind (.present rfl) fun _ _ => .bind (.require rfl) fun _ _ => .pure _
  · simp only [Checked.bind_ok, Checked.pure_ok] at h
    obtain ⟨_, _, _, _, _, _, _, _, _, _, rfl⟩ := h
    rfl

theorem exec_reports (e : FabricEngine) (op : Op) : (e.exec op).2.usableMembers = none ∨
    (∃ q, op.request = some q ∧ e.Replays op q (e.exec op).2) ∨
      ∃ (setId : MultipathSetId) (r : SetRecord), (e.after op).sets[setId]? = some r ∧ (e.exec op).2.Reports r := by
  cases hrequest : op.request with
  | some q =>
      rcases (exec_answer e hrequest).reports with hsilent | hreplayed | hreports
      · exact .inl hsilent
      · exact .inr (.inl ⟨q, rfl, hreplayed⟩)
      · exact .inr (.inr hreports)
  | none =>
      left
      cases op with
      | registerPublisher => exact registerPublisher_silent _ _ _ _ _
      | unregisterPublisher => exact unregisterPublisher_silent _ _ _
      | fenceWorker => exact fenceWorker_silent _ _ _ _
      | advanceEpoch => exact advanceEpoch_silent _ _ _ _ _ _
      | beginMemberRevalidation => exact beginMemberRevalidation_silent _ _ _ _ _
      | abandonMemberRevalidation => exact abandonMemberRevalidation_silent _ _
      | loadStore => exact loadStore_silent _ _ _
      | reconcilePath | bindPathAuthority => rfl
      | refreshPath context path view =>
          cases view with
          | some view => cases hrequest
          | none =>
              change (e.refreshPathLocked context path none).2.usableMembers = none
              unfold refreshPathLocked
              split <;> rfl
      | _ => cases hrequest

end FabricEngine

theorem SetRecord.applyTransition_current {r x : SetRecord} {event : SetEvent} (moved : r.applyTransition event = .ok x)
    (h : x.currentness = .current) : r.currentness = .current := by
  unfold applyTransition at moved
  split at moved
  · cases moved
  all_goals
    cases moved
    first
    | exact h
    | cases h

theorem publishMembers_currentness (context : MutationContext) (setId : MultipathSetId) (e : FabricEngine)
    (r : SetRecord) (requests : List (MemberRequest × Option PathAuthorityView)) :
    (FabricEngine.publishMembers context setId e r requests).2.1.currentness = r.currentness := by
  rw [SetRecord.publishMembers_frame]

theorem RecordEdit.current {e : FabricEngine} {setId : MultipathSetId} {r x : SetRecord} {op : Op} {summary : Bytes}
    (edit : RecordEdit e setId r op x summary) (h : x.currentness = .current) :
    r.currentness = .current ∨ ∃ context views, op = .revalidateSet context setId views := by
  cases edit with
  | revalidatedSet context views => exact .inr ⟨context, views, rfl⟩
  | collided | supersedes | supersedesRecorded | revalidatedMember | begun | released
  | completed | abandoned | toggled | observed => exact .inl h
  | publish _ moved | minimumChecked _ _ moved | policyChecked _ _ moved | adminChecked _ _ moved
  | completeWithdrawal _ moved => exact .inl (applyTransition_current moved h)
  | minimumChanged _ _ moved | policyChanged _ _ moved | adminChanged _ _ moved
  | removed _ _ _ _ _ _ moved | withdrewMember _ _ _ _ _ _ _ moved | replaced _ _ _ _ _ _ _ _ _ _ _ _ _ moved =>
      left
      apply applyTransition_current moved
      exact h
  | withdraw _ _ _ moved | revoke _ _ _ _ _ moved | retire _ _ _ moved | superseded _ _ _ moved =>
      left
      apply applyTransition_current moved
      first
      | rw [withdrawn, consequences_frame] at h
      | rw [consequences_frame] at h
      exact h
  | added _ _ _ _ _ _ moved =>
      left
      apply applyTransition_current moved
      rw [← publishMembers_currentness]
      exact h
  | invalidated =>
      left
      unfold FabricEngine.dependencyInvalidated at h
      dsimp only at h
      split at h <;> exact h

theorem sealed_currentness {limits : Limits} {x r' : SetRecord} {summary : Bytes} (h : Sealed limits x summary r') :
    r'.currentness = x.currentness := by
  cases h with
  | kept => rfl
  | committed =>
      simp only [committed, FabricEngine.appendHistory, pruneArchive]
      split <;> rfl

namespace FabricEngine

def Awaits (e : FabricEngine) (setId : MultipathSetId) : Prop :=
  ∀ r : SetRecord, e.sets[setId]? = some r → r.currentness ≠ .current

def Revalidates (e : FabricEngine) (setId : MultipathSetId) (op : Op) : Prop :=
  ∃ context views registration, op = .revalidateSet context setId views ∧ (e.exec op).2.succeeded = true ∧
    e.GovernedBy context registration

structure Leaves (setId : MultipathSetId) (e : FabricEngine) (op : Op) : Prop where
  unrevalidated : ¬e.Revalidates setId op
  counted : ∀ context views, op = .revalidateSet context setId views → ¬Residue e op
  undeclared : ∀ context key options, op = .createSet context key options → e.sets[setId]? = none →
    e.ids.nextSetId.1 ≠ setId

variable {e : FabricEngine} {setId : MultipathSetId} {op : Op}

theorem revalidation_cases {context : MutationContext} {views : ViewTable} (leaves : Leaves setId e op)
    (revalidates : op = .revalidateSet context setId views) : (e.after op).sets = e.sets := by
  by_cases haccepted : (e.exec op).2.succeeded = true
  · obtain ⟨registration, hgoverned⟩ := governed_of_accepted (by rw [revalidates]; rfl : op.context = some context) haccepted
    exact absurd ⟨context, views, registration, revalidates, haccepted, hgoverned⟩ leaves.unrevalidated
  · rw [Bool.not_eq_true] at haccepted
    have hresidue := leaves.counted context views revalidates
    subst revalidates
    have hsame := revalidation_rejected hresidue haccepted
    change (e.revalidateSetLocked context setId views).engine.sets = _
    rw [hsame]

theorem Awaits.after (h : e.Awaits setId) (leaves : Leaves setId e op) : (e.after op).Awaits setId := by
  intro r' hr'
  have hstep := e.after_sets op setId
  rw [hr'] at hstep
  generalize hentry : e.sets[setId]? = entry at hstep
  cases hstep with
  | kept => exact h r' hentry
  | changed edit stored =>
      intro hcurrent
      rw [sealed_currentness stored] at hcurrent
      rcases edit.current hcurrent with hwas | ⟨context, views, hop⟩
      · exact h _ hentry hwas
      · rw [revalidation_cases leaves hop] at hr'
        apply h _ hr'
        rw [sealed_currentness stored]
        exact hcurrent
  | created creates _ _ _ minted => exact absurd minted (leaves.undeclared _ _ _ creates hentry)
  | fenced | epochAdvanced | recovered =>
      intro h
      cases h

theorem Awaits.continued {e' : FabricEngine} (h : e.Awaits setId) (continued : Continues (Leaves setId) e e') :
    e'.Awaits setId :=
  continued.keeps (P := fun x => x.Awaits setId) h fun _ _ _ hawaits hleaves => hawaits.after hleaves

theorem Awaits.unconsumable {r : SetRecord} (h : e.Awaits setId) (found : e.sets[setId]? = some r) :
    setIsConsumable r = false ∧ consumableMemberCount r = 0 := by
  have hcurrentness := h r found
  have hclosed : setIsConsumable r = false := by
    unfold setIsConsumable
    simp [hcurrentness]
  refine ⟨hclosed, ?_⟩
  rw [consumableMemberCount, hclosed]
  rfl

theorem Awaits.reports {n : ℕ} (h : e.Awaits setId) (linked : (e.after op).Linked) (leaves : Leaves setId e op)
    (names : (e.exec op).2.setId = some setId) (reported : (e.exec op).2.usableMembers = some n) :
    n = 0 ∨ ∃ q, op.request = some q ∧ e.Replays op q (e.exec op).2 := by
  rcases e.exec_reports op with hsilent | hreplayed | ⟨other, r, hr, hreports⟩
  · rw [hsilent] at reported
    cases reported
  · exact .inr hreplayed
  · left
    rcases hreports with hsilent | ⟨hid, hcount⟩
    · rw [hsilent] at reported
      cases reported
    · rw [names, linked.keyed other r hr] at hid
      cases hid
      rw [hcount, ((h.after leaves).unconsumable hr).2] at reported
      cases reported
      rfl

structure Unsettled (e' : FabricEngine) (setId : MultipathSetId) (r r' : SetRecord) : Prop where
  found : e'.sets[setId]? = some r'
  currentness : r'.currentness = .revalidationRequired
  epoch : r'.governingEpoch = e'.currentEpoch
  authority : r'.authorityGeneration = e'.currentAuthorityGeneration
  still : r.StampsOnly r'

theorem Unsettled.awaits {e' : FabricEngine} {r r' : SetRecord} (h : Unsettled e' setId r r') : e'.Awaits setId := by
  intro other hother
  rw [h.found] at hother
  cases hother
  rw [h.currentness]
  decide

theorem fenceWorker_unsettles {publisher : PublisherId} {workerBoot : WorkerBootId} {cause : Bytes} {r : SetRecord}
    (accepted : (e.fenceWorker publisher workerBoot cause).2.succeeded = true)
    (unfenced : e.fences[(⟨publisher, workerBoot⟩ : WorkerKey)]? = none) (found : e.sets[setId]? = some r)
    (owner : r.provenance.publisher = publisher) :
    ∃ r', Unsettled (e.fenceWorker publisher workerBoot cause).1 setId r r' := by
  rcases fenceWorker_cases e publisher workerBoot cause with hsame | ⟨authority, _, _, _, _, hfenced⟩
  · have hfences := fenceWorker_fences accepted
    rw [hsame, unfenced] at hfences
    cases hfences
  · rw [hfenced]
    refine ⟨r.fenced authority e.currentEpoch, ?_, rfl, ?_, ?_, stampsOnly_fenced _ _ _⟩
    · rw [fenceSets_step]
      change (e.sets[setId]?.map _) = _
      rw [found, Option.map_some, if_pos owner]
    · rw [fenceSets, (rewriteSets_keeps _ _ _).epoch]
      rfl
    · rw [fenceSets, (rewriteSets_keeps _ _ _).authority]
      rfl

theorem advanceEpoch_accepts {publisher : PublisherId} {workerBoot : WorkerBootId} {session : SessionId}
    {expected : CoordinatorEpoch} {attempt : MutationAttemptId}
    (accepted : (e.advanceEpoch publisher workerBoot session expected attempt).2.succeeded = true) :
    ∃ advanced : FabricEngine, e.currentEpoch.next = some advanced.currentEpoch ∧
      e.currentAuthorityGeneration.next = some advanced.currentAuthorityGeneration ∧ advanced.sets = e.sets ∧
      (e.advanceEpoch publisher workerBoot session expected attempt).1 =
        rewriteSets (fun e r => some (e.epochAdvanced r)) advanced advanced.sets.toList := by
  revert accepted
  unfold advanceEpoch
  refine conclude_elim (fun result => result.2.succeeded = true → ∃ advanced : FabricEngine,
    e.currentEpoch.next = some advanced.currentEpoch ∧
      e.currentAuthorityGeneration.next = some advanced.currentAuthorityGeneration ∧ advanced.sets = e.sets ∧
      result.1 = rewriteSets (fun e r => some (e.epochAdvanced r)) advanced advanced.sets.toList) ?_ ?_
    fun result hrun => ?_
  · refine .bind (.require rfl) fun _ _ => .bind (.unlessAnswered fun outcome houtcome => ?_) fun _ _ =>
      .bind (.present rfl) fun _ _ => .bind (.require rfl) fun _ _ => .bind (.require rfl) fun _ _ =>
        .bind (.present rfl) fun _ _ => .bind (.present rfl) fun _ _ => .pure _
    obtain ⟨fence, _, rfl⟩ := Option.map_eq_some_iff.mp houtcome
    exact .inl rfl
  · intro outcome hrejected _ haccepted
    rw [hrejected] at haccepted
    cases haccepted
  · intro _
    simp only [Checked.bind_ok, Checked.present_ok, Checked.pure_ok] at hrun
    obtain ⟨_, _, _, _, _, _, _, _, _, _, epoch, hepoch, authority, hauthority, rfl⟩ := hrun
    exact ⟨{ e with
      fences := e.fenceRegistrations epoch
      registrations := ∅
      currentEpoch := epoch
      currentAuthorityGeneration := authority }, hepoch, hauthority, rfl, rfl⟩

theorem advanceEpoch_unsettles {publisher : PublisherId} {workerBoot : WorkerBootId} {session : SessionId}
    {expected : CoordinatorEpoch} {attempt : MutationAttemptId} {r : SetRecord}
    (accepted : (e.advanceEpoch publisher workerBoot session expected attempt).2.succeeded = true)
    (found : e.sets[setId]? = some r) :
    ∃ r', Unsettled (e.advanceEpoch publisher workerBoot session expected attempt).1 setId r r' := by
  obtain ⟨advanced, _, _, hsets, hadvanced⟩ := advanceEpoch_accepts accepted
  rw [hadvanced]
  refine ⟨advanced.epochAdvanced r, ?_, rfl, ?_, ?_, stampsOnly_epochAdvanced _ r⟩
  · rw [rewriteSets_step (fun _ => epochAdvanced_congr) setId, hsets, found]
    rfl
  · rw [(rewriteSets_keeps _ _ _).epoch]
    rfl
  · rw [(rewriteSets_keeps _ _ _).authority]
    rfl

theorem loadStore_unsettles {path : Bytes} {files : StoreFiles}
    (accepted : (e.loadStore path files).2.succeeded = true) :
    ∃ decoded fallback, readAndDecode path e.limits files = .ok (decoded, fallback) ∧
      decoded.epoch.next = some (e.loadStore path files).1.currentEpoch ∧
      decoded.authorityGeneration.next = some (e.loadStore path files).1.currentAuthorityGeneration ∧
      (e.loadStore path files).1.registrations = ∅ ∧
      (∀ r ∈ decoded.sets, ∃ r', Unsettled (e.loadStore path files).1 r.id r r') ∧
      ∀ (setId : MultipathSetId) (r' : SetRecord), (e.loadStore path files).1.sets[setId]? = some r' →
        ∃ r ∈ decoded.sets, r.id = setId ∧ Unsettled (e.loadStore path files).1 setId r r' := by
  obtain ⟨decoded, fallback, epoch, authority, hread, hepoch, hauthority, hdistinct, hloaded⟩ :=
    loadStore_recovers accepted
  rw [hloaded]
  have hstamp := (e.clearedForLoad decoded.fences epoch authority).installSets_stamp decoded.sets
  have hunsettled : ∀ r ∈ decoded.sets,
      Unsettled ((e.clearedForLoad decoded.fences epoch authority).installSets decoded.sets).1 r.id r
        ((e.clearedForLoad decoded.fences epoch authority).recoveredSet r) := by
    intro r hr
    refine ⟨(installSets_whole (installSets_cleared.mpr hdistinct)).1 r hr, rfl, ?_, ?_, stampsOnly_recovered _ r⟩
    · exact hstamp.epoch.symm
    · exact hstamp.authority.symm
  refine ⟨decoded, fallback, hread, ?_, ?_, ?_, fun r hr => ⟨_, hunsettled r hr⟩, fun setId r' hr' => ?_⟩
  · rw [hstamp.epoch]
    exact hepoch
  · rw [hstamp.authority]
    exact hauthority
  · rw [installSets_registrations]
    rfl
  · rcases installSets_sets _ decoded.sets setId with hnone | ⟨r, hr, hid, hsome⟩
    · rw [hnone] at hr'
      have hempty : (e.clearedForLoad decoded.fences epoch authority).sets[setId]? = none := Std.ExtTreeMap.getElem?_empty
      rw [hempty] at hr'
      cases hr'
    · rw [hsome] at hr'
      cases hr'
      have hfound := hunsettled r hr
      rw [hid] at hfound
      exact ⟨r, hr, hid, hfound⟩

def Unconsumed (e : FabricEngine) (setId : MultipathSetId) : Prop :=
  ∀ e', Continues (Leaves setId) e e' →
    (∀ r : SetRecord, e'.sets[setId]? = some r → setIsConsumable r = false ∧ consumableMemberCount r = 0) ∧
    ∀ op n, Leaves setId e' op → (e'.exec op).2.setId = some setId → (e'.exec op).2.usableMembers = some n →
      n = 0 ∨ ∃ q, op.request = some q ∧ e'.Replays op q (e'.exec op).2

theorem Awaits.unconsumed {config : FabricConfig} (h : e.Awaits setId) (run : Reachable config e) :
    e.Unconsumed setId := by
  intro e' continued
  have hawaits := h.continued continued
  refine ⟨fun r => hawaits.unconsumable, fun op n leaves names reported => ?_⟩
  have hlater : Reachable config (e'.after op) := .step (Continues.reachable continued run) op trivial
  exact hawaits.reports (linked_of_run hlater) leaves names reported

/-- How an operation that takes live authority leaves the sets it affects. -/
structure Recovers (e : FabricEngine) (op : Op) : Prop where
  loaded : ∀ path files, op = .loadStore path files →
    ∃ decoded fallback, readAndDecode path e.limits files = .ok (decoded, fallback) ∧
      decoded.epoch.next = some (e.after op).currentEpoch ∧
      decoded.authorityGeneration.next = some (e.after op).currentAuthorityGeneration ∧
      (e.after op).registrations = ∅ ∧
      (∀ r ∈ decoded.sets, (∃ r', Unsettled (e.after op) r.id r r') ∧ (e.after op).Unconsumed r.id) ∧
      ∀ (setId : MultipathSetId) (r' : SetRecord), (e.after op).sets[setId]? = some r' →
        ∃ r ∈ decoded.sets, r.id = setId ∧ Unsettled (e.after op) setId r r'
  advanced : ∀ publisher workerBoot session expected attempt,
    op = .advanceEpoch publisher workerBoot session expected attempt →
    ∀ (setId : MultipathSetId) (r : SetRecord), e.sets[setId]? = some r →
      (∃ r', Unsettled (e.after op) setId r r') ∧ (e.after op).Unconsumed setId
  fenced : ∀ publisher workerBoot cause, op = .fenceWorker publisher workerBoot cause →
    e.fences[(⟨publisher, workerBoot⟩ : WorkerKey)]? = none →
    ∀ (setId : MultipathSetId) (r : SetRecord), e.sets[setId]? = some r → r.provenance.publisher = publisher →
      (∃ r', Unsettled (e.after op) setId r r') ∧ (e.after op).Unconsumed setId

end FabricEngine

open FabricEngine

/-- Loads, epoch advances and new fences take live authority and leave everything else. -/
theorem conservative_recovery {config : FabricConfig} {e : FabricEngine} (run : Reachable config e) (op : Op)
    (accepted : (e.exec op).2.succeeded = true) : e.Recovers op := by
  have hunconsumed : ∀ {setId : MultipathSetId} {r r' : SetRecord}, Unsettled (e.after op) setId r r' →
      (e.after op).Unconsumed setId := by
    intro setId r r' h
    have hlater : Reachable config (e.after op) := .step run op trivial
    exact h.awaits.unconsumed hlater
  constructor
  · rintro path files rfl
    obtain ⟨decoded, fallback, hread, hepoch, hauthority, hregistrations, hstored, hfound⟩ :=
      loadStore_unsettles accepted
    refine ⟨decoded, fallback, hread, hepoch, hauthority, hregistrations, fun r hr => ?_, hfound⟩
    obtain ⟨r', hr'⟩ := hstored r hr
    exact ⟨⟨r', hr'⟩, hunconsumed hr'⟩
  · rintro publisher workerBoot session expected attempt rfl setId r found
    obtain ⟨r', hr'⟩ := advanceEpoch_unsettles accepted found
    exact ⟨⟨r', hr'⟩, hunconsumed hr'⟩
  · rintro publisher workerBoot cause rfl unfenced setId r found owner
    obtain ⟨r', hr'⟩ := fenceWorker_unsettles accepted unfenced found owner
    exact ⟨⟨r', hr'⟩, hunconsumed hr'⟩

theorem conservative_recovery_sample : (sampleRun []).Recovers (.loadStore (text "store")
    ⟨(encodeStore (sampleRun sampleSteps)).toOption, none, none⟩) :=
  conservative_recovery (sampleRun_reachable []) _ (by decide +kernel)

def fencesOldBoot : Op := .fenceWorker (sampleId "pub") (sampleId "old") (text "gone")

def publishesSample : Op := .publishSet (sampleContext "a5") sampleSet

/-- A fence that is already in force takes no authority again, and an exact replay repeats the count of its first
answer. -/
theorem conservative_recovery_fails :
    (¬∀ config (e : FabricEngine) publisher workerBoot cause (setId : MultipathSetId) (r : SetRecord),
      Reachable config e → (e.exec (.fenceWorker publisher workerBoot cause)).2.succeeded = true →
      e.sets[setId]? = some r → r.provenance.publisher = publisher →
      ∃ r', Unsettled (e.after (.fenceWorker publisher workerBoot cause)) setId r r') ∧
    ¬∀ config (e : FabricEngine) publisher workerBoot cause (setId : MultipathSetId) op n, Reachable config e →
      (e.exec (.fenceWorker publisher workerBoot cause)).2.succeeded = true →
      (e.after (.fenceWorker publisher workerBoot cause)).Awaits setId →
      ¬(e.after (.fenceWorker publisher workerBoot cause)).Revalidates setId op →
      ((e.after (.fenceWorker publisher workerBoot cause)).exec op).2.setId = some setId →
      ((e.after (.fenceWorker publisher workerBoot cause)).exec op).2.usableMembers = some n → n = 0 := by
  constructor
  · intro h
    have hcurrent : ((sampleRun (fencesOldBoot :: sampleSteps)).sets[sampleSet]?.map fun r =>
        (r.currentness, r.provenance.publisher)) = some (.current, sampleId "pub") := by decide +kernel
    have hkept : (((sampleRun (fencesOldBoot :: sampleSteps)).after fencesOldBoot).sets[sampleSet]?.map
        SetRecord.currentness) = some .current := by decide +kernel
    obtain ⟨r, hr, hfields⟩ := Option.map_eq_some_iff.mp hcurrent
    obtain ⟨-, howner⟩ := Prod.mk.inj hfields
    obtain ⟨r', hr'⟩ := h _ _ (sampleId "pub") (sampleId "old") (text "gone") sampleSet r
      (sampleRun_reachable (fencesOldBoot :: sampleSteps)) (by decide +kernel) hr howner
    obtain ⟨x, hx, hcurrentness⟩ := Option.map_eq_some_iff.mp hkept
    have hsame : some x = some r' := hx.symm.trans hr'.found
    cases hsame
    rw [hr'.currentness] at hcurrentness
    cases hcurrentness
  · intro h
    have hrun := sampleRun_reachable (sampleSteps ++ [publishesSample])
    have haccepted : ((sampleRun (sampleSteps ++ [publishesSample])).exec fencesOldBoot).2.succeeded = true := by
      decide +kernel
    have hawaits : ((sampleRun (sampleSteps ++ [publishesSample])).after fencesOldBoot).sets[sampleSet]?.map
        SetRecord.currentness = some .revalidationRequired := by decide +kernel
    have hnames : (((sampleRun (sampleSteps ++ [publishesSample])).after fencesOldBoot).exec publishesSample).2.setId =
        some sampleSet := by decide +kernel
    have hreported : (((sampleRun (sampleSteps ++ [publishesSample])).after fencesOldBoot).exec
        publishesSample).2.usableMembers = some 1 := by decide +kernel
    generalize sampleRun (sampleSteps ++ [publishesSample]) = e at hrun haccepted hawaits hnames hreported
    obtain ⟨x, hx, hcurrentness⟩ := Option.map_eq_some_iff.mp hawaits
    have hzero := h sampleConfig e (sampleId "pub") (sampleId "old") (text "gone") sampleSet publishesSample 1 hrun
      haccepted (fun r hr => by
        rw [show (e.after fencesOldBoot).sets[sampleSet]? = some r from hr] at hx
        cases hx
        rw [hcurrentness]
        decide) (by
        rintro ⟨_, _, _, hop, _⟩
        cases hop) hnames hreported
    cases hzero

end MultipathFabric
