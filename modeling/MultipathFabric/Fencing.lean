import MultipathFabric.LiveAuthority
import MultipathFabric.Recovery
import MultipathFabric.StoreCodec

namespace MultipathFabric

open ByteCodec OrderedMap

namespace FabricEngine

structure Gated (e : FabricEngine) : Prop where
  keyed : ∀ (worker : WorkerKey) (f : FenceRecord), e.fences[worker]? = some f → (⟨f.publisher, f.workerBoot⟩ : WorkerKey) = worker
  exclusive : ∀ worker : WorkerKey, e.fences[worker]?.isSome = true → e.registrations[worker]? = none

structure GateStep (e e' : FabricEngine) : Prop where
  kept : ∀ worker : WorkerKey, e.fences[worker]?.isSome = true → e'.fences[worker]?.isSome = true
  keyed : ∀ (worker : WorkerKey) (f : FenceRecord), e'.fences[worker]? = some f →
    (⟨f.publisher, f.workerBoot⟩ : WorkerKey) = worker ∨ e.fences[worker]? = some f
  registered : ∀ worker : WorkerKey, e'.registrations[worker]?.isSome = true →
    e'.fences[worker]? = none ∨ e.registrations[worker]?.isSome = true ∧ e'.fences[worker]? = e.fences[worker]?

theorem GateStep.same {e e' : FabricEngine} (fences : e'.fences = e.fences)
    (registrations : e'.registrations = e.registrations) : GateStep e e' := by
  refine ⟨fun worker h => ?_, fun worker f h => ?_, fun worker h => ?_⟩
  · rwa [fences]
  · rw [fences] at h
    exact .inr h
  · rw [registrations] at h
    exact .inr ⟨h, by rw [fences]⟩

theorem Gated.step {e e' : FabricEngine} (h : e.Gated) (step : GateStep e e') : e'.Gated := by
  constructor
  · intro worker f hf
    rcases step.keyed worker f hf with hown | hold
    · exact hown
    · exact h.keyed worker f hold
  · intro worker hfenced
    by_contra hregistered
    have hsome := Option.isSome_iff_ne_none.mpr hregistered
    rcases step.registered worker hsome with hnone | ⟨hbefore, hsame⟩
    · rw [hnone] at hfenced
      cases hfenced
    · rw [hsame] at hfenced
      rw [h.exclusive worker hfenced] at hbefore
      cases hbefore

theorem GateStep.congr {e x y : FabricEngine} (keeps : Keeps x y) : GateStep e y ↔ GateStep e x := by
  constructor
  · rintro ⟨hkept, hkeyed, hregistered⟩
    rw [keeps.fences] at hkept hkeyed hregistered
    rw [keeps.registrations] at hregistered
    exact ⟨hkept, hkeyed, hregistered⟩
  · rintro ⟨hkept, hkeyed, hregistered⟩
    rw [← keeps.fences] at hkept hkeyed hregistered
    rw [← keeps.registrations] at hregistered
    exact ⟨hkept, hkeyed, hregistered⟩

variable {e : FabricEngine}

theorem registerPublisher_gates (e : FabricEngine) (publisher : PublisherId) (workerBoot : WorkerBootId)
    (scope : AuthorityScope) (session : SessionId) :
    GateStep e (e.registerPublisher publisher workerBoot scope session).1 := by
  unfold registerPublisher
  generalize hresult : conclude e _ = result
  rcases conclude_cases hresult with h | h
  · rw [h]
    exact .same rfl rfl
  · simp only [Checked.bind_ok, Checked.require_ok, Checked.unlessAnswered_ok, Option.map_eq_none_iff] at h
    obtain ⟨_, _, _, _, _, _, _, _, _, hunfenced, _, _, h⟩ := h
    have hreleased : ∀ worker : WorkerKey,
        (e.releaseSession ⟨publisher, workerBoot⟩ session)[worker]?.isSome = true →
          e.registrations[worker]?.isSome = true := by
      intro worker hworker
      unfold releaseSession at hworker
      rw [Std.ExtTreeMap.getElem?_filter'] at hworker
      cases hfound : e.registrations[worker]? with
      | none =>
          rw [hfound] at hworker
          cases hworker
      | some registration => rfl
    split at h
    · rw [Checked.pure_ok] at h
      rw [← h]
      exact ⟨fun _ hfenced => hfenced, fun _ _ hfence => .inr hfence,
        fun worker hworker => .inr ⟨hreleased worker hworker, rfl⟩⟩
    · rw [Checked.pure_ok] at h
      rw [← h]
      refine ⟨fun _ hfenced => hfenced, fun _ _ hfence => .inr hfence, fun worker hworker => ?_⟩
      dsimp only at hworker ⊢
      rw [getElem?_insert_eq] at hworker
      split at hworker
      · rename_i hkey
        rw [← hkey]
        exact .inl hunfenced
      · exact .inr ⟨hreleased worker hworker, rfl⟩

theorem fenceRegistrations_isSome {epoch : CoordinatorEpoch} {worker : WorkerKey}
    (h : e.registrations[worker]?.isSome = true ∨ e.fences[worker]?.isSome = true) :
    (e.fenceRegistrations epoch)[worker]?.isSome = true := by
  have hinserted : (insertAll Prod.fst (fun entry : WorkerKey × PublisherRegistration => epochFence epoch entry.1)
      e.registrations.toList e.fences)[worker]?.isSome = true := by
    apply isSome_insertAll
    rcases h with hregistered | hfenced
    · obtain ⟨registration, hfound⟩ := Option.isSome_iff_exists.mp hregistered
      exact .inl ⟨⟨worker, registration⟩, Std.ExtTreeMap.mem_toList_iff_getElem?_eq_some.mpr hfound, rfl⟩
    · exact .inr hfenced
  exact hinserted

theorem fenceRegistrations_keyed {epoch : CoordinatorEpoch} {worker : WorkerKey} {f : FenceRecord}
    (h : (e.fenceRegistrations epoch)[worker]? = some f) :
    (⟨f.publisher, f.workerBoot⟩ : WorkerKey) = worker ∨ e.fences[worker]? = some f := by
  have hinserted : (insertAll Prod.fst (fun entry : WorkerKey × PublisherRegistration => epochFence epoch entry.1)
      e.registrations.toList e.fences)[worker]? = some f := h
  rcases getElem?_insertAll hinserted with ⟨entry, _, hkey, hvalue⟩ | hold
  · left
    rw [← hvalue]
    exact hkey
  · exact .inr hold

theorem fenceWorker_gates (e : FabricEngine) (publisher : PublisherId) (workerBoot : WorkerBootId) (cause : Bytes) :
    GateStep e (e.fenceWorker publisher workerBoot cause).1 := by
  rcases fenceWorker_cases e publisher workerBoot cause with h | ⟨authority, _, _, _, _, h⟩
  · rw [h]
    exact .same rfl rfl
  · rw [h]
    unfold fenceSets
    rw [GateStep.congr (rewriteSets_keeps _ _ _)]
    refine ⟨fun worker hworker => ?_, fun worker f hf => ?_, fun worker hworker => ?_⟩
    · rw [getElem?_insert_eq]
      split
      · rfl
      · exact hworker
    · rw [getElem?_insert_eq] at hf
      split at hf
      · rename_i hkey
        rw [← Option.some.inj hf]
        exact .inl hkey
      · exact .inr hf
    · dsimp only at hworker ⊢
      rw [getElem?_erase_eq] at hworker
      rw [getElem?_insert_eq]
      split at hworker
      · cases hworker
      · rename_i hkey
        rw [if_neg hkey]
        exact .inr ⟨hworker, rfl⟩

theorem advanceEpoch_gates (e : FabricEngine) (publisher : PublisherId) (workerBoot : WorkerBootId)
    (session : SessionId) (expected : CoordinatorEpoch) (attempt : MutationAttemptId) :
    GateStep e (e.advanceEpoch publisher workerBoot session expected attempt).1 := by
  rcases advanceEpoch_cases e publisher workerBoot session expected attempt with h | ⟨epoch, authority, _, _, h⟩
  · rw [h]
    exact .same rfl rfl
  · rw [h, GateStep.congr (rewriteSets_keeps _ _ _)]
    refine ⟨fun worker hworker => fenceRegistrations_isSome (.inr hworker), fun worker f hf => fenceRegistrations_keyed hf,
      fun worker hworker => ?_⟩
    change (∅ : Std.ExtTreeMap WorkerKey PublisherRegistration)[worker]?.isSome = true at hworker
    rw [Std.ExtTreeMap.getElem?_empty] at hworker
    cases hworker

theorem after_gates (e : FabricEngine) {op : Op} (kept : op.loads = false) : GateStep e (e.after op) := by
  by_cases h : op.administers = true
  · cases op with
    | registerPublisher publisher workerBoot scope session =>
        exact registerPublisher_gates e publisher workerBoot scope session
    | unregisterPublisher publisher workerBoot =>
        change GateStep e (e.unregisterPublisher publisher workerBoot).1
        rcases unregisterPublisher_cases e publisher workerBoot with h | h
        · rw [h]
          exact .same rfl rfl
        · rw [h]
          refine ⟨fun _ hfenced => hfenced, fun _ _ hf => .inr hf, fun worker hworker => .inr ⟨?_, rfl⟩⟩
          dsimp only at hworker
          rw [getElem?_erase_eq] at hworker
          split at hworker
          · cases hworker
          · exact hworker
    | fenceWorker publisher workerBoot cause => exact fenceWorker_gates e publisher workerBoot cause
    | advanceEpoch publisher workerBoot session expected attempt =>
        exact advanceEpoch_gates e publisher workerBoot session expected attempt
    | createSet context key options =>
        change GateStep e (e.createSet context key options).1
        rcases createSet_cases e context key options with h | ⟨_, _, _, _, _, _, _, _, _, _, hfences, hregistrations⟩
        · rw [h]
          exact .same rfl rfl
        · exact .same hfences hregistrations
    | declarePathAuthority context view =>
        change GateStep e (e.declarePathAuthority context view).1
        rcases declarePathAuthority_cases e context view with h | ⟨_, _, _, h⟩
        · rw [h]
          exact .same rfl rfl
        · rw [h, GateStep.congr ((applyView_keeps _ _).trans (recordAttempt_keeps _ _ _ _ _))]
          exact .same rfl rfl
    | bindPathAuthority external => exact .same rfl rfl
    | loadStore path files => cases kept
    | _ => cases h
  · have hkeeps := (after_effect e (by simpa using h)).keeps
    exact .same hkeeps.fences hkeeps.registrations

theorem installSets_gates (e : FabricEngine) (stored : List SetRecord) :
    (e.installSets stored).1.fences = e.fences ∧ (e.installSets stored).1.registrations = e.registrations := by
  induction stored generalizing e with
  | nil => exact ⟨rfl, rfl⟩
  | cons r rest ih =>
      unfold installSets
      split
      · exact ⟨rfl, rfl⟩
      · split
        · exact ⟨rfl, rfl⟩
        · have hindex := indexPaths_keeps (e.recoveredSet r).id (e.recoveredSet r).members.keys
            { e.putSet (e.recoveredSet r).id (e.recoveredSet r) with
              keyIndex := e.keyIndex.insert (e.recoveredSet r).key (e.recoveredSet r).id }
          obtain ⟨hfences, hregistrations⟩ := ih (e.installSet r)
          refine ⟨hfences.trans ?_, hregistrations.trans ?_⟩
          · exact (captureSnapshot_keeps _ _).fences.trans hindex.fences
          · exact (captureSnapshot_keeps _ _).registrations.trans hindex.registrations

theorem loaded_gated (e : FabricEngine) (fences : List FenceRecord) (epoch : CoordinatorEpoch)
    (authority : MultipathAuthorityGeneration) (stored : List SetRecord) :
    ((e.clearedForLoad fences epoch authority).installSets stored).1.Gated := by
  obtain ⟨hfences, hregistrations⟩ := installSets_gates (e.clearedForLoad fences epoch authority) stored
  constructor
  · intro worker f hf
    rw [hfences] at hf
    have hinserted : (insertAll (fun f : FenceRecord => (⟨f.publisher, f.workerBoot⟩ : WorkerKey))
        (fun f => { f with epoch := epoch }) fences ∅)[worker]? = some f := hf
    rcases getElem?_insertAll hinserted with ⟨g, _, hkey, hvalue⟩ | hnone
    · rw [← hvalue]
      exact hkey
    · rw [Std.ExtTreeMap.getElem?_empty] at hnone
      cases hnone
  · intro worker _
    rw [hregistrations]
    exact Std.ExtTreeMap.getElem?_empty

theorem loaded_fenced {fences : List FenceRecord} {epoch : CoordinatorEpoch}
    {authority : MultipathAuthorityGeneration} {stored : List SetRecord} {f : FenceRecord} (h : f ∈ fences) :
    ((e.clearedForLoad fences epoch authority).installSets stored).1.fences[
      (⟨f.publisher, f.workerBoot⟩ : WorkerKey)]?.isSome = true := by
  rw [(installSets_gates _ stored).1]
  have hinserted : (insertAll (fun f : FenceRecord => (⟨f.publisher, f.workerBoot⟩ : WorkerKey))
      (fun f => { f with epoch := epoch }) fences
      (∅ : Std.ExtTreeMap WorkerKey FenceRecord))[(⟨f.publisher, f.workerBoot⟩ : WorkerKey)]?.isSome = true := by
    apply isSome_insertAll
    exact .inl ⟨f, h, rfl⟩
  exact hinserted

theorem Gated.after (h : e.Gated) (op : Op) : (e.after op).Gated := by
  by_cases hloads : op.loads = true
  · cases op with
    | loadStore path files =>
        change (e.loadStore path files).1.Gated
        rcases loadStore_cases e path files with hsame | ⟨decoded, _, epoch, authority, _, _, _, hloaded⟩
        · rw [hsame]
          exact h
        · rw [hloaded]
          exact loaded_gated e decoded.fences epoch authority decoded.sets
    | _ => cases hloads
  · rw [Bool.not_eq_true] at hloads
    exact h.step (after_gates e hloads)

theorem gated_of_run {config : FabricConfig} (run : Reachable config e) : e.Gated := by
  induction run with
  | init ids =>
      constructor
      · intro worker f hf
        change (∅ : Std.ExtTreeMap WorkerKey FenceRecord)[worker]? = some f at hf
        rw [Std.ExtTreeMap.getElem?_empty] at hf
        cases hf
      · intro worker _
        exact Std.ExtTreeMap.getElem?_empty
  | step run op _ ih => exact ih.after op

theorem loadStore_accepted {path : Bytes} {files : StoreFiles} {decoded : DecodedStore} {fallback : Bool}
    (read : readAndDecode path e.limits files = .ok (decoded, fallback))
    (accepted : (e.loadStore path files).2.succeeded = true) :
    ∃ epoch authority, decoded.epoch.next = some epoch ∧ decoded.authorityGeneration.next = some authority ∧
      (e.loadStore path files).1 = ((e.clearedForLoad decoded.fences epoch authority).installSets decoded.sets).1 := by
  unfold loadStore at accepted ⊢
  rw [read] at accepted ⊢
  split at accepted
  · cases accepted
  · rename_i hpath
    rw [if_neg hpath]
    cases hepoch : decoded.epoch.next with
    | none =>
        simp only [loadDecoded, hepoch] at accepted
        cases accepted
    | some epoch =>
        cases hauthority : decoded.authorityGeneration.next with
        | none =>
            simp only [loadDecoded, hepoch, hauthority] at accepted
            cases accepted
        | some authority =>
            refine ⟨epoch, authority, rfl, rfl, ?_⟩
            simp only [loadDecoded, hepoch, hauthority, Checked.present, conclude, bind, Except.bind, pure, Except.pure]
            split <;> rfl

/-- The engines that come after `start`: by steps, and by loading a store that one of them has saved into any engine.
The loads are the ones that take the saved file itself. -/
inductive Outlives (start : FabricEngine) : FabricEngine → Prop
  | start : Outlives start start
  | step {e : FabricEngine} (later : Outlives start e) (op : Op) (kept : op.loads = false) : Outlives start (e.after op)
  | load {e other : FabricEngine} {bytes path : Bytes} {files : StoreFiles} (later : Outlives start e)
      (saved : encodeStore e = .ok bytes) (counted : e.fences.size < 2 ^ 32) (target : files.target = some bytes)
      (read : ∃ decoded, decodeStore other.limits bytes = .ok decoded)
      (accepted : (other.exec (.loadStore path files)).2.succeeded = true) :
      Outlives start (other.after (.loadStore path files))

theorem Outlives.fenced {start : FabricEngine} {worker : WorkerKey} (h : start.Outlives e) (gated : start.Gated)
    (fenced : start.fences[worker]?.isSome = true) : e.Gated ∧ e.fences[worker]?.isSome = true := by
  induction h with
  | start => exact ⟨gated, fenced⟩
  | step later op kept ih => exact ⟨ih.1.after op, (after_gates _ kept).kept worker ih.2⟩
  | @load e other bytes path files later saved counted target read accepted ih =>
      obtain ⟨decoded, hdecoded⟩ := read
      obtain ⟨epoch, authority, _, _, hloaded⟩ := loadStore_accepted (readAndDecode_target target hdecoded) accepted
      obtain ⟨f, hf⟩ := Option.isSome_iff_exists.mp ih.2
      have hstored : f ∈ decoded.fences := by
        rw [(decodeStore_fences saved counted hdecoded).1]
        exact List.mem_map.mpr ⟨(worker, f), Std.ExtTreeMap.mem_toList_iff_getElem?_eq_some.mpr hf, rfl⟩
      change (other.loadStore path files).1.Gated ∧ (other.loadStore path files).1.fences[worker]?.isSome = true
      rw [hloaded]
      refine ⟨loaded_gated other decoded.fences epoch authority decoded.sets, ?_⟩
      rw [← ih.1.keyed worker f hf]
      exact loaded_fenced hstored

/-- A pair that is shut out: it is fenced, it cannot register, and nothing is accepted under it. -/
structure ShutOut (e : FabricEngine) (worker : WorkerKey) : Prop where
  fenced : e.fences[worker]?.isSome = true
  unregistered : e.registrations[worker]? = none
  registration : ∀ scope session,
    (e.exec (.registerPublisher worker.publisher worker.workerBoot scope session)).2.succeeded = false
  mutation : ∀ op context, op.context = some context → context.worker = worker → (e.exec op).2.succeeded = false

theorem registerPublisher_fenced {worker : WorkerKey} (h : e.fences[worker]?.isSome = true) (scope : AuthorityScope)
    (session : SessionId) : (e.registerPublisher worker.publisher worker.workerBoot scope session).2.succeeded = false := by
  obtain ⟨fence, hfence⟩ := Option.isSome_iff_exists.mp h
  have hanswer : Checked.unlessAnswered (e.fences[(⟨worker.publisher, worker.workerBoot⟩ : WorkerKey)]?.map fun fence =>
      makeRejection .staleWorker (text "worker boot is permanently fenced: " ++ fence.render)) =
      .error (makeRejection .staleWorker (text "worker boot is permanently fenced: " ++ fence.render)) := by
    rw [show e.fences[(⟨worker.publisher, worker.workerBoot⟩ : WorkerKey)]? = some fence from hfence]
    rfl
  unfold registerPublisher
  refine conclude_elim (fun result => result.2.succeeded = false) ?_ (fun _ hrejected _ => hrejected)
    fun result hrun => ?_
  · refine .bind (.require rfl) fun _ _ => .bind (.require rfl) fun _ _ => .bind (.require rfl) fun _ _ =>
      .bind (.require rfl) fun _ _ => ?_
    dsimp only
    rw [hanswer]
    exact .bind (.error rfl) fun _ hcontinued => by cases hcontinued
  · simp only [Checked.bind_ok, hanswer] at hrun
    obtain ⟨_, _, _, _, _, _, _, _, _, hcontinued, _⟩ := hrun
    cases hcontinued

theorem Gated.shutOut {worker : WorkerKey} (h : e.Gated) (fenced : e.fences[worker]?.isSome = true) :
    e.ShutOut worker := by
  refine ⟨fenced, h.exclusive worker fenced, registerPublisher_fenced fenced, fun op context hcontext hworker => ?_⟩
  rw [← Bool.not_eq_true]
  intro haccepted
  obtain ⟨registration, hgoverned⟩ := governed_of_accepted hcontext haccepted
  have hnone := hgoverned.unfenced
  rw [hworker] at hnone
  rw [hnone] at fenced
  cases fenced

def FencesPair (e : FabricEngine) (op : Op) (worker : WorkerKey) : Prop :=
  match op with
  | .fenceWorker publisher workerBoot _ => worker = ⟨publisher, workerBoot⟩
  | .advanceEpoch _ _ _ _ _ => e.registrations[worker]?.isSome = true
  | _ => False

theorem fenceWorker_fences {publisher : PublisherId} {workerBoot : WorkerBootId} {cause : Bytes}
    (accepted : (e.fenceWorker publisher workerBoot cause).2.succeeded = true) :
    (e.fenceWorker publisher workerBoot cause).1.fences[(⟨publisher, workerBoot⟩ : WorkerKey)]?.isSome = true := by
  cases hfence : e.fences[(⟨publisher, workerBoot⟩ : WorkerKey)]? with
  | some fence =>
      apply (fenceWorker_gates e publisher workerBoot cause).kept
      rw [hfence]
      rfl
  | none =>
      revert accepted
      unfold fenceWorker
      refine conclude_elim (fun result => result.2.succeeded = true →
        result.1.fences[(⟨publisher, workerBoot⟩ : WorkerKey)]?.isSome = true) ?_ ?_ fun result hrun => ?_
      · dsimp only
        rw [hfence]
        exact .bind (.require rfl) fun _ _ => .bind (.require rfl) fun _ _ => .bind (.ok ()) fun _ _ =>
          .bind (.present rfl) fun _ _ => .pure _
      · intro outcome hrejected _ haccepted
        rw [hrejected] at haccepted
        cases haccepted
      · intro _
        simp only [Checked.bind_ok, Checked.pure_ok] at hrun
        obtain ⟨_, _, _, _, _, _, authority, _, rfl⟩ := hrun
        unfold fenceSets
        rw [(rewriteSets_keeps _ _ _).fences]
        dsimp only
        rw [getElem?_insert_eq, if_pos rfl]
        rfl

theorem advanceEpoch_fences {publisher : PublisherId} {workerBoot : WorkerBootId} {session : SessionId}
    {expected : CoordinatorEpoch} {attempt : MutationAttemptId} {worker : WorkerKey}
    (registered : e.registrations[worker]?.isSome = true)
    (accepted : (e.advanceEpoch publisher workerBoot session expected attempt).2.succeeded = true) :
    (e.advanceEpoch publisher workerBoot session expected attempt).1.fences[worker]?.isSome = true := by
  revert accepted
  unfold advanceEpoch
  refine conclude_elim (fun result => result.2.succeeded = true → result.1.fences[worker]?.isSome = true) ?_ ?_
    fun result hrun => ?_
  · refine .bind (.require rfl) fun _ _ => .bind (.unlessAnswered fun outcome houtcome => ?_) fun _ _ =>
      .bind (.present rfl) fun _ _ => .bind (.require rfl) fun _ _ => .bind (.require rfl) fun _ _ =>
        .bind (.present rfl) fun _ _ => .bind (.present rfl) fun _ _ => .pure _
    obtain ⟨fence, _, rfl⟩ := Option.map_eq_some_iff.mp houtcome
    exact .inl rfl
  · intro outcome hrejected _ haccepted
    rw [hrejected] at haccepted
    cases haccepted
  · intro _
    simp only [Checked.bind_ok, Checked.pure_ok] at hrun
    obtain ⟨_, _, _, _, _, _, _, _, _, _, epoch, _, authority, _, rfl⟩ := hrun
    rw [(rewriteSets_keeps _ _ _).fences]
    exact fenceRegistrations_isSome (.inl registered)

/-- Once fenced a pair stays shut out, whatever the engine does next and wherever its saved store is taken up. -/
theorem fences_permanent {config : FabricConfig} {e e' : FabricEngine} {op : Op} {worker : WorkerKey}
    (run : Reachable config e) (fences : e.FencesPair op worker) (accepted : (e.exec op).2.succeeded = true)
    (later : (e.after op).Outlives e') : e'.ShutOut worker := by
  have hfenced : (e.after op).fences[worker]?.isSome = true := by
    cases op with
    | fenceWorker publisher workerBoot cause =>
        cases fences
        exact fenceWorker_fences accepted
    | advanceEpoch publisher workerBoot session expected attempt => exact advanceEpoch_fences fences accepted
    | _ => cases fences
  obtain ⟨hgated, hstill⟩ := later.fenced ((gated_of_run run).after op) hfenced
  exact hgated.shutOut hstill

def fencedConfig : FabricConfig := ⟨{ Limits.default with maxPublishers := 0 }, .first, .first⟩

def fenceSteps (boots : ℕ) : List Op :=
  (List.range boots).map fun boot =>
    .fenceWorker (sampleId "pub") (sampleId ("boot" ++ toString boot)) (text "gone")

def fencedRun (boots : ℕ) : FabricEngine := (init fencedConfig sampleIds).afterAll (fenceSteps boots)

def firstFence : Op := .fenceWorker (sampleId "pub") (sampleId "boot0") (text "gone")

theorem fences_permanent_reloaded : ∃ bytes, encodeStore ((fencedRun 0).after firstFence) = .ok bytes ∧
    ((init sampleConfig sampleIds).after (.loadStore (text "store") ⟨some bytes, none, none⟩)).ShutOut
      ⟨sampleId "pub", sampleId "boot0"⟩ := by
  have haccepted : ((fencedRun 0).exec firstFence).2.succeeded = true := by decide +kernel
  have hcounted : ((fencedRun 0).after firstFence).fences.size < 2 ^ 32 := by decide +kernel
  have hread : ((encodeStore ((fencedRun 0).after firstFence)).toOption.map fun bytes =>
      ((decodeStore (init sampleConfig sampleIds).limits bytes).isOk,
        ((init sampleConfig sampleIds).exec (.loadStore (text "store") ⟨some bytes, none, none⟩)).2.succeeded)) =
      some (true, true) := by decide +kernel
  cases hsaved : encodeStore ((fencedRun 0).after firstFence) with
  | error rejection =>
      rw [hsaved] at hread
      cases hread
  | ok bytes =>
      rw [hsaved] at hread
      obtain ⟨hok, hloads⟩ := Prod.mk.inj (Option.some.inj hread)
      have hdecoded : ∃ decoded, decodeStore (init sampleConfig sampleIds).limits bytes = .ok decoded := by
        cases hresult : decodeStore (init sampleConfig sampleIds).limits bytes with
        | error failure =>
            rw [hresult] at hok
            cases hok
        | ok decoded => exact ⟨decoded, rfl⟩
      have hfences : (fencedRun 0).FencesPair firstFence ⟨sampleId "pub", sampleId "boot0"⟩ := rfl
      have hreachable : Reachable fencedConfig (fencedRun 0) := Reachable.afterAll (.init sampleIds) (fenceSteps 0)
      exact ⟨bytes, rfl, fences_permanent hreachable hfences haccepted
        (.load .start hsaved hcounted rfl hdecoded hloads)⟩

def rotatedStore (bytes : Bytes) : StoreFiles where
  target := some bytes
  temporary := none
  backup := (encodeStore (fencedRun 0)).toOption

/-- A store with more fences than its own reader accepts: the next load takes the backup, without them. -/
theorem fences_permanent_fails : ¬∀ config e (worker : WorkerKey) bytes path files, Reachable config e →
    e.fences[worker]?.isSome = true → encodeStore e = .ok bytes → files.target = some bytes →
      (e.exec (.loadStore path files)).2.succeeded = true →
        (e.after (.loadStore path files)).fences[worker]?.isSome = true := by
  intro h
  have hreachable : Reachable fencedConfig (fencedRun 65) := Reachable.afterAll (.init sampleIds) (fenceSteps 65)
  have hsize : (fencedRun 65).fences.size = 65 := by decide +kernel
  have hfenced : (fencedRun 65).fences[(⟨sampleId "pub", sampleId "boot64"⟩ : WorkerKey)]?.isSome = true := by
    decide +kernel
  have hfits : (storeFields (fencedRun 65)).all Field.fits = true := by decide +kernel
  have hlength : (encode (storeFields (fencedRun 65))).length = 2163 := by decide +kernel
  have hlimits : (fencedRun 65).limits = fencedConfig.limits := hreachable.limits
  have hread : ((encodeStore (fencedRun 0)).toOption.bind fun backup =>
      (decodeStore fencedConfig.limits backup).toOption.map fun decoded =>
        (decoded.epoch.next.isSome, decoded.authorityGeneration.next.isSome, decoded.sets.length,
          decoded.fences.length)) = some (true, true, 0, 0) := by decide +kernel
  obtain ⟨backup, hbackup, hdecode⟩ := Option.bind_eq_some_iff.mp hread
  obtain ⟨decoded, hdecoded, hempty⟩ := Option.map_eq_some_iff.mp hdecode
  simp only [Prod.mk.injEq] at hempty
  obtain ⟨hepoch, hauthority, hsets, hfences⟩ := hempty
  generalize fencedRun 65 = e at *
  obtain ⟨epoch, hepoch⟩ := Option.isSome_iff_exists.mp hepoch
  obtain ⟨authority, hauthority⟩ := Option.isSome_iff_exists.mp hauthority
  have hsaved := encodeStore_ok hfits (by rw [hlength, hlimits]; decide) (by rw [hlength, hlimits]; decide)
  obtain ⟨bytes, hbytes⟩ : ∃ bytes, bytes = storeFile (encode (storeFields e)) := ⟨_, rfl⟩
  rw [← hbytes] at hsaved
  have hrefused : ∃ rejection, decodeStore fencedConfig.limits bytes = .error rejection := by
    cases hresult : decodeStore fencedConfig.limits bytes with
    | error rejection => exact ⟨rejection, rfl⟩
    | ok found =>
        have hbound := (decodeStore_fences hsaved (by rw [hsize]; decide) hresult).2.1
        rw [hsize] at hbound
        exact absurd hbound (by decide)
  obtain ⟨rejection, hrejection⟩ := hrefused
  have hok : decodeStore fencedConfig.limits backup = .ok decoded := by
    cases hresult : decodeStore fencedConfig.limits backup with
    | error failure =>
        rw [hresult] at hdecoded
        cases hdecoded
    | ok found =>
        rw [hresult] at hdecoded
        cases hdecoded
        rfl
  have hrecovered : readAndDecode (text "store") fencedConfig.limits (rotatedStore bytes) = .ok (decoded, true) :=
    readAndDecode_backup rfl hrejection hbackup hok
  rw [← hlimits] at hrecovered
  obtain ⟨hloaded, haccepts⟩ := loadStore_installs rfl hrecovered hepoch hauthority
  rw [List.length_eq_zero_iff.mp hsets, List.length_eq_zero_iff.mp hfences] at hloaded
  have haccepted := haccepts.mpr (by
    rw [List.length_eq_zero_iff.mp hsets]
    exact ⟨List.nodup_nil, List.nodup_nil⟩)
  have hpermanent := h fencedConfig e _ bytes (text "store") (rotatedStore bytes) hreachable hfenced hsaved rfl haccepted
  change (e.loadStore (text "store") (rotatedStore bytes)).1.fences[
    (⟨sampleId "pub", sampleId "boot64"⟩ : WorkerKey)]?.isSome = true at hpermanent
  rw [hloaded] at hpermanent
  change (∅ : Std.ExtTreeMap WorkerKey FenceRecord)[
    (⟨sampleId "pub", sampleId "boot64"⟩ : WorkerKey)]?.isSome = true at hpermanent
  rw [Std.ExtTreeMap.getElem?_empty] at hpermanent
  cases hpermanent

end FabricEngine

end MultipathFabric
