import MultipathFabric.Capacity
import MultipathFabric.Fencing

namespace MultipathFabric

open OrderedMap

namespace FabricEngine

structure Enrolled (e : FabricEngine) (worker : WorkerKey) (registration : PublisherRegistration) : Prop where
  keyed : (⟨registration.publisher, registration.workerBoot⟩ : WorkerKey) = worker
  epoch : registration.epoch = e.currentEpoch
  wellFormed : registration.scope.scopeWellFormed = true
  listed : registration.scope.setIds.length ≤ e.limits.maxScopeSetIds.toNat
  alone : ∀ (other : WorkerKey) (found : PublisherRegistration), e.registrations[other]? = some found →
    found.session = registration.session → other = worker

structure RegistrationTable (e : FabricEngine) : Prop where
  entries : ∀ (worker : WorkerKey) (registration : PublisherRegistration),
    e.registrations[worker]? = some registration → e.Enrolled worker registration
  unfenced : ∀ worker : WorkerKey, e.registrations[worker]?.isSome = true → e.fences[worker]? = none
  bounded : e.registrations.size ≤ e.limits.maxPublishers.toNat

variable {e e' : FabricEngine} {worker : WorkerKey} {registration : PublisherRegistration}

def EnrolStep (e e' : FabricEngine) : Prop :=
  ∀ (worker : WorkerKey) (registration : PublisherRegistration), e'.registrations[worker]? = some registration →
    e.registrations[worker]? = some registration ∧ e'.currentEpoch = e.currentEpoch ∨ e'.Enrolled worker registration

theorem EnrolStep.same (registrations : e'.registrations = e.registrations) (epoch : e'.currentEpoch = e.currentEpoch) :
    EnrolStep e e' := by
  intro worker registration h
  rw [registrations] at h
  exact .inl ⟨h, epoch⟩

theorem EnrolStep.emptied (registrations : e'.registrations = ∅) : EnrolStep e e' := by
  intro worker registration h
  rw [registrations, Std.ExtTreeMap.getElem?_empty] at h
  cases h

theorem EnrolStep.erased {key : WorkerKey} (registrations : e'.registrations = e.registrations.erase key)
    (epoch : e'.currentEpoch = e.currentEpoch) : EnrolStep e e' := by
  intro worker registration h
  rw [registrations, getElem?_erase_eq] at h
  split at h
  · cases h
  · exact .inl ⟨h, epoch⟩

theorem releaseSession_some {key : WorkerKey} {session : SessionId}
    (h : (e.releaseSession key session)[worker]? = some registration) :
    e.registrations[worker]? = some registration ∧ (registration.session = session → worker = key) := by
  unfold releaseSession at h
  rw [Std.ExtTreeMap.getElem?_filter', Option.filter_eq_some_iff] at h
  obtain ⟨hfound, hkept⟩ := h
  refine ⟨hfound, ?_⟩
  intro hsession
  by_contra hother
  simp [hsession, hother] at hkept

theorem registerPublisher_enrols (e : FabricEngine) (publisher : PublisherId) (workerBoot : WorkerBootId)
    (scope : AuthorityScope) (session : SessionId) :
    EnrolStep e (e.registerPublisher publisher workerBoot scope session).1 := by
  unfold registerPublisher
  generalize hresult : conclude e _ = result
  rcases conclude_cases hresult with h | h
  · rw [h]
    exact .same rfl rfl
  · simp only [Checked.bind_ok, Checked.require_ok, decide_eq_true_eq] at h
    obtain ⟨_, _, _, hwellFormed, _, hlisted, _, _, _, _, _, _, h⟩ := h
    split at h
    · rw [Checked.pure_ok] at h
      rw [← h]
      intro worker registration hfound
      exact .inl ⟨(releaseSession_some hfound).1, rfl⟩
    · rw [Checked.pure_ok] at h
      rw [← h]
      intro worker registration hfound
      dsimp only at hfound
      rw [getElem?_insert_eq] at hfound
      split at hfound
      · rename_i hkey
        cases hfound
        right
        refine ⟨hkey, rfl, hwellFormed, hlisted, ?_⟩
        intro other found hother hsession
        dsimp only at hother
        rw [getElem?_insert_eq] at hother
        split at hother
        · rename_i hsame
          rw [← hsame]
          exact hkey
        · rw [← hkey]
          exact (releaseSession_some hother).2 hsession
      · exact .inl ⟨(releaseSession_some hfound).1, rfl⟩

theorem after_enrols (e : FabricEngine) (op : Op) : EnrolStep e (e.after op) := by
  by_cases hadministers : op.administers = true
  · cases op with
    | registerPublisher publisher workerBoot scope session => exact registerPublisher_enrols e publisher workerBoot scope session
    | unregisterPublisher publisher workerBoot =>
        change EnrolStep e (e.unregisterPublisher publisher workerBoot).1
        rcases unregisterPublisher_cases e publisher workerBoot with h | h
        · rw [h]
          exact .same rfl rfl
        · rw [h]
          exact .erased rfl rfl
    | fenceWorker publisher workerBoot cause =>
        change EnrolStep e (e.fenceWorker publisher workerBoot cause).1
        rcases fenceWorker_cases e publisher workerBoot cause with h | ⟨_, _, _, _, _, h⟩
        · rw [h]
          exact .same rfl rfl
        · rw [h]
          unfold fenceSets
          exact .erased (rewriteSets_keeps _ _ _).registrations (rewriteSets_keeps _ _ _).epoch
    | advanceEpoch publisher workerBoot session expected attempt =>
        change EnrolStep e (e.advanceEpoch publisher workerBoot session expected attempt).1
        rcases advanceEpoch_cases e publisher workerBoot session expected attempt with h | ⟨_, _, _, _, h⟩
        · rw [h]
          exact .same rfl rfl
        · rw [h]
          exact .emptied (rewriteSets_keeps _ _ _).registrations
    | createSet context key options =>
        change EnrolStep e (e.createSet context key options).1
        rcases createSet_cases e context key options with h | ⟨_, _, _, _, _, _, _, _, _, hstamp, _, hregistrations⟩
        · rw [h]
          exact .same rfl rfl
        · exact .same hregistrations hstamp.epoch
    | declarePathAuthority context view =>
        change EnrolStep e (e.declarePathAuthority context view).1
        rcases declarePathAuthority_cases e context view with h | ⟨_, _, _, h⟩
        · rw [h]
          exact .same rfl rfl
        · rw [h]
          exact .same ((applyView_keeps _ _).trans (recordAttempt_keeps _ _ _ _ _)).registrations
            ((applyView_keeps _ _).trans (recordAttempt_keeps _ _ _ _ _)).epoch
    | bindPathAuthority external => exact .same rfl rfl
    | loadStore path files =>
        change EnrolStep e (e.loadStore path files).1
        rcases loadStore_cases e path files with h | ⟨_, _, _, _, _, _, _, h⟩
        · rw [h]
          exact .same rfl rfl
        · rw [h]
          exact .emptied (installSets_registrations _ _)
    | _ => cases hadministers
  · have hkeeps := (after_effect e (by simpa using hadministers)).keeps
    exact .same hkeeps.registrations hkeeps.epoch

theorem RegistrationTable.after (h : e.RegistrationTable) (gated : e.Gated) (op : Op) : (e.after op).RegistrationTable := by
  constructor
  · intro worker registration hfound
    rcases after_enrols e op worker registration hfound with ⟨hbefore, hepoch⟩ | hnew
    · have hentry := h.entries worker registration hbefore
      refine ⟨hentry.keyed, hentry.epoch.trans hepoch.symm, hentry.wellFormed, ?_, ?_⟩
      · rw [after_limits]
        exact hentry.listed
      · intro other found hother hsession
        rcases after_enrols e op other found hother with ⟨hother, _⟩ | hnew
        · exact hentry.alone other found hother hsession
        · exact (hnew.alone worker registration hfound hsession.symm).symm
    · exact hnew
  · intro worker hregistered
    cases hfence : (e.after op).fences[worker]? with
    | none => rfl
    | some fence =>
        have hnone := (gated.after op).exclusive worker (by rw [hfence]; rfl)
        rw [hnone] at hregistered
        cases hregistered
  · exact (after_engineStep e op).registrations h.bounded

theorem registrationTable_init (config : FabricConfig) (ids : IdFactory) : (init config ids).RegistrationTable := by
  have hempty : (init config ids).registrations = ∅ := rfl
  constructor
  · intro worker registration hfound
    rw [hempty, Std.ExtTreeMap.getElem?_empty] at hfound
    cases hfound
  · intro worker _
    exact Std.ExtTreeMap.getElem?_empty
  · rw [hempty, Std.ExtTreeMap.size_empty]
    exact Nat.zero_le _

/-- In every reachable state a session holds one registration at most, and no fenced pair holds any. -/
theorem registrationTable_of_run {config : FabricConfig} (run : Reachable config e) : e.RegistrationTable := by
  induction run with
  | init ids => exact registrationTable_init config ids
  | step run op _ ih => exact ih.after (gated_of_run run) op

theorem registrationTable_of_run_sample :
    let e := sampleRun (sampleSteps ++ [.registerPublisher (sampleId "pub") (sampleId "boot2") sampleScope (sampleId "sess")])
    ∃ registration, e.registrations[(⟨sampleId "pub", sampleId "boot2"⟩ : WorkerKey)]? = some registration ∧
      e.Enrolled ⟨sampleId "pub", sampleId "boot2"⟩ registration := by
  intro e
  have hfound : e.registrations[(⟨sampleId "pub", sampleId "boot2"⟩ : WorkerKey)]?.isSome = true := by decide +kernel
  obtain ⟨registration, hregistration⟩ := Option.isSome_iff_exists.mp hfound
  exact ⟨registration, hregistration, (registrationTable_of_run (sampleRun_reachable _)).entries _ _ hregistration⟩

end FabricEngine

end MultipathFabric
