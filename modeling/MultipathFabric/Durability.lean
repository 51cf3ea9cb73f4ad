import MultipathFabric.Deployment

namespace MultipathFabric

open OrderedMap FileReplacement

namespace Host

variable {store : Bytes} {h h' : Host} {worker : WorkerKey}

inductive FencesAtEnd (h : Host) (worker : WorkerKey) : Host → Prop
  | ended {p : Process} {id : SessionId} {session : ServerSession} (up : h.process = some p)
      (serves : p.coordinator.sessions[id]? = some session) (idle : p.Idle (some id))
      (remembered : session.session.remembered = some worker) (anew : p.engine.fencesAnew session.session = true) :
      FencesAtEnd h worker (h.finished p id session)

/-- The process dies only when the file that the next start reads was encoded after the last session end that fenced. -/
def SavedSinceFencing (h : Host) (event : HostEvent) : Prop :=
  event = .crash → h.Recovers fun c => c.fencings = h.fencings

structure Durable (worker : WorkerKey) (since : ℕ) (h : Host) : Prop where
  reached : since ≤ h.fencings
  live : ∀ p, h.process = some p → p.engine.fences[worker]?.isSome = true
  captured : ∀ c, h.Has c → since ≤ c.fencings → c.engine.fences[worker]?.isSome = true
  down : h.process = none → h.Recovers fun c => c.fencings = h.fencings

theorem FencesAtEnd.durable (sound : h.Sound) (ended : h.FencesAtEnd worker h') : h'.Durable worker (h.fencings + 1) := by
  cases ended with
  | @ended p id session up serves idle remembered anew =>
      have hfenced : (p.engine.endSession session.session sessionLost).fences[worker]?.isSome = true := by
        unfold FabricEngine.fencesAnew at anew
        rw [remembered, Bool.and_eq_true] at anew
        exact anew.2
      have hcount : (h.finished p id session).fencings = h.fencings + 1 := by
        unfold finished
        rw [if_pos anew]
      refine ⟨Nat.le_of_eq hcount.symm, ?_, ?_, ?_⟩
      · rintro q hq
        cases hq
        exact hfenced
      · rintro c hc hsince
        have hbefore : h.Has c := by
          rcases hc with hholds | ⟨q, hq, hcarries⟩
          · exact .inl hholds
          · cases hq
            exact .inr ⟨p, up, hcarries⟩
        have hold := (sound.captured c hbefore).fencings
        omega
      · intro hdown
        cases hdown

theorem Durable.step {since : ℕ} {event : HostEvent} (durable : h.Durable worker since) (sound : h.Sound)
    (saved : SavedSinceFencing h event) (step : Step store event h h') : h'.Durable worker since := by
  cases effect step with
  | starts down opens =>
      obtain ⟨hpresent, hsource⟩ := durable.down down
      obtain ⟨_, _, x, decoded, hx, hdecoded, _, hfences⟩ := opens.reads hpresent
      obtain ⟨c, rfl, hcount⟩ := hsource x hx
      have hhas : h.Has c := .inl (Files.holds_of_source hx).1
      have hcaptured := sound.captured c hhas
      refine ⟨durable.reached, ?_, ?_, ?_⟩
      · rintro p hp
        cases hp
        apply hfences
        have hfenced := durable.captured c hhas (by rw [hcount]; exact durable.reached)
        obtain ⟨f, hf⟩ := Option.isSome_iff_exists.mp hfenced
        refine ⟨f, ?_, hcaptured.gated.keyed worker f hf⟩
        rw [(decoded_capture hcaptured.limits hdecoded).1]
        exact List.mem_map.mpr ⟨(worker, f), Std.ExtTreeMap.mem_toList_iff_getElem?_eq_some.mpr hf, rfl⟩
      · rintro d (hholds | ⟨p, hp, thread, phase, hsave⟩)
        · exact durable.captured d (.inl hholds)
        · cases hp
          cases hsave
      · intro hdown
        cases hdown
  | @works _ _ p p' up up' works =>
      refine ⟨durable.reached.trans works.fencings, ?_, ?_, ?_⟩
      · intro q hq
        rw [up'] at hq
        cases hq
        exact works.engine.gates.kept worker (durable.live p up)
      · intro c hc hsince
        rcases works.captures c hc with hold | ⟨hengine, _⟩
        · exact durable.captured c hold hsince
        · rw [hengine]
          exact durable.live p up
      · intro hdown
        rw [up'] at hdown
        cases hdown
  | crashes up =>
      refine ⟨durable.reached, ?_, ?_, fun _ => saved rfl⟩
      · rintro q hq
        cases hq
      · rintro c (hholds | ⟨q, hq, _⟩)
        · exact durable.captured c (.inl hholds)
        · cases hq

/-- A boot that the end of a session has fenced is shut out in every later state of every run on the same store, as long
as no process dies before a save that was begun after the last such end has taken its place. -/
theorem fences_durable {h' : Host} {p : Process}
    (run : TransitionSystem.Reaches Untouched (Takes store fun _ _ => True) h) (ended : h.FencesAtEnd worker h')
    {later : Host} (continued : TransitionSystem.Reaches (· = h') (Takes store SavedSinceFencing) later)
    (up : later.process = some p) : p.engine.ShutOut worker := by
  have hsound := sound.reached run
  have hkept : TransitionSystem.Invariant (· = h') (Takes store SavedSinceFencing)
      fun x => x.Sound ∧ x.Durable worker (h.fencings + 1) := by
    constructor
    · rintro _ rfl
      refine ⟨?_, ended.durable hsound⟩
      cases ended with
      | ended up serves idle =>
          have hstep : Step store .finish h _ := .finish up serves idle
          exact hsound.step hstep
    · rintro x x' - ⟨hx, hdurable⟩ ⟨event, hsaved, hstep⟩
      exact ⟨hx.step hstep, hdurable.step hx hsaved hstep⟩
  obtain ⟨hlater, hdurable⟩ := hkept.reached continued
  exact (hlater.live p up).1.shutOut (hdurable.live p up)

def openCoordinator : Coordinator := (⟨.init coordinatorConfig sampleIds, ∅, []⟩ : Coordinator).connected (sampleId "sess")

def openSession : ServerSession :=
  let c := Connection.accepted (.init coordinatorConfig sampleIds) (sampleId "sess")
  ⟨c.session, c.response, []⟩

theorem openSession_serves : openCoordinator.sessions[(sampleId "sess" : SessionId)]? = some openSession := by
  unfold openCoordinator Coordinator.connected
  dsimp only
  rw [getElem?_insert_eq, if_pos rfl]
  rfl

theorem registeredHost_reached {allowed : Host → HostEvent → Prop}
    (allow : ∀ h event, event ≠ .crash → allowed h event) :
    TransitionSystem.Reaches Untouched (Takes store allowed) ⟨⟨none, none, none⟩, 1, 0,
      some ⟨Coordinator.registeredRun ["bootA"], [(some (sampleId "sess"), .due)], false⟩⟩ := by
  have huntouched : Untouched ⟨⟨none, none, none⟩, 0, 0, none⟩ := by
    refine ⟨rfl, rfl, rfl, ?_⟩
    rintro c (h | h | h) <;> cases h
  have hstarted := taken allow (.init huntouched) (show HostEvent.start ≠ .crash by decide)
    (@Step.fresh store ⟨⟨none, none, none⟩, 0, 0, none⟩ sampleIds rfl rfl)
  have hconnected : TransitionSystem.Reaches Untouched (Takes store allowed)
      ⟨⟨none, none, none⟩, 1, 0, some ⟨openCoordinator, [], false⟩⟩ :=
    taken allow hstarted (show HostEvent.connect ≠ .crash by decide)
      (@Step.connect store _ (.opened (.init coordinatorConfig sampleIds)) (sampleId "sess") rfl rfl Std.ExtTreeMap.getElem?_empty)
  have hframed := taken allow hconnected (show HostEvent.frame ≠ .crash by decide)
    (@Step.frame store _ _ _ _ (fun _ => none) (Coordinator.registerFrame "bootA") rfl openSession_serves (fun _ h => by cases h))
  have hrun : Coordinator.registeredRun ["bootA"] =
      openCoordinator.served (sampleId "sess") openSession (fun _ => none) (Coordinator.registerFrame "bootA") := by
    change Coordinator.registerOn openCoordinator "bootA" = _
    unfold Coordinator.registerOn
    rw [openSession_serves]
  have haccepted : ((⟨openCoordinator.engine, openSession.session, openSession.response⟩ : Connection).handleFrame
      (fun _ => none) (Coordinator.registerFrame "bootA")).accepted = true := by
    decide +kernel
  unfold Process.framed at hframed
  dsimp only at hframed
  rw [if_pos haccepted, ← hrun] at hframed
  exact hframed

theorem savedHost_reached {allowed : Host → HostEvent → Prop} (allow : ∀ h event, event ≠ .crash → allowed h event)
    {c : Capture} (now : c.engine = (Coordinator.registeredRun ["bootA"]).engine) (since : c.fencings = 0) :
    TransitionSystem.Reaches Untouched (Takes store allowed)
      ⟨⟨some (.saved c), none, none⟩, 1, 0, some ⟨Coordinator.registeredRun ["bootA"], [], false⟩⟩ :=
  save_reaches allow (registeredHost_reached allow) now since (.done _ _)

theorem encoded_capture {e : FabricEngine} {bytes : Bytes} (fencings : ℕ) (h : (encodeStore e).toOption = some bytes) :
    ∃ c : Capture, c.engine = e ∧ c.fencings = fencings ∧ c.bytes = bytes := by
  cases hresult : encodeStore e with
  | error rejection =>
      rw [hresult] at h
      cases h
  | ok found =>
      rw [hresult] at h
      cases h
      exact ⟨⟨e, fencings, bytes, hresult⟩, rfl, rfl, rfl⟩

theorem fences_durable_stopped : ∃ (later : Host) (p : Process), later.process = some p ∧ later.runs = 2 ∧
    p.engine.ShutOut ⟨sampleId "pub", sampleId "bootA"⟩ := by
  have hsession : ((Coordinator.registeredRun ["bootA"]).sessions[(sampleId "sess" : SessionId)]?.map fun session =>
      (session.session.remembered, (Coordinator.registeredRun ["bootA"]).engine.fencesAnew session.session,
        ((Coordinator.registeredRun ["bootA"]).finished (sampleId "sess") session).sessions.isEmpty)) =
          some (some ⟨sampleId "pub", sampleId "bootA"⟩, true, true) := by
    decide +kernel
  have hstores : ((Coordinator.registeredRun ["bootA"]).sessions[(sampleId "sess" : SessionId)]?.bind fun session =>
      (encodeStore (Coordinator.registeredRun ["bootA"]).engine).toOption.bind fun old =>
        (encodeStore ((Coordinator.registeredRun ["bootA"]).finished (sampleId "sess") session).engine).toOption.map
          fun new => ((decodeStore coordinatorConfig.limits new).isOk,
            ((FabricEngine.init coordinatorConfig sampleIds).exec
              (.loadStore (text "store") ⟨some new, none, some old⟩)).2.succeeded)) = some (true, true) := by
    decide +kernel
  have hsaved : ∀ c : Capture, c.engine = (Coordinator.registeredRun ["bootA"]).engine → c.fencings = 0 →
      TransitionSystem.Reaches Untouched (Takes (text "store") fun _ _ => True)
        ⟨⟨some (.saved c), none, none⟩, 1, 0, some ⟨Coordinator.registeredRun ["bootA"], [], false⟩⟩ :=
    fun c now since => savedHost_reached (fun _ _ _ => trivial) now since
  generalize Coordinator.registeredRun ["bootA"] = s at *
  obtain ⟨session, hserves, hfacts⟩ := Option.map_eq_some_iff.mp hsession
  simp only [Prod.mk.injEq] at hfacts
  obtain ⟨hremembered, hanew, hended⟩ := hfacts
  rw [hserves, Option.bind_some] at hstores
  obtain ⟨old, hold, hstores⟩ := Option.bind_eq_some_iff.mp hstores
  obtain ⟨new, hnew, hloads⟩ := Option.map_eq_some_iff.mp hstores
  obtain ⟨hreadable, haccepted⟩ := Prod.mk.inj hloads
  obtain ⟨c, hengine, hfencings, hbytes⟩ := encoded_capture 0 hold
  obtain ⟨c', hengine', hfencings', hbytes'⟩ := encoded_capture 1 hnew
  have hfiles : storeFiles ⟨some (.saved c'), none, some (.saved c)⟩ = ⟨some new, none, some old⟩ := by
    rw [← hbytes, ← hbytes']
    rfl
  rw [← hfiles] at haccepted
  have hup : Host.process ⟨⟨some (.saved c), none, none⟩, 1, 0, some ⟨s, [], false⟩⟩ = some ⟨s, [], false⟩ := rfl
  have hends := FencesAtEnd.ended hup hserves (fun _ h => by cases h) hremembered hanew
  have hlost : finished ⟨⟨some (.saved c), none, none⟩, 1, 0, some ⟨s, [], false⟩⟩ ⟨s, [], false⟩ (sampleId "sess")
      session =
      ⟨⟨some (.saved c), none, none⟩, 1, 1, some ⟨s.finished (sampleId "sess") session, [], false⟩⟩ := by
    unfold finished
    rw [if_pos hanew]
  rw [hlost] at hends
  have hallow : ∀ h event, event ≠ .crash → SavedSinceFencing h event := fun h event hquiet hcrash => absurd hcrash hquiet
  have hstart : TransitionSystem.Reaches (· = ⟨⟨some (.saved c), none, none⟩, 1, 1,
      some ⟨s.finished (sampleId "sess") session, [], false⟩⟩) (Takes (text "store") SavedSinceFencing) _ := .init rfl
  have hstopped := taken hallow hstart (show HostEvent.stop ≠ .crash by decide)
    (@Step.stop (text "store") _ ⟨s.finished (sampleId "sess") session, [], false⟩
      (rfl : Host.process ⟨⟨some (.saved c), none, none⟩, 1, 1, some ⟨s.finished (sampleId "sess") session, [], false⟩⟩ = _)
      hended rfl)
  have hkept := save_reaches hallow hstopped hengine' hfencings' (.done _ _)
  have hrecovers : Recovers (fun c => c.fencings = 1)
      ⟨⟨some (.saved c'), none, some (.saved c)⟩, 1, 1, some ⟨s.finished (sampleId "sess") session, [], true⟩⟩ := by
    refine ⟨rfl, ?_⟩
    intro x hx
    have htarget : Files.source StoredFile.readable ⟨some (.saved c'), none, some (.saved c)⟩ = some (.saved c') := by
      unfold Files.source
      rw [Option.filter_some_pos, Option.some_or]
      change (decodeStore coordinatorConfig.limits c'.bytes).isOk = true
      rw [hbytes']
      exact hreadable
    rw [htarget] at hx
    cases hx
    exact ⟨c', rfl, hfencings'⟩
  have hlater := restarted hkept rfl (fun _ => hrecovers) (hallow _ _ (by decide)) sampleIds rfl haccepted
  generalize hhost : started _ _ = later at hlater
  obtain ⟨p, hp⟩ : ∃ p, later.process = some p := by rw [← hhost]; exact ⟨_, rfl⟩
  refine ⟨later, p, hp, ?_, fences_durable (hsaved c hengine hfencings) hends hlater hp⟩
  rw [← hhost]
  rfl

/-- A boot that the end of a session fences after the last save is not fenced after a crash. -/
theorem fences_durable_fails : ¬∀ store h h' worker later p,
    TransitionSystem.Reaches Untouched (Takes store fun _ _ => True) h → FencesAtEnd h worker h' →
      TransitionSystem.Reaches (· = h') (Takes store fun _ _ => True) later → later.process = some p →
        p.engine.ShutOut worker := by
  intro h
  have hsession : ((Coordinator.registeredRun ["bootA"]).sessions[(sampleId "sess" : SessionId)]?.map fun session =>
      (session.session.remembered, (Coordinator.registeredRun ["bootA"]).engine.fencesAnew session.session)) =
        some (some ⟨sampleId "pub", sampleId "bootA"⟩, true) := by
    decide +kernel
  have hstore : ((encodeStore (Coordinator.registeredRun ["bootA"]).engine).toOption.map fun bytes =>
      (((FabricEngine.init coordinatorConfig sampleIds).exec (.loadStore (text "store") ⟨some bytes, none, none⟩)).2.succeeded,
        ((FabricEngine.init coordinatorConfig sampleIds).after (.loadStore (text "store") ⟨some bytes, none, none⟩)).fences[
          (⟨sampleId "pub", sampleId "bootA"⟩ : WorkerKey)]?.isSome)) = some (true, false) := by
    decide +kernel
  have hsaved : ∀ c : Capture, c.engine = (Coordinator.registeredRun ["bootA"]).engine → c.fencings = 0 →
      TransitionSystem.Reaches Untouched (Takes (text "store") fun _ _ => True)
        ⟨⟨some (.saved c), none, none⟩, 1, 0, some ⟨Coordinator.registeredRun ["bootA"], [], false⟩⟩ :=
    fun c now since => savedHost_reached (fun _ _ _ => trivial) now since
  generalize Coordinator.registeredRun ["bootA"] = s at *
  obtain ⟨session, hserves, hfacts⟩ := Option.map_eq_some_iff.mp hsession
  obtain ⟨hremembered, hanew⟩ := Prod.mk.inj hfacts
  obtain ⟨bytes, hbytes, hloads⟩ := Option.map_eq_some_iff.mp hstore
  obtain ⟨haccepted, hlost⟩ := Prod.mk.inj hloads
  obtain ⟨c, hengine, hfencings, hbytes⟩ := encoded_capture 0 hbytes
  have hfiles : storeFiles ⟨some (.saved c), none, none⟩ = ⟨some bytes, none, none⟩ := by
    rw [← hbytes]
    rfl
  rw [← hfiles] at haccepted hlost
  have hup : Host.process ⟨⟨some (.saved c), none, none⟩, 1, 0, some ⟨s, [], false⟩⟩ = some ⟨s, [], false⟩ := rfl
  have hended := FencesAtEnd.ended hup hserves (fun _ h => by cases h) hremembered hanew
  generalize hlost' : finished _ _ _ _ = lost at hended
  have hdown : lost.disk = ⟨some (.saved c), none, none⟩ := by rw [← hlost']; rfl
  have hprocess : ∃ p, lost.process = some p := by rw [← hlost']; exact ⟨_, rfl⟩
  obtain ⟨p, hp⟩ := hprocess
  rw [← hdown] at haccepted hlost
  have hpresent : lost.disk.target.isSome = true := by rw [hdown]; rfl
  have hstart : TransitionSystem.Reaches (· = lost) (Takes (text "store") fun _ _ => True) lost := .init rfl
  have hlater := restarted hstart hp trivial trivial sampleIds hpresent haccepted
  have hshut := h _ _ _ _ _ _ (hsaved c hengine hfencings) hended hlater rfl
  have hfenced := hshut.fenced
  change ((FabricEngine.init coordinatorConfig sampleIds).after (.loadStore (text "store") (storeFiles lost.disk))).fences[
      (⟨sampleId "pub", sampleId "bootA"⟩ : WorkerKey)]?.isSome = true at hfenced
  rw [hlost] at hfenced
  cases hfenced

end Host

/-- A context that the checks of the caller refuse as stale, whatever it is sent for. -/
structure FabricEngine.RefusesStale (e : FabricEngine) (context : MutationContext) : Prop where
  authority : context.hasCallerIdentity = true → ∀ key setId, ∃ outcome,
    e.authorityCheck context key setId = .error outcome ∧ outcome.code = .staleEpoch
  path : context.hasCallerIdentity = true → ∃ outcome,
    e.pathCallerCheck context = .error outcome ∧ outcome.code = .staleEpoch
  rejected : ∀ op : Op, op.context = some context → (e.exec op).2.succeeded = false

theorem FabricEngine.refusesStale {e : FabricEngine} {context : MutationContext} (h : context.epoch ≠ e.currentEpoch) :
    e.RefusesStale context := by
  have hepoch : (context.epoch == e.currentEpoch) = false := beq_eq_false_iff_ne.mpr h
  constructor
  · intro hidentity key setId
    unfold authorityCheck
    rw [hidentity, hepoch]
    exact ⟨_, rfl, rfl⟩
  · intro hidentity
    unfold pathCallerCheck
    rw [hidentity, hepoch]
    exact ⟨_, rfl, rfl⟩
  · intro op hcontext
    rw [← Bool.not_eq_true]
    intro haccepted
    obtain ⟨_, hgoverned⟩ := governed_of_accepted hcontext haccepted
    exact h hgoverned.epoch

namespace Host

/-- The process dies only when the file that the next start reads was encoded at the epoch that governs. -/
def SavedAtEpoch (h : Host) (event : HostEvent) : Prop :=
  event = .crash → ∀ p, h.process = some p → h.Recovers fun c => c.engine.currentEpoch = p.engine.currentEpoch

structure Beyond (epoch : CoordinatorEpoch) (runs : ℕ) (h : Host) : Prop where
  started : runs ≤ h.runs
  live : ∀ p, h.process = some p → epoch.value ≤ p.engine.currentEpoch.value ∧
    (runs < h.runs → epoch.value < p.engine.currentEpoch.value)
  down : h.process = none → h.Recovers fun c => epoch.value ≤ c.engine.currentEpoch.value

theorem Beyond.step {epoch : CoordinatorEpoch} {runs : ℕ} {event : HostEvent} (beyond : h.Beyond epoch runs)
    (sound : h.Sound) (saved : SavedAtEpoch h event) (step : Step store event h h') : h'.Beyond epoch runs := by
  have hstarted := beyond.started
  cases effect step with
  | starts down opens =>
      obtain ⟨hpresent, hsource⟩ := beyond.down down
      obtain ⟨_, _, x, decoded, hx, hdecoded, hnext, _⟩ := opens.reads hpresent
      obtain ⟨c, rfl, hreached⟩ := hsource x hx
      have hcaptured := sound.captured c (.inl (Files.holds_of_source hx).1)
      rw [(decoded_capture hcaptured.limits hdecoded).2] at hnext
      have hbeyond := (FabricEngine.lt_next hnext epoch).mpr hreached
      refine ⟨Nat.le_succ_of_le hstarted, ?_, ?_⟩
      · rintro p hp
        cases hp
        exact ⟨UInt64.le_of_lt hbeyond, fun _ => hbeyond⟩
      · intro hdown
        cases hdown
  | @works _ _ p p' up up' works =>
      obtain ⟨hreached, hbeyond⟩ := beyond.live p up
      have hruns := works.runs
      refine ⟨?_, ?_, ?_⟩
      · rw [hruns]
        exact hstarted
      · intro q hq
        rw [up'] at hq
        cases hq
        refine ⟨UInt64.le_trans hreached works.engine.epoch, ?_⟩
        rw [hruns]
        exact fun hlater => UInt64.lt_of_lt_of_le (hbeyond hlater) works.engine.epoch
      · intro hdown
        rw [up'] at hdown
        cases hdown
  | @crashes p up =>
      refine ⟨hstarted, ?_, ?_⟩
      · rintro q hq
        cases hq
      · rintro -
        obtain ⟨hpresent, hsource⟩ := saved rfl p up
        refine ⟨hpresent, ?_⟩
        intro x hx
        obtain ⟨c, rfl, hepoch⟩ := hsource x hx
        refine ⟨c, rfl, ?_⟩
        change epoch.value ≤ c.engine.currentEpoch.value
        rw [hepoch]
        exact (beyond.live p up).1

/-- An epoch that has governed a run on a store does not govern a later one, and what was stamped with it is refused, as
long as no process dies before a save that was taken at its epoch has taken its place. -/
theorem epochs_rise {p p' : Process} (run : TransitionSystem.Reaches Untouched (Takes store fun _ _ => True) h)
    (up : h.process = some p) (continued : TransitionSystem.Reaches (· = h) (Takes store SavedAtEpoch) h')
    (up' : h'.process = some p') (later : h.runs < h'.runs) :
    p.engine.currentEpoch.value < p'.engine.currentEpoch.value ∧
      ∀ context : MutationContext, context.epoch = p.engine.currentEpoch → p'.engine.RefusesStale context := by
  have hsound := sound.reached run
  have hkept : TransitionSystem.Invariant (· = h) (Takes store SavedAtEpoch)
      fun x => x.Sound ∧ x.Beyond p.engine.currentEpoch h.runs := by
    constructor
    · rintro _ rfl
      refine ⟨hsound, Nat.le_refl _, ?_, ?_⟩
      · intro q hq
        rw [up] at hq
        cases hq
        exact ⟨UInt64.le_refl _, fun hlater => absurd hlater (Nat.lt_irrefl _)⟩
      · intro hdown
        rw [up] at hdown
        cases hdown
    · rintro x x' - ⟨hx, hbeyond⟩ ⟨event, hsaved, hstep⟩
      exact ⟨hx.step hstep, hbeyond.step hx hsaved hstep⟩
  have hrises := ((hkept.reached continued).2.live p' up').2 later
  refine ⟨hrises, ?_⟩
  intro context hcontext
  apply FabricEngine.refusesStale
  rw [hcontext]
  intro hsame
  rw [hsame] at hrises
  exact absurd hrises (UInt64.lt_irrefl _)

theorem savedStore_loads : ((encodeStore (Coordinator.registeredRun ["bootA"]).engine).toOption.map fun bytes =>
    ((decodeStore coordinatorConfig.limits bytes).isOk, ((FabricEngine.init coordinatorConfig sampleIds).exec
      (.loadStore (text "store") ⟨some bytes, none, none⟩)).2.succeeded)) = some (true, true) := by
  decide +kernel

theorem epochs_rise_restarted : ∃ p p' : Process, p.engine.currentEpoch.value < p'.engine.currentEpoch.value := by
  have hloads := savedStore_loads
  have hsaved : ∀ c : Capture, c.engine = (Coordinator.registeredRun ["bootA"]).engine → c.fencings = 0 →
      TransitionSystem.Reaches Untouched (Takes (text "store") fun _ _ => True)
        ⟨⟨some (.saved c), none, none⟩, 1, 0, some ⟨Coordinator.registeredRun ["bootA"], [], false⟩⟩ :=
    fun c now since => savedHost_reached (fun _ _ _ => trivial) now since
  generalize Coordinator.registeredRun ["bootA"] = s at *
  obtain ⟨bytes, hbytes, hfacts⟩ := Option.map_eq_some_iff.mp hloads
  obtain ⟨hreadable, haccepted⟩ := Prod.mk.inj hfacts
  obtain ⟨c, hengine, hfencings, hbytes⟩ := encoded_capture 0 hbytes
  have hfiles : storeFiles ⟨some (.saved c), none, none⟩ = ⟨some bytes, none, none⟩ := by
    rw [← hbytes]
    rfl
  rw [← hfiles] at haccepted
  have hstart : TransitionSystem.Reaches (· = ⟨⟨some (.saved c), none, none⟩, 1, 0, some ⟨s, [], false⟩⟩)
      (Takes (text "store") SavedAtEpoch) _ := .init rfl
  have hrecovers : Recovers (fun c => c.engine.currentEpoch = s.engine.currentEpoch)
      ⟨⟨some (.saved c), none, none⟩, 1, 0, some ⟨s, [], false⟩⟩ := by
    refine ⟨rfl, ?_⟩
    intro x hx
    obtain ⟨hholds, _⟩ := Files.holds_of_source hx
    rcases hholds with h | h | h
    · cases h
      exact ⟨c, rfl, congrArg FabricEngine.currentEpoch hengine⟩
    · cases h
    · cases h
  have hcrash : SavedAtEpoch ⟨⟨some (.saved c), none, none⟩, 1, 0, some ⟨s, [], false⟩⟩ .crash := by
    rintro - q hq
    cases hq
    exact hrecovers
  have hlater := restarted hstart rfl hcrash (fun h => by cases h) sampleIds rfl haccepted
  exact ⟨_, _, (epochs_rise (hsaved c hengine hfencings) rfl hlater rfl (Nat.lt_succ_self _)).1⟩

/-- Two runs over one saved store, of which the first saves nothing, are governed by one epoch. -/
theorem epochs_rise_fails : ¬∀ store h h' p p', TransitionSystem.Reaches Untouched (Takes store fun _ _ => True) h →
    h.process = some p → TransitionSystem.Reaches (· = h) (Takes store fun _ _ => True) h' → h'.process = some p' →
      h.runs < h'.runs → p.engine.currentEpoch.value < p'.engine.currentEpoch.value := by
  intro h
  have hloads := savedStore_loads
  have hsaved : ∀ c : Capture, c.engine = (Coordinator.registeredRun ["bootA"]).engine → c.fencings = 0 →
      TransitionSystem.Reaches Untouched (Takes (text "store") fun _ _ => True)
        ⟨⟨some (.saved c), none, none⟩, 1, 0, some ⟨Coordinator.registeredRun ["bootA"], [], false⟩⟩ :=
    fun c now since => savedHost_reached (fun _ _ _ => trivial) now since
  generalize Coordinator.registeredRun ["bootA"] = s at *
  obtain ⟨bytes, hbytes, hfacts⟩ := Option.map_eq_some_iff.mp hloads
  obtain ⟨_, haccepted⟩ := Prod.mk.inj hfacts
  obtain ⟨c, hengine, hfencings, hbytes⟩ := encoded_capture 0 hbytes
  have hfiles : storeFiles ⟨some (.saved c), none, none⟩ = ⟨some bytes, none, none⟩ := by
    rw [← hbytes]
    rfl
  rw [← hfiles] at haccepted
  have hsecond := restarted (hsaved c hengine hfencings) rfl trivial trivial sampleIds rfl haccepted
  generalize hhost : started _ _ = second at hsecond
  have hdisk : second.disk = ⟨some (.saved c), none, none⟩ := by rw [← hhost]; rfl
  have hup : second.process = some (.opened ((FabricEngine.init coordinatorConfig sampleIds).after
      (.loadStore (text "store") (storeFiles second.disk)))) := by rw [← hhost]; rfl
  rw [← hdisk] at haccepted
  have hpresent : second.disk.target.isSome = true := by rw [hdisk]; rfl
  have hstart : TransitionSystem.Reaches (· = second) (Takes (text "store") fun _ _ => True) second := .init rfl
  have hthird := restarted hstart hup trivial trivial sampleIds hpresent haccepted
  have hrises := h _ _ _ _ _ hsecond hup hthird rfl (Nat.lt_succ_self _)
  exact absurd hrises (UInt64.lt_irrefl _)

end Host

end MultipathFabric
