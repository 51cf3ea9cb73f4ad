import MultipathFabric.LoadForward
import MultipathFabric.SessionEnd
import MultipathFabric.Library.FileReplacement

/-!
The coordinator process over its store: it starts from the files, saves after every accepted response, and may crash
between any two of its steps.
-/

namespace MultipathFabric

open OrderedMap FileReplacement

def coordinatorConfig : FabricConfig := ⟨.default, .first, .first⟩

structure Capture where
  engine : FabricEngine
  fencings : ℕ
  bytes : Bytes
  saved : encodeStore engine = .ok bytes

inductive StoredFile
  | saved (capture : Capture)
  | other (bytes : Bytes)

namespace StoredFile

def bytes : StoredFile → Bytes
  | saved capture => capture.bytes
  | other bytes => bytes

def readable (x : StoredFile) : Bool := (decodeStore coordinatorConfig.limits x.bytes).isOk

end StoredFile

def storeFiles (d : Files StoredFile) : StoreFiles :=
  ⟨d.target.map StoredFile.bytes, d.temporary.map StoredFile.bytes, d.backup.map StoredFile.bytes⟩

inductive SaveState
  | due
  | running (capture : Capture) (phase : Phase)

/-- The running coordinator. A session thread is named by its session, and the main thread is `none`. -/
structure Process where
  coordinator : Coordinator
  saves : List (Option SessionId × SaveState)
  stopped : Bool

namespace Process

def opened (e : FabricEngine) : Process := ⟨⟨e, ∅, []⟩, [], false⟩

abbrev engine (p : Process) : FabricEngine := p.coordinator.engine

def Idle (p : Process) (thread : Option SessionId) : Prop := ∀ save ∈ p.saves, save.1 ≠ thread

def goesOn (p : Process) (thread : Option SessionId) (state : Option SaveState) : Process :=
  { p with
    saves := (state.map fun state => (thread, state)).toList ++ p.saves.filter fun save => save.1 ≠ thread }

def Carries (p : Process) (c : Capture) : Prop := ∃ thread phase, (thread, SaveState.running c phase) ∈ p.saves

end Process

def HandledFrame.accepted (handled : HandledFrame) : Bool :=
  match handled.reply with
  | some (.result, response) => response.outcome.succeeded
  | _ => false

def FabricEngine.fencesAnew (e : FabricEngine) (session : Session) : Bool :=
  match session.remembered with
  | some worker => e.fences[worker]?.isNone && (e.endSession session sessionLost).fences[worker]?.isSome
  | none => false

namespace Process

def framed (p : Process) (id : SessionId) (session : ServerSession) (external : PathId → Option PathAuthorityView)
    (received : ReceivedFrame) : Process :=
  let c : Connection := ⟨p.engine, session.session, session.response⟩
  { p with
    coordinator := p.coordinator.served id session external received
    saves := if (c.handleFrame external received).accepted then (some id, .due) :: p.saves else p.saves }

end Process

/-- The store path, how often the coordinator has been started on it, how many session ends have fenced a boot since
the first start, and the process when one is running. -/
structure Host where
  disk : Files StoredFile
  runs : ℕ
  fencings : ℕ
  process : Option Process

inductive HostEvent
  | start | connect | frame | section | finish | stop | encode | file | fail | write | clash | crash
  deriving DecidableEq

namespace Host

def running (h : Host) (p : Process) : Host := { h with process := some p }

def started (h : Host) (e : FabricEngine) : Host := { h with runs := h.runs + 1, process := some (.opened e) }

def finished (h : Host) (p : Process) (id : SessionId) (session : ServerSession) : Host :=
  { h with
    fencings := if p.engine.fencesAnew session.session then h.fencings + 1 else h.fencings
    process := some { p with coordinator := p.coordinator.finished id session } }

def Has (h : Host) (c : Capture) : Prop :=
  h.disk.Holds (.saved c) ∨ ∃ p, h.process = some p ∧ p.Carries c

/-- The next thing that `main`, a session thread, or the death of the process does. The store is at `store`. -/
inductive Step (store : Bytes) : HostEvent → Host → Host → Prop
  | fresh {h : Host} (ids : IdFactory) (down : h.process = none) (absent : h.disk.target = none) :
      Step store .start h (h.started (.init coordinatorConfig ids))
  | load {h : Host} (ids : IdFactory) (down : h.process = none) (present : h.disk.target.isSome = true)
      (accepted : ((FabricEngine.init coordinatorConfig ids).exec
        (.loadStore store (storeFiles h.disk))).2.succeeded = true) :
      Step store .start h
        (h.started ((FabricEngine.init coordinatorConfig ids).after (.loadStore store (storeFiles h.disk))))
  | connect {h : Host} {p : Process} {id : SessionId} (up : h.process = some p) (serving : p.stopped = false)
      (fresh : p.coordinator.sessions[id]? = none) :
      Step store .connect h (h.running { p with coordinator := p.coordinator.connected id })
  | frame {h : Host} {p : Process} {id : SessionId} {session : ServerSession}
      (external : PathId → Option PathAuthorityView) (received : ReceivedFrame) (up : h.process = some p)
      (serves : p.coordinator.sessions[id]? = some session) (idle : p.Idle (some id)) :
      Step store .frame h (h.running (p.framed id session external received))
  | section_ {h : Host} {p : Process} (op : Op) (up : h.process = some p) (kept : op.loads = false) :
      Step store .section h
        (h.running { p with coordinator := { p.coordinator with engine := p.engine.after op } })
  | finish {h : Host} {p : Process} {id : SessionId} {session : ServerSession} (up : h.process = some p)
      (serves : p.coordinator.sessions[id]? = some session) (idle : p.Idle (some id)) :
      Step store .finish h (h.finished p id session)
  | stop {h : Host} {p : Process} (up : h.process = some p) (ended : p.coordinator.sessions.isEmpty = true)
      (serving : p.stopped = false) : Step store .stop h (h.running { p.goesOn none (some .due) with stopped := true })
  | encode {h : Host} {p : Process} {thread : Option SessionId} {c : Capture} (up : h.process = some p)
      (due : (thread, .due) ∈ p.saves) (now : c.engine = p.engine) (since : c.fencings = h.fencings) :
      Step store .encode h (h.running (p.goesOn thread (some (.running c .ready))))
  | file {h : Host} {p : Process} {thread : Option SessionId} {c : Capture} {phase : Phase} {next : Option Phase}
      {disk : Files StoredFile} (up : h.process = some p) (running : (thread, .running c phase) ∈ p.saves)
      (done : h.disk.advance (.saved c) phase = some (disk, next)) :
      Step store .file h ({ h with disk := disk }.running (p.goesOn thread (next.map (.running c))))
  | fail {h : Host} {p : Process} {thread : Option SessionId} {state : SaveState} (up : h.process = some p)
      (saving : (thread, state) ∈ p.saves) : Step store .fail h (h.running (p.goesOn thread none))
  | write {h : Host} {p : Process} {thread : Option SessionId} {c : Capture} (bytes : Bytes) (up : h.process = some p)
      (writing : (thread, .running c .ready) ∈ p.saves) :
      Step store .write h { h with disk := { h.disk with temporary := some (.other bytes) } }
  | clash {h : Host} {p : Process} {thread other : Option SessionId} {c d : Capture} {phase phase' : Phase}
      {disk : Files StoredFile} (up : h.process = some p) (running : (thread, .running c phase) ∈ p.saves)
      (beside : (other, .running d phase') ∈ p.saves) (differ : thread ≠ other)
      (torn : ∀ c, disk.Holds (.saved c) → h.Has c) : Step store .clash h { h with disk := disk }
  | crash {h : Host} {p : Process} (up : h.process = some p) : Step store .crash h { h with process := none }

def Untouched (h : Host) : Prop :=
  h.runs = 0 ∧ h.fencings = 0 ∧ h.process = none ∧ ∀ c, ¬h.disk.Holds (.saved c)

def Takes (store : Bytes) (allowed : Host → HostEvent → Prop) (h h' : Host) : Prop :=
  ∃ event, allowed h event ∧ Step store event h h'

def Recovers (P : Capture → Prop) (h : Host) : Prop :=
  h.disk.target.isSome = true ∧ ∀ x, h.disk.source StoredFile.readable = some x → ∃ c, x = .saved c ∧ P c

end Host

structure Capture.Sound (fencings : ℕ) (c : Capture) : Prop where
  gated : c.engine.Gated
  limits : c.engine.limits = coordinatorConfig.limits
  fencings : c.fencings ≤ fencings

namespace FabricEngine

structure Onward (e e' : FabricEngine) : Prop where
  gates : GateStep e e'
  limits : e'.limits = e.limits
  epoch : e.currentEpoch.value ≤ e'.currentEpoch.value

theorem Onward.refl (e : FabricEngine) : e.Onward e := ⟨.same rfl rfl, rfl, UInt64.le_refl _⟩

theorem after_onward (e : FabricEngine) {op : Op} (kept : op.loads = false) : e.Onward (e.after op) := by
  refine ⟨after_gates e kept, after_limits e op, ?_⟩
  rcases after_epoch e kept with hsame | hnext
  · rw [hsame]
    exact UInt64.le_refl _
  · have hsucc := Generation.toNat_of_next hnext
    rw [UInt64.le_iff_toNat_le]
    omega

theorem endSession_onward (e : FabricEngine) (session : Session) (cause : Bytes) :
    e.Onward (e.endSession session cause) := by
  unfold endSession
  split
  · exact @after_onward e (.fenceWorker session.publisher session.workerBoot cause) rfl
  · exact .refl e

theorem handleFrame_onward (c : Connection) (external : PathId → Option PathAuthorityView) (received : ReceivedFrame) :
    c.engine.Onward (c.handleFrame external received).connection.engine := by
  cases hrequest : received.request with
  | none =>
      rw [(Connection.handleFrame_other hrequest).1]
      exact .refl _
  | some request =>
      rw [Connection.handleFrame_request hrequest]
      rcases Connection.dispatch_engine c external request with h | ⟨op, kept, h⟩
      · rw [h]
        exact .refl _
      · rw [h]
        exact after_onward _ kept

end FabricEngine

namespace Host

theorem mem_goesOn {p : Process} {thread : Option SessionId} {state : Option SaveState}
    {save : Option SessionId × SaveState} (h : save ∈ (p.goesOn thread state).saves) :
    state.map (fun state => (thread, state)) = some save ∨ save ∈ p.saves := by
  rcases List.mem_append.mp h with hnew | hold
  · exact .inl (Option.mem_toList.mp hnew)
  · exact .inr (List.mem_of_mem_filter hold)

structure Works (h : Host) (p : Process) (h' : Host) (p' : Process) : Prop where
  runs : h'.runs = h.runs
  fencings : h.fencings ≤ h'.fencings
  engine : p.engine.Onward p'.engine
  captures : ∀ c, h'.Has c → h.Has c ∨ (c.engine = p.engine ∧ c.fencings = h.fencings)

inductive Opens (store : Bytes) (disk : Files StoredFile) : FabricEngine → Prop
  | fresh (ids : IdFactory) (absent : disk.target = none) : Opens store disk (.init coordinatorConfig ids)
  | load (ids : IdFactory) (present : disk.target.isSome = true)
      (accepted : ((FabricEngine.init coordinatorConfig ids).exec (.loadStore store (storeFiles disk))).2.succeeded = true) :
      Opens store disk ((FabricEngine.init coordinatorConfig ids).after (.loadStore store (storeFiles disk)))

inductive Effect (store : Bytes) (h : Host) : HostEvent → Host → Prop
  | starts {e : FabricEngine} (down : h.process = none) (opens : Opens store h.disk e) :
      Effect store h .start (h.started e)
  | works {event : HostEvent} {h' : Host} {p p' : Process} (up : h.process = some p) (up' : h'.process = some p')
      (works : Works h p h' p') : Effect store h event h'
  | crashes {p : Process} (up : h.process = some p) : Effect store h .crash { h with process := none }

variable {store : Bytes} {h h' : Host} {p : Process} {event : HostEvent}

theorem works_inside {p' : Process} {h' : Host} (up : h.process = some p) (up' : h'.process = some p')
    (disk : h'.disk = h.disk) (runs : h'.runs = h.runs) (fencings : h.fencings ≤ h'.fencings)
    (engine : p.engine.Onward p'.engine) (saves : ∀ c, p'.Carries c → p.Carries c) : Works h p h' p' := by
  refine ⟨runs, fencings, engine, ?_⟩
  rintro c (hholds | ⟨q, hq, hcarries⟩)
  · rw [disk] at hholds
    exact .inl (.inl hholds)
  · rw [up'] at hq
    cases hq
    exact .inl (.inr ⟨p, up, saves c hcarries⟩)

theorem effect (step : Step store event h h') : Effect store h event h' := by
  cases step with
  | fresh ids down absent => exact .starts down (.fresh ids absent)
  | load ids down present accepted => exact .starts down (.load ids present accepted)
  | connect up serving fresh =>
      exact .works up rfl (works_inside up rfl rfl rfl (Nat.le_refl _) (.refl _) fun _ hc => hc)
  | @frame _ p id session external received up serves idle =>
      have honward := FabricEngine.handleFrame_onward ⟨p.engine, session.session, session.response⟩ external received
      refine .works up rfl (works_inside up rfl rfl rfl (Nat.le_refl _) honward ?_)
      rintro c ⟨thread, phase, hsave⟩
      unfold Process.framed at hsave
      dsimp only at hsave
      split at hsave
      · rcases List.mem_cons.mp hsave with heq | hsave
        · cases heq
        · exact ⟨thread, phase, hsave⟩
      · exact ⟨thread, phase, hsave⟩
  | section_ op up kept =>
      exact .works up rfl (works_inside up rfl rfl rfl (Nat.le_refl _) (FabricEngine.after_onward _ kept) fun _ hc => hc)
  | @finish _ p id session up serves idle =>
      refine .works up rfl (works_inside up rfl rfl rfl ?_ (FabricEngine.endSession_onward _ _ _) fun _ hc => hc)
      unfold finished
      dsimp only
      split <;> omega
  | stop up ended serving =>
      refine .works up rfl (works_inside up rfl rfl rfl (Nat.le_refl _) (.refl _) ?_)
      rintro c ⟨thread, phase, hsave⟩
      rcases mem_goesOn hsave with hnew | hsave
      · cases hnew
      · exact ⟨thread, phase, hsave⟩
  | @encode _ p thread c up due now since =>
      refine .works up rfl ⟨rfl, Nat.le_refl _, .refl _, ?_⟩
      rintro d (hholds | ⟨q, hq, other, phase, hsave⟩)
      · exact .inl (.inl hholds)
      · cases hq
        rcases mem_goesOn hsave with hnew | hsave
        · cases hnew
          exact .inr ⟨now, since⟩
        · exact .inl (.inr ⟨p, up, other, phase, hsave⟩)
  | @file _ p thread c phase next disk up running done =>
      refine .works up rfl ⟨rfl, Nat.le_refl _, .refl _, ?_⟩
      have hcarried : h.Has c := .inr ⟨p, up, thread, phase, running⟩
      rintro d (hholds | ⟨q, hq, other, phase', hsave⟩)
      · rcases Files.holds_of_advance done hholds with hold | hnew
        · exact .inl (.inl hold)
        · cases hnew
          exact .inl hcarried
      · cases hq
        rcases mem_goesOn hsave with hnew | hsave
        · cases next with
          | none => cases hnew
          | some next =>
              cases hnew
              exact .inl hcarried
        · exact .inl (.inr ⟨p, up, other, phase', hsave⟩)
  | fail up saving =>
      refine .works up rfl (works_inside up rfl rfl rfl (Nat.le_refl _) (.refl _) ?_)
      rintro c ⟨thread, phase, hsave⟩
      rcases mem_goesOn hsave with hnew | hsave
      · cases hnew
      · exact ⟨thread, phase, hsave⟩
  | @write _ p thread c bytes up writing =>
      refine .works up up ⟨rfl, Nat.le_refl _, .refl _, ?_⟩
      rintro d (hholds | hcarried)
      · rcases hholds with hd | hd | hd
        · exact .inl (.inl (.inl hd))
        · cases hd
        · exact .inl (.inl (.inr (.inr hd)))
      · exact .inl (.inr hcarried)
  | clash up running beside differ torn =>
      refine .works up up ⟨rfl, Nat.le_refl _, .refl _, ?_⟩
      rintro d (hholds | hcarried)
      · exact .inl (torn d hholds)
      · exact .inl (.inr hcarried)
  | crash up => exact .crashes up

theorem decoded_capture {c : Capture} {decoded : DecodedStore} (limits : c.engine.limits = coordinatorConfig.limits)
    (read : decodeStore coordinatorConfig.limits c.bytes = .ok decoded) :
    decoded.fences = storedFences c.engine ∧ decoded.epoch = c.engine.currentEpoch := by
  have hcount := encodeStore_fences c.saved
  rw [limits] at hcount
  have hsmall : c.engine.fences.size < 2 ^ 32 := Nat.lt_of_le_of_lt hcount (by decide)
  obtain ⟨hfences, _, hepoch⟩ := decodeStore_fences c.saved hsmall read
  exact ⟨hfences, hepoch⟩

theorem read_source {disk : Files StoredFile} {decoded : DecodedStore} {fallback : Bool}
    (read : readAndDecode store coordinatorConfig.limits (storeFiles disk) = .ok (decoded, fallback)) :
    ∃ x, disk.source StoredFile.readable = some x ∧ decodeStore coordinatorConfig.limits x.bytes = .ok decoded := by
  have hreads : ∀ {path : Bytes} {entry : Option StoredFile} {found : DecodedStore},
      (readFile path (entry.map StoredFile.bytes) >>= decodeStore coordinatorConfig.limits) = .ok found →
        ∃ x, entry.filter StoredFile.readable = some x ∧ decodeStore coordinatorConfig.limits x.bytes = .ok found := by
    intro path entry found hread
    cases entry with
    | none => cases hread
    | some x =>
        have hdecoded : decodeStore coordinatorConfig.limits x.bytes = .ok found := hread
        refine ⟨x, Option.filter_some_pos ?_, hdecoded⟩
        unfold StoredFile.readable
        rw [hdecoded]
        rfl
  have hnot : ∀ {path : Bytes} {entry : Option StoredFile} {rejection : FabricOutcome},
      (readFile path (entry.map StoredFile.bytes) >>= decodeStore coordinatorConfig.limits) = .error rejection →
        entry.filter StoredFile.readable = none := by
    intro path entry rejection hread
    cases entry with
    | none => rfl
    | some x =>
        have hrefused : decodeStore coordinatorConfig.limits x.bytes = .error rejection := hread
        apply Option.filter_some_neg
        unfold StoredFile.readable
        rw [hrefused]
        rfl
  unfold readAndDecode at read
  split at read
  · rename_i found hprimary
    cases read
    obtain ⟨x, hx, hdecoded⟩ := hreads hprimary
    refine ⟨x, ?_, hdecoded⟩
    rw [Files.source, hx, Option.some_or]
  · rename_i rejection hprimary
    split at read
    · rename_i found hbackup
      cases read
      obtain ⟨x, hx, hdecoded⟩ := hreads hbackup
      refine ⟨x, ?_, hdecoded⟩
      rw [Files.source, hnot hprimary, Option.none_or, hx]
    · cases read

theorem Opens.reads {disk : Files StoredFile} {e : FabricEngine} (opens : Opens store disk e)
    (present : disk.target.isSome = true) : e.Gated ∧ e.limits = coordinatorConfig.limits ∧
      ∃ x decoded, disk.source StoredFile.readable = some x ∧
        decodeStore coordinatorConfig.limits x.bytes = .ok decoded ∧ decoded.epoch.next = some e.currentEpoch ∧
        ∀ worker : WorkerKey, (∃ f ∈ decoded.fences, (⟨f.publisher, f.workerBoot⟩ : WorkerKey) = worker) →
          e.fences[worker]?.isSome = true := by
  cases opens with
  | fresh ids absent =>
      rw [absent] at present
      cases present
  | load ids _ accepted =>
      have hlimits : (FabricEngine.init coordinatorConfig ids).limits = coordinatorConfig.limits := rfl
      cases hread : readAndDecode store (FabricEngine.init coordinatorConfig ids).limits (storeFiles disk) with
      | error rejection =>
          change ((FabricEngine.init coordinatorConfig ids).loadStore store (storeFiles disk)).2.succeeded = true at accepted
          unfold FabricEngine.loadStore at accepted
          rw [hread] at accepted
          have hrejected := (FabricOutcome.rejects_iff.mp (readAndDecode_rejects hread)).1
          split at accepted
          · cases accepted
          · dsimp only at accepted
            rw [hrejected] at accepted
            cases accepted
      | ok read =>
          obtain ⟨decoded, fallback⟩ := read
          obtain ⟨epoch, authority, hepoch, _, hloaded⟩ := FabricEngine.loadStore_accepted hread accepted
          have hafter : (FabricEngine.init coordinatorConfig ids).after (.loadStore store (storeFiles disk)) =
              (((FabricEngine.init coordinatorConfig ids).clearedForLoad decoded.fences epoch authority).installSets
                decoded.sets).1 := hloaded
          have hstamp := FabricEngine.installSets_stamp
            ((FabricEngine.init coordinatorConfig ids).clearedForLoad decoded.fences epoch authority) decoded.sets
          rw [hlimits] at hread
          obtain ⟨x, hx, hdecoded⟩ := read_source hread
          rw [hafter]
          refine ⟨FabricEngine.loaded_gated _ _ _ _ _, hstamp.limits, x, decoded, hx, hdecoded, ?_, ?_⟩
          · rw [hstamp.epoch]
            exact hepoch
          · intro worker hworker
            exact FabricEngine.loaded_fences.mpr hworker

structure Sound (h : Host) : Prop where
  live : ∀ p, h.process = some p → p.engine.Gated ∧ p.engine.limits = coordinatorConfig.limits
  captured : ∀ c, h.Has c → c.Sound h.fencings

theorem Opens.sound {disk : Files StoredFile} {e : FabricEngine} (opens : Opens store disk e) :
    e.Gated ∧ e.limits = coordinatorConfig.limits := by
  cases opens with
  | fresh ids absent => exact ⟨FabricEngine.gated_of_run (.init ids), rfl⟩
  | load ids present accepted =>
      obtain ⟨hgated, hlimits, _⟩ := (Opens.load ids present accepted).reads present
      exact ⟨hgated, hlimits⟩

theorem Sound.step (sound : h.Sound) (step : Step store event h h') : h'.Sound := by
  cases effect step with
  | starts down opens =>
      constructor
      · rintro p hp
        cases hp
        exact opens.sound
      · rintro c (hholds | ⟨p, hp, thread, phase, hsave⟩)
        · exact sound.captured c (.inl hholds)
        · cases hp
          cases hsave
  | @works _ _ p p' up up' works =>
      obtain ⟨hgated, hlimits⟩ := sound.live p up
      constructor
      · rintro q hq
        rw [up'] at hq
        cases hq
        exact ⟨hgated.step works.engine.gates, works.engine.limits.trans hlimits⟩
      · intro c hc
        rcases works.captures c hc with hold | ⟨hengine, hsince⟩
        · obtain ⟨hgates, hsame, hcount⟩ := sound.captured c hold
          exact ⟨hgates, hsame, hcount.trans works.fencings⟩
        · refine ⟨?_, ?_, ?_⟩
          · rw [hengine]
            exact hgated
          · rw [hengine]
            exact hlimits
          · rw [hsince]
            exact works.fencings
  | crashes up =>
      constructor
      · rintro p hp
        cases hp
      · rintro c (hholds | ⟨p, hp, _⟩)
        · exact sound.captured c (.inl hholds)
        · cases hp

theorem sound {allowed : Host → HostEvent → Prop} :
    TransitionSystem.Invariant Untouched (Takes store allowed) Sound := by
  constructor
  · rintro h ⟨_, _, hdown, hclean⟩
    constructor
    · intro p hp
      rw [hdown] at hp
      cases hp
    · rintro c (hholds | ⟨p, hp, _⟩)
      · exact absurd hholds (hclean c)
      · rw [hdown] at hp
        cases hp
  · rintro h h' _ hsound ⟨event, _, hstep⟩
    exact hsound.step hstep

theorem taken {init : Host → Prop} {allowed : Host → HostEvent → Prop}
    (allow : ∀ h event, event ≠ .crash → allowed h event) (run : TransitionSystem.Reaches init (Takes store allowed) h)
    (quiet : event ≠ .crash) (step : Step store event h h') : TransitionSystem.Reaches init (Takes store allowed) h' :=
  .step run ⟨event, allow h event quiet, step⟩

theorem restarted {init : Host → Prop} {allowed : Host → HostEvent → Prop}
    (run : TransitionSystem.Reaches init (Takes store allowed) h) (up : h.process = some p) (crash : allowed h .crash)
    (start : allowed { h with process := none } .start) (ids : IdFactory) (present : h.disk.target.isSome = true)
    (accepted : ((FabricEngine.init coordinatorConfig ids).exec (.loadStore store (storeFiles h.disk))).2.succeeded = true) :
    TransitionSystem.Reaches init (Takes store allowed) (started { h with process := none }
      ((FabricEngine.init coordinatorConfig ids).after (.loadStore store (storeFiles h.disk)))) :=
  .step (.step run ⟨.crash, crash, .crash up⟩) ⟨.start, start, .load ids rfl present accepted⟩

theorem save_steps {init : Host → Prop} {allowed : Host → HostEvent → Prop} (encodes : ∀ h, allowed h .encode)
    (files : ∀ h, allowed h .file) {disk d : Files StoredFile} {runs fencings : ℕ}
    {coordinator : Coordinator} {stopped : Bool} {thread : Option SessionId} {c : Capture} {phase : Option Phase}
    (run : TransitionSystem.Reaches init (Takes store allowed)
      ⟨disk, runs, fencings, some ⟨coordinator, [(thread, .due)], stopped⟩⟩)
    (now : c.engine = coordinator.engine) (since : c.fencings = fencings)
    (replacing : Replacing disk (.saved c) d phase) :
    TransitionSystem.Reaches init (Takes store allowed) ⟨d, runs, fencings,
      some ⟨coordinator, (phase.map fun phase => (thread, SaveState.running c phase)).toList, stopped⟩⟩ := by
  have hsaves : ∀ (state : SaveState) (next : Option SaveState),
      (Process.mk coordinator [(thread, state)] stopped).goesOn thread next =
        ⟨coordinator, (next.map fun state => (thread, state)).toList, stopped⟩ := by
    intro state next
    simp [Process.goesOn]
  induction replacing with
  | begun =>
      have hstep : Step store .encode ⟨disk, runs, fencings, some ⟨coordinator, [(thread, .due)], stopped⟩⟩ _ :=
        .encode (c := c) rfl List.mem_cons_self now since
      rw [hsaves] at hstep
      exact .step run ⟨.encode, encodes _, hstep⟩
  | @step d d' phase next _ hadvance ih =>
      have hstep : Step store .file
          ⟨d, runs, fencings, some ⟨coordinator, [(thread, .running c phase)], stopped⟩⟩ _ :=
        .file rfl List.mem_cons_self hadvance
      rw [hsaves] at hstep
      refine .step ih ⟨.file, files _, ?_⟩
      cases next <;> exact hstep

theorem save_reaches {init : Host → Prop} {allowed : Host → HostEvent → Prop}
    (allow : ∀ h event, event ≠ .crash → allowed h event) {disk d : Files StoredFile} {runs fencings : ℕ}
    {coordinator : Coordinator} {stopped : Bool} {thread : Option SessionId} {c : Capture} {phase : Option Phase}
    (run : TransitionSystem.Reaches init (Takes store allowed)
      ⟨disk, runs, fencings, some ⟨coordinator, [(thread, .due)], stopped⟩⟩)
    (now : c.engine = coordinator.engine) (since : c.fencings = fencings)
    (replacing : Replacing disk (.saved c) d phase) :
    TransitionSystem.Reaches init (Takes store allowed) ⟨d, runs, fencings,
      some ⟨coordinator, (phase.map fun phase => (thread, SaveState.running c phase)).toList, stopped⟩⟩ :=
  save_steps (fun h => allow h .encode (by decide)) (fun h => allow h .file (by decide)) run now since replacing

end Host

end MultipathFabric
