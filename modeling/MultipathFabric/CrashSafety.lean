import MultipathFabric.Durability
import MultipathFabric.StoreSafety

namespace MultipathFabric

open OrderedMap FileReplacement

def storeContents (d : Files Bytes) : StoreFiles := ⟨d.target, d.temporary, d.backup⟩

def Decodes (limits : Limits) (file : Bytes) : Bool := (decodeStore limits file).isOk

theorem decodes_iff {limits : Limits} {file : Bytes} :
    Decodes limits file = true ↔ ∃ decoded, decodeStore limits file = .ok decoded := by
  unfold Decodes
  cases decodeStore limits file with
  | error rejection =>
      refine iff_of_false (fun h => by cases h) ?_
      rintro ⟨decoded, h⟩
      cases h
  | ok decoded => exact iff_of_true rfl ⟨decoded, rfl⟩

theorem readFile_decodes {path : Bytes} {limits : Limits} {entry : Option Bytes} {decoded : DecodedStore} :
    (readFile path entry >>= decodeStore limits) = .ok decoded ↔
      ∃ x, entry.filter (Decodes limits) = some x ∧ decodeStore limits x = .ok decoded := by
  constructor
  · intro hread
    cases entry with
    | none => cases hread
    | some x =>
        have hdecoded : decodeStore limits x = .ok decoded := hread
        exact ⟨x, Option.filter_some_pos (decodes_iff.mpr ⟨decoded, hdecoded⟩), hdecoded⟩
  · rintro ⟨x, hx, hdecoded⟩
    obtain ⟨rfl, _⟩ := Option.filter_eq_some_iff.mp hx
    exact hdecoded

theorem readAndDecode_source {path : Bytes} {limits : Limits} {d : Files Bytes} {decoded : DecodedStore} :
    (∃ fallback, readAndDecode path limits (storeContents d) = .ok (decoded, fallback)) ↔
      ∃ x, d.source (Decodes limits) = some x ∧ decodeStore limits x = .ok decoded := by
  unfold readAndDecode Files.source
  cases hprimary : readFile path (storeContents d).target >>= decodeStore limits with
  | ok found =>
      obtain ⟨x, hx, hfound⟩ := readFile_decodes.mp hprimary
      have htarget : d.target.filter (Decodes limits) = some x := hx
      rw [htarget, Option.some_or]
      constructor
      · rintro ⟨fallback, hread⟩
        cases hread
        exact ⟨x, rfl, hfound⟩
      · rintro ⟨y, hy, hdecoded⟩
        cases hy
        rw [hfound] at hdecoded
        cases hdecoded
        exact ⟨false, rfl⟩
  | error rejection =>
      have htarget : d.target.filter (Decodes limits) = none := by
        cases hfilter : d.target.filter (Decodes limits) with
        | none => rfl
        | some x =>
            obtain ⟨_, hdecodes⟩ := Option.filter_eq_some_iff.mp hfilter
            obtain ⟨found, hfound⟩ := decodes_iff.mp hdecodes
            have hread := (@readFile_decodes path limits (storeContents d).target found).mpr ⟨x, hfilter, hfound⟩
            rw [hprimary] at hread
            cases hread
      rw [htarget, Option.none_or]
      cases hbackup : readFile (path ++ text ".bak") (storeContents d).backup >>= decodeStore limits with
      | ok found =>
          obtain ⟨x, hx, hfound⟩ := readFile_decodes.mp hbackup
          have hfilter : d.backup.filter (Decodes limits) = some x := hx
          rw [hfilter]
          constructor
          · rintro ⟨fallback, hread⟩
            cases hread
            exact ⟨x, rfl, hfound⟩
          · rintro ⟨y, hy, hdecoded⟩
            cases hy
            rw [hfound] at hdecoded
            cases hdecoded
            exact ⟨true, rfl⟩
      | error other =>
          refine iff_of_false ?_ ?_
          · rintro ⟨fallback, hread⟩
            cases hread
          · rintro hfound
            have hread := (@readFile_decodes (path ++ text ".bak") limits (storeContents d).backup decoded).mpr hfound
            rw [hbackup] at hread
            cases hread

structure DecodedStore.Installs (decoded : DecodedStore) : Prop where
  epoch : decoded.epoch.next.isSome = true
  authority : decoded.authorityGeneration.next.isSome = true
  sets : DistinctSets decoded.sets

namespace FabricEngine

structure LoadsState (e : FabricEngine) (store : Bytes) (d : Files Bytes) (decoded : DecodedStore) : Prop where
  accepted : (e.loadStore store (storeContents d)).2.succeeded = true
  read : ∃ fallback, readAndDecode store e.limits (storeContents d) = .ok (decoded, fallback)

variable {e : FabricEngine} {store : Bytes} {d : Files Bytes} {decoded : DecodedStore}

theorem loadsState_of_accepted (h : (e.loadStore store (storeContents d)).2.succeeded = true) :
    ∃ decoded, e.LoadsState store d decoded := by
  obtain ⟨decoded, fallback, _, _, hread, _⟩ := loadStore_recovers h
  exact ⟨decoded, h, fallback, hread⟩

theorem loadsState_iff (hstore : store.isEmpty = false) : e.LoadsState store d decoded ↔
    decoded.Installs ∧ ∃ x, d.source (Decodes e.limits) = some x ∧ decodeStore e.limits x = .ok decoded := by
  constructor
  · rintro ⟨haccepted, hread⟩
    refine ⟨?_, readAndDecode_source.mp hread⟩
    obtain ⟨fallback, hread⟩ := hread
    obtain ⟨other, _, epoch, authority, hother, hepoch, hauthority, hsets, _⟩ := loadStore_recovers haccepted
    rw [hread] at hother
    cases hother
    exact ⟨by rw [hepoch]; rfl, by rw [hauthority]; rfl, hsets⟩
  · rintro ⟨⟨hepoch, hauthority, hsets⟩, hsource⟩
    obtain ⟨fallback, hread⟩ := readAndDecode_source.mpr hsource
    obtain ⟨epoch, hepoch⟩ := Option.isSome_iff_exists.mp hepoch
    obtain ⟨authority, hauthority⟩ := Option.isSome_iff_exists.mp hauthority
    exact ⟨(loadStore_installs hstore hread hepoch hauthority).2.mpr hsets, fallback, hread⟩

/-- Wherever the save is cut off, a load takes the state it took before or the one that was being saved. -/
def SurvivesCrashes (e : FabricEngine) (store : Bytes) (start : Files Bytes) (c : Capture) : Prop :=
  ∀ d phase, Replacing start c.bytes d phase → ∃ decoded, e.LoadsState store d decoded ∧
    (e.LoadsState store start decoded ∨ decodeStore e.limits c.bytes = .ok decoded)

/-- A save survives its crashes exactly when the primary was usable or absent before it, and when what it writes is no
file that decodes and still is refused. -/
theorem survivesCrashes_iff {start : Files Bytes} {c : Capture}
    (before : (e.loadStore store (storeContents start)).2.succeeded = true) : e.SurvivesCrashes store start c ↔
      (∀ old, start.target = some old → Decodes e.limits old = true) ∧
        ∀ decoded, decodeStore e.limits c.bytes = .ok decoded → decoded.Installs := by
  have hstore : store.isEmpty = false := by
    by_contra hempty
    rw [Bool.not_eq_false] at hempty
    rw [loadStore, if_pos hempty] at before
    cases before
  constructor
  · intro hsurvives
    constructor
    · intro old hold
      by_contra hunusable
      have hcleared : Replacing start c.bytes { start with temporary := some c.bytes, backup := none } (some .cleared) := by
        refine .step (.step .begun rfl) ?_
        simp only [Files.advance, hold]
      obtain ⟨decoded, hloads, _⟩ := hsurvives _ _ hcleared
      obtain ⟨_, x, hx, _⟩ := (loadsState_iff hstore).mp hloads
      unfold Files.source at hx
      dsimp only at hx
      rw [hold, Option.filter_some_neg (Bool.eq_false_iff.mpr hunusable)] at hx
      cases hx
    · intro decoded hdecoded
      obtain ⟨found, hloads, _⟩ := hsurvives _ _ (.done start c.bytes)
      obtain ⟨hinstalls, x, hx, hfound⟩ := (loadsState_iff hstore).mp hloads
      unfold Files.source at hx
      dsimp only at hx
      rw [Option.filter_some_pos (decodes_iff.mpr ⟨decoded, hdecoded⟩), Option.some_or] at hx
      cases hx
      rw [hdecoded] at hfound
      cases hfound
      exact hinstalls
  · rintro ⟨husable, hinstalls⟩ d phase hreplacing
    obtain ⟨old, hold⟩ := loadsState_of_accepted before
    rcases hreplacing.source husable with hsame | hnew
    · refine ⟨old, (loadsState_iff hstore).mpr ?_, .inl hold⟩
      rw [hsame]
      exact (loadsState_iff hstore).mp hold
    · obtain ⟨_, hdecodes⟩ := Files.holds_of_source hnew
      obtain ⟨decoded, hdecoded⟩ := decodes_iff.mp hdecodes
      exact ⟨decoded, (loadsState_iff hstore).mpr ⟨hinstalls decoded hdecoded, c.bytes, hnew, hdecoded⟩, .inr hdecoded⟩

theorem survivesCrashes_iff_saved : ∃ (c : Capture), (init coordinatorConfig sampleIds).SurvivesCrashes (text "store")
    ⟨some c.bytes, none, none⟩ c := by
  have hloads := Host.savedStore_loads
  generalize Coordinator.registeredRun ["bootA"] = s at hloads
  obtain ⟨bytes, hbytes, hfacts⟩ := Option.map_eq_some_iff.mp hloads
  obtain ⟨hreadable, haccepted⟩ := Prod.mk.inj hfacts
  obtain ⟨c, hengine, _, rfl⟩ := Host.encoded_capture 0 hbytes
  have hbefore : ((init coordinatorConfig sampleIds).loadStore (text "store")
      (storeContents ⟨some c.bytes, none, none⟩)).2.succeeded = true := haccepted
  refine ⟨c, (survivesCrashes_iff hbefore).mpr ⟨?_, ?_⟩⟩
  · rintro old hold
    cases hold
    exact hreadable
  · intro decoded hdecoded
    have hsource : Files.source (Decodes (init coordinatorConfig sampleIds).limits) ⟨some c.bytes, none, none⟩ =
        some c.bytes := by
      unfold Files.source
      dsimp only
      rw [Option.filter_some_pos (decodes_iff.mpr ⟨decoded, hdecoded⟩), Option.some_or]
    obtain ⟨fallback, hread⟩ := (@readAndDecode_source (text "store") _ _ _).mpr ⟨_, hsource, hdecoded⟩
    exact ((loadsState_iff rfl).mp ⟨hbefore, fallback, hread⟩).1

theorem survivesCrashes_fails : ¬∀ (e : FabricEngine) (store : Bytes) (start : Files Bytes) (c : Capture),
    (e.loadStore store (storeContents start)).2.succeeded = true → e.SurvivesCrashes store start c := by
  intro h
  have hloads : ((encodeStore (Coordinator.registeredRun ["bootA"]).engine).toOption.map fun bytes =>
      ((init coordinatorConfig sampleIds).loadStore (text "store") ⟨some [], none, some bytes⟩).2.succeeded) = some true := by
    decide +kernel
  generalize Coordinator.registeredRun ["bootA"] = s at hloads
  obtain ⟨bytes, hbytes, haccepted⟩ := Option.map_eq_some_iff.mp hloads
  obtain ⟨c, hengine, _, rfl⟩ := Host.encoded_capture 0 hbytes
  have hcleared : Replacing ⟨some [], none, some c.bytes⟩ c.bytes ⟨some [], some c.bytes, none⟩ (some .cleared) :=
    .step (.step .begun rfl) rfl
  obtain ⟨decoded, hloads, _⟩ := h _ _ ⟨some [], none, some c.bytes⟩ c haccepted _ _ hcleared
  obtain ⟨_, x, hx, hdecoded⟩ := (loadsState_iff rfl).mp hloads
  have hempty : Decodes (init coordinatorConfig sampleIds).limits [] = false := by decide
  unfold Files.source at hx
  dsimp only at hx
  rw [Option.filter_some_neg hempty] at hx
  cases hx

end FabricEngine

/-- The file steps of the saves are atomic: no write is torn, and no two saves write one file at a time. -/
def HostEvent.Atomic (event : HostEvent) : Prop := event ≠ .write ∧ event ≠ .clash

namespace Host

variable {store : Bytes} {first h h' later : Host} {event : HostEvent}

/-- The process dies only while the store stands under its own name. -/
def InPlace (h : Host) (event : HostEvent) : Prop := event.Atomic ∧ (event = .crash → h.disk.target.isSome = true)

inductive CompletesSave (h : Host) : Host → Prop
  | completed {p : Process} {thread : Option SessionId} {c : Capture} {disk : Files StoredFile} (up : h.process = some p)
      (running : (thread, .running c .rotated) ∈ p.saves)
      (done : h.disk.advance (.saved c) .rotated = some (disk, none)) :
      CompletesSave h ({ h with disk := disk }.running (p.goesOn thread none))

def Served (store : Bytes) (first : Host) (c : Capture) : Prop :=
  ∃ earlier p, TransitionSystem.Reaches (· = first) (Takes store fun _ event => event.Atomic) earlier ∧
    earlier.process = some p ∧ c.engine = p.engine

structure Kept (store : Bytes) (first h : Host) : Prop where
  files : ∀ x, h.disk.Holds x → first.disk.Holds x ∨ ∃ c, x = .saved c
  captures : ∀ c, h.Has c → Served store first c

theorem held_of_step (atomic : event.Atomic) (step : Step store event h h') {x : StoredFile} (holds : h'.disk.Holds x) :
    h.disk.Holds x ∨ ∃ c, x = .saved c := by
  cases step with
  | write bytes up writing => exact absurd rfl atomic.1
  | clash up running beside differ torn => exact absurd rfl atomic.2
  | @file _ p thread c phase next disk up running done =>
      exact (Files.holds_of_advance done holds).imp_right fun hnew => ⟨c, hnew⟩
  | _ => exact .inl holds

theorem Kept.step (kept : Kept store first h)
    (run : TransitionSystem.Reaches (· = first) (Takes store fun _ event => event.Atomic) h) (atomic : event.Atomic)
    (step : Step store event h h') : Kept store first h' := by
  constructor
  · intro x holds
    rcases held_of_step atomic step holds with hold | hnew
    · exact kept.files x hold
    · exact .inr hnew
  · cases effect step with
    | starts down opens =>
        rintro c (hholds | ⟨p, hp, thread, phase, hsave⟩)
        · exact kept.captures c (.inl hholds)
        · cases hp
          cases hsave
    | @works _ _ p p' up up' works =>
        intro c hc
        rcases works.captures c hc with hold | ⟨hengine, _⟩
        · exact kept.captures c hold
        · exact ⟨h, p, run, up, hengine⟩
    | crashes up =>
        rintro c (hholds | ⟨p, hp, _⟩)
        · exact kept.captures c (.inl hholds)
        · cases hp

theorem kept (untouched : Untouched first) : TransitionSystem.Invariant (· = first)
    (Takes store fun _ event => event.Atomic) (Kept store first) := by
  constructor
  · rintro _ rfl
    obtain ⟨_, _, hdown, hclean⟩ := untouched
    refine ⟨fun x holds => .inl holds, ?_⟩
    rintro c (hholds | ⟨p, hp, _⟩)
    · exact absurd hholds (hclean c)
    · rw [hdown] at hp
      cases hp
  · rintro h h' run hkept ⟨event, hatomic, hstep⟩
    exact hkept.step run hatomic hstep

theorem target_of_step (inPlace : InPlace h event) (step : Step store event h h') (down : h'.process = none) :
    h'.disk.target.isSome = true := by
  cases effect step with
  | starts _ opens => cases down
  | works up up' works =>
      rw [up'] at down
      cases down
  | crashes up => exact inPlace.2 rfl

/-- The engine that a start serves with was loaded from the file, which some save has encoded or which stood there
before. -/
structure Resumes (store : Bytes) (first h : Host) (e : FabricEngine) (x : StoredFile) : Prop where
  source : h.disk.source StoredFile.readable = some x
  origin : first.disk.Holds x ∨ ∃ c, x = .saved c ∧ Served store first c
  loaded : ∃ ids, ((FabricEngine.init coordinatorConfig ids).exec
      (.loadStore store (storeFiles h.disk))).2.succeeded = true ∧
    e = (FabricEngine.init coordinatorConfig ids).after (.loadStore store (storeFiles h.disk))
  state : ∃ decoded, decodeStore coordinatorConfig.limits x.bytes = .ok decoded ∧
    decoded.epoch.next = some e.currentEpoch ∧
      ∀ f ∈ decoded.fences, e.fences[(⟨f.publisher, f.workerBoot⟩ : WorkerKey)]?.isSome = true
  advanced : e.currentEpoch ≠ .first

theorem next_ne_first {g g' : CoordinatorEpoch} (valid : g.valid = true) (next : g.next = some g') : g' ≠ .first := by
  rintro rfl
  have hsucc := Generation.toNat_of_next next
  have hzero : g.value.toNat = 0 := by
    have hone : (Generation.first : CoordinatorEpoch).value.toNat = 1 := rfl
    omega
  have hvalue : g.value = 0 := UInt64.toNat.inj hzero
  unfold Generation.valid at valid
  rw [hvalue] at valid
  cases valid

/-- Once a save has completed, every start on the path resumes from a saved store, as long as no process dies while the
store does not stand under its own name. -/
theorem starts_resume {next : Host} (untouched : Untouched first)
    (run : TransitionSystem.Reaches (· = first) (Takes store fun _ event => event.Atomic) h) (saved : h.CompletesSave h')
    (continued : TransitionSystem.Reaches (· = h') (Takes store InPlace) later) (start : Step store .start later next) :
    ∃ e x, next.process = some (.opened e) ∧ Resumes store first later e x := by
  have hsaved : TransitionSystem.Reaches (· = first) (Takes store fun _ event => event.Atomic) h' := by
    cases saved with
    | @completed p thread c disk up running done =>
        exact .step run ⟨.file, ⟨by decide, by decide⟩, @Step.file store h p thread c .rotated none disk up running done⟩
  have hlater : TransitionSystem.Reaches (· = first) (Takes store fun _ event => event.Atomic) later ∧
      (later.process = none → later.disk.target.isSome = true) := by
    clear start
    induction continued with
    | init hinit =>
        subst hinit
        refine ⟨hsaved, fun hdown => ?_⟩
        cases saved with
        | completed up running done => cases hdown
    | step _ hstep ih =>
        obtain ⟨event, hinPlace, hstep⟩ := hstep
        exact ⟨.step ih.1 ⟨event, hinPlace.1, hstep⟩, target_of_step hinPlace hstep⟩
  have hkept := (kept untouched).reached hlater.1
  cases start with
  | fresh ids down absent =>
      have hpresent := hlater.2 down
      rw [absent] at hpresent
      cases hpresent
  | load ids down present accepted =>
      obtain ⟨_, _, x, decoded, hx, hdecoded, hepoch, hfences⟩ := (Opens.load ids present accepted).reads present
      refine ⟨_, x, rfl, hx, ?_, ⟨ids, accepted, rfl⟩, ⟨decoded, hdecoded, hepoch, ?_⟩,
        next_ne_first (decodeStore_wellFormed hdecoded).epoch hepoch⟩
      · have hholds := (Files.holds_of_source hx).1
        rcases hkept.files x hholds with hfirst | ⟨c, rfl⟩
        · exact .inl hfirst
        · exact .inr ⟨c, rfl, hkept.captures c (.inl hholds)⟩
      · intro f hf
        exact hfences _ ⟨f, hf, rfl⟩

section

variable {init : Host → Prop} {allowed : Host → HostEvent → Prop} {disk : Files StoredFile} {runs : ℕ} {e : FabricEngine}

theorem stop_reaches (allow : ∀ h, allowed h .stop)
    (run : TransitionSystem.Reaches init (Takes store allowed) ⟨disk, runs, 0, some (.opened e)⟩) :
    TransitionSystem.Reaches init (Takes store allowed) ⟨disk, runs, 0, some ⟨⟨e, ∅, []⟩, [(none, .due)], true⟩⟩ :=
  .step run ⟨.stop, allow _, .stop (p := .opened e) rfl Std.ExtTreeMap.isEmpty_empty rfl⟩

end

def bareHost : Host := ⟨⟨none, none, none⟩, 0, 0, none⟩

theorem bareHost_untouched : Untouched bareHost := by
  refine ⟨rfl, rfl, rfl, ?_⟩
  rintro c (h | h | h) <;> cases h

theorem firstSave_reached {c : Capture} (now : c.engine = .init coordinatorConfig sampleIds) (since : c.fencings = 0) :
    TransitionSystem.Reaches (· = bareHost) (Takes store fun _ event => event.Atomic) ⟨⟨none, some (.saved c), none⟩, 1, 0,
      some ⟨⟨.init coordinatorConfig sampleIds, ∅, []⟩, [(none, .running c .rotated)], true⟩⟩ := by
  have hstarted : TransitionSystem.Reaches (· = bareHost) (Takes store fun _ event => event.Atomic)
      ⟨⟨none, none, none⟩, 1, 0, some (.opened (.init coordinatorConfig sampleIds))⟩ :=
    .step (.init rfl) ⟨.start, ⟨by decide, by decide⟩, .fresh sampleIds rfl rfl⟩
  have hstopped := stop_reaches (fun _ => ⟨by decide, by decide⟩) hstarted
  have hrotated : @Replacing StoredFile ⟨none, none, none⟩ (.saved c) ⟨none, some (.saved c), none⟩ (some .rotated) :=
    .step (.step .begun rfl) rfl
  exact save_steps (fun _ => ⟨by decide, by decide⟩) (fun _ => ⟨by decide, by decide⟩) hstopped now since hrotated

theorem firstSave_completed (c : Capture) (e : FabricEngine) :
    CompletesSave ⟨⟨none, some (.saved c), none⟩, 1, 0, some ⟨⟨e, ∅, []⟩, [(none, .running c .rotated)], true⟩⟩
      ⟨⟨some (.saved c), none, none⟩, 1, 0, some ⟨⟨e, ∅, []⟩, [], true⟩⟩ := by
  have hsaves : (Process.mk ⟨e, ∅, []⟩ [(none, .running c .rotated)] true).goesOn none none = ⟨⟨e, ∅, []⟩, [], true⟩ := by
    simp [Process.goesOn]
  have hcompletes := @CompletesSave.completed ⟨⟨none, some (.saved c), none⟩, 1, 0, some ⟨⟨e, ∅, []⟩,
    [(none, .running c .rotated)], true⟩⟩ _ none c _ rfl List.mem_cons_self rfl
  rw [hsaves] at hcompletes
  exact hcompletes

theorem firstStore_loads : ((encodeStore (.init coordinatorConfig sampleIds)).toOption.map fun bytes =>
    let loaded := (FabricEngine.init coordinatorConfig sampleIds).exec (.loadStore (text "store") ⟨some bytes, none, none⟩)
    (loaded.2.succeeded, (encodeStore loaded.1).isOk)) = some (true, true) := by
  decide +kernel

theorem starts_resume_restarted : ∃ (c : Capture) (next : Host) (e : FabricEngine) (x : StoredFile), next.process = some (.opened e) ∧
    Resumes (text "store") bareHost ⟨⟨some (.saved c), none, none⟩, 1, 0, none⟩ e x := by
  obtain ⟨bytes, hbytes, hfacts⟩ := Option.map_eq_some_iff.mp firstStore_loads
  obtain ⟨haccepted, _⟩ := Prod.mk.inj hfacts
  obtain ⟨c, hengine, hfencings, rfl⟩ := encoded_capture 0 hbytes
  have hcrashed : TransitionSystem.Reaches
      (· = ⟨⟨some (.saved c), none, none⟩, 1, 0, some ⟨⟨.init coordinatorConfig sampleIds, ∅, []⟩, [], true⟩⟩)
      (Takes (text "store") InPlace) ⟨⟨some (.saved c), none, none⟩, 1, 0, none⟩ :=
    .step (.init rfl) ⟨.crash, ⟨⟨by decide, by decide⟩, fun _ => rfl⟩, .crash rfl⟩
  exact ⟨c, _, starts_resume bareHost_untouched (firstSave_reached hengine hfencings) (firstSave_completed c _) hcrashed
    (.load sampleIds rfl rfl haccepted)⟩

theorem starts_resume_fails : ¬∀ (store : Bytes) (first h h' later next : Host), Untouched first →
    TransitionSystem.Reaches (· = first) (Takes store fun _ event => event.Atomic) h → CompletesSave h h' →
      TransitionSystem.Reaches (· = h') (Takes store fun _ event => event.Atomic) later →
        Step store .start later next → ∃ e x, next.process = some (.opened e) ∧ Resumes store first later e x := by
  intro h
  obtain ⟨bytes, hbytes, hfacts⟩ := Option.map_eq_some_iff.mp firstStore_loads
  obtain ⟨haccepted, hencodes⟩ := Prod.mk.inj hfacts
  obtain ⟨c, hengine, hfencings, rfl⟩ := encoded_capture 0 hbytes
  have hcrashed : TransitionSystem.Reaches
      (· = ⟨⟨some (.saved c), none, none⟩, 1, 0, some ⟨⟨.init coordinatorConfig sampleIds, ∅, []⟩, [], true⟩⟩)
      (Takes (text "store") fun _ event => event.Atomic) ⟨⟨some (.saved c), none, none⟩, 1, 0, none⟩ :=
    .step (.init rfl) ⟨.crash, ⟨by decide, by decide⟩, .crash rfl⟩
  have hloaded := TransitionSystem.Reaches.step hcrashed
    ⟨.start, ⟨by decide, by decide⟩, .load sampleIds rfl rfl haccepted⟩
  generalize hsecond : (FabricEngine.init coordinatorConfig sampleIds).after _ = second at hloaded
  have hsaved : (encodeStore second).isOk = true := by
    rw [← hsecond]
    exact hencodes
  obtain ⟨later, hlater⟩ : ∃ later, encodeStore second = .ok later := by
    cases hresult : encodeStore second with
    | error rejection =>
        rw [hresult] at hsaved
        cases hsaved
    | ok later => exact ⟨later, rfl⟩
  have hstopped := stop_reaches (fun _ => ⟨by decide, by decide⟩) hloaded
  have hrotated : @Replacing StoredFile ⟨some (.saved c), none, none⟩ (.saved ⟨second, 0, later, hlater⟩)
      ⟨none, some (.saved ⟨second, 0, later, hlater⟩), some (.saved c)⟩ (some .rotated) :=
    .step (.step (.step .begun rfl) rfl) rfl
  have hcut := save_steps (fun _ => ⟨by decide, by decide⟩) (fun _ => ⟨by decide, by decide⟩) hstopped rfl rfl hrotated
  have hdied := TransitionSystem.Reaches.step hcut ⟨.crash, ⟨by decide, by decide⟩, .crash rfl⟩
  obtain ⟨e, x, hup, hresumes⟩ := h _ _ _ _ _ _ bareHost_untouched (firstSave_reached hengine hfencings)
    (firstSave_completed c _) hdied (.fresh sampleIds rfl rfl)
  cases hup
  exact hresumes.advanced rfl

end Host

end MultipathFabric
