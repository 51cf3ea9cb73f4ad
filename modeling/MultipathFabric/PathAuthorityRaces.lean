import MultipathFabric.FreshIdentities
import MultipathFabric.Observations

/-!
The operations that consult Path Authority outside the lock, step by step: lookups, the locked section, reconciliation.
The built-in directory is installed, and declarations are the only steps that change it.
-/

namespace MultipathFabric

open OrderedMap MemberRecord

/-- An operation that looks Path Authority up before it takes the lock. -/
inductive Call
  | addMember (context : MutationContext) (setId : MultipathSetId) (request : MemberRequest)
  | addMembers (context : MutationContext) (setId : MultipathSetId) (requests : List MemberRequest)
  | replaceMember (context : MutationContext) (setId : MultipathSetId) (memberId : MultipathMemberId)
      (request : MemberRequest) (reason : Bytes)
  | setMemberAdminEnabled (context : MutationContext) (setId : MultipathSetId) (memberId : MultipathMemberId)
      (enabled : Bool)
  | revalidateSet (context : MutationContext) (setId : MultipathSetId)
  | revalidateMember (context : MutationContext) (setId : MultipathSetId) (memberId : MultipathMemberId)
  | refreshPath (context : MutationContext) (path : PathId)

namespace Call

def paths (e : FabricEngine) : Call → List PathId
  | .addMember _ _ request => [request.pathId]
  | .addMembers _ _ requests => requests.map MemberRequest.pathId
  | .replaceMember _ _ _ request _ => [request.pathId]
  | .setMemberAdminEnabled _ setId memberId _ | .revalidateMember _ setId memberId => (e.memberPath setId memberId).toList
  | .revalidateSet _ setId => (e.sets[setId]?.map liveMemberPaths).getD []
  | .refreshPath _ path => [path]

def viewTable (looked : List (PathId × Option PathAuthorityView)) : ViewTable :=
  looked.foldr (fun entry views => views.insert entry.1 entry.2) ∅

def op (looked : List (PathId × Option PathAuthorityView)) : Call → Op
  | .addMember context setId request => .addMember context setId request (looked.head?.bind Prod.snd)
  | .addMembers context setId requests => .addMembers context setId (requests.zip (looked.map Prod.snd))
  | .replaceMember context setId memberId request reason =>
      .replaceMember context setId memberId request reason (looked.head?.bind Prod.snd)
  | .setMemberAdminEnabled context setId memberId enabled =>
      .setMemberAdminEnabled context setId memberId enabled (looked.head?.bind Prod.snd)
  | .revalidateSet context setId => .revalidateSet context setId (viewTable looked)
  | .revalidateMember context setId memberId => .revalidateMember context setId memberId (looked.head?.map Prod.snd)
  | .refreshPath context path => .refreshPath context path (looked.head?.bind Prod.snd)

end Call

/-- Where a call stands: it looks paths up, or it has committed and rereads the paths whose views it has used, or it has
found one of them changed and waits for the lock. -/
inductive Flight
  | looking (call : Call) (rest : List PathId) (looked : List (PathId × Option PathAuthorityView))
  | reconciling (rest : List (PathId × Option PathAuthorityView))
  | applying (path : PathId) (used observed : Option PathAuthorityView) (rest : List (PathId × Option PathAuthorityView))

structure Racing where
  engine : FabricEngine
  flights : List Flight

inductive RacingEvent
  | begins (call : Call)
  | looks (path : PathId)
  | locks (call : Call) (looked : List (PathId × Option PathAuthorityView))
  | rereads (path : PathId)
  | applies (path : PathId) (used observed : Option PathAuthorityView)
  | returns
  | acts (op : Op)

def Op.consults : Op → Bool
  | .addMember _ _ _ _ | .addMembers _ _ _ | .replaceMember _ _ _ _ _ _ | .setMemberAdminEnabled _ _ _ _ _
  | .revalidateSet _ _ _ | .revalidateMember _ _ _ _ | .refreshPath _ _ _ | .reconcilePath _ _ _
  | .bindPathAuthority _ => true
  | _ => false

namespace Racing

inductive Takes : Racing → RacingEvent → Racing → Prop
  | begins {e : FabricEngine} {flights : List Flight} (call : Call) :
      Takes ⟨e, flights⟩ (.begins call) ⟨e, .looking call (call.paths e) [] :: flights⟩
  | looks {e : FabricEngine} {before later : List Flight} {call : Call} {path : PathId} {rest : List PathId}
      {looked : List (PathId × Option PathAuthorityView)} :
      Takes ⟨e, before ++ .looking call (path :: rest) looked :: later⟩ (.looks path)
        ⟨e, before ++ .looking call rest (looked ++ [(path, e.directory.lookup path)]) :: later⟩
  | locks {e : FabricEngine} {before later : List Flight} {call : Call}
      {looked : List (PathId × Option PathAuthorityView)} :
      Takes ⟨e, before ++ .looking call [] looked :: later⟩ (.locks call looked)
        ⟨e.after (call.op looked),
          before ++ ((if (e.locked (call.op looked)).reconciles then [.reconciling looked] else []) ++ later)⟩
  | same {e : FabricEngine} {before later : List Flight} {path : PathId}
      {used : Option PathAuthorityView} {rest : List (PathId × Option PathAuthorityView)}
      (same : e.directory.lookup path = used) :
      Takes ⟨e, before ++ .reconciling ((path, used) :: rest) :: later⟩ (.rereads path)
        ⟨e, before ++ .reconciling rest :: later⟩
  | differs {e : FabricEngine} {before later : List Flight} {path : PathId}
      {used : Option PathAuthorityView} {rest : List (PathId × Option PathAuthorityView)}
      (differs : e.directory.lookup path ≠ used) :
      Takes ⟨e, before ++ .reconciling ((path, used) :: rest) :: later⟩ (.rereads path)
        ⟨e, before ++ .applying path used (e.directory.lookup path) rest :: later⟩
  | applies {e : FabricEngine} {before later : List Flight} {path : PathId} {used observed : Option PathAuthorityView}
      {rest : List (PathId × Option PathAuthorityView)} :
      Takes ⟨e, before ++ .applying path used observed rest :: later⟩ (.applies path used observed)
        ⟨e.after (.reconcilePath path used observed), before ++ .reconciling rest :: later⟩
  | returns {e : FabricEngine} {before later : List Flight} :
      Takes ⟨e, before ++ .reconciling [] :: later⟩ .returns ⟨e, before ++ later⟩
  | acts {e : FabricEngine} {flights : List Flight} (op : Op) (plain : op.consults = false) :
      Takes ⟨e, flights⟩ (.acts op) ⟨e.after op, flights⟩

def ShowsCurrent (e : FabricEngine) (op : Op) : Prop :=
  (e.after op).sets = e.sets ∨ ∀ (setId : MultipathSetId) (r : SetRecord) (path : PathId) (view : Option PathAuthorityView),
    e.sets[setId]? = some r → op.Shows setId r path view → view = e.directory.lookup path

def LoadsSaved (e : FabricEngine) (op : Op) : Prop :=
  ∃ saver, Lived (fun _ _ => True) saver ∧ ∀ path files decoded fallback, op = .loadStore path files →
    readAndDecode path e.limits files = .ok (decoded, fallback) → saver.Wrote e.limits decoded

/-- What the code leaves to the order of the steps: a section that does not reconcile, and the view that a reconciliation
has reread, come before the next declaration of the path. A store is loaded while no call is under way. -/
def Timely (s : Racing) : RacingEvent → Prop
  | .locks call looked =>
      s.engine.MintsAhead (call.op looked) ∧
        ((s.engine.locked (call.op looked)).reconciles = true ∨ ShowsCurrent s.engine (call.op looked))
  | .applies path _ observed => observed = s.engine.directory.lookup path
  | .acts op =>
      s.engine.MintsAhead op ∧ (FabricEngine.declares op = true ∨ ShowsCurrent s.engine op) ∧
        (op.loads = true → s.flights = [] ∧ LoadsSaved s.engine op)
  | _ => True

def Starts (config : FabricConfig) (s : Racing) : Prop := ∃ ids, s = ⟨.init config ids, []⟩

def Steps (s s' : Racing) : Prop := ∃ event, s.Timely event ∧ s.Takes event s'

end Racing

/-- The call is still to reread a path, of which it has shown `shown` to some member. -/
def Flight.Pends (path : PathId) (shown : Option (PathAuthorityGeneration × PathAuthorityState)) : Flight → Prop
  | .looking _ _ _ => False
  | .reconciling rest => ∃ used, (path, used) ∈ rest ∧ shown = noted used
  | .applying place _ _ rest => place = path ∨ ∃ used, (path, used) ∈ rest ∧ shown = noted used

namespace Racing

/-- What has been shown to a member of the path is what the directory has, or a call is still to reread the path. -/
def Settled (s : Racing) (path : PathId) (shown : Option (PathAuthorityGeneration × PathAuthorityState)) : Prop :=
  shown = noted (s.engine.directory.lookup path) ∨ ∃ f ∈ s.flights, f.Pends path shown

def Tracks (s : Racing) (r : SetRecord) (path : PathId) : Prop :=
  ∀ m, r.members[path]? = some m → memberIsTerminal m = false → s.Settled path m.observed

end Racing

def Call.Sound (s : Racing) (paths : List PathId) : Call → Prop
  | .addMember _ _ request => paths = [request.pathId]
  | .addMembers _ _ requests => paths = requests.map MemberRequest.pathId
  | .revalidateSet _ setId => ∀ r, s.engine.sets[setId]? = some r → setIsFrozen r = false →
      ∀ path, path ∉ paths → s.Tracks r path
  | .revalidateMember _ setId memberId => paths = [] ∨ ∃ path, paths = [path] ∧ ¬s.engine.ids.Awaits .mem memberId.view ∧
      ∀ r, s.engine.sets[setId]? = some r → ∀ place m, r.members[place]? = some m → m.id = memberId → place = path
  | _ => True

def Flight.Sound (s : Racing) : Flight → Prop
  | .looking call rest looked => call.Sound s (looked.map Prod.fst ++ rest)
  | .reconciling _ => True
  | .applying _ used observed _ => observed ≠ used

namespace Racing

open FabricEngine

structure Holds (config : FabricConfig) (s : Racing) : Prop where
  run : Run FabricEngine.MintsAhead config s.engine
  lived : Lived (fun _ _ => True) s.engine
  current : ∀ (setId : MultipathSetId) (r : SetRecord), s.engine.sets[setId]? = some r → setIsFrozen r = false →
    r.currentness = .current → ∀ path, s.Tracks r path
  flights : ∀ f ∈ s.flights, f.Sound s

variable {config : FabricConfig} {s s' : Racing} {op : Op} {setId : MultipathSetId} {r r' : SetRecord} {path : PathId}

theorem Tracks.after (engine : s'.engine = s.engine.after op) (plain : op.loads = false)
    (kept : ∀ shown, s.Settled path shown → s'.Settled path shown)
    (shown : ∀ view, op.Shows setId r path view → s'.Settled path (noted view))
    (before : s.engine.sets[setId]? = some r) (after : s'.engine.sets[setId]? = some r') (tracks : s.Tracks r path) :
    s'.Tracks r' path := by
  intro m' hm' live
  rw [engine] at after
  obtain ⟨r₀, hr₀, hnotes⟩ := after_notes plain after hm'
  rw [before] at hr₀
  cases hr₀
  rcases hnotes with hterminal | ⟨m, hm, hlive, hsame⟩ | ⟨view, hshows, hsame⟩
  · rw [hterminal] at live
    cases live
  · rw [hsame]
    exact kept _ (tracks m hm hlive)
  · rw [hsame]
    exact shown view hshows

theorem Sound.after {call : Call} {paths : List PathId} (h : call.Sound s paths) (engine : s'.engine = s.engine.after op)
    (plain : op.loads = false) (mints : s.engine.MintsAhead op)
    (tracks : ∀ (setId : MultipathSetId) (r r' : SetRecord) (path : PathId), s.engine.sets[setId]? = some r →
      s'.engine.sets[setId]? = some r' → setIsFrozen r = false → s.Tracks r path → s'.Tracks r' path) :
    call.Sound s' paths := by
  cases call with
  | addMember | addMembers => exact h
  | replaceMember | setMemberAdminEnabled | refreshPath => trivial
  | revalidateSet context setId =>
      intro r' hr' hopen path hpath m' hm' live
      have hafter := hr'
      rw [engine] at hafter
      obtain ⟨r, hr, -⟩ := after_notes plain hafter hm'
      have hwas := after_open plain hr hafter hopen
      exact tracks setId r r' path hr hr' hwas (h r hr hwas path hpath) m' hm' live
  | revalidateMember context setId memberId =>
      refine h.imp_right ?_
      rintro ⟨path, hpaths, hspent, hplace⟩
      have hfresh : memberId ∉ s.engine.ids.upcoming op.admissions := by
        intro hmem
        exact hspent (IdFactory.upcoming_awaited mints.admits hmem)
      refine ⟨path, hpaths, ?_, ?_⟩
      · intro hawaits
        rw [engine] at hawaits
        rcases s.engine.after_ids op with hids | ⟨hids, -⟩
        · rw [hids] at hawaits
          exact hspent (hawaits.of_skip mints.lasts)
        · rw [hids] at hawaits
          exact hspent hawaits
      · intro r' hr' place m' hm' hid
        rw [engine] at hr'
        rw [← hid] at hfresh
        obtain ⟨r, m, hr, hm, hsame⟩ := step_known plain hr' hm' hfresh
        exact hplace r hr place m hm (hsame.symm.trans hid)

theorem Holds.after (h : s.Holds config) (engine : s'.engine = s.engine.after op) (plain : op.loads = false)
    (mints : s.engine.MintsAhead op) (flights : ∀ f ∈ s'.flights, f ∈ s.flights ∨ f.Sound s')
    (tracks : ∀ (setId : MultipathSetId) (r r' : SetRecord) (path : PathId), s.engine.sets[setId]? = some r →
      s'.engine.sets[setId]? = some r' → setIsFrozen r = false → s.Tracks r path → s'.Tracks r' path)
    (revalidates : ∀ context setId views, op = .revalidateSet context setId views → ∀ r r' : SetRecord,
      s.engine.sets[setId]? = some r → s'.engine.sets[setId]? = some r' → setIsFrozen r = false → r'.currentness = .current →
        ∀ path, s'.Tracks r' path) : s'.Holds config := by
  constructor
  · rw [engine]
    exact h.run.step op mints
  · rw [engine]
    exact h.lived.step op plain trivial
  · intro setId r' hr' hopen hcurrent path m' hm' live
    have hafter := hr'
    rw [engine] at hafter
    obtain ⟨r, hr, -⟩ := after_notes plain hafter hm'
    have hwas := after_open plain hr hafter hopen
    rcases after_current plain hr hafter hcurrent with hbefore | ⟨context, views, hop⟩
    · exact tracks setId r r' path hr hr' hwas (h.current setId r hr hwas hbefore path) m' hm' live
    · exact revalidates context setId views hop r r' hr hr' hwas hcurrent path m' hm' live
  · intro f hf
    rcases flights f hf with hold | hnew
    · have hsound := h.flights f hold
      cases f with
      | looking call rest looked => exact Sound.after hsound engine plain mints tracks
      | reconciling => trivial
      | applying => exact hsound
    · exact hnew

theorem Sound.still {call : Call} {paths : List PathId} (h : call.Sound s paths) (engine : s'.engine = s.engine)
    (kept : ∀ path shown, s.Settled path shown → s'.Settled path shown) : call.Sound s' paths := by
  cases call with
  | revalidateSet context setId =>
      intro r hr hopen path hpath m hm live
      rw [engine] at hr
      exact kept _ _ (h r hr hopen path hpath m hm live)
  | revalidateMember context setId memberId =>
      change _ ∨ ∃ path, _ ∧ ¬s'.engine.ids.Awaits .mem memberId.view ∧ _
      rw [engine]
      exact h
  | _ => exact h

theorem Holds.still (h : s.Holds config) (engine : s'.engine = s.engine)
    (kept : ∀ path shown, s.Settled path shown → s'.Settled path shown)
    (flights : ∀ f ∈ s'.flights, f ∈ s.flights ∨ f.Sound s') : s'.Holds config := by
  constructor
  · rw [engine]
    exact h.run
  · rw [engine]
    exact h.lived
  · rw [engine]
    exact fun setId r hr hopen hcurrent path m hm live => kept _ _ (h.current setId r hr hopen hcurrent path m hm live)
  · intro f hf
    rcases flights f hf with hold | hnew
    · have hsound := h.flights f hold
      cases f with
      | looking call rest looked => exact Sound.still hsound engine kept
      | reconciling => trivial
      | applying => exact hsound
    · exact hnew

end Racing

namespace Call

variable {looked : List (PathId × Option PathAuthorityView)} {path : PathId} {view : Option PathAuthorityView}

theorem viewTable_mem (h : (viewTable looked)[path]? = some view) : (path, view) ∈ looked := by
  induction looked with
  | nil =>
      change (∅ : ViewTable)[path]? = some view at h
      rw [Std.ExtTreeMap.getElem?_empty] at h
      cases h
  | cons entry rest ih =>
      change ((viewTable rest).insert entry.1 entry.2)[path]? = some view at h
      rw [getElem?_insert_eq] at h
      split at h
      · rename_i hpath
        cases h
        rw [← hpath]
        exact List.mem_cons_self
      · exact List.mem_cons_of_mem _ (ih h)

theorem singleton_of_fst (h : looked.map Prod.fst = [path]) : ∃ view, looked = [(path, view)] := by
  obtain ⟨⟨place, view⟩, rfl, hplace⟩ := List.map_eq_singleton_iff.mp h
  exact ⟨view, by rw [show place = path from hplace]⟩

theorem covers {s : Racing} {call : Call} {setId : MultipathSetId} {r : SetRecord} (sound : call.Sound s (looked.map Prod.fst))
    (reconciles : (s.engine.locked (call.op looked)).reconciles = true) (found : s.engine.sets[setId]? = some r)
    (placed : r.Placed) (indexed : r.Found) (shows_ : (call.op looked).Shows setId r path view) : (path, view) ∈ looked := by
  cases call with
  | addMember context target request =>
      obtain ⟨used, rfl⟩ := singleton_of_fst sound
      cases shows_ with
      | published publication asked place =>
          cases publication
          cases List.mem_singleton.mp asked
          rw [← place]
          exact List.mem_singleton.mpr rfl
      | applied applies => cases applies
  | addMembers context target requests =>
      have hlooked : looked = (requests.map MemberRequest.pathId).zip (looked.map Prod.snd) := by
        rw [← show looked.map Prod.fst = requests.map MemberRequest.pathId from sound]
        exact List.zip_of_prod rfl rfl
      cases shows_ with
      | @published _ _ _ _ request _ publication asked place =>
          cases publication
          rw [hlooked, List.zip_map_left, ← place]
          exact List.mem_map.mpr ⟨(request, view), asked, rfl⟩
      | applied applies => cases applies
  | replaceMember | setMemberAdminEnabled | refreshPath => cases reconciles
  | revalidateSet context target =>
      cases shows_ with
      | published publication => cases publication
      | @revalidatedSet _ _ m _ hm hlooked =>
          rw [placed path m hm] at hlooked
          exact viewTable_mem hlooked
      | applied applies => cases applies
  | revalidateMember context target memberId =>
      rcases sound with hnone | ⟨place, hplace, -, hunique⟩
      · rw [List.map_eq_nil_iff.mp hnone] at shows_
        cases shows_ with
        | published publication => cases publication
        | applied applies => cases applies
      · obtain ⟨used, rfl⟩ := singleton_of_fst hplace
        cases shows_ with
        | published publication => cases publication
        | revalidatedMember _ _ _ hindex =>
            obtain ⟨m, hm, hid⟩ := indexed memberId path hindex
            rw [hunique r found path m hm hid]
            exact List.mem_singleton.mpr rfl
        | applied applies => cases applies

end Call

namespace Racing

open FabricEngine

variable {config : FabricConfig} {s s' : Racing} {e : FabricEngine} {before later : List Flight} {path : PathId}
  {shown : Option (PathAuthorityGeneration × PathAuthorityState)}

theorem sound_begins (h : s.Holds config) (call : Call) : call.Sound s (call.paths s.engine) := by
  cases call with
  | addMember | addMembers => rfl
  | replaceMember | setMemberAdminEnabled | refreshPath => trivial
  | revalidateSet context setId =>
      intro r hr _ path hpath m hm live
      apply absurd _ hpath
      change path ∈ (s.engine.sets[setId]?.map liveMemberPaths).getD []
      rw [hr]
      refine List.mem_map.mpr ⟨(path, m), List.mem_filter.mpr ⟨?_, ?_⟩, rfl⟩
      · exact Std.ExtTreeMap.mem_toList_iff_getElem?_eq_some.mpr hm
      · rw [live]
        rfl
  | revalidateMember context setId memberId =>
      change (s.engine.memberPath setId memberId).toList = [] ∨ ∃ path, (s.engine.memberPath setId memberId).toList = [path] ∧ _
      cases hpath : s.engine.memberPath setId memberId with
      | none => exact .inl rfl
      | some path =>
          right
          obtain ⟨r, hr, hindex⟩ := Option.bind_eq_some_iff.mp hpath
          obtain ⟨m, hm, hid⟩ := found_of_run h.run.reachable setId r hr memberId path hindex
          obtain ⟨-, hminted⟩ := ahead_of_run h.run setId r hr
          refine ⟨path, rfl, ?_, ?_⟩
          · rw [← hid]
            exact hminted.members path m hm
          · intro r' hr' place m' hm' hid'
            rw [hr] at hr'
            cases hr'
            exact hminted.place_unique hm' hm (hid'.trans hid.symm)

theorem reaches_acts {op : Op} {flights : List Flight} (run : TransitionSystem.Reaches (Starts config) Steps ⟨e, flights⟩)
    (plain : op.consults = false) (loads : op.loads = false) (lasts : e.ids.counter.toNat + op.mints < 2 ^ 64)
    (quiet : declares op = true ∨ ∀ setId r path view, ¬op.Shows setId r path view) :
    TransitionSystem.Reaches (Starts config) Steps ⟨e.after op, flights⟩ := by
  refine .step run ⟨.acts op, ⟨mintsAhead_of_plain loads lasts, ?_, ?_⟩, .acts op plain⟩
  · exact quiet.imp_right fun hnone => .inr fun setId r path view _ hshows => absurd hshows (hnone setId r path view)
  · intro hloads
    rw [loads] at hloads
    cases hloads

end Racing

end MultipathFabric
