import MultipathFabric.Announcements
import MultipathFabric.EngineStep
import MultipathFabric.Pruning
import MultipathFabric.Rendering
import MultipathFabric.Restoration
import MultipathFabric.TransitionTables

namespace MultipathFabric

open OrderedMap

namespace IdFactory

variable {f : IdFactory} {kind : Kind} {id : MultipathMemberId} {t : Bytes} {k : ℕ}

def Awaits (f : IdFactory) (kind : Kind) (t : Bytes) : Prop :=
  ∃ n : UInt64, f.counter < n ∧ f.compose kind n = t

def skip (f : IdFactory) : ℕ → IdFactory
  | 0 => f
  | k + 1 => f.nextMemberId.2.skip k

def Lasts (f : IdFactory) (k : ℕ) : Prop := f.counter.toNat + k < 2 ^ 64

theorem compose_injective {m n : UInt64} (h : f.compose kind m = f.compose kind n) : m = n := by
  unfold compose at h
  exact decimal_u64_inj (List.append_cancel_left h)

theorem next_counter (lasts : f.Lasts 1) : (f.counter + 1).toNat = f.counter.toNat + 1 := by
  unfold Lasts at lasts
  rw [UInt64.toNat_add]
  exact Nat.mod_eq_of_lt lasts

theorem Lasts.next (lasts : f.Lasts (k + 1)) : f.nextMemberId.2.Lasts k := by
  have hone : f.Lasts 1 := by
    unfold Lasts at lasts ⊢
    omega
  unfold Lasts at lasts ⊢
  change (f.counter + 1).toNat + k < 2 ^ 64
  rw [next_counter hone]
  omega

theorem Lasts.one (lasts : f.Lasts (k + 1)) : f.Lasts 1 := by
  unfold Lasts at lasts ⊢
  omega

theorem skip_nonce (f : IdFactory) (k : ℕ) : (f.skip k).nonce = f.nonce := by
  induction k generalizing f with
  | zero => rfl
  | succ k ih => exact ih f.nextMemberId.2

theorem skip_counter (lasts : f.Lasts k) : (f.skip k).counter.toNat = f.counter.toNat + k := by
  induction k generalizing f with
  | zero => rfl
  | succ k ih =>
      have hnext : f.nextMemberId.2.counter.toNat = f.counter.toNat + 1 := next_counter lasts.one
      rw [skip, ih lasts.next, hnext]
      omega

theorem skip_compose (f : IdFactory) (k : ℕ) (kind : Kind) (n : UInt64) : (f.skip k).compose kind n = f.compose kind n := by
  unfold compose
  rw [skip_nonce]

theorem Awaits.of_skip (lasts : f.Lasts k) (h : (f.skip k).Awaits kind t) : f.Awaits kind t := by
  obtain ⟨n, hn, rfl⟩ := h
  refine ⟨n, ?_, (skip_compose f k kind n).symm⟩
  rw [UInt64.lt_iff_toNat_lt, skip_counter lasts] at hn
  rw [UInt64.lt_iff_toNat_lt]
  omega

theorem next_awaited (lasts : f.Lasts 1) (kind : Kind) : f.Awaits kind (f.compose kind (f.counter + 1)) := by
  refine ⟨_, ?_, rfl⟩
  rw [UInt64.lt_iff_toNat_lt, next_counter lasts]
  omega

theorem not_awaited (lasts : f.Lasts k) {n : UInt64} (minted : n.toNat ≤ f.counter.toNat + k) :
    ¬(f.skip k).Awaits kind (f.compose kind n) := by
  rintro ⟨n', hn', hsame⟩
  rw [skip_compose] at hsame
  rw [compose_injective hsame, UInt64.lt_iff_toNat_lt, skip_counter lasts] at hn'
  omega

theorem upcoming_composed (lasts : f.Lasts k) (h : id ∈ f.upcoming k) :
    ∃ n : UInt64, f.counter < n ∧ n.toNat ≤ f.counter.toNat + k ∧ id.view = f.compose .mem n := by
  induction k generalizing f with
  | zero => cases h
  | succ k ih =>
      have hnext : f.nextMemberId.2.counter.toNat = f.counter.toNat + 1 := next_counter lasts.one
      rw [upcoming, List.mem_cons] at h
      rcases h with rfl | hrest
      · refine ⟨f.counter + 1, ?_, ?_, rfl⟩
        · rw [UInt64.lt_iff_toNat_lt, next_counter lasts.one]
          omega
        · rw [next_counter lasts.one]
          omega
      · obtain ⟨n, hlow, hhigh, hview⟩ := ih lasts.next hrest
        rw [UInt64.lt_iff_toNat_lt, hnext] at hlow
        rw [hnext] at hhigh
        refine ⟨n, ?_, by omega, hview⟩
        rw [UInt64.lt_iff_toNat_lt]
        omega

theorem upcoming_awaited (lasts : f.Lasts k) (h : id ∈ f.upcoming k) : f.Awaits .mem id.view := by
  obtain ⟨n, hlow, _, hview⟩ := upcoming_composed lasts h
  exact ⟨n, hlow, hview.symm⟩

theorem upcoming_spent (lasts : f.Lasts k) (h : id ∈ f.upcoming k) : ¬(f.skip k).Awaits .mem id.view := by
  obtain ⟨n, _, hhigh, hview⟩ := upcoming_composed lasts h
  rw [hview]
  exact not_awaited lasts hhigh

theorem upcoming_nodup (lasts : f.Lasts k) : (f.upcoming k).Nodup := by
  induction k generalizing f with
  | zero => exact List.nodup_nil
  | succ k ih =>
      rw [upcoming, List.nodup_cons]
      refine ⟨fun h => ?_, ih lasts.next⟩
      have hspent : ¬(f.skip 1).Awaits .mem f.nextMemberId.1.view := by
        apply upcoming_spent lasts.one
        rw [upcoming]
        exact List.mem_cons_self
      exact hspent (upcoming_awaited lasts.next h)

end IdFactory

def Op.mints : Op → ℕ
  | .createSet _ _ _ => 1
  | op => op.admissions

namespace FabricEngine

variable {e : FabricEngine} {op : Op}

theorem captureSnapshot_ids (e : FabricEngine) (r : SetRecord) : (e.captureSnapshot r).ids = e.ids := by
  unfold captureSnapshot
  dsimp only
  split <;> rfl

theorem unindexPath_ids (e : FabricEngine) (setId : MultipathSetId) (path : PathId) :
    (e.unindexPath setId path).ids = e.ids := by
  unfold unindexPath
  split <;> rfl

theorem unindexPaths_ids (setId : MultipathSetId) (paths : List PathId) (e : FabricEngine) :
    (paths.foldl (fun e path => e.unindexPath setId path) e).ids = e.ids := by
  induction paths generalizing e with
  | nil => rfl
  | cons path rest ih => exact (ih _).trans (unindexPath_ids e setId path)

theorem sealedCommit_ids (e : FabricEngine) (setId : MultipathSetId) (y : SetRecord) (q : Request) (spec : CommitSpec)
    (outcome : FabricOutcome) : (e.sealedCommit setId y q spec outcome).ids = e.ids :=
  (captureSnapshot_ids _ _).trans (unindexPaths_ids _ _ _)

theorem rewriteSets_ids (f : FabricEngine → SetRecord → Option SetRecord) (entries : List (MultipathSetId × SetRecord))
    (e : FabricEngine) : (rewriteSets f e entries).ids = e.ids := by
  induction entries generalizing e with
  | nil => rfl
  | cons entry rest ih =>
      unfold rewriteSets
      split
      · exact ih e
      · exact (ih _).trans (captureSnapshot_ids _ _)

theorem applyView_ids (e : FabricEngine) (path : PathId) (view : Option PathAuthorityView)
    (context : Option MutationContext) (cause : MembershipCause) : (e.applyView path view context cause).1.ids = e.ids := by
  apply applyView_preserves (p := fun x => x.ids = e.ids)
  · exact fun _ _ _ _ h _ _ => h
  · exact fun x r h => (captureSnapshot_ids x r).trans h
  · rfl

theorem installSets_ids (e : FabricEngine) (stored : List SetRecord) : (e.installSets stored).1.ids = e.ids := by
  apply installSets_preserves (p := fun x => x.ids = e.ids)
  · intro x r _ h _ _
    obtain ⟨index, hframe⟩ := installSet_frame x r
    rw [hframe, captureSnapshot_ids]
    exact h
  · rfl

theorem admitPaths_ids (setId : MultipathSetId) (requests : List MemberRequest) (e : FabricEngine) :
    (e.admitPaths setId requests).ids = e.ids.skip requests.length := by
  induction requests generalizing e with
  | nil => rfl
  | cons request rest ih => exact ih (e.admitPath setId request.pathId)

theorem prepared_ids (e : FabricEngine) (r : SetRecord) {op : Op} {setId : MultipathSetId} (named : op.subject = some setId) :
    (e.prepared r op).ids = e.ids.skip op.mints := by
  cases op with
  | addMember context setId request view => exact admitPaths_ids setId [request] e
  | addMembers context setId requests =>
      have hids := admitPaths_ids setId (requests.map Prod.fst) e
      rw [List.length_map] at hids
      exact hids
  | removeMember context setId memberId reason =>
      unfold FabricEngine.prepared
      dsimp only
      split
      · rfl
      · exact unindexPath_ids _ _ _
  | createSet => cases named
  | _ => rfl

theorem mints_unrequested (h : op.request = none) : op.mints = 0 := by
  cases op with
  | createSet | addMember | addMembers | replaceMember => cases h
  | _ => rfl

theorem mints_viewed {path : PathId} {view : Option PathAuthorityView} {context : Option MutationContext}
    (h : op.Applies path view context) : op.mints = 0 := by
  cases h <;> rfl

theorem mints_residual (h : op.residual = true) : op.mints = 0 := by
  cases op with
  | createSet | addMember | addMembers | replaceMember => cases h
  | _ => rfl

theorem after_ids (e : FabricEngine) (op : Op) :
    (e.after op).ids = e.ids.skip op.mints ∨ (e.after op).ids = e.ids ∧ (e.after op).sets = e.sets := by
  have hnone : op.mints = 0 → (e.after op).ids = e.ids →
      (e.after op).ids = e.ids.skip op.mints ∨ (e.after op).ids = e.ids ∧ (e.after op).sets = e.sets := by
    intro hmints hids
    rw [hmints]
    exact .inl hids
  have hstep := after_engineStep e op
  generalize e.after op = e' at hstep hnone ⊢
  cases hstep with
  | unchanged => exact .inr ⟨rfl, rfl⟩
  | answered request answer =>
      cases answer with
      | refused => exact .inr ⟨rfl, rfl⟩
      | replayed => exact .inr ⟨rfl, rfl⟩
      | left residual => exact hnone (mints_residual residual) rfl
      | @answered setId r x _ _ _ found _ _ _ _ _ idles =>
          by_cases hmints : op.mints = 0
          · exact hnone hmints rfl
          · have hsame : x = r := by
              cases op with
              | createSet | addMember | addMembers | replaceMember => exact idles
              | _ => exact absurd rfl hmints
            refine .inr ⟨rfl, ?_⟩
            change e.sets.insert setId x = e.sets
            rw [hsame]
            exact insert_of_some found
      | committed _ named => exact .inl ((sealedCommit_ids _ _ _ _ _ _).trans (prepared_ids e _ named))
      | superseded supersedes =>
          rw [supersedes]
          exact .inl ((captureSnapshot_ids _ _).trans (sealedCommit_ids _ _ _ _ _ _))
      | viewed _ _ applied => exact hnone (mints_viewed applied) (applyView_ids _ _ _ _ _)
      | created creates =>
          rw [creates]
          exact .inl (captureSnapshot_ids _ _)
  | worked request => exact hnone (mints_unrequested request) rfl
  | viewed applied => exact hnone (mints_viewed applied) (applyView_ids _ _ _ _ _)
  | released unrequested | registered unrequested | unregistered unrequested | bound unrequested =>
      exact hnone (mints_unrequested unrequested) rfl
  | fenced unrequested => exact hnone (mints_unrequested unrequested) (rewriteSets_ids _ _ _)
  | epochAdvanced unrequested => exact hnone (mints_unrequested unrequested) (rewriteSets_ids _ _ _)
  | loaded loads =>
      rw [loads]
      exact .inl (installSets_ids _ _)

end FabricEngine

open FabricEngine

namespace SetRecord

structure Minted (f : IdFactory) (r : SetRecord) : Prop where
  members : ∀ (path : PathId) (m : MemberRecord), r.members[path]? = some m → ¬f.Awaits .mem m.id.view
  listed : ∀ (path : PathId) (m : MemberRecord), r.members[path]? = some m → r.memberIndex[m.id]? = some path

variable {f : IdFactory} {r x : SetRecord} {k : ℕ}

theorem Minted.unindexed (h : r.Minted f) (found : r.Found) {id : MultipathMemberId} (awaited : f.Awaits .mem id.view) :
    r.memberIndex[id]? = none := by
  cases hindex : r.memberIndex[id]? with
  | none => rfl
  | some path =>
      obtain ⟨m, hm, rfl⟩ := found id path hindex
      exact absurd awaited (h.members path m hm)

theorem Minted.skip (h : r.Minted f) (lasts : f.Lasts k) : r.Minted (f.skip k) :=
  ⟨fun path m hm hawaits => h.members path m hm (hawaits.of_skip lasts), h.listed⟩

theorem Minted.congr (h : r.Minted f) (index : x.memberIndex = r.memberIndex)
    (known : ∀ (path : PathId) (m' : MemberRecord), x.members[path]? = some m' →
      ∃ m, r.members[path]? = some m ∧ m'.id = m.id) : x.Minted f := by
  constructor
  · intro path m' hm'
    obtain ⟨m, hm, hid⟩ := known path m' hm'
    rw [hid]
    exact h.members path m hm
  · intro path m' hm'
    obtain ⟨m, hm, hid⟩ := known path m' hm'
    rw [index, hid]
    exact h.listed path m hm

theorem Minted.mapped {g : MemberRecord → MemberRecord} (h : r.Minted f) (index : x.memberIndex = r.memberIndex)
    (members : x.members = r.members.map fun _ m => g m) (ids : ∀ m, (g m).id = m.id) : x.Minted f := by
  refine h.congr index fun path m' hm' => ?_
  rw [members] at hm'
  obtain ⟨m, hm, rfl⟩ := member_map hm'
  exact ⟨m, hm, ids m⟩

theorem Minted.place_unique (h : r.Minted f) {path path' : PathId} {m m' : MemberRecord}
    (found : r.members[path]? = some m) (found' : r.members[path']? = some m') (same : m.id = m'.id) : path = path' := by
  have hindex := h.listed path m found
  rw [same, h.listed path' m' found'] at hindex
  exact (Option.some.inj hindex).symm

theorem Minted.install (h : r.Minted f) (lasts : f.Lasts 1) {member : MemberRecord} (minted : member.id = f.nextMemberId.1) :
    (r.installMember member).Minted (f.skip 1) := by
  have hnew : ∀ (path : PathId) (m : MemberRecord), r.members[path]? = some m → member.id ≠ m.id := by
    intro path m hm hsame
    apply h.members path m hm
    rw [← hsame, minted]
    exact IdFactory.next_awaited lasts .mem
  constructor
  · intro path m hm
    rcases member_insert hm with ⟨_, rfl⟩ | ⟨_, hkept⟩
    · rw [minted]
      exact IdFactory.not_awaited lasts (IdFactory.next_counter lasts).le
    · exact (h.skip lasts).members path m hkept
  · intro path m hm
    unfold installMember
    dsimp only
    rw [getElem?_insert_eq]
    rcases member_insert hm with ⟨rfl, rfl⟩ | ⟨hother, hkept⟩
    · rw [if_pos rfl]
    · rw [if_neg (hnew path m hkept)]
      cases hexisting : r.members[member.pathId]? with
      | none => exact h.listed path m hkept
      | some existing =>
          dsimp only
          rw [getElem?_erase_eq, if_neg]
          · exact h.listed path m hkept
          · intro hsame
            exact hother (h.place_unique hexisting hkept hsame)

theorem newMember_id (e : FabricEngine) (context : MutationContext) (r : SetRecord) (cause : MembershipCause)
    (request : MemberRequest) (view : Option PathAuthorityView) (predecessor : Option MultipathMemberId) :
    (e.newMember context r cause request view predecessor).id = e.ids.nextMemberId.1 :=
  evaluate_id _ _ _ _

theorem Minted.published {context : MutationContext} {setId : MultipathSetId} {e : FabricEngine} (h : r.Minted e.ids)
    (requests : List (MemberRequest × Option PathAuthorityView)) (lasts : e.ids.Lasts requests.length) :
    (publishMembers context setId e r requests).2.1.Minted (e.ids.skip requests.length) := by
  induction requests generalizing e r with
  | nil => exact h
  | cons request rest ih =>
      exact ih (e := e.admitPath setId request.1.pathId) (h.install lasts.one (newMember_id _ _ _ _ _ _ _)) lasts.next

theorem Minted.pruned (h : r.Minted f) (limits : Limits) : (r.pruneArchive limits).Minted f := by
  have hplace : ∀ (path : PathId) (m' : MemberRecord), (r.pruneArchive limits).members[path]? = some m' →
      path ∉ pruneVictims limits r ∧ ∃ m, r.members[path]? = some m ∧ m'.id = m.id := by
    intro path m' hm'
    rw [pruneArchive_getElem?] at hm'
    split at hm'
    · cases hm'
    · rename_i hkept
      obtain ⟨m, hm, rfl⟩ := Option.map_eq_some_iff.mp hm'
      exact ⟨hkept, m, hm, rfl⟩
  constructor
  · intro path m' hm'
    obtain ⟨_, m, hm, hid⟩ := hplace path m' hm'
    rw [hid]
    exact h.members path m hm
  · intro path m' hm'
    obtain ⟨hkept, m, hm, hid⟩ := hplace path m' hm'
    rw [pruneArchive_memberIndex, hid, if_neg]
    · exact h.listed path m hm
    · intro hvictim
      obtain ⟨victim, hpruned, m₀, hm₀, hsame⟩ := mem_victimIds.mp hvictim
      rw [h.place_unique hm₀ hm hsame] at hpruned
      exact hkept hpruned

theorem Minted.sealed_ {limits : Limits} {summary : Bytes} (h : r.Minted f) (stored : Sealed limits r summary x) :
    x.Minted f := by
  cases stored with
  | kept => exact h.congr rfl fun path m hm => ⟨m, hm, rfl⟩
  | @committed e context spec generation membershipGeneration =>
      have hready : ({ r with
          generation := generation
          membershipGeneration := membershipGeneration
          provenance := makeProvenance context spec.cause
            { r with generation := generation, membershipGeneration := membershipGeneration } } : SetRecord).Minted f :=
        h.congr rfl fun path m hm => ⟨m, hm, rfl⟩
      exact (hready.pruned e.limits).congr rfl fun path m hm => ⟨m, hm, rfl⟩

end SetRecord

theorem RecordEdit.minted {e : FabricEngine} {setId : MultipathSetId} {r x : SetRecord} {op : Op} {summary : Bytes}
    (edit : RecordEdit e setId r op x summary) (h : r.Minted e.ids) (lasts : e.ids.Lasts op.mints) :
    x.Minted (e.ids.skip op.mints) := by
  have hknown (plain : op.admissions = 0) (index : x.memberIndex = r.memberIndex) : x.Minted (e.ids.skip op.mints) := by
    refine (h.skip lasts).congr index fun path m' hm' => (edit.member hm').known ?_
    rw [plain]
    exact List.not_mem_nil
  cases edit with
  | collided | supersedes | supersedesRecorded => exact hknown rfl rfl
  | publish _ moved | minimumChecked _ _ moved | policyChecked _ _ moved | adminChecked _ _ moved
  | completeWithdrawal _ moved | minimumChanged _ _ moved | adminChanged _ _ moved | policyChanged _ _ moved
  | withdrewMember _ _ _ _ _ _ _ moved => exact hknown rfl (SetRecord.SameIds.transition moved).index
  | withdraw _ _ _ moved | retire _ _ _ moved | superseded _ _ _ moved | revoke _ _ _ _ _ moved =>
      exact hknown rfl ((SetRecord.SameIds.consequences _ _ _ _ _).index.trans (SetRecord.SameIds.transition moved).index)
  | toggled | revalidatedMember | begun | released | abandoned | completed | revalidatedSet => exact hknown rfl rfl
  | observed applied =>
      refine hknown ?_ rfl
      cases applied <;> rfl
  | invalidated applied =>
      refine hknown ?_ ?_
      · cases applied <;> rfl
      · unfold dependencyInvalidated
        dsimp only
        split <;> rfl
  | @added context _ requests _ y publication _ _ _ _ moved =>
      have hcount : op.mints = requests.length := by cases publication <;> rfl
      have hmoved : y.Minted e.ids := by
        refine h.congr (SetRecord.SameIds.transition moved).index fun path m hm => ?_
        rw [SetRecord.applyTransition_members moved] at hm
        exact ⟨m, hm, rfl⟩
      rw [hcount] at lasts ⊢
      exact (hmoved.published requests lasts).congr rfl fun path m hm => ⟨m, hm, rfl⟩
  | @removed _ memberId _ path m y _ found _ moved =>
      have hindex : y.memberIndex = r.memberIndex := (SetRecord.SameIds.transition moved).index
      have hmembers : y.members = r.members := SetRecord.applyTransition_members moved
      constructor
      · intro other m' hm'
        have hkept := (member_erase hm').2
        rw [hmembers] at hkept
        exact (h.skip lasts).members other m' hkept
      · intro other m' hm'
        obtain ⟨hother, hkept⟩ := member_erase hm'
        rw [hmembers] at hkept
        change (y.memberIndex.erase memberId)[m'.id]? = some other
        rw [getElem?_erase_eq, hindex, if_neg]
        · exact h.listed other m' hkept
        · rintro rfl
          have hsame := (h.listed other m' hkept).symm.trans found.1
          exact hother (Option.some.inj hsame).symm
  | @replaced context memberId request reason view path m y _ _ _ found _ _ _ _ moved =>
      have hindex : y.memberIndex = r.memberIndex := (SetRecord.SameIds.transition moved).index
      have hmembers : y.members = r.members := SetRecord.applyTransition_members moved
      have hput (successor : Option MultipathMemberId) :
          (y.withMember path { m.terminate .superseded with successor := successor }).Minted e.ids := by
        refine h.congr hindex fun other m' hm' => ?_
        rcases member_insert hm' with ⟨rfl, rfl⟩ | ⟨_, hkept⟩
        · exact ⟨m, found.2, rfl⟩
        · rw [hmembers] at hkept
          exact ⟨m', hkept, rfl⟩
      exact ((hput _).install lasts (SetRecord.newMember_id _ _ _ _ _ _ _)).congr rfl fun path m hm => ⟨m, hm, rfl⟩

namespace FabricEngine

variable {e : FabricEngine} {op : Op}

def Ahead (e : FabricEngine) : Prop :=
  ∀ (setId : MultipathSetId) (r : SetRecord), e.sets[setId]? = some r → ¬e.ids.Awaits .set setId.view ∧ r.Minted e.ids

/-- A step that mints within the counter, and loads no identity that the engine is still to mint. -/
structure MintsAhead (e : FabricEngine) (op : Op) : Prop where
  lasts : e.ids.Lasts op.mints
  loads : ∀ path files decoded fallback, op = .loadStore path files →
    readAndDecode path e.limits files = .ok (decoded, fallback) → decoded.epoch.next.isSome = true →
    decoded.authorityGeneration.next.isSome = true → ∀ r ∈ decoded.sets,
      ¬e.ids.Awaits .set r.id.view ∧
        ∀ (path : PathId) (m : MemberRecord), r.members[path]? = some m → ¬e.ids.Awaits .mem m.id.view

theorem Ahead.after (h : e.Ahead) (step : e.MintsAhead op) : (e.after op).Ahead := by
  rcases after_ids e op with hids | ⟨hids, hsets⟩
  · intro setId r' hr'
    have hlasts := step.lasts
    have hstep := e.after_sets op setId
    rw [hr'] at hstep
    generalize hentry : e.sets[setId]? = entry at hstep
    have hkept (r : SetRecord) (found : e.sets[setId]? = some r) :
        ¬(e.after op).ids.Awaits .set setId.view ∧ r.Minted (e.after op).ids := by
      obtain ⟨hset, hminted⟩ := h setId r found
      rw [hids]
      exact ⟨fun hawaits => hset (hawaits.of_skip hlasts), hminted.skip hlasts⟩
    cases hstep with
    | kept => exact hkept r' hentry
    | changed edit stored =>
        refine ⟨(hkept _ hentry).1, ?_⟩
        rw [hids]
        exact (edit.minted (h setId _ hentry).2 hlasts).sealed_ stored
    | created creates _ _ _ minted =>
        have hone : op.mints = 1 := by rw [creates]; rfl
        rw [hone] at hids hlasts
        rw [hids, ← minted]
        refine ⟨IdFactory.not_awaited hlasts (IdFactory.next_counter hlasts).le, ?_, ?_⟩
        all_goals
          intro path m hm
          cases (Std.ExtTreeMap.getElem?_empty.symm.trans hm : none = some m)
    | fenced | epochAdvanced =>
        obtain ⟨hset, hminted⟩ := hkept _ hentry
        exact ⟨hset, hminted.mapped rfl rfl fun _ => rfl⟩
    | @recovered path files decoded fallback loading r loads read stored named bounds epoch authority =>
        have hnone : op.mints = 0 := by rw [loads]; rfl
        rw [hnone] at hids
        obtain ⟨hset, hmembers⟩ := step.loads path files decoded fallback loads read (by rw [epoch]; rfl)
          (by rw [authority]; rfl) r stored
        have hindexed := ((readAndDecode_within read).each r stored).indexed
        have hloaded : r.Minted e.ids := ⟨hmembers, fun path m hm => (hindexed.placed path m hm).2⟩
        rw [hids, ← named]
        have hbumped : SetRecord.Minted e.ids { r with members := r.members.map fun _ m => m.bumpWatermark } :=
          hloaded.mapped rfl rfl fun _ => rfl
        exact ⟨hset, hbumped.mapped rfl rfl fun _ => rfl⟩
  · intro setId r' hr'
    rw [hsets] at hr'
    rw [hids]
    exact h setId r' hr'

theorem ahead_of_run {config : FabricConfig} (h : Run MintsAhead config e) : e.Ahead := by
  induction h with
  | init ids =>
      intro setId r hr
      rw [show (FabricEngine.init config ids).sets[setId]? = none from Std.ExtTreeMap.getElem?_empty] at hr
      cases hr
  | step _ op hstep ih => exact ih.after hstep

/-- What a step mints is new to the engine: an accepted creation adds one set, of the key that was asked for, under the
identity that it answers with, and no entry of an identity index is taken by another member. -/
structure Fresh (e : FabricEngine) (op : Op) : Prop where
  set : ∀ context key options, op = .createSet context key options → ∀ (setId : MultipathSetId) (r : SetRecord),
    e.sets[setId]? = some r → setId ≠ e.ids.nextSetId.1 ∧ r.id ≠ e.ids.nextSetId.1
  members : ∀ id ∈ e.ids.upcoming op.admissions, ∀ (setId : MultipathSetId) (r : SetRecord), e.sets[setId]? = some r →
    r.memberIndex[id]? = none ∧ ∀ (path : PathId) (m : MemberRecord), r.members[path]? = some m → m.id ≠ id
  distinct : (e.ids.upcoming op.admissions).Nodup
  creates : ∀ context key options q, op = .createSet context key options → e.Accepts op q → ∃ r,
    (e.exec op).2.setId = some r.id ∧ r.id = e.ids.nextSetId.1 ∧ r.key = key ∧ e.sets[r.id]? = none ∧
      (e.after op).sets = e.sets.insert r.id r
  indexed : op.loads = false → ∀ (setId : MultipathSetId) (r r' : SetRecord), e.sets[setId]? = some r →
    (e.after op).sets[setId]? = some r' → ∀ (id : MultipathMemberId) (path : PathId), r.memberIndex[id]? = some path →
      r'.memberIndex[id]? = some path ∨
        ∀ (place : PathId) (m' : MemberRecord), r'.members[place]? = some m' → m'.id ≠ id

theorem createSet_stores {context : MutationContext} {key : SetKey} {options : SetOptions} {q : Request}
    (accepted : e.Accepts (.createSet context key options) q) (free : e.sets[e.ids.nextSetId.1]? = none) :
    ∃ r, (e.exec (.createSet context key options)).2.setId = some r.id ∧ r.id = e.ids.nextSetId.1 ∧ r.key = key ∧
      e.sets[r.id]? = none ∧ (e.after (.createSet context key options)).sets = e.sets.insert r.id r := by
  obtain ⟨_, stored, outcome, _, _, hreported⟩ := exec_reported accepted rfl
  obtain ⟨hrequest, hsucceeded, hfresh⟩ := accepted
  have hanswer := exec_answer e hrequest
  have hsets : (e.after (.createSet context key options)).sets = (e.exec (.createSet context key options)).1.sets := rfl
  rw [hsets]
  generalize e.exec (.createSet context key options) = result at hanswer hsucceeded hfresh hreported ⊢
  cases hanswer with
  | refused rejects | left _ _ _ _ _ rejects =>
      rw [show _ = false from rejects] at hsucceeded
      cases hsucceeded
  | replayed known => exact absurd known.2 hfresh
  | answered _ named | committed _ named => cases named
  | superseded supersedes => cases supersedes
  | viewed _ _ applied => cases applied
  | created creates _ _ _ _ _ _ reports =>
      cases creates
      rcases reports with hsilent | ⟨hset, _⟩
      · dsimp only at hreported
        rw [hreported] at hsilent
        cases hsilent
      · have hdeclared : e.createdRecord q.context key options =
            e.appendHistory (e.declaredRecord q.context e.ids.nextSetId.1 key options) .declare .declared (some q.context)
              none none (text "declared set " ++ key.render ++ text " minimum=" ++
                decimal options.minimumUsableMembers.toNat) := by
          unfold createdRecord
          rw [free]
          rfl
        refine ⟨e.createdRecord q.context key options, hset, ?_, ?_, ?_, ?_⟩
        · rw [hdeclared]
          rfl
        · rw [hdeclared]
          rfl
        · rw [hdeclared]
          exact free
        · rw [hdeclared]
          change (captureSnapshot _ _).sets.insert _ _ = _
          rw [captureSnapshot_sets]
          rfl

/-- Where no step has loaded an identity that the engine was still to mint, whatever a step mints is new. -/
theorem fresh_of_run {config : FabricConfig} (run : Run (TakenUp MintsAhead) config e) (step : e.MintsAhead op) :
    e.Fresh op := by
  have h := run.takenUp
  have hahead := ahead_of_run h
  have hrun : Reachable config e := h.reachable
  have hlinked := linked_of_run hrun
  have hfree : op.mints = 1 → ∀ (setId : MultipathSetId) (r : SetRecord), e.sets[setId]? = some r →
      setId ≠ e.ids.nextSetId.1 := by
    rintro hone setId r hr rfl
    have hlasts := step.lasts
    rw [hone] at hlasts
    exact (hahead _ r hr).1 (IdFactory.next_awaited hlasts .set)
  have hadmits : e.ids.Lasts op.admissions := by
    have hlasts := step.lasts
    cases op with
    | createSet =>
        have hone : e.ids.Lasts 1 := hlasts
        unfold IdFactory.Lasts at hone ⊢
        change e.ids.counter.toNat + 0 < _
        omega
    | _ => exact hlasts
  have hmembers : ∀ id ∈ e.ids.upcoming op.admissions, ∀ (setId : MultipathSetId) (r : SetRecord),
      e.sets[setId]? = some r → ∀ (path : PathId) (m : MemberRecord), r.members[path]? = some m → m.id ≠ id := by
    rintro id hid setId r hr path m hm rfl
    exact (hahead setId r hr).2.members path m hm (IdFactory.upcoming_awaited hadmits hid)
  constructor
  · rintro context key options rfl setId r hr
    have hne := hfree rfl setId r hr
    refine ⟨hne, ?_⟩
    rw [hlinked.keyed setId r hr]
    exact hne
  · intro id hid setId r hr
    exact ⟨(hahead setId r hr).2.unindexed (found_of_run hrun setId r hr) (IdFactory.upcoming_awaited hadmits hid),
      hmembers id hid setId r hr⟩
  · exact IdFactory.upcoming_nodup hadmits
  · rintro context key options q rfl haccepted
    apply createSet_stores haccepted
    cases hfound : e.sets[e.ids.nextSetId.1]? with
    | none => rfl
    | some r => exact absurd rfl (hfree rfl _ r hfound)
  · intro hplain setId r r' hr hr' id path hindex
    obtain ⟨m, hm, rfl⟩ := found_of_run hrun setId r hr id path hindex
    by_cases hgone : ∃ (place : PathId) (m' : MemberRecord), r'.members[place]? = some m' ∧ m'.id = m.id
    · obtain ⟨place, m', hm', hid⟩ := hgone
      have hold : m'.id ∉ e.ids.upcoming op.admissions := by
        intro hnew
        exact hmembers _ hnew setId r hr path m hm hid.symm
      obtain ⟨r₀, m₀, hr₀, hm₀, hsame⟩ := step_known hplain hr' hm' hold
      rw [hr] at hr₀
      cases hr₀
      have hplace := (hahead setId r hr).2.place_unique hm hm₀ (hid.symm.trans hsame)
      have hlisted := ((hahead.after step) setId r' hr').2.listed place m' hm'
      rw [hid, ← hplace] at hlisted
      exact .inl hlisted
    · right
      intro place m' hm' hid
      exact hgone ⟨place, m', hm', hid⟩

theorem MintsAhead.admits (h : e.MintsAhead op) : e.ids.Lasts op.admissions := by
  have hlasts := h.lasts
  cases op with
  | createSet =>
      unfold IdFactory.Lasts at hlasts ⊢
      exact lt_of_le_of_lt (Nat.le_add_right _ 1) hlasts
  | _ => exact hlasts

theorem mintsAhead_of_plain (plain : op.loads = false) (lasts : e.ids.Lasts op.mints) : e.MintsAhead op := by
  refine ⟨lasts, ?_⟩
  rintro path files decoded fallback rfl
  cases plain

end FabricEngine

def createsOther (context : MutationContext) : Op := .createSet context (sampleKey "other") ⟨1, true, false⟩

theorem fresh_of_run_sample : (sampleRun (sampleSteps.take 2)).Fresh (createsOther (sampleContext "a9")) := by
  have hrun : Run (FabricEngine.TakenUp FabricEngine.MintsAhead) sampleConfig (sampleRun (sampleSteps.take 2)) := by
    refine .step (.step (.init sampleIds) _ fun _ => ?_) _ fun _ => ?_
    · apply FabricEngine.mintsAhead_of_plain rfl
      unfold IdFactory.Lasts
      decide +kernel
    · apply FabricEngine.mintsAhead_of_plain rfl
      unfold IdFactory.Lasts
      decide +kernel
  apply FabricEngine.fresh_of_run hrun
  apply FabricEngine.mintsAhead_of_plain rfl
  unfold IdFactory.Lasts
  decide +kernel

/-- An engine takes up the store of another engine of its process, whose one set has the identity that it mints next:
the set that it then creates is that one. -/
theorem fresh_of_run_fails : savedStore.target = (encodeStore (sampleRun sampleSteps)).toOption ∧
    Reachable sampleConfig (sampleRun (reloads savedStore)) ∧
    ((sampleRun (reloads savedStore)).exec (createsOther (reloadedContext "b1"))).2.code = .created ∧
    ((sampleRun (reloads savedStore)).after (createsOther (reloadedContext "b1"))).sets.size =
      (sampleRun (reloads savedStore)).sets.size ∧
    ¬(sampleRun (reloads savedStore)).Fresh (createsOther (reloadedContext "b1")) := by
  have hrun : ((sampleRun (reloads savedStore)).sets[sampleSet]?.isSome = true) ∧
      (sampleRun (reloads savedStore)).ids.nextSetId.1 = sampleSet ∧
      ((sampleRun (reloads savedStore)).exec (createsOther (reloadedContext "b1"))).2.code = .created ∧
      ((sampleRun (reloads savedStore)).after (createsOther (reloadedContext "b1"))).sets.size =
        (sampleRun (reloads savedStore)).sets.size := by
    decide +kernel
  obtain ⟨hfound, hminted, hcode, hsize⟩ := hrun
  refine ⟨by simp only [savedStore], sampleRun_reachable _, hcode, hsize, fun hfresh => ?_⟩
  obtain ⟨r, hr⟩ := Option.isSome_iff_exists.mp hfound
  exact (hfresh.set _ _ _ rfl sampleSet r hr).1 hminted.symm

end MultipathFabric
