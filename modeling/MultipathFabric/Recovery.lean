import MultipathFabric.AuthoritySpec
import MultipathFabric.StoredSets

namespace MultipathFabric

open OrderedMap

namespace FabricEngine

theorem installSet_keyIndex (e : FabricEngine) (r : SetRecord) :
    (e.installSet r).keyIndex = e.keyIndex.insert r.key r.id := by
  have hindex := indexPaths_keeps (e.recoveredSet r).id (e.recoveredSet r).members.keys
    { e.putSet (e.recoveredSet r).id (e.recoveredSet r) with
      keyIndex := e.keyIndex.insert (e.recoveredSet r).key (e.recoveredSet r).id }
  apply (captureSnapshot_keeps _ _).keyIndex.trans
  exact hindex.keyIndex

theorem installSets_cons (e : FabricEngine) (r : SetRecord) (rest : List SetRecord)
    (hkey : e.keyIndex[r.key]? = none) (hid : e.sets[r.id]? = none) :
    e.installSets (r :: rest) = (e.installSet r).installSets rest := by
  rw [installSets, hkey, hid]
  rfl

def Free (e : FabricEngine) (r : SetRecord) : Prop := e.keyIndex[r.key]? = none ∧ e.sets[r.id]? = none

theorem free_installSet {e : FabricEngine} {r other : SetRecord} :
    (e.installSet r).Free other ↔ e.Free other ∧ r.key ≠ other.key ∧ r.id ≠ other.id := by
  unfold Free
  rw [installSet_keyIndex, installSet_sets, getElem?_insert_eq, getElem?_insert_eq]
  constructor
  · rintro ⟨hkey, hid⟩
    split at hkey
    · cases hkey
    · split at hid
      · cases hid
      · rename_i hkeys hids
        exact ⟨⟨hkey, hid⟩, hkeys, hids⟩
  · rintro ⟨⟨hkey, hid⟩, hkeys, hids⟩
    rw [if_neg hkeys, if_neg hids]
    exact ⟨hkey, hid⟩

end FabricEngine

def DistinctSets (stored : List SetRecord) : Prop :=
  (stored.map SetRecord.key).Nodup ∧ (stored.map SetRecord.id).Nodup

theorem distinctSets_cons {r : SetRecord} {rest : List SetRecord} :
    DistinctSets (r :: rest) ↔ (∀ other ∈ rest, r.key ≠ other.key ∧ r.id ≠ other.id) ∧ DistinctSets rest := by
  simp only [DistinctSets, List.map_cons, List.nodup_cons, List.mem_map, not_exists, not_and]
  constructor
  · rintro ⟨⟨hkey, hkeys⟩, hid, hids⟩
    exact ⟨fun other hother => ⟨fun h => hkey other hother h.symm, fun h => hid other hother h.symm⟩, hkeys, hids⟩
  · rintro ⟨hdistinct, hkeys, hids⟩
    exact ⟨⟨fun other hother h => (hdistinct other hother).1 h.symm, hkeys⟩,
      fun other hother h => (hdistinct other hother).2 h.symm, hids⟩

namespace FabricEngine

theorem installSets_accepts {e : FabricEngine} {stored : List SetRecord} :
    (e.installSets stored).2 = none ↔ DistinctSets stored ∧ ∀ r ∈ stored, e.Free r := by
  induction stored generalizing e with
  | nil =>
      have hdistinct : DistinctSets [] := ⟨List.nodup_nil, List.nodup_nil⟩
      exact ⟨fun _ => ⟨hdistinct, fun r hr => (List.not_mem_nil hr).elim⟩, fun _ => rfl⟩
  | cons r rest ih =>
      by_cases hfree : e.Free r
      · rw [installSets_cons e r rest hfree.1 hfree.2, ih, distinctSets_cons, List.forall_mem_cons]
        constructor
        · rintro ⟨hdistinct, hrest⟩
          refine ⟨⟨fun other hother => ?_, hdistinct⟩, hfree, fun other hother => ?_⟩
          · exact (free_installSet.mp (hrest other hother)).2
          · exact (free_installSet.mp (hrest other hother)).1
        · rintro ⟨⟨hhead, hdistinct⟩, _, hrest⟩
          exact ⟨hdistinct, fun other hother => free_installSet.mpr ⟨hrest other hother, hhead other hother⟩⟩
      · constructor
        · intro h
          unfold installSets at h
          split at h
          · cases h
          · rename_i hkey
            split at h
            · cases h
            · rename_i hid
              rw [Option.not_isSome_iff_eq_none] at hkey hid
              exact absurd ⟨hkey, hid⟩ hfree
        · rintro ⟨_, hall⟩
          exact absurd (hall r List.mem_cons_self) hfree

theorem installSets_rejects {e : FabricEngine} {stored : List SetRecord} {outcome : FabricOutcome}
    (h : (e.installSets stored).2 = some outcome) : outcome.rejects = true := by
  induction stored generalizing e with
  | nil => cases h
  | cons r rest ih =>
      unfold installSets at h
      split at h
      · cases h
        rfl
      · split at h
        · cases h
          rfl
        · exact ih h

theorem clearedForLoad_free (e : FabricEngine) (fences : List FenceRecord) (epoch : CoordinatorEpoch)
    (authority : MultipathAuthorityGeneration) (r : SetRecord) :
    (e.clearedForLoad fences epoch authority).Free r :=
  ⟨Std.ExtTreeMap.getElem?_empty, Std.ExtTreeMap.getElem?_empty⟩

theorem installSets_cleared {e : FabricEngine} {fences : List FenceRecord} {epoch : CoordinatorEpoch}
    {authority : MultipathAuthorityGeneration} {stored : List SetRecord} :
    ((e.clearedForLoad fences epoch authority).installSets stored).2 = none ↔ DistinctSets stored := by
  rw [installSets_accepts]
  exact ⟨And.left, fun h => ⟨h, fun r _ => clearedForLoad_free e fences epoch authority r⟩⟩

theorem loadStore_installs {e : FabricEngine} {path : Bytes} {files : StoreFiles} {decoded : DecodedStore}
    {fallback : Bool} {epoch : CoordinatorEpoch} {authority : MultipathAuthorityGeneration}
    (hpath : path.isEmpty = false) (hread : readAndDecode path e.limits files = .ok (decoded, fallback))
    (hepoch : decoded.epoch.next = some epoch) (hauthority : decoded.authorityGeneration.next = some authority) :
    (e.loadStore path files).1 =
        ((e.clearedForLoad decoded.fences epoch authority).installSets decoded.sets).1 ∧
      ((e.loadStore path files).2.succeeded = true ↔ DistinctSets decoded.sets) := by
  have hload : e.loadStore path files = e.loadDecoded path decoded fallback := by
    rw [loadStore, if_neg (Bool.eq_false_iff.mp hpath), hread]
  rw [hload, loadDecoded, hepoch, hauthority, ← @installSets_cleared e decoded.fences epoch authority]
  cases hinstalled : ((e.clearedForLoad decoded.fences epoch authority).installSets decoded.sets).2 with
  | none =>
      simp only [Checked.present, conclude, bind, Except.bind, pure, Except.pure, hinstalled]
      exact ⟨trivial, iff_of_true rfl trivial⟩
  | some outcome =>
      have hrejects := (FabricOutcome.rejects_iff.mp (installSets_rejects hinstalled)).1
      simp only [Checked.present, conclude, bind, Except.bind, pure, Except.pure, hinstalled]
      refine ⟨trivial, fun h => ?_, fun h => ?_⟩
      · rw [hrejects] at h
        cases h
      · cases h

theorem installs_epoch (e : FabricEngine) (fences : List FenceRecord) (epoch : CoordinatorEpoch)
    (authority : MultipathAuthorityGeneration) (stored : List SetRecord) :
    ((e.clearedForLoad fences epoch authority).installSets stored).1.currentEpoch = epoch :=
  (installSets_stamp _ _).epoch

end FabricEngine

section

open Checked

theorem decodeStore_refuses (limits : Limits) (file : Bytes) : Refuses (fun _ => False) (decodeStore limits file) := by
  refine .bind ?_ fun payload _ => .bind ?_ ?_
  · refine .bind (.require rfl) fun _ _ => .bind (.require rfl) fun _ _ => .bind (.present rfl) ?_
    rintro ⟨_, _, _⟩ _
    exact .bind (.require rfl) fun _ _ => .bind (.require rfl) fun _ _ => .bind (.require rfl) fun _ _ =>
      .bind (.require rfl) fun _ _ => .bind (.require rfl) fun _ _ => .bind (.present rfl) fun _ _ =>
      .bind (.require rfl) fun _ _ => .pure _
  · intro outcome h
    exact .inl (decodePayload_rejects limits payload outcome h)
  · rintro ⟨_, _⟩ _
    exact .bind (.require rfl) fun _ _ => .pure _

theorem readAndDecode_rejects {path : Bytes} {limits : Limits} {files : StoreFiles} {outcome : FabricOutcome}
    (h : readAndDecode path limits files = .error outcome) : outcome.rejects = true := by
  unfold readAndDecode at h
  split at h
  · cases h
  · rename_i primary hprimary
    split at h
    · cases h
    · cases h
      have hrefuses : Refuses (fun _ => False) (readFile path files.target >>= decodeStore limits) :=
        .bind (.present rfl) fun file _ => decodeStore_refuses limits file
      exact (hrefuses _ hprimary).resolve_right fun h => h

end

namespace FabricEngine

theorem loadStore_recovers {e : FabricEngine} {path : Bytes} {files : StoreFiles}
    (accepted : (e.loadStore path files).2.succeeded = true) :
    ∃ decoded fallback epoch authority, readAndDecode path e.limits files = .ok (decoded, fallback) ∧
      decoded.epoch.next = some epoch ∧ decoded.authorityGeneration.next = some authority ∧
      DistinctSets decoded.sets ∧
      (e.loadStore path files).1 =
        ((e.clearedForLoad decoded.fences epoch authority).installSets decoded.sets).1 := by
  by_cases hpath : path.isEmpty = true
  · rw [loadStore, if_pos hpath] at accepted
    cases accepted
  · rw [Bool.not_eq_true] at hpath
    cases hread : readAndDecode path e.limits files with
    | error outcome =>
        rw [loadStore, if_neg (Bool.eq_false_iff.mp hpath), hread] at accepted
        rw [(FabricOutcome.rejects_iff.mp (readAndDecode_rejects hread)).1] at accepted
        cases accepted
    | ok read =>
        obtain ⟨decoded, fallback⟩ := read
        cases hepoch : decoded.epoch.next with
        | none =>
            rw [loadStore, if_neg (Bool.eq_false_iff.mp hpath), hread] at accepted
            simp only [loadDecoded, hepoch] at accepted
            cases accepted
        | some epoch =>
            cases hauthority : decoded.authorityGeneration.next with
            | none =>
                rw [loadStore, if_neg (Bool.eq_false_iff.mp hpath), hread] at accepted
                simp only [loadDecoded, hepoch, hauthority] at accepted
                cases accepted
            | some authority =>
                obtain ⟨hinstalled, haccepted⟩ := loadStore_installs hpath hread hepoch hauthority
                exact ⟨decoded, fallback, epoch, authority, rfl, hepoch, hauthority, haccepted.mp accepted, hinstalled⟩

theorem installSets_whole {e : FabricEngine} {stored : List SetRecord} (h : (e.installSets stored).2 = none) :
    (∀ r ∈ stored, (e.installSets stored).1.sets[r.id]? = some (e.recoveredSet r)) ∧
      ∀ setId, setId ∉ stored.map SetRecord.id → (e.installSets stored).1.sets[setId]? = e.sets[setId]? := by
  induction stored generalizing e with
  | nil => exact ⟨fun r hr => absurd hr List.not_mem_nil, fun _ _ => rfl⟩
  | cons s rest ih =>
      obtain ⟨hdistinct, hfree⟩ := installSets_accepts.mp h
      obtain ⟨hkey, hid⟩ := hfree s List.mem_cons_self
      have hnotin : s.id ∉ rest.map SetRecord.id := by
        intro hmem
        obtain ⟨other, hother, heq⟩ := List.mem_map.mp hmem
        exact ((distinctSets_cons.mp hdistinct).1 other hother).2 heq.symm
      rw [installSets_cons e s rest hkey hid] at h ⊢
      obtain ⟨hrest, hothers⟩ := ih h
      constructor
      · intro r hr
        rcases List.mem_cons.mp hr with rfl | hr
        · rw [hothers r.id hnotin, installSet_sets, getElem?_insert_eq, if_pos rfl]
        · rw [hrest r hr, recoveredSet_congr (e.installSet_stamp s)]
      · intro setId hnot
        rw [List.map_cons, List.mem_cons, not_or] at hnot
        rw [hothers setId hnot.2, installSet_sets, getElem?_insert_eq, if_neg fun heq => hnot.1 heq.symm]

end FabricEngine

theorem Run.limits {allowed : FabricEngine → Op → Prop} {config : FabricConfig} {e : FabricEngine}
    (h : Run allowed config e) : e.limits = config.limits := by
  induction h with
  | init ids => rfl
  | step run op _ ih =>
      rw [FabricEngine.after_limits]
      exact ih

/-- A load of these files either is refused before the live state is cleared or runs to its end. -/
def LoadsWhole (limits : Limits) (path : Bytes) (files : StoreFiles) : Prop :=
  path.isEmpty = true ∨ ∀ decoded fallback, readAndDecode path limits files = .ok (decoded, fallback) →
    decoded.epoch.next.isSome = true → decoded.authorityGeneration.next.isSome = true → DistinctSets decoded.sets

namespace FabricEngine

theorem loadStore_whole {e : FabricEngine} {path : Bytes} {files : StoreFiles}
    (hwhole : LoadsWhole e.limits path files) (hrejected : (e.loadStore path files).2.succeeded = false) :
    (e.loadStore path files).1 = e := by
  by_cases hpath : path.isEmpty = true
  · rw [loadStore, if_pos hpath]
  · have hsets := hwhole.resolve_left hpath
    rcases loadStore_cases e path files with hsame | ⟨decoded, fallback, epoch, authority, hread, hepoch, hauthority, _⟩
    · exact hsame
    · have hdistinct := hsets decoded fallback hread (by rw [hepoch]; rfl) (by rw [hauthority]; rfl)
      obtain ⟨_, haccepts⟩ := loadStore_installs (Bool.eq_false_iff.mpr hpath) hread hepoch hauthority
      rw [haccepts.mpr hdistinct] at hrejected
      cases hrejected

theorem exists_other_epoch (epoch : CoordinatorEpoch) :
    ∃ other : CoordinatorEpoch, other.valid = true ∧ other ≠ epoch := by
  by_cases h : epoch = .first
  · refine ⟨⟨2⟩, rfl, ?_⟩
    rw [h]
    decide
  · exact ⟨.first, rfl, fun heq => h heq.symm⟩

/-- Loads of these files are all or nothing, whatever state they find, exactly when they are whole. -/
theorem loadStore_atomic_iff (limits : Limits) (path : Bytes) (files : StoreFiles) :
    (∀ (config : FabricConfig) (e : FabricEngine), config.limits = limits → Reachable config e →
      (e.loadStore path files).2.succeeded = false → (e.loadStore path files).1 = e) ↔
      LoadsWhole limits path files := by
  constructor
  · intro hatomic
    by_cases hpath : path.isEmpty = true
    · exact .inl hpath
    · refine .inr fun decoded fallback hread hepoch hauthority => ?_
      obtain ⟨epoch, hepoch⟩ := Option.isSome_iff_exists.mp hepoch
      obtain ⟨authority, hauthority⟩ := Option.isSome_iff_exists.mp hauthority
      obtain ⟨other, hvalid, hother⟩ := exists_other_epoch epoch
      obtain ⟨e, he⟩ : ∃ e, e = init ⟨limits, other, .first⟩ sampleIds := ⟨_, rfl⟩
      have hlimits : e.limits = limits := by rw [he]; rfl
      obtain ⟨hengine, haccepts⟩ := loadStore_installs (Bool.eq_false_iff.mpr hpath) (hlimits ▸ hread) hepoch hauthority
      apply haccepts.mp
      by_contra hrejected
      have hsame := hatomic ⟨limits, other, .first⟩ e rfl (he ▸ .init sampleIds) (Bool.eq_false_iff.mpr hrejected)
      have hcurrent : e.currentEpoch = other := by
        rw [he]
        exact if_pos hvalid
      rw [hengine] at hsame
      apply hother
      rw [← hcurrent, ← installs_epoch e decoded.fences epoch authority decoded.sets, hsame]
  · rintro hwhole config e rfl hrun
    rw [← Run.limits hrun] at hwhole
    exact loadStore_whole hwhole

def ambiguousStore : StoreFiles where
  target :=
    let created := sampleRun
      [.registerPublisher (sampleId "pub") (sampleId "boot") sampleScope (sampleId "sess"),
        .createSet (sampleContext "a1") (sampleKey "set") ⟨1, true, false⟩,
        .createSet (sampleContext "a2") (sampleKey "other") ⟨1, true, false⟩]
    (encodeStore { created with
      sets := created.sets.map fun _ (r : SetRecord) => { r with key := sampleKey "set" } }).toOption
  temporary := none
  backup := none

/-- A fresh fabric that refuses such a store has taken its epoch and its first set. -/
theorem loadStore_atomic_fails : ¬∀ (config : FabricConfig) (e : FabricEngine) (path : Bytes) (files : StoreFiles),
    Reachable config e → (e.loadStore path files).2.succeeded = false → (e.loadStore path files).1 = e := by
  intro h
  have hsame := h sampleConfig (init sampleConfig sampleIds) (text "store") ambiguousStore (.init sampleIds)
    (by decide +kernel)
  have hepoch := congrArg currentEpoch hsame
  exact absurd hepoch (by decide +kernel)

end FabricEngine

end MultipathFabric
