import MultipathFabric.Fencing
import MultipathFabric.StoreRoundTrip

namespace MultipathFabric

open OrderedMap

namespace FabricEngine

/-- A load that has turned nothing back: not the counters of the engine or of the store, and no fence of either. -/
structure Forward (e : FabricEngine) (decoded : DecodedStore) (e' : FabricEngine) : Prop where
  epoch : e.currentEpoch.value < e'.currentEpoch.value
  storedEpoch : decoded.epoch.value < e'.currentEpoch.value
  authority : e.currentAuthorityGeneration.value < e'.currentAuthorityGeneration.value
  storedAuthority : decoded.authorityGeneration.value < e'.currentAuthorityGeneration.value
  fences : ∀ worker : WorkerKey, e.fences[worker]?.isSome = true → e'.fences[worker]?.isSome = true
  storedFences : ∀ f ∈ decoded.fences, e'.fences[(⟨f.publisher, f.workerBoot⟩ : WorkerKey)]?.isSome = true

/-- The store is at least as far as the live engine, and holds all of its fences. -/
structure Overtaken (e : FabricEngine) (decoded : DecodedStore) : Prop where
  epoch : e.currentEpoch.value ≤ decoded.epoch.value
  authority : e.currentAuthorityGeneration.value ≤ decoded.authorityGeneration.value
  fences : ∀ worker : WorkerKey, e.fences[worker]?.isSome = true →
    ∃ f ∈ decoded.fences, (⟨f.publisher, f.workerBoot⟩ : WorkerKey) = worker

theorem lt_next {d : GenerationDomain} {stored next : Generation d} (h : stored.next = some next) (live : Generation d) :
    live.value < next.value ↔ live.value ≤ stored.value := by
  have hnext := Generation.toNat_of_next h
  rw [UInt64.lt_iff_toNat_lt, UInt64.le_iff_toNat_le]
  omega

theorem loaded_fences {e : FabricEngine} {fences : List FenceRecord} {epoch : CoordinatorEpoch}
    {authority : MultipathAuthorityGeneration} {stored : List SetRecord} {worker : WorkerKey} :
    ((e.clearedForLoad fences epoch authority).installSets stored).1.fences[worker]?.isSome = true ↔
      ∃ f ∈ fences, (⟨f.publisher, f.workerBoot⟩ : WorkerKey) = worker := by
  constructor
  · intro h
    obtain ⟨found, hfound⟩ := Option.isSome_iff_exists.mp h
    rw [(installSets_gates _ _).1] at hfound
    have hinserted : (insertAll (fun f : FenceRecord => (⟨f.publisher, f.workerBoot⟩ : WorkerKey))
        (fun f => { f with epoch := epoch }) fences ∅)[worker]? = some found := hfound
    rcases getElem?_insertAll hinserted with ⟨f, hf, hkey, _⟩ | hnone
    · exact ⟨f, hf, hkey⟩
    · rw [Std.ExtTreeMap.getElem?_empty] at hnone
      cases hnone
  · rintro ⟨f, hf, rfl⟩
    exact loaded_fenced hf

/-- A load turns nothing back exactly when the store has overtaken the live engine. -/
theorem load_forward_iff {e : FabricEngine} {path : Bytes} {files : StoreFiles} {decoded : DecodedStore} {fallback : Bool}
    (read : readAndDecode path e.limits files = .ok (decoded, fallback))
    (accepted : (e.exec (.loadStore path files)).2.succeeded = true) :
    e.Forward decoded (e.after (.loadStore path files)) ↔ e.Overtaken decoded := by
  obtain ⟨epoch, authority, hepoch, hauthority, hloaded⟩ := loadStore_accepted read accepted
  have hafter : e.after (.loadStore path files) =
      ((e.clearedForLoad decoded.fences epoch authority).installSets decoded.sets).1 := hloaded
  have hstamp := installSets_stamp (e.clearedForLoad decoded.fences epoch authority) decoded.sets
  have hnewEpoch : (e.after (.loadStore path files)).currentEpoch = epoch := by
    rw [hafter]
    exact hstamp.epoch
  have hnewAuthority : (e.after (.loadStore path files)).currentAuthorityGeneration = authority := by
    rw [hafter]
    exact hstamp.authority
  constructor
  · intro h
    constructor
    · rw [← lt_next hepoch, ← hnewEpoch]
      exact h.epoch
    · rw [← lt_next hauthority, ← hnewAuthority]
      exact h.authority
    · intro worker hworker
      have hkept := h.fences worker hworker
      rw [hafter] at hkept
      exact loaded_fences.mp hkept
  · intro h
    constructor
    · rw [hnewEpoch, lt_next hepoch]
      exact h.epoch
    · rw [hnewEpoch, lt_next hepoch]
      exact UInt64.le_refl _
    · rw [hnewAuthority, lt_next hauthority]
      exact h.authority
    · rw [hnewAuthority, lt_next hauthority]
      exact UInt64.le_refl _
    · intro worker hworker
      rw [hafter]
      exact loaded_fences.mpr (h.fences worker hworker)
    · intro f hf
      rw [hafter]
      exact loaded_fences.mpr ⟨f, hf, rfl⟩

theorem Gated.overtaken {e : FabricEngine} (h : e.Gated) : e.Overtaken e.stored := by
  refine ⟨UInt64.le_refl _, UInt64.le_refl _, fun worker hworker => ?_⟩
  obtain ⟨f, hf⟩ := Option.isSome_iff_exists.mp hworker
  refine ⟨f, List.mem_map.mpr ⟨(worker, f), ?_, rfl⟩, h.keyed worker f hf⟩
  exact Std.ExtTreeMap.mem_toList_iff_getElem?_eq_some.mpr hf

theorem load_forward_iff_saved : ∃ bytes, encodeStore (fencedRun 1) = .ok bytes ∧
    (fencedRun 1).Forward (fencedRun 1).stored ((fencedRun 1).after (.loadStore (text "store") ⟨some bytes, none, none⟩)) := by
  have hreachable : Reachable fencedConfig (fencedRun 1) := Reachable.afterAll (.init sampleIds) (fenceSteps 1)
  have hempty : (fencedRun 1).sets.isEmpty = true := by decide +kernel
  have hfences : (fencedRun 1).fences.size = 1 := by decide +kernel
  have hread : ((encodeStore (fencedRun 1)).toOption.map fun bytes =>
      ((decodeStore (fencedRun 1).limits bytes).isOk,
        ((fencedRun 1).exec (.loadStore (text "store") ⟨some bytes, none, none⟩)).2.succeeded)) = some (true, true) := by
    decide +kernel
  cases hsaved : encodeStore (fencedRun 1) with
  | error rejection =>
      rw [hsaved] at hread
      cases hread
  | ok bytes =>
      rw [hsaved] at hread
      obtain ⟨hok, haccepted⟩ := Prod.mk.inj (Option.some.inj hread)
      have hnone : ∀ (setId : MultipathSetId) (r : SetRecord), (fencedRun 1).sets[setId]? ≠ some r := by
        intro setId r hr
        rw [Std.ExtTreeMap.isEmpty_iff.mp hempty, Std.ExtTreeMap.getElem?_empty] at hr
        cases hr
      have hplaced : (fencedRun 1).Placed := fun setId r hr => absurd hr (hnone setId r)
      have hstorable : (fencedRun 1).Storable := by
        refine ⟨by rw [hfences]; decide, ?_, fun setId r hr => absurd hr (hnone setId r)⟩
        rw [Std.ExtTreeMap.isEmpty_iff.mp hempty, Std.ExtTreeMap.size_empty]
        decide
      cases hdecoded : decodeStore (fencedRun 1).limits bytes with
      | error failure =>
          rw [hdecoded] at hok
          cases hok
      | ok decoded =>
          have hstored := decodeStore_saved hplaced hstorable hsaved hdecoded
          have htarget : readAndDecode (text "store") (fencedRun 1).limits ⟨some bytes, none, none⟩ = .ok (decoded, false) :=
            readAndDecode_target rfl hdecoded
          rw [hstored] at htarget
          exact ⟨bytes, rfl, (load_forward_iff htarget haccepted).mpr (gated_of_run hreachable).overtaken⟩

/-- An engine that takes up a store it saved one fence ago has the fence and the authority generation turned back. -/
theorem load_forward_fails : ¬∀ config e path files decoded fallback, Reachable config e →
    readAndDecode path e.limits files = .ok (decoded, fallback) → (e.exec (.loadStore path files)).2.succeeded = true →
      e.Forward decoded (e.after (.loadStore path files)) := by
  intro h
  have hreachable : Reachable fencedConfig (fencedRun 2) := Reachable.afterAll (.init sampleIds) (fenceSteps 2)
  have hfenced : (fencedRun 2).fences[(⟨sampleId "pub", sampleId "boot1"⟩ : WorkerKey)]?.isSome = true := by
    decide +kernel
  have hread : ((encodeStore (fencedRun 1)).toOption.map fun bytes =>
      ((readAndDecode (text "store") (fencedRun 2).limits ⟨some bytes, none, none⟩).isOk,
        ((fencedRun 2).exec (.loadStore (text "store") ⟨some bytes, none, none⟩)).2.succeeded,
        ((fencedRun 2).after (.loadStore (text "store") ⟨some bytes, none, none⟩)).fences[
          (⟨sampleId "pub", sampleId "boot1"⟩ : WorkerKey)]?.isSome)) = some (true, true, false) := by
    decide +kernel
  obtain ⟨bytes, _, hbytes⟩ := Option.map_eq_some_iff.mp hread
  simp only [Prod.mk.injEq] at hbytes
  obtain ⟨hok, haccepted, hlost⟩ := hbytes
  cases hresult : readAndDecode (text "store") (fencedRun 2).limits ⟨some bytes, none, none⟩ with
  | error failure =>
      rw [hresult] at hok
      cases hok
  | ok read =>
      have hforward := h fencedConfig (fencedRun 2) (text "store") ⟨some bytes, none, none⟩ read.1 read.2 hreachable
        hresult haccepted
      have hkept := hforward.fences _ hfenced
      rw [hlost] at hkept
      cases hkept

end FabricEngine

end MultipathFabric
