import MultipathFabric.Answer
import MultipathFabric.Persistence

namespace MultipathFabric

open ByteCodec

theorem fromValue_value {d : GenerationDomain} {g g' : Generation d} (h : Generation.fromValue g.value = some g') :
    g' = g := by
  unfold Generation.fromValue at h
  split at h
  · cases h
  · exact (Option.some.inj h).symm

theorem decodeFence_returns {f : FenceRecord} (h : (storedFenceFields f).all Field.fits = true) :
    Decoder.Returns decodeFence (encode (storedFenceFields f)) f := by
  simp only [storedFenceFields, List.all_cons, List.all_nil, Bool.and_true, Bool.and_eq_true] at h
  obtain ⟨hpublisher, hboot, _, hcause⟩ := h
  have hread : Reader.Takes (do
      let publisher ← Reader.string maxIdLength
      let boot ← Reader.string maxIdLength
      let epoch ← Reader.u64
      let cause ← Reader.string maxShortText
      pure (publisher, boot, epoch, cause))
      (encode (storedFenceFields f)) (f.publisher.view, f.workerBoot.view, f.epoch.value, f.cause) :=
    .field (Reader.string_takes hpublisher le_rfl) (.field (Reader.string_takes hboot le_rfl)
      (.field (Reader.u64_takes f.epoch.value) (.field (Reader.string_takes hcause le_rfl) (.pure _))))
  unfold decodeFence
  refine (Decoder.group_takes hread).returns.last ?_
  intro rest result hresult
  have hparse : ∀ {d : IdDomain} (a b : StrongId d), StrongId.parse a.view = some b → b = a := by
    intro d a b hab
    exact StrongId.ext (StrongId.view_of_parse hab)
  have hepoch : ∀ g : CoordinatorEpoch, Generation.fromValue f.epoch.value = some g → g = f.epoch :=
    fun g hg => fromValue_value hg
  have h1 := (Decoder.present_returns (hparse f.publisher)).run_silent hresult
  have h2 := (Decoder.present_returns (hparse f.workerBoot)).run_silent h1
  have h3 := (Decoder.present_returns hepoch).run_silent h2
  exact (Except.ok.inj h3).symm

theorem storeHeader_length (n : ℕ) : (storeHeader n).length = storeHeaderSize := by
  simp only [storeHeader, List.length_append, encode_cons, encode_nil, Field.bytes, littleEndian_length, List.length_nil]
  rfl

theorem unframeStore_storeFile {limits : Limits} {body payload : Bytes} (bound : body.length < 2 ^ 64)
    (h : unframeStore limits (storeFile body) = .ok payload) : payload = body := by
  have hmagic : storeMagic.length = 8 := rfl
  have hdrop : (storeFile body).drop 8 =
      encode [.u32 persistenceFormatVersion, .u32 0, .u64 (UInt64.ofNat body.length)] ++
        (body ++ encode [.u64 (encodeChecksum (storeHeader body.length ++ body))]) := by
    unfold storeFile storeHeader
    dsimp only
    rw [List.append_assoc, List.append_assoc, List.drop_append_of_le_length (by rw [hmagic]), ← hmagic, List.drop_length,
      List.nil_append]
  have htake : ((storeFile body).drop 8).take 16 =
      encode [.u32 persistenceFormatVersion, .u32 0, .u64 (UInt64.ofNat body.length)] := by
    rw [hdrop]
    apply List.take_left'
    simp only [encode_cons, encode_nil, Field.bytes, List.length_append, littleEndian_length, List.length_nil]
  have hread : Reader.Takes (do
      let format ← Reader.u32
      let reserved ← Reader.u32
      let payloadLength ← Reader.u64
      pure (format, reserved, payloadLength))
      (encode [.u32 persistenceFormatVersion, .u32 0, .u64 (UInt64.ofNat body.length)])
      (persistenceFormatVersion, 0, UInt64.ofNat body.length) :=
    .field (Reader.u32_takes _) (.field (Reader.u32_takes _) (.field (Reader.u64_takes _) (.pure _)))
  have hheader := hread []
  rw [List.append_nil] at hheader
  have hlength : (UInt64.ofNat body.length).toNat = body.length := UInt64.toNat_ofNat_of_lt bound
  unfold unframeStore at h
  simp only [Checked.bind_ok, Checked.require_ok, Checked.present_ok, htake, hheader, Option.map_some, Option.some.injEq] at h
  obtain ⟨_, _, _, _, fields, hfields, h⟩ := h
  subst hfields
  simp only [Checked.pure_ok] at h
  obtain ⟨_, _, _, _, _, _, _, _, _, _, _, _, _, _, h⟩ := h
  rw [← h, hlength, ← storeHeader_length body.length]
  unfold storeFile
  dsimp only
  rw [← List.length_append, List.take_left, List.drop_left]

theorem decodePayload_fences {limits : Limits} {e : FabricEngine} {decoded : DecodedStore} {rest : Bytes}
    (fits : (storeFields e).all Field.fits = true) (small : e.fences.size < 2 ^ 32)
    (h : decodePayload limits (encode (storeFields e)) = .ok (decoded, rest)) :
    decoded.fences = storedFences e ∧
      (UInt32.ofNat e.fences.size).toUInt64 ≤ limits.maxPublishers * 64 + 64 ∧ decoded.epoch = e.currentEpoch := by
  have hcount : (UInt32.ofNat e.fences.size).toNat = (storedFences e).length := by
    rw [UInt32.toNat_ofNat', Nat.mod_eq_of_lt small, storedFences, List.length_map, Std.ExtTreeMap.length_toList]
  simp only [storeFields, List.all_append, List.all_flatMap, Bool.and_eq_true, List.all_eq_true] at fits
  obtain ⟨_, hfences, _⟩ := fits
  have hread : Reader.Takes (do
      let version ← Reader.u32
      let epoch ← Reader.u64
      let authority ← Reader.u64
      let fenceCount ← Reader.u32
      let setCount ← Reader.u32
      pure (version, epoch, authority, fenceCount, setCount))
      (encode (storeHead e)) (persistenceFormatVersion, e.currentEpoch.value, e.currentAuthorityGeneration.value,
        UInt32.ofNat e.fences.size, UInt32.ofNat e.sets.size) :=
    .field (Reader.u32_takes _) (.field (Reader.u64_takes _) (.field (Reader.u64_takes _)
      (.field (Reader.u32_takes _) (.field (Reader.u32_takes _) (.pure _)))))
  have htimes : Decoder.Returns (Decoder.times decodeFence (UInt32.ofNat e.fences.size).toNat)
      ((storedFences e).flatMap fun f => encode (storedFenceFields f)) (storedFences e) := by
    rw [hcount]
    apply Decoder.times_returns
    intro f hf
    apply decodeFence_returns
    rw [List.all_eq_true]
    exact fun field hfield => hfences f hf field hfield
  unfold decodePayload at h
  rw [storeFields, encode_append, encode_append] at h
  have hepoch : ∀ g : CoordinatorEpoch, Generation.fromValue e.currentEpoch.value = some g → g = e.currentEpoch :=
    fun g hg => fromValue_value hg
  have h1 := (Decoder.group_takes hread).returns.run h
  have h2 := Decoder.check_returns.run_silent h1
  have h3 := (Decoder.present_returns hepoch).run_silent h2
  have h4 := (Decoder.present_returns fun g hg => fromValue_value hg).run_silent h3
  have h5 := Decoder.check_returns.run_silent h4
  obtain ⟨hbound, h6⟩ := Decoder.check_run h5
  rw [decide_eq_true_eq] at hbound
  have hflat : encode ((storedFences e).flatMap storedFenceFields) =
      (storedFences e).flatMap fun f => encode (storedFenceFields f) := by
    unfold encode
    rw [List.flatMap_assoc]
  rw [hflat] at h6
  have h7 := htimes.run h6
  change (decodeSets limits _ 0 _).bind (fun read => Except.ok (DecodedStore.mk _ _ _ read.1, read.2)) = _ at h7
  cases hsets : decodeSets limits (UInt32.ofNat e.sets.size).toNat 0 (encode ((storedSets e).flatMap storedSetFields)) with
  | error failure =>
      rw [hsets] at h7
      cases h7
  | ok read =>
      rw [hsets] at h7
      cases h7
      exact ⟨rfl, hbound, rfl⟩

theorem encodeStore_saved {e : FabricEngine} {bytes : Bytes} (saved : encodeStore e = .ok bytes) :
    bytes = storeFile (encode (storeFields e)) ∧ (storeFields e).all Field.fits = true ∧
      (encode (storeFields e)).length < 2 ^ 64 := by
  unfold encodeStore at saved
  simp only [Checked.bind_ok, Checked.require_ok, Checked.pure_ok, decide_eq_true_eq] at saved
  obtain ⟨_, hok, _, hlength, _, _, rfl⟩ := saved
  have hbuffer := ByteWriter.start_buffer hok
  rw [hbuffer] at hlength ⊢
  refine ⟨rfl, ((ByteWriter.start_ok _ _).mp hok).1, ?_⟩
  exact Nat.lt_of_le_of_lt hlength e.limits.maxPersistenceRecordBytes.toNat_lt

theorem encodeStore_fences {e : FabricEngine} {bytes : Bytes} (saved : encodeStore e = .ok bytes) :
    e.fences.size ≤ e.limits.maxPersistenceRecordBytes.toNat := by
  unfold encodeStore at saved
  simp only [Checked.bind_ok, Checked.require_ok, Checked.pure_ok, decide_eq_true_eq] at saved
  obtain ⟨_, hok, _, hlength, _⟩ := saved
  rw [ByteWriter.start_buffer hok] at hlength
  have hcount : (storedFences e).length = e.fences.size := by
    rw [storedFences, List.length_map, Std.ExtTreeMap.length_toList]
  have hfields : (storedFences e).length ≤ ((storedFences e).flatMap storedFenceFields).length := by
    generalize storedFences e = fences
    induction fences with
    | nil => exact Nat.le_refl _
    | cons f rest ih =>
        rw [List.flatMap_cons, List.length_append, List.length_cons]
        have hfence : (storedFenceFields f).length = 4 := rfl
        omega
  have hwhole := length_le_encode (storeFields e)
  simp only [storeFields, List.length_append] at hwhole
  unfold storeFields at hlength
  omega

theorem decodeStore_storeFile {limits : Limits} {body : Bytes} {decoded : DecodedStore} (bound : body.length < 2 ^ 64)
    (read : decodeStore limits (storeFile body) = .ok decoded) : ∃ rest, decodePayload limits body = .ok (decoded, rest) := by
  unfold decodeStore at read
  simp only [Checked.bind_ok, Checked.pure_ok] at read
  obtain ⟨payload, hpayload, ⟨found, rest⟩, hdecode, _, _, rfl⟩ := read
  rw [unframeStore_storeFile bound hpayload] at hdecode
  exact ⟨rest, hdecode⟩

theorem decodeStore_fences {limits : Limits} {e : FabricEngine} {bytes : Bytes} {decoded : DecodedStore}
    (saved : encodeStore e = .ok bytes) (small : e.fences.size < 2 ^ 32) (read : decodeStore limits bytes = .ok decoded) :
    decoded.fences = storedFences e ∧
      (UInt32.ofNat e.fences.size).toUInt64 ≤ limits.maxPublishers * 64 + 64 ∧ decoded.epoch = e.currentEpoch := by
  obtain ⟨rfl, hfits, hbound⟩ := encodeStore_saved saved
  obtain ⟨_, hdecode⟩ := decodeStore_storeFile hbound read
  exact decodePayload_fences hfits small hdecode

theorem encodeStore_ok {e : FabricEngine} (fits : (storeFields e).all Field.fits = true)
    (record : (encode (storeFields e)).length ≤ e.limits.maxPersistenceRecordBytes.toNat)
    (whole : storeHeaderSize + (encode (storeFields e)).length + 8 ≤ e.limits.maxStoreBytes.toNat) :
    encodeStore e = .ok (storeFile (encode (storeFields e))) := by
  have hok := (ByteWriter.start_ok e.limits.maxPersistenceRecordBytes.toNat (storeFields e)).mpr ⟨fits, record⟩
  unfold encodeStore
  simp only [ByteWriter.start_buffer hok, hok, record, whole, decide_true, Checked.require_true, Checked.ok_bind]
  rfl

theorem readAndDecode_target {path bytes : Bytes} {limits : Limits} {files : StoreFiles} {decoded : DecodedStore}
    (target : files.target = some bytes) (read : decodeStore limits bytes = .ok decoded) :
    readAndDecode path limits files = .ok (decoded, false) := by
  have hprimary : (readFile path files.target >>= decodeStore limits) = .ok decoded := by
    rw [target]
    exact read
  unfold readAndDecode
  rw [hprimary]

theorem readAndDecode_backup {path bytes backup : Bytes} {limits : Limits} {files : StoreFiles} {decoded : DecodedStore}
    {rejection : FabricOutcome} (target : files.target = some bytes) (refused : decodeStore limits bytes = .error rejection)
    (rotated : files.backup = some backup) (read : decodeStore limits backup = .ok decoded) :
    readAndDecode path limits files = .ok (decoded, true) := by
  have hprimary : (readFile path files.target >>= decodeStore limits) = .error rejection := by
    rw [target]
    exact refused
  have hbackup : (readFile (path ++ text ".bak") files.backup >>= decodeStore limits) = .ok decoded := by
    rw [rotated]
    exact read
  unfold readAndDecode
  rw [hprimary, hbackup]

end MultipathFabric
