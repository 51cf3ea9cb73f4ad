import MultipathFabric.Library.RollingChecksum
import MultipathFabric.StoreCodec

/-!
The frame of a store file: what the framing checks accept is a file that `save_store` could have written for the same
payload, so nothing that was cut, appended or replaced in a saved file is read.
-/

namespace MultipathFabric

open ByteCodec RollingChecksum

theorem fnv1a64Prime_inverse : fnv1a64Prime * 14886173955864302971 = 1 := by decide

theorem fnv1a64Roll_separates : Separates fnv1a64Roll := by
  have hscale : ∀ x y : UInt64, x * fnv1a64Prime = y * fnv1a64Prime → x = y := by
    intro x y h
    have hproduct := congrArg (· * 14886173955864302971) h
    simp only [UInt64.mul_assoc, fnv1a64Prime_inverse, UInt64.mul_one] at hproduct
    exact hproduct
  constructor
  · intro b s s' h
    exact (UInt64.xor_left_inj b.toUInt64).mp (hscale _ _ h)
  · intro s b b' h
    exact UInt8.toUInt64_inj.mp ((UInt64.xor_right_inj s).mp (hscale _ _ h))

def storeCovered (body : Bytes) : Bytes := storeHeader body.length ++ body

theorem storeFile_eq (body : Bytes) :
    storeFile body = storeCovered body ++ littleEndian 8 (encodeChecksum (storeCovered body)).toNat := by
  simp only [storeFile, storeCovered, encode_cons, encode_nil, Field.bytes, List.append_nil]

theorem storeFile_length (body : Bytes) : (storeFile body).length = storeHeaderSize + body.length + 8 := by
  rw [storeFile_eq, storeCovered, List.length_append, List.length_append, storeHeader_length, littleEndian_length]

theorem unframeStore_exact {limits : Limits} {file payload : Bytes} (read : unframeStore limits file = .ok payload) :
    file = storeFile payload ∧ payload.length < 2 ^ 64 := by
  unfold unframeStore at read
  simp only [Checked.bind_ok, Checked.require_ok, Checked.present_ok, Checked.pure_ok, decide_eq_true_eq, beq_iff_eq] at read
  obtain ⟨_, hshort, _, hmagic, ⟨format, reserved, length⟩, hfields, _, hreserved, _, hformat, _, _, _, hlength, _, _,
    stored, hstored, _, hchecksum, rfl⟩ := read
  subst hreserved hformat
  have hsize : length.toNat + 32 = file.length := by
    have hwrapped : (UInt64.ofNat storeHeaderSize + length + 8).toNat = (24 + length.toNat + 8) % 2 ^ 64 := by
      simp [storeHeaderSize]
    have hbound := length.toNat_lt
    dsimp only at hlength
    rw [hwrapped] at hlength
    simp only [storeHeaderSize] at hshort
    omega
  have hhead : (file.drop 8).take 16 =
      encode [.u32 persistenceFormatVersion, .u32 0, .u64 length] := by
    obtain ⟨⟨fields, rest⟩, hread, hvalue⟩ := Option.map_eq_some_iff.mp hfields
    cases hvalue
    obtain ⟨format, afterFormat, hformat, hread⟩ := Reader.bind_some hread
    obtain ⟨reserved, afterReserved, hreserved, hread⟩ := Reader.bind_some hread
    obtain ⟨size, afterSize, hsize, hread⟩ := Reader.bind_some hread
    cases hread
    have hwritten : (file.drop 8).take 16 = encode [.u32 persistenceFormatVersion, .u32 0, .u64 length] ++ rest := by
      rw [Reader.u32_exact _ _ _ hformat, Reader.u32_exact _ _ _ hreserved, Reader.u64_exact _ _ _ hsize]
      simp only [encode_cons, encode_nil, List.append_nil, List.append_assoc]
    have hlengths := congrArg List.length hwritten
    have hrest : rest = [] := by
      apply List.eq_nil_of_length_eq_zero
      simp only [encode_cons, encode_nil, Field.bytes, List.length_append, littleEndian_length, List.length_nil,
        List.length_take, List.length_drop] at hlengths
      omega
    rw [hwritten, hrest, List.append_nil]
  have hcovered : file.take (storeHeaderSize + length.toNat) =
      storeHeader length.toNat ++ (file.take (storeHeaderSize + length.toNat)).drop storeHeaderSize := by
    have hhead' : storeHeader length.toNat = file.take storeHeaderSize := by
      rw [storeHeader, UInt64.ofNat_toNat, ← hhead, ← hmagic, ← List.take_add]
      rfl
    rw [hhead', ← List.take_append_drop storeHeaderSize (file.take (storeHeaderSize + length.toNat)), List.take_take,
      Nat.min_eq_left (Nat.le_add_right _ _), List.drop_left']
    exact List.length_take_of_le (by omega)
  have hpayload : ((file.take (storeHeaderSize + length.toNat)).drop storeHeaderSize).length = length.toNat := by
    rw [List.length_drop, List.length_take]
    simp only [storeHeaderSize] at hshort ⊢
    omega
  have htrailer : file.drop (storeHeaderSize + length.toNat) = littleEndian 8 stored.toNat := by
    obtain ⟨⟨value, rest⟩, hread, hvalue⟩ := Option.map_eq_some_iff.mp hstored
    cases hvalue
    have hwritten := Reader.u64_exact _ _ _ hread
    have hlengths := congrArg List.length hwritten
    have hrest : rest = [] := by
      apply List.eq_nil_of_length_eq_zero
      simp only [Field.bytes, List.length_append, littleEndian_length, List.length_drop, storeHeaderSize] at hlengths
      omega
    rw [hwritten, hrest, List.append_nil]
    rfl
  constructor
  · rw [storeFile_eq, storeCovered, hpayload, ← hcovered, hchecksum, ← htrailer, List.take_append_drop]
  · rw [hpayload]
    exact length.toNat_lt

theorem decodeStore_framed {limits : Limits} {file : Bytes} {decoded : DecodedStore}
    (read : decodeStore limits file = .ok decoded) : ∃ body : Bytes, file = storeFile body ∧ body.length < 2 ^ 64 := by
  unfold decodeStore at read
  obtain ⟨payload, hpayload, _⟩ := Checked.bind_ok.mp read
  exact ⟨payload, unframeStore_exact hpayload⟩

theorem storeHeader_inj {m n : ℕ} (hm : m < 2 ^ 64) (hn : n < 2 ^ 64) (same : storeHeader m = storeHeader n) : m = n := by
  simp only [storeHeader, encode_cons, encode_nil, Field.bytes, List.append_cancel_left_eq, List.append_cancel_right_eq]
    at same
  have hlengths := congrArg UInt64.toNat (littleEndian_eight_inj same)
  rwa [UInt64.toNat_ofNat', UInt64.toNat_ofNat', Nat.mod_eq_of_lt hm, Nat.mod_eq_of_lt hn] at hlengths

theorem storeFile_prefix {body body' : Bytes} (bound : body.length < 2 ^ 64) (bound' : body'.length < 2 ^ 64)
    (before : storeFile body <+: storeFile body') : storeFile body = storeFile body' := by
  have hfirst : ∀ payload, storeHeader payload.length <+: storeFile payload := by
    intro payload
    rw [storeFile_eq, storeCovered, List.append_assoc]
    exact List.prefix_append _ _
  have hheaders : storeHeader body.length = storeHeader body'.length := by
    apply List.IsPrefix.eq_of_length (List.prefix_of_prefix_length_le ((hfirst body).trans before) (hfirst body') _)
    · rw [storeHeader_length, storeHeader_length]
    · rw [storeHeader_length, storeHeader_length]
  apply before.eq_of_length
  rw [storeFile_length, storeFile_length, storeHeader_inj bound bound' hheaders]

theorem storeFile_set {body body' : Bytes} {i : ℕ} {b : UInt8} (inside : i < (storeFile body).length)
    (same : (storeFile body).set i b = storeFile body') : b = (storeFile body)[i] := by
  have hlength : (storeCovered body).length = (storeCovered body').length := by
    have hlengths := congrArg List.length same
    rw [List.length_set, storeFile_eq, storeFile_eq, List.length_append, List.length_append, littleEndian_length,
      littleEndian_length] at hlengths
    omega
  simp only [storeFile_eq] at same inside ⊢
  by_cases hcovered : i < (storeCovered body).length
  · -- the checksum that follows is the old one
    rw [List.set_append_left _ _ hcovered] at same
    obtain ⟨hbytes, htrailer⟩ := List.append_inj same (by rw [List.length_set, hlength])
    have hchecksum : encodeChecksum ((storeCovered body).set i b) = encodeChecksum (storeCovered body) := by
      rw [hbytes]
      exact (littleEndian_eight_inj htrailer).symm
    rw [List.getElem_append_left hcovered]
    exact fnv1a64Roll_separates.set hcovered hchecksum
  · rw [List.set_append_right _ _ (by omega)] at same
    obtain ⟨hbytes, htrailer⟩ := List.append_inj same hlength
    rw [← hbytes] at htrailer
    rw [List.getElem_append_right (by omega)]
    have hwritten := congrArg (fun trailer => trailer[i - (storeCovered body).length]?) htrailer
    rw [List.length_append] at inside
    rw [List.getElem?_set_self (by omega), List.getElem?_eq_getElem (by omega)] at hwritten
    exact Option.some.inj hwritten

theorem decodeStore_rejects {limits : Limits} {file : Bytes}
    (unframed : ∀ body : Bytes, body.length < 2 ^ 64 → file ≠ storeFile body) :
    ∃ rejection, decodeStore limits file = .error rejection := by
  cases hread : decodeStore limits file with
  | error rejection => exact ⟨rejection, rfl⟩
  | ok decoded =>
      obtain ⟨body, hfile, hbound⟩ := decodeStore_framed hread
      exact absurd hfile (unframed body hbound)

/-- What was cut off a saved file, appended to it or replaced in it in one place does not read as a store. -/
theorem corrupted_rejected {e : FabricEngine} {file : Bytes} (saved : encodeStore e = .ok file) (limits : Limits) :
    (∀ kept, kept < file.length → ∃ rejection, decodeStore limits (file.take kept) = .error rejection) ∧
    (∀ appended, appended ≠ [] → ∃ rejection, decodeStore limits (file ++ appended) = .error rejection) ∧
    ∀ (i : ℕ) (inside : i < file.length) (b : UInt8), b ≠ file[i] →
      ∃ rejection, decodeStore limits (file.set i b) = .error rejection := by
  obtain ⟨rfl, _, hbound⟩ := encodeStore_saved saved
  refine ⟨?_, ?_, ?_⟩
  · intro kept hkept
    apply decodeStore_rejects
    intro body hbody hframe
    have hsame := storeFile_prefix hbody hbound (hframe ▸ List.take_prefix _ _)
    have hlength := congrArg List.length hframe
    rw [List.length_take, hsame] at hlength
    omega
  · intro appended happended
    apply decodeStore_rejects
    intro body hbody hframe
    have hsame := storeFile_prefix hbound hbody (hframe ▸ List.prefix_append _ _)
    rw [← hsame, List.append_right_eq_self] at hframe
    exact happended hframe
  · intro i hi b hb
    apply decodeStore_rejects
    intro body _ hframe
    exact hb (storeFile_set hi hframe)

theorem corrupted_rejected_sample : ∃ file, encodeStore (sampleRun sampleSteps) = .ok file ∧
    (∀ kept, kept < file.length → ∃ rejection, decodeStore sampleConfig.limits (file.take kept) = .error rejection) ∧
    (∀ appended, appended ≠ [] → ∃ rejection, decodeStore sampleConfig.limits (file ++ appended) = .error rejection) ∧
    ∀ (i : ℕ) (inside : i < file.length) (b : UInt8), b ≠ file[i] →
      ∃ rejection, decodeStore sampleConfig.limits (file.set i b) = .error rejection := by
  have hsaves : (encodeStore (sampleRun sampleSteps)).isOk = true := by decide +kernel
  cases hsaved : encodeStore (sampleRun sampleSteps) with
  | error rejection =>
      rw [hsaved] at hsaves
      cases hsaves
  | ok file => exact ⟨file, rfl, corrupted_rejected hsaved sampleConfig.limits⟩

end MultipathFabric
