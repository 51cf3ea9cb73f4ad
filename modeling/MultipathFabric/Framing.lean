import MultipathFabric.WireResponse

namespace MultipathFabric

namespace Wire

open ByteCodec

theorem MessageId.fromRaw_eq_some {r : UInt16} {id : MessageId} : MessageId.fromRaw r = some id ↔ r = id.raw := by
  constructor
  · intro h
    unfold MessageId.fromRaw at h
    have hraw := List.find?_some h
    exact (beq_iff_eq.mp hraw).symm
  · rintro rfl
    exact MessageId.fromRaw_raw id

theorem frameHead_length (id : MessageId) (length : UInt32) : (frameHead id length).length = frameIntegrityOffset := by
  simp only [frameHead, encode_cons, encode_nil, Field.bytes, List.length_append, littleEndian_length, List.length_nil]
  rfl

theorem frameHead_takes (id : MessageId) (length : UInt32) : Reader.Takes (do
      let magic ← Reader.u32
      let version ← Reader.u16
      let message ← Reader.u16
      let length ← Reader.u32
      let flags ← Reader.u32
      pure (magic, version, message, length, flags))
    (frameHead id length) (frameMagic, wireProtocolVersion, id.raw, length, 0) :=
  .field (Reader.u32_takes _) (.field (Reader.u16_takes _) (.field (Reader.u16_takes _)
    (.field (Reader.u32_takes _) (.field (Reader.u32_takes _) (.pure _)))))

theorem frameHead_exact {header rest : Bytes} {id : MessageId} {length : UInt32} (read : (do
      let magic ← Reader.u32
      let version ← Reader.u16
      let message ← Reader.u16
      let length ← Reader.u32
      let flags ← Reader.u32
      pure (magic, version, message, length, flags) : Reader (UInt32 × UInt16 × UInt16 × UInt32 × UInt32)) header =
    some ((frameMagic, wireProtocolVersion, id.raw, length, 0), rest)) : header = frameHead id length ++ rest := by
  obtain ⟨magic, afterMagic, hmagic, read⟩ := Reader.bind_some read
  obtain ⟨version, afterVersion, hversion, read⟩ := Reader.bind_some read
  obtain ⟨message, afterMessage, hmessage, read⟩ := Reader.bind_some read
  obtain ⟨size, afterSize, hsize, read⟩ := Reader.bind_some read
  obtain ⟨flags, afterFlags, hflags, read⟩ := Reader.bind_some read
  cases read
  rw [Reader.u32_exact _ _ _ hmagic, Reader.u16_exact _ _ _ hversion, Reader.u16_exact _ _ _ hmessage,
    Reader.u32_exact _ _ _ hsize, Reader.u32_exact _ _ _ hflags]
  simp only [frameHead, encode_cons, encode_nil, List.append_nil, List.append_assoc]

theorem decodeHeader_iff {header : Bytes} {maxFrameBytes : UInt64} {id : MessageId} {length : UInt32} :
    decodeHeader header maxFrameBytes = .ok (id, length) ↔
      header.take frameIntegrityOffset = frameHead id length ∧ length.toUInt64 ≤ frameBound maxFrameBytes := by
  unfold decodeHeader
  simp only [Checked.bind_ok, Checked.require_ok, Checked.present_ok, Checked.pure_ok, decide_eq_true_eq, beq_iff_eq]
  constructor
  · rintro ⟨_, hlong, ⟨magic, version, message, length', flags⟩, hfields, _, hmagic, _, hversion, _, hflags, found, hfound,
      _, hbound, hvalue⟩
    cases hvalue
    obtain ⟨⟨fields, rest⟩, hread, hvalue⟩ := Option.map_eq_some_iff.mp hfields
    cases hvalue
    subst hmagic hversion hflags
    dsimp only at hfound hbound ⊢
    rw [MessageId.fromRaw_eq_some.mp hfound] at hread
    rw [frameHead_exact hread, List.take_left' (frameHead_length id length')]
    exact ⟨rfl, hbound⟩
  · rintro ⟨hhead, hbound⟩
    have hheader : header = frameHead id length ++ header.drop frameIntegrityOffset := by
      rw [← hhead, List.take_append_drop]
    have hlong : frameIntegrityOffset ≤ header.length := by
      rw [hheader, List.length_append, frameHead_length]
      exact Nat.le_add_right _ _
    have hread := frameHead_takes id length (header.drop frameIntegrityOffset)
    rw [← hheader] at hread
    rw [hread]
    exact ⟨(), hlong, _, rfl, (), rfl, (), rfl, (), rfl, id, MessageId.fromRaw_raw id, (), hbound, rfl⟩

/-- The value that the layout documents for the integrity field: FNV-1a-64 of the head followed by the payload. -/
def documentedIntegrity (head payload : Bytes) : UInt64 := (head ++ payload).foldl fnv1a64Roll fnv1a64OffsetBasis

structure Laid (id : MessageId) (payload : Bytes) (maxFrameBytes : UInt64) (frame : Bytes) : Prop where
  size : frame.length = frameHeaderSize + payload.length
  carried : frame.drop frameHeaderSize = payload
  header : ∃ length : UInt32, length.toNat = payload.length ∧
    frame.take frameIntegrityOffset = frameHead id length ∧
      decodeHeader (frame.take frameHeaderSize) maxFrameBytes = .ok (id, length)
  verified : verifyIntegrity (frame.take frameHeaderSize) payload = .ok ()

def integrityField (frame : Bytes) : Bytes := (frame.drop frameIntegrityOffset).take 8

theorem frameBound_le (maxFrameBytes : UInt64) : (frameBound maxFrameBytes).toNat ≤ 64 * 1024 * 1024 := by
  unfold frameBound
  split_ifs with hzero hlow
  · exact Nat.le_refl _
  · exact Nat.le_of_lt (UInt64.lt_iff_toNat_lt.mp hlow)
  · exact Nat.le_refl _

theorem frame_parts (id : MessageId) (length : UInt32) (check : UInt64) (payload : Bytes) :
    let frame := frameHead id length ++ encode [.u64 check] ++ payload
    frame.length = frameHeaderSize + payload.length ∧ frame.drop frameHeaderSize = payload ∧
      frame.take frameHeaderSize = frameHead id length ++ encode [.u64 check] ∧
      frame.take frameIntegrityOffset = frameHead id length ∧ integrityField frame = littleEndian 8 check.toNat := by
  have hhead := frameHead_length id length
  have hfield : encode [.u64 check] = littleEndian 8 check.toNat := by
    simp only [encode_cons, encode_nil, Field.bytes, List.append_nil]
  have hheader : (frameHead id length ++ encode [.u64 check]).length = frameHeaderSize := by
    rw [List.length_append, hhead, hfield, littleEndian_length]
    rfl
  intro frame
  refine ⟨?_, List.drop_left' hheader, List.take_left' hheader, ?_, ?_⟩
  · rw [List.length_append, hheader]
  · change (_ ++ _ ++ payload).take _ = _
    rw [List.append_assoc, List.take_left' hhead]
  · change ((_ ++ _ ++ payload).drop _).take 8 = _
    rw [List.append_assoc, List.drop_left' hhead, hfield, List.take_left' (littleEndian_length 8 _)]

theorem verifyIntegrity_iff {head payload : Bytes} {check : UInt64} (whole : head.length = frameIntegrityOffset) :
    verifyIntegrity (head ++ encode [.u64 check]) payload = .ok () ↔ frameIntegrity head payload = check := by
  have hread := Reader.u64_takes check []
  have hfield : encode [.u64 check] = (Field.u64 check).bytes := by
    simp only [encode_cons, encode_nil, List.append_nil]
  rw [List.append_nil] at hread
  unfold verifyIntegrity
  simp only [Checked.bind_ok, Checked.require_ok, Checked.present_ok, decide_eq_true_eq, beq_iff_eq,
    List.drop_left' whole, List.take_left' whole, hfield, hread, Option.map_some, Option.some.injEq]
  constructor
  · rintro ⟨_, _, _, rfl, h⟩
    exact h
  · intro h
    refine ⟨(), ?_, check, rfl, h⟩
    rw [List.length_append, whole]
    simp only [Field.bytes, littleEndian_length]
    exact Nat.le_refl _

theorem encodeFrame_laid (id : MessageId) {payload : Bytes} {maxFrameBytes : UInt64}
    (within : payload.length ≤ (frameBound maxFrameBytes).toNat) :
    ∃ frame, encodeFrame id payload maxFrameBytes = .ok frame ∧ Laid id payload maxFrameBytes frame ∧
      integrityField frame =
        littleEndian 8 (frameIntegrity (frameHead id (UInt32.ofNat payload.length)) payload).toNat := by
  have hbound : payload.length < 2 ^ 32 := by
    have hhard := frameBound_le maxFrameBytes
    omega
  have hlength : (UInt32.ofNat payload.length).toNat = payload.length := by
    rw [UInt32.toNat_ofNat', Nat.mod_eq_of_lt hbound]
  have hnarrow : narrowU32 payload.length = some (UInt32.ofNat payload.length) := if_pos hbound
  obtain ⟨hsize, hcarried, hheader, hhead, hfield⟩ := frame_parts id (UInt32.ofNat payload.length)
    (frameIntegrity (frameHead id (UInt32.ofNat payload.length)) payload) payload
  refine ⟨_, ?_, ⟨hsize, hcarried, ⟨UInt32.ofNat payload.length, hlength, hhead, ?_⟩, ?_⟩, hfield⟩
  · unfold encodeFrame
    simp only [Checked.bind_ok, Checked.require_ok, Checked.present_ok, Checked.pure_ok, decide_eq_true_eq]
    exact ⟨(), within, _, hnarrow, rfl⟩
  · rw [decodeHeader_iff, hheader, ← frameHead_length id (UInt32.ofNat payload.length), List.take_left]
    refine ⟨rfl, UInt64.le_iff_toNat_le.mpr ?_⟩
    rw [UInt32.toNat_toUInt64, hlength]
    exact within
  · rw [hheader, verifyIntegrity_iff (frameHead_length _ _)]

/-- What the layout promises for one message and one bound: frames of every payload within the bound are laid out as
documented, with the documented integrity value. -/
def Interoperable (id : MessageId) (maxFrameBytes : UInt64) : Prop :=
  ∀ payload : Bytes, payload.length ≤ (frameBound maxFrameBytes).toNat →
    ∃ frame, encodeFrame id payload maxFrameBytes = .ok frame ∧ Laid id payload maxFrameBytes frame ∧
      integrityField frame =
        littleEndian 8 (documentedIntegrity (frameHead id (UInt32.ofNat payload.length)) payload).toNat

theorem empty_undocumented (id : MessageId) :
    frameIntegrity (frameHead id 0) [] ≠ documentedIntegrity (frameHead id 0) [] := by
  cases id <;> decide +kernel

theorem empty_not_interoperable (id : MessageId) (maxFrameBytes : UInt64) : ¬Interoperable id maxFrameBytes := by
  intro h
  have hwithin : ([] : Bytes).length ≤ (frameBound maxFrameBytes).toNat := Nat.zero_le _
  obtain ⟨frame, hframe, _, hdocumented⟩ := h [] hwithin
  obtain ⟨frame', hframe', _, hcomputed⟩ := encodeFrame_laid id hwithin
  rw [hframe] at hframe'
  cases hframe'
  rw [hcomputed] at hdocumented
  exact empty_undocumented id (littleEndian_eight_inj hdocumented)

/-- Encoder, header decoder and integrity check agree with one another on every payload within the bound, and a header is
accepted for what the layout says of it. The integrity value is the high half of the library's own digest, and for no
message and no bound is it the documented one on every payload. -/
theorem frames_as_documented (id : MessageId) (maxFrameBytes : UInt64) :
    (∀ payload : Bytes, payload.length ≤ (frameBound maxFrameBytes).toNat →
      ∃ frame, encodeFrame id payload maxFrameBytes = .ok frame ∧ Laid id payload maxFrameBytes frame ∧
        integrityField frame =
          littleEndian 8 (frameIntegrity (frameHead id (UInt32.ofNat payload.length)) payload).toNat ∧
        (integrityField frame =
            littleEndian 8 (documentedIntegrity (frameHead id (UInt32.ofNat payload.length)) payload).toNat ↔
          frameIntegrity (frameHead id (UInt32.ofNat payload.length)) payload =
            documentedIntegrity (frameHead id (UInt32.ofNat payload.length)) payload)) ∧
    (∀ header length, decodeHeader header maxFrameBytes = .ok (id, length) ↔
      header.take frameIntegrityOffset = frameHead id length ∧ length.toUInt64 ≤ frameBound maxFrameBytes) ∧
    ¬Interoperable id maxFrameBytes := by
  refine ⟨?_, fun header length => decodeHeader_iff, empty_not_interoperable id maxFrameBytes⟩
  intro payload hwithin
  obtain ⟨frame, hframe, hlaid, hfield⟩ := encodeFrame_laid id hwithin
  refine ⟨frame, hframe, hlaid, hfield, ?_⟩
  rw [hfield]
  constructor
  · exact littleEndian_eight_inj
  · intro h
    rw [h]

/-- The frame of an empty greeting. -/
theorem frames_as_documented_fails : ¬∀ id maxFrameBytes, Interoperable id maxFrameBytes := by
  intro h
  have hwithin : ([] : Bytes).length ≤ (frameBound 0).toNat := Nat.zero_le _
  obtain ⟨frame, hframe, _, hdocumented⟩ := h .hello 0 [] hwithin
  obtain ⟨frame', hframe', _, hcomputed⟩ := encodeFrame_laid .hello hwithin
  rw [hframe] at hframe'
  cases hframe'
  rw [hcomputed] at hdocumented
  exact absurd (littleEndian_eight_inj hdocumented) (by decide +kernel)

end Wire

end MultipathFabric
