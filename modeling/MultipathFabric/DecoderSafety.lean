import MultipathFabric.StoreSafety

namespace MultipathFabric

open ByteCodec

/-- A read that the code makes on its reader: inside the buffer whatever the state, and after a failure only failing. -/
structure Contained {α : Type} (read : Cursor → Option (Option α × Cursor)) : Prop where
  inside : ∀ c : Cursor, c.offset ≤ c.data.length → ∃ value after, read c = some (value, after) ∧ after.data = c.data ∧
    after.offset ≤ c.data.length ∧ (value = none → after.ok = false)
  sticky : ∀ c : Cursor, c.ok = false → read c = some (none, c) ∧ c.atEnd = false

theorem contained_of_follows {α : Type} {read : Cursor → Option (Option α × Cursor)} {p : Reader α}
    (h : Cursor.Follows read p) : Contained read := by
  constructor
  · intro c inside
    by_cases ok : c.ok = true
    · cases hread : p (c.data.drop c.offset) with
      | some result =>
          obtain ⟨offset, hvalue, hoffset, -⟩ := h.reads c result.1 result.2 ok inside hread
          refine ⟨_, _, hvalue, rfl, hoffset, fun hnone => ?_⟩
          cases hnone
      | none =>
          obtain ⟨offset, hvalue, hoffset⟩ := h.fails c ok inside hread
          exact ⟨_, _, hvalue, rfl, hoffset, fun _ => rfl⟩
    · have hfailed : c.ok = false := by simpa using ok
      exact ⟨none, c, h.sticky c hfailed, rfl, inside, fun _ => hfailed⟩
  · intro c failed
    refine ⟨h.sticky c failed, ?_⟩
    rw [Cursor.atEnd, failed, Bool.false_and]

theorem store_parts_inside {file : Bytes} {n : UInt64} (long : storeHeaderSize + 8 ≤ file.length)
    (declared : (UInt64.ofNat storeHeaderSize + n + 8).toNat = file.length) :
    storeHeaderSize + n.toNat + 8 = file.length := by
  have hheader : (UInt64.ofNat storeHeaderSize).toNat = 24 := rfl
  have height : (8 : UInt64).toNat = 8 := rfl
  have hsize : storeHeaderSize = 24 := rfl
  have hn := n.toNat_lt
  rw [UInt64.toNat_add, UInt64.toNat_add, hheader, height] at declared
  rw [hsize] at long ⊢
  omega

theorem distinct_members {r : SetRecord} (h : r.Indexed) {path other : PathId} {m n : MemberRecord}
    (hm : r.members[path]? = some m) (hn : r.members[other]? = some n) :
    m.pathId = path ∧ (m.id = n.id → path = other) := by
  obtain ⟨hpath, hindex⟩ := h.placed path m hm
  obtain ⟨-, hother⟩ := h.placed other n hn
  refine ⟨hpath, fun hid => ?_⟩
  rw [hid, hother] at hindex
  exact (Option.some.inj hindex).symm

theorem decoders_safe :
    ((∀ r : Read, Contained r.cursor) ∧ ∀ count : ℕ, Contained (Cursor.raw count)) ∧
    (∀ id : Wire.MessageId, (Wire.decodeRequest id).InBounds ∧
      ∀ data request, Wire.decodeRequest id data = .ok (request, []) → Wire.Decoded id request) ∧
    (Wire.decodeResponse.InBounds ∧
      ∀ data response, Wire.decodeResponse data = .ok (response, []) → Wire.DecodedResponse response) ∧
    (∀ limits : Limits, (decodePayload limits).InBounds ∧
      (∀ (file : Bytes) (n : UInt64), storeHeaderSize + 8 ≤ file.length →
        (UInt64.ofNat storeHeaderSize + n + 8).toNat = file.length → storeHeaderSize + n.toNat + 8 = file.length) ∧
      ∀ file decoded, decodeStore limits file = .ok decoded → decoded.WellFormed limits ∧
        ∀ r ∈ decoded.sets, liveMemberCount r ≤ limits.maxMembersPerSet.toNat ∧
          r.members.size ≤ limits.maxMembersPerSet.toNat + limits.maxArchivedMembersPerSet.toNat + 1 ∧
          ∀ (path other : PathId) (m n : MemberRecord), r.members[path]? = some m → r.members[other]? = some n →
            m.pathId = path ∧ (m.id = n.id → path = other)) ∧
    ∀ (d : IdDomain) (id : StrongId d), id.valid = true → idTextAllowed d id.view = true ∧
      id.view.length ≤ d.maxLength := by
  refine ⟨⟨fun r => contained_of_follows r.follows, fun count => contained_of_follows (Cursor.raw_follows count)⟩,
    fun id => ?_, ?_, fun limits => ?_, fun d id hid => ⟨Wire.view_allowed hid, id.length_le⟩⟩
  · exact ⟨(Wire.decodeRequest_safe id).inBounds,
      fun data request h => (Wire.decodeRequest_safe id).yields data request [] h⟩
  · exact ⟨Wire.decodeResponse_safe.inBounds,
      fun data response h => Wire.decodeResponse_safe.yields data response [] h⟩
  · refine ⟨decodePayload_safe.inBounds, fun file n long declared => store_parts_inside long declared,
      fun file decoded h => ?_⟩
    have hstore := decodeStore_wellFormed h
    refine ⟨hstore, fun r hr => ?_⟩
    have hstored := hstore.within.each r hr
    exact ⟨hstored.live, (hstore.sets r hr).count, fun path other m n hm hn => distinct_members hstored.indexed hm hn⟩

end MultipathFabric
