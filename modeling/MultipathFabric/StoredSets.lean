import MultipathFabric.Persistence

namespace MultipathFabric

open ByteCodec OrderedMap

namespace SetRecord

structure Indexed (r : SetRecord) : Prop where
  placed : ∀ (path : PathId) (m : MemberRecord), r.members[path]? = some m →
    m.pathId = path ∧ r.memberIndex[m.id]? = some path
  found : ∀ (memberId : MultipathMemberId) (path : PathId), r.memberIndex[memberId]? = some path →
    ∃ m, r.members[path]? = some m ∧ m.id = memberId

theorem Indexed.insert {r : SetRecord} (h : r.Indexed) {m : MemberRecord} (path : r.members[m.pathId]? = none)
    (id : r.memberIndex[m.id]? = none) :
    Indexed { r with
      memberIndex := r.memberIndex.insert m.id m.pathId
      members := r.members.insert m.pathId m } := by
  constructor
  · intro other found hfound
    rw [getElem?_insert_eq] at hfound
    rw [getElem?_insert_eq]
    split at hfound
    · rename_i hpath
      cases hfound
      rw [if_pos rfl]
      exact ⟨hpath, by rw [hpath]⟩
    · obtain ⟨hplace, hindex⟩ := h.placed other found hfound
      have hne : m.id ≠ found.id := by
        intro heq
        rw [heq, hindex] at id
        cases id
      rw [if_neg hne]
      exact ⟨hplace, hindex⟩
  · intro memberId other hother
    rw [getElem?_insert_eq] at hother
    rw [getElem?_insert_eq]
    split at hother
    · rename_i hid
      cases hother
      exact ⟨m, if_pos rfl, hid⟩
    · obtain ⟨found, hfound, hid⟩ := h.found memberId other hother
      have hne : m.pathId ≠ other := by
        intro heq
        rw [heq, hfound] at path
        cases path
      rw [if_neg hne]
      exact ⟨found, hfound, hid⟩

end SetRecord

open SetRecord

structure StoredSet (limits : Limits) (total : ℕ) (r : SetRecord) : Prop where
  live : liveMemberCount r ≤ limits.maxMembersPerSet.toNat
  members : total + r.members.size ≤ limits.maxTotalMembers.toNat
  minimum : r.minimumUsableMembers ≤ limits.maxMembersPerSet
  history : r.history = []
  indexed : r.Indexed

structure TakesMembers (n : ℕ) (r r' : SetRecord) : Prop where
  rest : r' = { r with members := r'.members, memberIndex := r'.memberIndex }
  size : r'.members.size = r.members.size + n
  indexed : r.Indexed → r'.Indexed

theorem decodeMembers_yields (limits : Limits) (n : ℕ) (r : SetRecord) :
    Decoder.Yields (decodeMembers limits n r) (TakesMembers n r) := by
  induction n generalizing r with
  | zero =>
      unfold decodeMembers
      exact .pure ⟨rfl, rfl, id⟩
  | succ n ih =>
      unfold decodeMembers
      refine .bind .any fun m _ => .bind Decoder.check_yields fun _ hpath => .bind Decoder.check_yields fun _ hid => ?_
      rw [Option.isNone_iff_eq_none] at hpath hid
      intro bytes r' rest h
      have hread := ih _ bytes r' rest h
      refine ⟨hread.rest, ?_, fun h => hread.indexed (h.insert hpath hid)⟩
      have hsize := hread.size
      have hcontains : r.members.contains m.pathId = false := by
        rw [Std.ExtTreeMap.contains_eq_isSome_getElem?, hpath]
        rfl
      rw [Std.ExtTreeMap.size_insert, hcontains] at hsize
      rw [hsize]
      simp only [Bool.false_eq_true, if_false]
      omega

theorem indexed_empty {r : SetRecord} (h : r.members = ∅) (h' : r.memberIndex = ∅) : r.Indexed := by
  constructor
  · intro path m hm
    rw [h, Std.ExtTreeMap.getElem?_empty] at hm
    cases hm
  · intro memberId path hpath
    rw [h', Std.ExtTreeMap.getElem?_empty] at hpath
    cases hpath

theorem decodeSet_yields (limits : Limits) (total : ℕ) :
    Decoder.Yields (decodeSet limits total) (StoredSet limits total) := by
  unfold decodeSet
  refine .bind .any ?_
  rintro ⟨_, _, _, _, _, _, _, _, _, _, _, _, _⟩ _
  refine .bind .any fun _ _ => .bind .any fun _ _ => .bind .any fun _ _ => .bind .any fun _ _ => .bind .any fun _ _ =>
    .bind .any fun _ _ => .bind .any fun _ _ => .bind .any fun _ _ => .bind .any fun _ _ => .bind .any fun _ _ =>
    .bind Decoder.check_yields fun _ hminimum => .bind .any fun _ _ => .bind .any fun _ _ => .bind .any fun _ _ =>
    .bind .any fun _ _ => .bind .any fun _ _ => .bind .any fun _ _ => .bind .any fun _ _ => .bind .any fun _ _ =>
    .bind Decoder.check_yields fun _ hmembers => .bind (decodeMembers_yields limits _ _) fun r hr =>
    .bind Decoder.check_yields fun _ hlive => .pure ?_
  rw [decide_eq_true_eq] at hminimum hmembers hlive
  have hsize := hr.size
  rw [Std.ExtTreeMap.size_empty] at hsize
  have hrest := hr.rest
  refine ⟨hlive, ?_, ?_, ?_, ?_⟩
  · change total + r.members.size ≤ _
    rw [hsize]
    omega
  · change r.minimumUsableMembers ≤ _
    rw [hrest]
    exact hminimum
  · change r.history = []
    rw [hrest]
  · have hindexed := hr.indexed (indexed_empty rfl rfl)
    exact ⟨hindexed.placed, hindexed.found⟩

structure StoredSets (limits : Limits) (total n : ℕ) (stored : List SetRecord) : Prop where
  each : ∀ r ∈ stored, StoredSet limits 0 r
  members : total + (stored.map fun r => r.members.size).sum ≤ max total limits.maxTotalMembers.toNat
  length : stored.length = n

theorem decodeSets_yields (limits : Limits) (n total : ℕ) :
    Decoder.Yields (decodeSets limits n total) (StoredSets limits total n) := by
  induction n generalizing total with
  | zero =>
      unfold decodeSets
      refine .pure ⟨fun r hr => absurd hr List.not_mem_nil, ?_, rfl⟩
      exact Nat.le_max_left _ _
  | succ n ih =>
      unfold decodeSets
      refine .bind (decodeSet_yields limits total) fun r hr => .bind (ih _) fun rest hrest => .pure ⟨?_, ?_, ?_⟩
      · intro s hs
        rcases List.mem_cons.mp hs with rfl | hs
        · have hmembers := hr.members
          exact { hr with members := by omega }
        · exact hrest.each s hs
      · have hmembers := hr.members
        have hall := hrest.members
        rw [List.map_cons, List.sum_cons]
        omega
      · rw [List.length_cons, hrest.length]

structure WithinStore (limits : Limits) (decoded : DecodedStore) : Prop where
  each : ∀ r ∈ decoded.sets, StoredSet limits 0 r
  members : (decoded.sets.map fun r => r.members.size).sum ≤ limits.maxTotalMembers.toNat
  sets : decoded.sets.length ≤ limits.maxSets.toNat

theorem decodePayload_yields (limits : Limits) : Decoder.Yields (decodePayload limits) (WithinStore limits) := by
  unfold decodePayload
  refine .bind .any ?_
  rintro ⟨_, _, _, _, setCount⟩ _
  refine .bind .any fun _ _ => .bind .any fun _ _ => .bind .any fun _ _ => .bind Decoder.check_yields fun _ hcount =>
    .bind .any fun _ _ => .bind .any fun _ _ => .bind (decodeSets_yields limits _ 0) fun sets hsets => .pure ?_
  rw [decide_eq_true_eq, UInt64.le_iff_toNat_le, UInt32.toNat_toUInt64] at hcount
  have hmembers := hsets.members
  rw [Nat.zero_max] at hmembers
  refine ⟨hsets.each, ?_, ?_⟩
  · dsimp only
    omega
  · dsimp only
    rw [hsets.length]
    exact hcount

theorem decodeStore_within {limits : Limits} {file : Bytes} {decoded : DecodedStore}
    (h : decodeStore limits file = .ok decoded) : WithinStore limits decoded := by
  unfold decodeStore at h
  simp only [Checked.bind_ok, Checked.pure_ok] at h
  obtain ⟨payload, _, ⟨value, rest⟩, hdecode, _, _, rfl⟩ := h
  exact decodePayload_yields limits payload value rest hdecode

theorem readAndDecode_within {path : Bytes} {limits : Limits} {files : StoreFiles} {decoded : DecodedStore}
    {fallback : Bool} (read : readAndDecode path limits files = .ok (decoded, fallback)) :
    WithinStore limits decoded := by
  have hfile : ∀ {contents : Option Bytes} {name : Bytes},
      (readFile name contents >>= decodeStore limits) = .ok decoded → WithinStore limits decoded := by
    intro contents name h
    obtain ⟨file, _, hdecode⟩ := Checked.bind_ok.mp h
    exact decodeStore_within hdecode
  unfold readAndDecode at read
  split at read
  · rename_i found hprimary
    cases read
    exact hfile hprimary
  · split at read
    · rename_i found hbackup
      cases read
      exact hfile hbackup
    · cases read

abbrev Rejecting {α : Type} (p : StoreDecoder α) : Prop := Decoder.Fails p fun outcome => outcome.rejects = true

theorem decodeOptionalId_rejects {d : IdDomain} (truncated impossible : Bytes) :
    Rejecting (decodeOptionalId truncated impossible : StoreDecoder (Option (StrongId d))) := by
  refine .bind (.group rfl) fun t => ?_
  split
  · exact .pure _
  · exact .bind (.present rfl) fun _ => .pure _

theorem decodeFence_rejects : Rejecting decodeFence := by
  refine .bind (.group rfl) ?_
  rintro ⟨_, _, _, _⟩
  exact .bind (.present rfl) fun _ => .bind (.present rfl) fun _ => .bind (.present rfl) fun _ => .pure _

theorem decodeObservation_rejects : Rejecting decodeObservation := by
  refine .bind (.group rfl) fun flag => ?_
  split
  · refine .bind (.group rfl) ?_
    rintro ⟨_, _⟩
    exact .bind (.present rfl) fun _ => .bind (.present rfl) fun _ => .pure _
  · exact .pure _

theorem decodeMember_rejects (limits : Limits) : Rejecting (decodeMember limits) := by
  refine .bind (.group rfl) ?_
  rintro ⟨_, _, _, _, _, _, _, _, _⟩
  refine .bind (.present rfl) fun _ => .bind (.present rfl) fun _ => .bind (.present rfl) fun _ =>
    .bind (.present rfl) fun _ => .bind (.present rfl) fun _ => .bind (.present rfl) fun _ => .bind (.check rfl) fun _ =>
    .bind (decodeOptionalId_rejects _ _) fun _ => .bind (decodeOptionalId_rejects _ _) fun _ =>
    .bind decodeObservation_rejects fun _ => .bind (.group rfl) fun _ => .pure _

theorem decodeMembers_rejects (limits : Limits) (n : ℕ) (r : SetRecord) : Rejecting (decodeMembers limits n r) := by
  induction n generalizing r with
  | zero => exact .pure _
  | succ n ih =>
      exact .bind (decodeMember_rejects limits) fun _ => .bind (.check rfl) fun _ => .bind (.check rfl) fun _ => ih _

theorem decodeRevocation_rejects (setId : MultipathSetId) : Rejecting (decodeRevocation setId) := by
  refine .bind (.group rfl) fun flag => ?_
  split
  · refine .bind (.group rfl) ?_
    rintro ⟨_, _, _, _, _, _⟩
    exact .bind (.present rfl) fun _ => .bind (.present rfl) fun _ => .bind (.present rfl) fun _ =>
      .bind (.present rfl) fun _ => .bind (.present rfl) fun _ => .pure _
  · exact .pure _

theorem decodeSet_rejects (limits : Limits) (total : ℕ) : Rejecting (decodeSet limits total) := by
  refine .bind (.group rfl) ?_
  rintro ⟨_, _, _, _, _, _, _, _, _, _, _, _, _⟩
  exact .bind (.present rfl) fun _ => .bind (.present rfl) fun _ => .bind (.present rfl) fun _ =>
    .bind (.present rfl) fun _ => .bind (.present rfl) fun _ => .bind (.present rfl) fun _ =>
    .bind (.present rfl) fun _ => .bind (.present rfl) fun _ => .bind (.present rfl) fun _ =>
    .bind (.present rfl) fun _ => .bind (.check rfl) fun _ => .bind (decodeOptionalId_rejects _ _) fun _ =>
    .bind (decodeOptionalId_rejects _ _) fun _ => .bind (decodeRevocation_rejects _) fun _ => .bind (.check rfl) fun _ =>
    .bind (.group rfl) fun _ => .bind (.group rfl) fun _ => .bind (.group rfl) fun _ => .bind (.check rfl) fun _ =>
    .bind (.check rfl) fun _ => .bind (decodeMembers_rejects limits _ _) fun _ => .bind (.check rfl) fun _ => .pure _

theorem decodeSets_rejects (limits : Limits) (n total : ℕ) : Rejecting (decodeSets limits n total) := by
  induction n generalizing total with
  | zero => exact .pure _
  | succ n ih => exact .bind (decodeSet_rejects limits total) fun _ => .bind (ih _) fun _ => .pure _

theorem decodePayload_rejects (limits : Limits) : Rejecting (decodePayload limits) := by
  refine .bind (.group rfl) ?_
  rintro ⟨_, _, _, _, _⟩
  exact .bind (.check rfl) fun _ => .bind (.present rfl) fun _ => .bind (.present rfl) fun _ => .bind (.check rfl) fun _ =>
    .bind (.check rfl) fun _ => .bind (.times decodeFence_rejects _) fun _ =>
    .bind (decodeSets_rejects limits _ 0) fun _ => .pure _

end MultipathFabric
