import MultipathFabric.StoredSets
import MultipathFabric.Validity
import MultipathFabric.WireSafety

namespace MultipathFabric

open ByteCodec

variable {d : IdDomain} {limits : Limits}

theorem readProvenance_safe : Reader.Safe readProvenance fun p => p.epoch.valid = true ∧ p.setGeneration.valid = true := by
  refine .string fun _ => .string fun _ => .u64 fun _ => .string fun _ => .u64 fun _ => .u8 fun _ => ?_
  exact .present fun _ _ => .present fun _ _ => .present fun _ _ => .present fun _ _ => .present fun _ hepoch =>
    .present fun _ hgeneration =>
      .done ⟨Generation.valid_of_fromValue hepoch, Generation.valid_of_fromValue hgeneration⟩

theorem readOptionalId_safe : Reader.Safe readOptionalId fun _ => True := by
  refine .boolean fun flag => ?_
  split
  · exact .read (.string maxIdLength)
  · exact .any _

theorem decodeOptionalId_safe (truncated impossible : Bytes) :
    Decoder.Safe (decodeOptionalId truncated impossible : StoreDecoder (Option (StrongId d))) fun x =>
      ∀ id, x = some id → id.valid = true := by
  refine .group readOptionalId_safe fun t _ => ?_
  split
  · refine .done fun id hid => ?_
    cases hid
  · refine .present fun id hid => .done ?_
    rintro _ ⟨⟩
    exact StrongId.valid_of_parse hid

structure FenceRecord.WellFormed (f : FenceRecord) : Prop where
  publisher : f.publisher.valid = true
  workerBoot : f.workerBoot.valid = true
  epoch : f.epoch.valid = true

theorem decodeFence_safe : Decoder.Safe decodeFence FenceRecord.WellFormed := by
  refine .group (.string fun _ => .string fun _ => .u64 fun _ => .string fun _ => .any _) ?_
  rintro ⟨publisher, boot, epoch, cause⟩ -
  exact .present fun _ hpublisher => .present fun _ hboot => .present fun _ hepoch =>
    .done ⟨StrongId.valid_of_parse hpublisher, StrongId.valid_of_parse hboot, Generation.valid_of_fromValue hepoch⟩

theorem decodeObservation_safe :
    Decoder.Safe decodeObservation fun x => ∀ observation, x = some observation → observation.1.valid = true := by
  refine .group (.read .boolean) fun flag _ => ?_
  split
  · refine .group (.u64 fun _ => .u8 fun _ => .any _) ?_
    rintro ⟨generation, state⟩ -
    refine .present fun _ _ => .present fun _ hgeneration => .done ?_
    rintro _ ⟨⟩
    exact Generation.valid_of_fromValue hgeneration
  · refine .done fun observation h => ?_
    cases h

structure DecodedMember (limits : Limits) (m : MemberRecord) : Prop where
  wellFormed : m.WellFormed
  observed : ∀ g, m.observedAuthorityGeneration = some g → g.valid = true
  pending : m.pendingRevalidations.toNat ≤ limits.maxPendingRevalidationsPerSet.toNat

theorem decodeMember_safe : Decoder.Safe (decodeMember limits) (DecodedMember limits) := by
  refine .group (.string fun _ => .string fun _ => .u64 fun _ => .u64 fun _ => .u8 fun _ => .u8 fun _ =>
    .boolean fun _ => .u64 fun _ => .u32 fun _ => .any _) ?_
  rintro ⟨id, path, bound, generation, lifecycle, currentness, adminEnabled, watermark, pending⟩ -
  refine .present fun _ hid => .present fun _ hpath => .present fun _ hbound => .present fun _ hgeneration =>
    .present fun _ _ => .present fun _ _ => .check fun hpending =>
    (decodeOptionalId_safe _ _).step fun _ hpredecessor => (decodeOptionalId_safe _ _).step fun _ hsuccessor =>
    decodeObservation_safe.step fun _ hobserved => .group readProvenance_safe fun _ hprovenance => .done ?_
  refine ⟨⟨?_, ?_, ?_, ?_, hpredecessor, hsuccessor, hprovenance.2⟩, ?_, ?_⟩
  · exact StrongId.valid_of_parse hid
  · exact StrongId.valid_of_parse hpath
  · exact Generation.valid_of_fromValue hbound
  · exact Generation.valid_of_fromValue hgeneration
  · intro g hg
    obtain ⟨observation, hsome, rfl⟩ := Option.map_eq_some_iff.mp hg
    exact hobserved observation hsome
  · simpa using hpending

def DecodedMembers (limits : Limits) (r : SetRecord) : Prop :=
  ∀ (path : PathId) (m : MemberRecord), r.members[path]? = some m → path.valid = true ∧ DecodedMember limits m

theorem decodeMembers_safe (n : ℕ) {r : SetRecord} (h : DecodedMembers limits r) :
    Decoder.Safe (decodeMembers limits n r) (DecodedMembers limits) := by
  induction n generalizing r with
  | zero => exact .done h
  | succ n ih =>
      refine decodeMember_safe.step fun m hm => .check fun _ => .check fun _ => ih ?_
      intro path found hfound
      rw [OrderedMap.getElem?_insert_eq] at hfound
      split at hfound
      · rename_i hpath
        cases hfound
        rw [← hpath]
        exact ⟨hm.wellFormed.pathId, hm⟩
      · exact h path found hfound

theorem decodeRevocation_safe (setId : MultipathSetId) :
    Decoder.Safe (decodeRevocation setId) fun x => ∀ r, x = some r → r.WellFormed ∧ r.setId = setId := by
  refine .group (.read .boolean) fun flag _ => ?_
  split
  · refine .group (.u8 fun _ => .string fun _ => .u64 fun _ => .u64 fun _ => .u64 fun _ => .string fun _ => .any _) ?_
    rintro ⟨reason, detail, generation, authority, epoch, publisher⟩ -
    refine .present fun _ _ => .present fun _ hgeneration => .present fun _ hauthority => .present fun _ hepoch =>
      .present fun _ hpublisher => .done ?_
    rintro _ ⟨⟩
    exact ⟨⟨Generation.valid_of_fromValue hgeneration, Generation.valid_of_fromValue hauthority,
      Generation.valid_of_fromValue hepoch, StrongId.valid_of_parse hpublisher⟩, rfl⟩
  · refine .done fun r hr => ?_
    cases hr

structure DecodedSet (limits : Limits) (r : SetRecord) : Prop where
  wellFormed : r.WellFormed
  members : DecodedMembers limits r
  count : r.members.size ≤ limits.maxMembersPerSet.toNat + limits.maxArchivedMembersPerSet.toNat + 1

theorem decodeSet_safe (total : ℕ) : Decoder.Safe (decodeSet limits total) (DecodedSet limits) := by
  refine .group (.string fun _ => .string fun _ => .string fun _ => .string fun _ => .u64 fun _ => .u64 fun _ =>
    .u64 fun _ => .u8 fun _ => .u8 fun _ => .boolean fun _ => .u64 fun _ => .boolean fun _ => .u64 fun _ => .any _) ?_
  rintro ⟨id, fabric, nameSpace, name, generation, membership, authority, lifecycle, currentness, adminEnabled, minimum,
    conditional, governing⟩ -
  refine .present fun _ hid => .present fun _ hfabric => .present fun _ hspace => .present fun _ hname =>
    .present fun _ hgeneration => .present fun _ hmembership => .present fun _ hauthority => .present fun _ hgoverning =>
    .present fun _ _ => .present fun _ _ => .check fun _ => (decodeOptionalId_safe _ _).step fun _ hby =>
    (decodeOptionalId_safe _ _).step fun _ hsupersedes => (decodeRevocation_safe _).step fun _ hrevocation =>
    .check fun _ => .group (.read (.string maxReasonText)) fun _ _ => .group readProvenance_safe fun _ hprovenance =>
    .group (.read .u32) fun count _ => .check fun hcount => .check fun _ => ?_
  have hempty : ∀ r : SetRecord, r.members = ∅ → DecodedMembers limits r := by
    intro r hr path m hm
    rw [hr, Std.ExtTreeMap.getElem?_empty] at hm
    cases hm
  refine ((decodeMembers_safe _ (hempty _ rfl)).and (decodeMembers_yields limits _ _)).step fun r hr => .check fun _ =>
    .done ?_
  obtain ⟨hmembers, htakes⟩ := hr
  have hsize := htakes.size
  rw [Std.ExtTreeMap.size_empty, Nat.zero_add] at hsize
  have hrest := htakes.rest
  have hbound : count.toNat ≤ limits.maxMembersPerSet.toNat + limits.maxArchivedMembersPerSet.toNat + 1 := by
    rw [decide_eq_true_eq, UInt64.le_iff_toNat_le, UInt32.toNat_toUInt64, UInt64.toNat_add, UInt64.toNat_add] at hcount
    have hone : (1 : UInt64).toNat = 1 := rfl
    rw [hone] at hcount
    omega
  have hwellFormed : r.WellFormed := by
    constructor
    case members => exact fun path m hm => ⟨(hmembers path m hm).1, (hmembers path m hm).2.wellFormed⟩
    all_goals rw [hrest]
    case id => exact StrongId.valid_of_parse hid
    case key =>
      simp only [SetKey.valid, Bool.and_eq_true]
      exact ⟨⟨StrongId.valid_of_parse hfabric, StrongId.valid_of_parse hspace⟩, StrongId.valid_of_parse hname⟩
    case generation => exact Generation.valid_of_fromValue hgeneration
    case membershipGeneration => exact Generation.valid_of_fromValue hmembership
    case authorityGeneration => exact Generation.valid_of_fromValue hauthority
    case governingEpoch => exact Generation.valid_of_fromValue hgoverning
    case supersededBy => exact hby
    case supersedes => exact hsupersedes
    case revocation => exact hrevocation
    case provenance => exact hprovenance
    case history => exact fun entry hentry => absurd hentry List.not_mem_nil
  constructor
  · exact hwellFormed.congr rfl
  · exact hmembers
  · exact hsize.trans_le hbound

theorem decodeSets_safe (n total : ℕ) :
    Decoder.Safe (decodeSets limits n total) fun stored => ∀ r ∈ stored, DecodedSet limits r := by
  induction n generalizing total with
  | zero => exact .done fun r hr => absurd hr List.not_mem_nil
  | succ n ih =>
      refine (decodeSet_safe total).step fun r hr => (ih _).step fun rest hrest => .done ?_
      intro s hs
      rcases List.mem_cons.mp hs with rfl | hs
      · exact hr
      · exact hrest s hs

structure DecodedStore.WellFormed (limits : Limits) (decoded : DecodedStore) : Prop where
  epoch : decoded.epoch.valid = true
  authorityGeneration : decoded.authorityGeneration.valid = true
  fences : ∀ f ∈ decoded.fences, f.WellFormed
  sets : ∀ r ∈ decoded.sets, DecodedSet limits r
  within : WithinStore limits decoded

theorem decodePayload_safe : Decoder.Safe (decodePayload limits) (DecodedStore.WellFormed limits) := by
  have hparts : Decoder.Safe (decodePayload limits) fun decoded => decoded.epoch.valid = true ∧
      decoded.authorityGeneration.valid = true ∧ (∀ f ∈ decoded.fences, f.WellFormed) ∧
        ∀ r ∈ decoded.sets, DecodedSet limits r := by
    refine .group (.u32 fun _ => .u64 fun _ => .u64 fun _ => .u32 fun _ => .u32 fun _ => .any _) ?_
    rintro ⟨version, epoch, authority, fenceCount, setCount⟩ -
    exact .check fun _ => .present fun _ hepoch => .present fun _ hauthority => .check fun _ => .check fun _ =>
      (decodeFence_safe.times _).step fun _ hfences => (decodeSets_safe _ 0).step fun _ hsets =>
      .done ⟨Generation.valid_of_fromValue hepoch, Generation.valid_of_fromValue hauthority, hfences.2, hsets⟩
  refine (hparts.and (decodePayload_yields limits)).mono ?_
  rintro decoded ⟨⟨hepoch, hauthority, hfences, hsets⟩, hwithin⟩
  exact ⟨hepoch, hauthority, hfences, hsets, hwithin⟩

theorem decodeStore_wellFormed {file : Bytes} {decoded : DecodedStore} (h : decodeStore limits file = .ok decoded) :
    decoded.WellFormed limits := by
  unfold decodeStore at h
  simp only [Checked.bind_ok, Checked.pure_ok] at h
  obtain ⟨payload, _, ⟨value, rest⟩, hdecode, _, _, rfl⟩ := h
  exact decodePayload_safe.yields payload value rest hdecode

end MultipathFabric
