import MultipathFabric.StoreCodec

namespace MultipathFabric

open ByteCodec OrderedMap

theorem parse_view {d : IdDomain} (a : StrongId d) : ∀ b : StrongId d, StrongId.parse a.view = some b → b = a :=
  fun _ h => StrongId.ext (StrongId.view_of_parse h)

theorem readProvenance_returns {p : MembershipProvenance} (h : (provenanceFields p).all Field.fits = true) :
    Reader.Returns readProvenance (encode (provenanceFields p)) p := by
  simp only [provenanceFields, List.all_cons, List.all_nil, Bool.and_true, Bool.and_eq_true] at h
  obtain ⟨hpublisher, hboot, _, hattempt, _, _⟩ := h
  unfold readProvenance
  refine .field (Reader.string_takes hpublisher le_rfl) (.field (Reader.string_takes hboot le_rfl)
    (.field (Reader.u64_takes p.epoch.value) (.field (Reader.string_takes hattempt le_rfl)
      (.field (Reader.u64_takes p.setGeneration.value) (.field (Reader.u8_takes p.cause.raw) ?_)))))
  refine .bind_silent (Reader.present_takes (MembershipCause.fromRaw_raw p.cause)).returns ?_
  refine .bind_silent (Reader.present_returns (parse_view p.publisher)) ?_
  refine .bind_silent (Reader.present_returns (parse_view p.workerBoot)) ?_
  refine .bind_silent (Reader.present_returns (parse_view p.attempt)) ?_
  refine .bind_silent (Reader.present_returns fun g hg => fromValue_value hg) ?_
  refine .bind_silent (Reader.present_returns fun g hg => fromValue_value hg) ?_
  exact (Reader.Takes.pure _).returns

theorem decodeOptionalId_returns {d : IdDomain} {id : Option (StrongId d)} (truncated impossible : Bytes)
    (h : (optionalIdFields id).all Field.fits = true) :
    Decoder.Returns (decodeOptionalId truncated impossible) (encode (optionalIdFields id)) (id.filter StrongId.valid) := by
  unfold decodeOptionalId
  cases id with
  | none =>
      have hread : Reader.Takes readOptionalId (encode (optionalIdFields (none : Option (StrongId d)))) [] :=
        .field (Reader.boolean_takes false) (.pure _)
      exact (Decoder.group_takes hread).returns.last (Decoder.Takes.pure _).returns
  | some id =>
      simp only [optionalIdFields, List.all_cons, List.all_nil, Bool.and_true, Bool.and_eq_true] at h
      have hread : Reader.Takes readOptionalId (encode (optionalIdFields (some id))) id.view :=
        .field (Reader.boolean_takes true) (.only (Reader.string_takes h.2 le_rfl))
      refine (Decoder.group_takes hread).returns.last ?_
      by_cases hempty : id.view.isEmpty = true
      · have hnone : (some id).filter StrongId.valid = none := by
          rw [Option.filter_some, StrongId.valid, hempty]
          rfl
        rw [if_pos hempty, hnone]
        exact (Decoder.Takes.pure _).returns
      · have hsome : (some id).filter StrongId.valid = some id := by simp [StrongId.valid, hempty]
        rw [if_neg hempty, hsome]
        exact .bind_silent (Decoder.present_returns (parse_view id)) (Decoder.Takes.pure _).returns

namespace MemberRecord

def storedObservation (m : MemberRecord) : Option (PathAuthorityGeneration × PathAuthorityState) :=
  match m.observedAuthorityGeneration, m.observedAuthorityState with
  | some generation, some state => some (generation, state)
  | _, _ => none

def restored (m : MemberRecord) : MemberRecord :=
  { m with
    predecessor := m.predecessor.filter StrongId.valid
    successor := m.successor.filter StrongId.valid
    observedAuthorityGeneration := m.storedObservation.map Prod.fst
    observedAuthorityState := m.storedObservation.map Prod.snd }

end MemberRecord

theorem decodeObservation_returns (m : MemberRecord) :
    Decoder.Returns decodeObservation (encode (observationFields m)) m.storedObservation := by
  unfold decodeObservation observationFields MemberRecord.storedObservation
  have hnone : Decoder.Returns decodeObservation (encode [.u8 0]) none := by
    have hread : Reader.Takes Reader.boolean (encode [.u8 0]) false := .only (Reader.boolean_takes false)
    exact (Decoder.group_takes hread).returns.last (Decoder.Takes.pure _).returns
  cases m.observedAuthorityGeneration with
  | none => exact hnone
  | some generation =>
      cases m.observedAuthorityState with
      | none => exact hnone
      | some state =>
          have hflag : Reader.Takes Reader.boolean (encode [.u8 1]) true := .only (Reader.boolean_takes true)
          have hread : Reader.Takes (do
              let generation ← Reader.u64
              let state ← Reader.u8
              pure (generation, state)) (encode [.u64 generation.value, .u8 state.raw]) (generation.value, state.raw) :=
            .field (Reader.u64_takes _) (.field (Reader.u8_takes _) (.pure _))
          have hfields : [Field.u8 1, .u64 generation.value, .u8 state.raw] =
              [.u8 1] ++ [.u64 generation.value, .u8 state.raw] := rfl
          dsimp only
          rw [hfields]
          refine .fields (Decoder.group_takes hflag).returns ((Decoder.group_takes hread).returns.last ?_)
          refine .bind_silent (Decoder.present_takes (PathAuthorityState.fromRaw_raw state)).returns ?_
          refine .bind_silent (Decoder.present_returns fun g hg => fromValue_value hg) ?_
          exact (Decoder.Takes.pure _).returns

theorem decodeMember_returns {limits : Limits} {m : MemberRecord} (h : (storedMemberFields m).all Field.fits = true) :
    Decoder.Returns (decodeMember limits) (encode (storedMemberFields m)) m.restored := by
  simp only [storedMemberFields, List.all_append, Bool.and_eq_true] at h
  obtain ⟨hhead, hpredecessor, hsuccessor, _, hprovenance⟩ := h
  simp only [storedMemberHead, List.all_cons, List.all_nil, Bool.and_true, Bool.and_eq_true] at hhead
  obtain ⟨hid, hpath, _⟩ := hhead
  have hread : Reader.Takes (do
      let id ← Reader.string maxIdLength
      let path ← Reader.string maxIdLength
      let bound ← Reader.u64
      let generation ← Reader.u64
      let lifecycle ← Reader.u8
      let currentness ← Reader.u8
      let adminEnabled ← Reader.boolean
      let watermark ← Reader.u64
      let pending ← Reader.u32
      pure (id, path, bound, generation, lifecycle, currentness, adminEnabled, watermark, pending))
      (encode (storedMemberHead m)) (m.id.view, m.pathId.view, m.boundAuthorityGeneration.value, m.generation.value,
        m.lifecycle.raw, m.currentness.raw, m.adminEnabled, m.invalidationWatermark.value, m.pendingRevalidations) :=
    .field (Reader.string_takes hid le_rfl) (.field (Reader.string_takes hpath le_rfl) (.field (Reader.u64_takes _)
      (.field (Reader.u64_takes _) (.field (Reader.u8_takes _) (.field (Reader.u8_takes _)
        (.field (Reader.boolean_takes _) (.field (Reader.u64_takes _) (.field (Reader.u32_takes _) (.pure _)))))))))
  unfold decodeMember storedMemberFields
  refine .fields (Decoder.group_takes hread).returns ?_
  refine .bind_silent (Decoder.present_returns (parse_view m.id)) ?_
  refine .bind_silent (Decoder.present_returns (parse_view m.pathId)) ?_
  refine .bind_silent (Decoder.present_returns fun g hg => fromValue_value hg) ?_
  refine .bind_silent (Decoder.present_returns fun g hg => fromValue_value hg) ?_
  refine .bind_silent (Decoder.present_takes (MemberLifecycle.fromRaw_raw m.lifecycle)).returns ?_
  refine .bind_silent (Decoder.present_takes (MemberCurrentness.fromRaw_raw m.currentness)).returns ?_
  refine .bind_silent Decoder.check_returns ?_
  refine .fields (decodeOptionalId_returns _ _ hpredecessor) ?_
  refine .fields (decodeOptionalId_returns _ _ hsuccessor) ?_
  refine .fields (decodeObservation_returns m) ?_
  exact (Decoder.group_returns (readProvenance_returns hprovenance)).last (Decoder.Takes.pure _).returns

theorem decodeRevocation_returns (setId : MultipathSetId) {revocation : Option RevocationRecord}
    (h : (optionalRevocationFields revocation).all Field.fits = true) :
    Decoder.Returns (decodeRevocation setId) (encode (optionalRevocationFields revocation))
      (revocation.map fun revocation => { revocation with setId := setId }) := by
  unfold decodeRevocation
  cases revocation with
  | none =>
      have hread : Reader.Takes Reader.boolean (encode [.u8 0]) false := .only (Reader.boolean_takes false)
      exact (Decoder.group_takes hread).returns.last (Decoder.Takes.pure _).returns
  | some revocation =>
      simp only [optionalRevocationFields, storedRevocationFields, List.all_append, List.all_cons, List.all_nil,
        Bool.and_true, Bool.and_eq_true] at h
      obtain ⟨_, _, hdetail, _, _, _, hpublisher⟩ := h
      have hflag : Reader.Takes Reader.boolean (encode [.u8 1]) true := .only (Reader.boolean_takes true)
      have hread : Reader.Takes (do
          let reason ← Reader.u8
          let detail ← Reader.string maxReasonText
          let generation ← Reader.u64
          let authority ← Reader.u64
          let epoch ← Reader.u64
          let publisher ← Reader.string maxIdLength
          pure (reason, detail, generation, authority, epoch, publisher))
          (encode (storedRevocationFields revocation)) (revocation.reason.raw, revocation.detail,
            revocation.generation.value, revocation.authorityGeneration.value, revocation.epoch.value,
            revocation.publisher.view) :=
        .field (Reader.u8_takes _) (.field (Reader.string_takes hdetail le_rfl) (.field (Reader.u64_takes _)
          (.field (Reader.u64_takes _) (.field (Reader.u64_takes _)
            (.field (Reader.string_takes hpublisher le_rfl) (.pure _))))))
      refine .fields (Decoder.group_takes hflag).returns ((Decoder.group_takes hread).returns.last ?_)
      refine .bind_silent (Decoder.present_takes (RevocationReason.fromRaw_raw revocation.reason)).returns ?_
      refine .bind_silent (Decoder.present_returns fun g hg => fromValue_value hg) ?_
      refine .bind_silent (Decoder.present_returns fun g hg => fromValue_value hg) ?_
      refine .bind_silent (Decoder.present_returns fun g hg => fromValue_value hg) ?_
      refine .bind_silent (Decoder.present_returns (parse_view revocation.publisher)) ?_
      exact (Decoder.Takes.pure _).returns

namespace SetRecord

def takeMember (r : SetRecord) (m : MemberRecord) : SetRecord :=
  { r with
    memberIndex := r.memberIndex.insert m.id m.pathId
    members := r.members.insert m.pathId m }

theorem takeMembers (members : List MemberRecord) (r : SetRecord) :
    members.foldl takeMember r =
      { r with
        members := insertAll MemberRecord.pathId (fun m => m) members r.members
        memberIndex := insertAll MemberRecord.id MemberRecord.pathId members r.memberIndex } := by
  induction members generalizing r with
  | nil => rfl
  | cons m rest ih => exact ih (r.takeMember m)

end SetRecord

theorem decodeMembers_returns {limits : Limits} {members : List MemberRecord}
    (h : ∀ m ∈ members, (storedMemberFields m).all Field.fits = true) (r : SetRecord) :
    Decoder.Returns (decodeMembers limits members.length r) (encode (members.flatMap storedMemberFields))
      ((members.map MemberRecord.restored).foldl SetRecord.takeMember r) := by
  induction members generalizing r with
  | nil => exact (Decoder.Takes.pure _).returns
  | cons m rest ih =>
      rw [List.length_cons, List.flatMap_cons]
      unfold decodeMembers
      refine .fields (decodeMember_returns (h m List.mem_cons_self)) ?_
      refine .bind_silent Decoder.check_returns (.bind_silent Decoder.check_returns ?_)
      exact ih (fun other hother => h other (List.mem_cons_of_mem _ hother)) _

namespace SetRecord

def Placed (r : SetRecord) : Prop := ∀ (path : PathId) (m : MemberRecord), r.members[path]? = some m → m.pathId = path

def restored (r : SetRecord) : SetRecord :=
  let stored : SetRecord :=
    { r with
      supersededBy := r.supersededBy.filter StrongId.valid
      supersedes := r.supersedes.filter StrongId.valid
      revocation := r.revocation.map fun revocation => { revocation with setId := r.id }
      history := []
      invalidationWatermark := ⟨0⟩
      members := r.members.map fun _ (m : MemberRecord) => m.restored
      memberIndex := insertAll MemberRecord.id MemberRecord.pathId (storedMembers r) ∅ }
  { stored with usableMemberCount := stored.recomputeUsableMembers }

theorem restored_members {r : SetRecord} (placed : r.Placed) :
    insertAll MemberRecord.pathId (fun m => m) ((storedMembers r).map MemberRecord.restored) ∅ =
      r.members.map fun _ (m : MemberRecord) => m.restored := by
  have hentries : ((storedMembers r).map MemberRecord.restored).map (fun m => (m.pathId, m)) =
      (r.members.map fun _ (m : MemberRecord) => m.restored).toList := by
    rw [Std.ExtTreeMap.toList_map, storedMembers, List.map_map, List.map_map]
    apply List.map_congr_left
    rintro ⟨path, m⟩ hentry
    have hpath : m.pathId = path := placed path m (Std.ExtTreeMap.mem_toList_iff_getElem?_eq_some.mp hentry)
    rw [← hpath]
    rfl
  rw [← insertAll_toList (r.members.map fun _ (m : MemberRecord) => m.restored), ← hentries, List.foldl_map]
  rfl

end SetRecord

theorem decodeSet_returns {limits : Limits} {r : SetRecord} (total : ℕ) (placed : r.Placed)
    (small : r.members.size < 2 ^ 32) (h : (storedSetFields r).all Field.fits = true) :
    Decoder.Returns (decodeSet limits total) (encode (storedSetFields r)) r.restored := by
  simp only [storedSetFields, List.all_append, List.all_flatMap, Bool.and_eq_true, List.all_eq_true] at h
  obtain ⟨hhead, hsuperseded, hsupersedes, hrevocation, hreason, hprovenance, _, hmembers⟩ := h
  simp only [storedSetHead, List.mem_cons, List.not_mem_nil, or_false, forall_eq_or_imp, forall_eq] at hhead
  obtain ⟨hid, hfabric, hspace, hname, _⟩ := hhead
  have hread : Reader.Takes (do
      let id ← Reader.string maxIdLength
      let fabric ← Reader.string maxIdLength
      let nameSpace ← Reader.string maxIdLength
      let name ← Reader.string maxIdLength
      let generation ← Reader.u64
      let membership ← Reader.u64
      let authority ← Reader.u64
      let lifecycle ← Reader.u8
      let currentness ← Reader.u8
      let adminEnabled ← Reader.boolean
      let minimum ← Reader.u64
      let conditional ← Reader.boolean
      let governing ← Reader.u64
      pure (id, fabric, nameSpace, name, generation, membership, authority, lifecycle, currentness,
        adminEnabled, minimum, conditional, governing))
      (encode (storedSetHead r)) (r.id.view, r.key.fabric.view, r.key.nameSpace.view, r.key.name.view,
        r.generation.value, r.membershipGeneration.value, r.authorityGeneration.value, r.lifecycle.raw,
        r.currentness.raw, r.adminEnabled, r.minimumUsableMembers, r.conditionalAuthorityPermitted,
        r.governingEpoch.value) :=
    .field (Reader.string_takes hid le_rfl) (.field (Reader.string_takes hfabric le_rfl)
      (.field (Reader.string_takes hspace le_rfl) (.field (Reader.string_takes hname le_rfl)
        (.field (Reader.u64_takes _) (.field (Reader.u64_takes _) (.field (Reader.u64_takes _)
          (.field (Reader.u8_takes _) (.field (Reader.u8_takes _) (.field (Reader.boolean_takes _)
            (.field (Reader.u64_takes _) (.field (Reader.boolean_takes _) (.field (Reader.u64_takes _)
              (.pure _)))))))))))))
  have hwithdrawal : Reader.Takes (Reader.string maxReasonText) (encode [.string r.withdrawalReason maxReasonText])
      r.withdrawalReason := .only (Reader.string_takes (hreason _ List.mem_cons_self) le_rfl)
  have hcount : Reader.Takes Reader.u32 (encode [.u32 (UInt32.ofNat r.members.size)]) (UInt32.ofNat r.members.size) :=
    .only (Reader.u32_takes _)
  have hlength : (UInt32.ofNat r.members.size).toNat = (storedMembers r).length := by
    rw [UInt32.toNat_ofNat', Nat.mod_eq_of_lt small, storedMembers, List.length_map, Std.ExtTreeMap.length_toList]
  unfold decodeSet storedSetFields
  refine .fields (Decoder.group_takes hread).returns ?_
  refine .bind_silent (Decoder.present_returns (parse_view r.id)) ?_
  refine .bind_silent (Decoder.present_returns (parse_view r.key.fabric)) ?_
  refine .bind_silent (Decoder.present_returns (parse_view r.key.nameSpace)) ?_
  refine .bind_silent (Decoder.present_returns (parse_view r.key.name)) ?_
  refine .bind_silent (Decoder.present_returns fun g hg => fromValue_value hg) ?_
  refine .bind_silent (Decoder.present_returns fun g hg => fromValue_value hg) ?_
  refine .bind_silent (Decoder.present_returns fun g hg => fromValue_value hg) ?_
  refine .bind_silent (Decoder.present_returns fun g hg => fromValue_value hg) ?_
  refine .bind_silent (Decoder.present_takes (SetLifecycle.fromRaw_raw r.lifecycle)).returns ?_
  refine .bind_silent (Decoder.present_takes (SetCurrentness.fromRaw_raw r.currentness)).returns ?_
  refine .bind_silent Decoder.check_returns ?_
  refine .fields (decodeOptionalId_returns _ _ (List.all_eq_true.mpr hsuperseded)) ?_
  refine .fields (decodeOptionalId_returns _ _ (List.all_eq_true.mpr hsupersedes)) ?_
  refine .fields (decodeRevocation_returns r.id (List.all_eq_true.mpr hrevocation)) ?_
  refine .bind_silent Decoder.check_returns ?_
  refine .fields (Decoder.group_takes hwithdrawal).returns ?_
  refine .fields (Decoder.group_returns (readProvenance_returns (List.all_eq_true.mpr hprovenance))) ?_
  refine .fields (Decoder.group_takes hcount).returns ?_
  refine .bind_silent Decoder.check_returns (.bind_silent Decoder.check_returns ?_)
  rw [hlength]
  refine .last (decodeMembers_returns (fun m hm => ?_) _) ?_
  · rw [List.all_eq_true]
    exact fun field hfield => hmembers m hm field hfield
  · rw [SetRecord.takeMembers, SetRecord.restored_members placed]
    refine .bind_silent Decoder.check_returns ?_
    have hindex : insertAll MemberRecord.id MemberRecord.pathId ((storedMembers r).map MemberRecord.restored)
        (∅ : Std.ExtTreeMap MultipathMemberId PathId) = insertAll MemberRecord.id MemberRecord.pathId (storedMembers r) ∅ := by
      unfold insertAll
      rw [List.foldl_map]
      rfl
    rw [hindex]
    exact (Decoder.Takes.pure _).returns

theorem decodeSets_returns {limits : Limits} {stored : List SetRecord} (placed : ∀ r ∈ stored, r.Placed)
    (small : ∀ r ∈ stored, r.members.size < 2 ^ 32) (h : ∀ r ∈ stored, (storedSetFields r).all Field.fits = true)
    (total : ℕ) :
    Decoder.Returns (decodeSets limits stored.length total) (encode (stored.flatMap storedSetFields))
      (stored.map SetRecord.restored) := by
  induction stored generalizing total with
  | nil => exact (Decoder.Takes.pure _).returns
  | cons r rest ih =>
      rw [List.length_cons, List.flatMap_cons]
      unfold decodeSets
      refine .fields (decodeSet_returns total (placed r List.mem_cons_self) (small r List.mem_cons_self)
        (h r List.mem_cons_self)) ?_
      refine (ih ?_ ?_ ?_ _).last (Decoder.Takes.pure _).returns
      · exact fun r hr => placed r (List.mem_cons_of_mem _ hr)
      · exact fun r hr => small r (List.mem_cons_of_mem _ hr)
      · exact fun r hr => h r (List.mem_cons_of_mem _ hr)

structure FabricEngine.Storable (e : FabricEngine) : Prop where
  fences : e.fences.size < 2 ^ 32
  sets : e.sets.size < 2 ^ 32
  members : ∀ (setId : MultipathSetId) (r : SetRecord), e.sets[setId]? = some r → r.members.size < 2 ^ 32

/-- What a saved store decodes to. -/
def FabricEngine.stored (e : FabricEngine) : DecodedStore where
  epoch := e.currentEpoch
  authorityGeneration := e.currentAuthorityGeneration
  fences := storedFences e
  sets := (storedSets e).map SetRecord.restored

theorem storedSets_found {e : FabricEngine} {r : SetRecord} (h : r ∈ storedSets e) :
    ∃ setId : MultipathSetId, e.sets[setId]? = some r := by
  obtain ⟨⟨setId, found⟩, hentry, rfl⟩ := List.mem_map.mp h
  exact ⟨setId, Std.ExtTreeMap.mem_toList_iff_getElem?_eq_some.mp hentry⟩

def FabricEngine.Placed (e : FabricEngine) : Prop :=
  ∀ (setId : MultipathSetId) (r : SetRecord), e.sets[setId]? = some r → r.Placed

theorem decodePayload_returns {limits : Limits} {e : FabricEngine} (placed : e.Placed) (small : e.Storable)
    (fits : (storeFields e).all Field.fits = true) :
    Decoder.Returns (decodePayload limits) (encode (storeFields e)) e.stored := by
  simp only [storeFields, List.all_append, List.all_flatMap, Bool.and_eq_true, List.all_eq_true] at fits
  obtain ⟨_, hfences, hsets⟩ := fits
  have hread : Reader.Takes (do
      let version ← Reader.u32
      let epoch ← Reader.u64
      let authority ← Reader.u64
      let fenceCount ← Reader.u32
      let setCount ← Reader.u32
      pure (version, epoch, authority, fenceCount, setCount))
      (encode (storeHead e)) (persistenceFormatVersion, e.currentEpoch.value, e.currentAuthorityGeneration.value,
        UInt32.ofNat e.fences.size, UInt32.ofNat e.sets.size) :=
    .field (Reader.u32_takes _) (.field (Reader.u64_takes _) (.field (Reader.u64_takes _)
      (.field (Reader.u32_takes _) (.field (Reader.u32_takes _) (.pure _)))))
  have hfenceCount : (UInt32.ofNat e.fences.size).toNat = (storedFences e).length := by
    rw [UInt32.toNat_ofNat', Nat.mod_eq_of_lt small.fences, storedFences, List.length_map, Std.ExtTreeMap.length_toList]
  have hsetCount : (UInt32.ofNat e.sets.size).toNat = (storedSets e).length := by
    rw [UInt32.toNat_ofNat', Nat.mod_eq_of_lt small.sets, storedSets, List.length_map, Std.ExtTreeMap.length_toList]
  have hflat : encode ((storedFences e).flatMap storedFenceFields) =
      (storedFences e).flatMap fun f => encode (storedFenceFields f) := by
    unfold encode
    rw [List.flatMap_assoc]
  have htimes : Decoder.Returns (Decoder.times decodeFence (storedFences e).length)
      (encode ((storedFences e).flatMap storedFenceFields)) (storedFences e) := by
    rw [hflat]
    apply Decoder.times_returns
    intro f hf
    apply decodeFence_returns
    rw [List.all_eq_true]
    exact fun field hfield => hfences f hf field hfield
  unfold decodePayload storeFields
  refine .fields (Decoder.group_takes hread).returns ?_
  dsimp only
  rw [hfenceCount, hsetCount]
  refine .bind_silent Decoder.check_returns ?_
  refine .bind_silent (Decoder.present_returns fun g hg => fromValue_value hg) ?_
  refine .bind_silent (Decoder.present_returns fun g hg => fromValue_value hg) ?_
  refine .bind_silent Decoder.check_returns (.bind_silent Decoder.check_returns ?_)
  refine .fields htimes ?_
  refine (decodeSets_returns ?_ ?_ ?_ 0).last (Decoder.Takes.pure _).returns
  · intro r hr
    obtain ⟨setId, hfound⟩ := storedSets_found hr
    exact placed setId r hfound
  · intro r hr
    obtain ⟨setId, hfound⟩ := storedSets_found hr
    exact small.members setId r hfound
  · intro r hr
    rw [List.all_eq_true]
    exact fun field hfield => hsets r hr field hfield

theorem decodeStore_saved {limits : Limits} {e : FabricEngine} {bytes : Bytes} {decoded : DecodedStore}
    (placed : e.Placed) (small : e.Storable) (saved : encodeStore e = .ok bytes)
    (read : decodeStore limits bytes = .ok decoded) : decoded = e.stored := by
  obtain ⟨rfl, hfits, hbound⟩ := encodeStore_saved saved
  obtain ⟨rest, hdecode⟩ := decodeStore_storeFile hbound read
  rw [← List.append_nil (encode (storeFields e))] at hdecode
  exact (Prod.mk.inj (decodePayload_returns placed small hfits [] _ hdecode)).1

end MultipathFabric
