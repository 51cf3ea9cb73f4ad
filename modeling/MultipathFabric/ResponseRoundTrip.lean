import MultipathFabric.ResponseDecoder
import MultipathFabric.WireCodec

namespace MultipathFabric

open ByteCodec

structure FabricOutcome.WellFormed (o : FabricOutcome) : Prop where
  setId : ∀ id, o.setId = some id → id.valid = true
  memberId : ∀ id, o.memberId = some id → id.valid = true
  pathId : ∀ id, o.pathId = some id → id.valid = true
  setGeneration : ∀ g, o.setGeneration = some g → g.valid = true
  membershipGeneration : ∀ g, o.membershipGeneration = some g → g.valid = true
  memberGeneration : ∀ g, o.memberGeneration = some g → g.valid = true
  authorityGeneration : ∀ g, o.authorityGeneration = some g → g.valid = true
  usableMembers : ∀ n, o.usableMembers = some n → n < 2 ^ 64

instance (o : FabricOutcome) : Decidable o.WellFormed :=
  decidable_of_iff
    ((∀ id ∈ o.setId, id.valid = true) ∧ (∀ id ∈ o.memberId, id.valid = true) ∧ (∀ id ∈ o.pathId, id.valid = true) ∧
      (∀ g ∈ o.setGeneration, g.valid = true) ∧ (∀ g ∈ o.membershipGeneration, g.valid = true) ∧
      (∀ g ∈ o.memberGeneration, g.valid = true) ∧ (∀ g ∈ o.authorityGeneration, g.valid = true) ∧
      ∀ n ∈ o.usableMembers, n < 2 ^ 64)
    ⟨fun ⟨set, member, path, generation, membership, memberGeneration, authority, usable⟩ =>
        ⟨set, member, path, generation, membership, memberGeneration, authority, usable⟩,
      fun h => ⟨h.setId, h.memberId, h.pathId, h.setGeneration, h.membershipGeneration, h.memberGeneration,
        h.authorityGeneration, h.usableMembers⟩⟩

theorem makeRejection_wellFormed (code : OutcomeCode) (detail : Bytes) : (makeRejection code detail).WellFormed := by
  constructor
  all_goals
    intro x hx
    cases hx

structure RevocationRecord.WellFormed (revocation : RevocationRecord) : Prop where
  generation : revocation.generation.valid = true
  authorityGeneration : revocation.authorityGeneration.valid = true
  epoch : revocation.epoch.valid = true
  publisher : revocation.publisher.valid = true

structure HistoryEntry.WellFormed (entry : HistoryEntry) : Prop where
  setGeneration : entry.setGeneration.valid = true
  epoch : entry.epoch.valid = true
  memberId : ∀ id, entry.memberId = some id → id.valid = true
  pathId : ∀ id, entry.pathId = some id → id.valid = true

structure MemberSnapshot.WellFormed (m : MemberSnapshot) : Prop where
  id : m.id.valid = true
  pathId : m.pathId.valid = true
  boundAuthorityGeneration : m.boundAuthorityGeneration.valid = true
  generation : m.generation.valid = true
  predecessor : ∀ id, m.predecessor = some id → id.valid = true
  successor : ∀ id, m.successor = some id → id.valid = true
  provenance : m.provenance.setGeneration.valid = true

structure SetSnapshot.WellFormed (s : SetSnapshot) : Prop where
  snapshotId : s.snapshotId.valid = true
  setId : s.setId.valid = true
  key : s.key.valid = true
  generation : s.generation.valid = true
  membershipGeneration : s.membershipGeneration.valid = true
  authorityGeneration : s.authorityGeneration.valid = true
  governingEpoch : s.governingEpoch.valid = true
  supersededBy : ∀ id, s.supersededBy = some id → id.valid = true
  supersedes : ∀ id, s.supersedes = some id → id.valid = true
  revocation : ∀ revocation, s.revocation = some revocation → revocation.WellFormed ∧ revocation.setId = s.setId
  provenance : s.provenance.epoch.valid = true ∧ s.provenance.setGeneration.valid = true
  history : ∀ entry ∈ s.history, entry.WellFormed
  members : ∀ m ∈ s.members, m.WellFormed
  memberCount : s.memberCount = s.members.length
  usableMemberCount : s.usableMemberCount < 2 ^ 64

structure MemberExplanation.WellFormed (m : MemberExplanation) : Prop where
  id : m.id.valid = true
  pathId : m.pathId.valid = true
  boundAuthorityGeneration : m.boundAuthorityGeneration.valid = true
  observedAuthorityGeneration : ∀ g, m.observedAuthorityGeneration = some g → g.valid = true

structure SetExplanation.WellFormed (x : SetExplanation) : Prop where
  setId : x.setId.valid = true
  key : x.key.valid = true
  memberCount : x.memberCount < 2 ^ 64
  usableMemberCount : x.usableMemberCount < 2 ^ 64
  governingEpoch : x.governingEpoch.valid = true
  authorityGeneration : x.authorityGeneration.valid = true
  lastMutatingPublisher : ∀ id, x.lastMutatingPublisher = some id → id.valid = true
  reasons : x.reasons.length ≤ 4096
  members : ∀ m ∈ x.members, m.WellFormed

namespace Wire

structure WireResponse.WellFormed (response : WireResponse) : Prop where
  outcome : response.outcome.WellFormed
  snapshot : ∀ s, response.snapshot = some s → s.WellFormed
  explanation : ∀ x, response.explanation = some x → x.WellFormed
  setIds : ∀ id ∈ response.setIds, id.valid = true

section Parts

variable {α : Type} {p : WireDecoder α} {f : α → List Field}

theorem decodeWhen_takes {x : Option α} (h : ∀ a, x = some a → Decoder.Takes p (encode (f a)) a) :
    Decoder.Takes (decodeWhen x.isSome p) (encode (optionalFields f x)) x := by
  cases x with
  | none => exact .pure _
  | some a => exact (h a rfl).last (.pure _)

theorem decodeIdentity_takes {d : IdDomain} {id : StrongId d} (h : id.valid = true) (truncated invalid : Bytes) :
    Decoder.Takes (decodeIdentity truncated invalid) (encode [idField id]) id :=
  (Decoder.group_takes (id_takes id).only).last (identity_takes h invalid)

theorem decodeGeneration_takes {d : GenerationDomain} {g : Generation d} (h : g.valid = true)
    (truncated impossible : Bytes) :
    Decoder.Takes (decodeGeneration truncated impossible) (encode [.u64 g.value]) g :=
  (Decoder.group_takes (Reader.u64_takes g.value).only).last (checked_generation_takes h _)

theorem decodeEnumerator_takes {fromRaw : UInt8 → Option α} {raw : UInt8} {a : α} (h : fromRaw raw = some a)
    (truncated bad : Bytes) : Decoder.Takes (decodeEnumerator fromRaw truncated bad) (encode [.u8 raw]) a :=
  (Decoder.group_takes (Reader.u8_takes raw).only).last (Decoder.present_takes h)

theorem decodeNumber_takes (n : UInt64) (truncated : Bytes) :
    Decoder.Takes (decodeNumber truncated) (encode [.u64 n]) n :=
  Decoder.group_takes (Reader.u64_takes n).only

theorem decodeFlag_takes (flag : Bool) (truncated : Bytes) :
    Decoder.Takes (decodeFlag truncated) (encode [.boolean flag]) flag :=
  Decoder.group_takes (Reader.boolean_takes flag).only

theorem decodeCounted_takes {values : List α} {bound : UInt32} (within : values.length ≤ bound.toNat)
    (h : ∀ value ∈ values, Decoder.Takes p (encode (f value)) value) (truncated absurd : Bytes) :
    Decoder.Takes (decodeCounted p bound truncated absurd)
      (encode (Field.u32 (UInt32.ofNat values.length) :: values.flatMap f)) values := by
  have hlt : values.length < 2 ^ 32 := lt_of_le_of_lt within bound.toNat_lt
  refine (Decoder.group_takes (Reader.u32_takes _)).bind ?_
  have hwithin : decide (UInt32.ofNat values.length ≤ bound) = true := by
    rw [decide_eq_true_iff, UInt32.le_iff_toNat_le, toNat_ofNat_of_lt hlt]
    exact within
  refine (Decoder.check_takes hwithin).bind_silent ?_
  change Decoder.Takes _ (encode (values.flatMap f)) _
  rw [toNat_ofNat_of_lt hlt, encode, List.flatMap_assoc]
  exact Decoder.times_takes h

theorem readOptionalId_takes {d : IdDomain} (id : Option (StrongId d)) :
    Reader.Takes readOptionalId (encode (optionalIdField id)) ((id.map StrongId.view).getD []) := by
  cases id with
  | none => exact (Reader.boolean_takes false).field (.pure _)
  | some id => exact (Reader.boolean_takes true).field (id_takes id).only

theorem view_not_empty {d : IdDomain} {id : StrongId d} (h : id.valid = true) : id.view.isEmpty = false := by
  simpa [StrongId.valid] using h

theorem decodeOptionalId_takes {d : IdDomain} {id : Option (StrongId d)} (h : ∀ a, id = some a → a.valid = true)
    (truncated invalid : Bytes) :
    Decoder.Takes (decodeOptionalId truncated invalid) (encode (optionalIdField id)) id := by
  refine (Decoder.group_takes (readOptionalId_takes id)).last ?_
  cases id with
  | none => exact .pure _
  | some id =>
      change Decoder.Takes (if id.view.isEmpty then _ else _) _ _
      rw [view_not_empty (h id rfl), if_neg Bool.false_ne_true]
      exact (identity_takes (h id rfl) invalid).bind_silent (.pure _)

theorem decodeUnset_takes {d : IdDomain} (id : StrongId d) (invalid : Bytes) :
    Decoder.Takes (decodeUnset id.view invalid) [] id := by
  unfold decodeUnset
  split
  · rename_i hempty
    have hunset : id = .unset := StrongId.ext (List.isEmpty_iff.mp hempty)
    rw [hunset]
    exact .pure _
  · rename_i hne
    exact identity_takes (by simpa [StrongId.valid] using hne) invalid

theorem orElse_valid {d : GenerationDomain} {g : Generation d} (h : g.valid = true) (fallback : UInt64) :
    orElse g fallback = g.value := if_pos h

theorem orElse_zero {d : GenerationDomain} (g : Generation d) : orElse g 0 = g.value := by
  unfold orElse
  split
  · rfl
  · rename_i h
    rw [Generation.valid, bne_iff_ne, not_not] at h
    exact h.symm

theorem decodeUnsetGeneration_takes {d : GenerationDomain} (g : Generation d) (impossible : Bytes) :
    Decoder.Takes (decodeUnsetGeneration g.value impossible) [] g := by
  unfold decodeUnsetGeneration
  split
  · rename_i hzero
    have hunset : g = .unset := Generation.ext hzero
    rw [hunset]
    exact .pure _
  · rename_i hne
    exact checked_generation_takes (by simpa [Generation.valid] using hne) _

theorem bitSet_presence (b₀ b₁ b₂ b₃ b₄ b₅ b₆ b₇ : Bool) :
    bitSet (presenceMask [b₀, b₁, b₂, b₃, b₄, b₅, b₆, b₇]) 0x01 = b₀ ∧
    bitSet (presenceMask [b₀, b₁, b₂, b₃, b₄, b₅, b₆, b₇]) 0x02 = b₁ ∧
    bitSet (presenceMask [b₀, b₁, b₂, b₃, b₄, b₅, b₆, b₇]) 0x04 = b₂ ∧
    bitSet (presenceMask [b₀, b₁, b₂, b₃, b₄, b₅, b₆, b₇]) 0x08 = b₃ ∧
    bitSet (presenceMask [b₀, b₁, b₂, b₃, b₄, b₅, b₆, b₇]) 0x10 = b₄ ∧
    bitSet (presenceMask [b₀, b₁, b₂, b₃, b₄, b₅, b₆, b₇]) 0x20 = b₅ ∧
    bitSet (presenceMask [b₀, b₁, b₂, b₃, b₄, b₅, b₆, b₇]) 0x40 = b₆ ∧
    bitSet (presenceMask [b₀, b₁, b₂, b₃, b₄, b₅, b₆, b₇]) 0x80 = b₇ := by
  revert b₀ b₁ b₂ b₃ b₄ b₅ b₆ b₇
  decide

theorem bitSet_presence_low (b₀ b₁ b₂ b₃ : Bool) :
    bitSet (presenceMask [b₀, b₁, b₂, b₃]) 0x01 = b₀ ∧ bitSet (presenceMask [b₀, b₁, b₂, b₃]) 0x02 = b₁ ∧
    bitSet (presenceMask [b₀, b₁, b₂, b₃]) 0x04 = b₂ ∧ bitSet (presenceMask [b₀, b₁, b₂, b₃]) 0x08 = b₃ := by
  revert b₀ b₁ b₂ b₃
  decide

end Parts

theorem detail_takes {t : Bytes} {bound : ℕ} (h : (Field.string t bound).fits = true) :
    Reader.Takes (Reader.string bound) (encode [.string t bound]) t :=
  (Reader.string_takes h le_rfl).only

theorem readDigest_takes (d : Digest128) : Reader.Takes (do
      let high ← Reader.u64
      let low ← Reader.u64
      pure (Digest128.mk high low)) (encode [.u64 d.high, .u64 d.low]) d :=
  (Reader.u64_takes d.high).field ((Reader.u64_takes d.low).field (.pure _))

theorem ofNat_toNat {n : ℕ} (h : n < 2 ^ 64) : (UInt64.ofNat n).toNat = n := by
  rw [UInt64.toNat_ofNat']
  exact Nat.mod_eq_of_lt h

theorem decodeOutcome_takes {o : FabricOutcome} (h : o.WellFormed) (fits : (outcomeFields o).all Field.fits = true) :
    Decoder.Takes decodeOutcome (encode (outcomeFields o)) o := by
  have hdetail : (Field.string o.detail maxDetailLength).fits = true := by
    apply List.all_eq_true.mp fits
    unfold outcomeFields
    exact List.mem_append_right _ List.mem_cons_self
  have husable : (o.usableMembers.map UInt64.ofNat).map UInt64.toNat = o.usableMembers := by
    cases hn : o.usableMembers with
    | none => rfl
    | some n => exact congrArg some (ofNat_toNat (h.usableMembers n hn))
  have hcount : optionalFields (fun n => [Field.u64 (UInt64.ofNat n)]) o.usableMembers =
      optionalFields (fun n => [Field.u64 n]) (o.usableMembers.map UInt64.ofNat) := by
    cases o.usableMembers <;> rfl
  have hsome : o.usableMembers.isSome = (o.usableMembers.map UInt64.ofNat).isSome := by
    cases o.usableMembers <;> rfl
  obtain ⟨h₀, h₁, h₂, h₃, h₄, h₅, h₆, h₇⟩ := bitSet_presence o.setId.isSome o.memberId.isSome o.pathId.isSome
    o.setGeneration.isSome o.membershipGeneration.isSome o.memberGeneration.isSome o.authorityGeneration.isSome
    o.lifecycle.isSome
  obtain ⟨l₀, l₁, l₂, l₃⟩ := bitSet_presence_low o.currentness.isSome o.usableMembers.isSome
    o.minimumUsableMembers.isSome o.digest.isSome
  unfold outcomeFields decodeOutcome
  simp only [List.append_assoc]
  refine (Decoder.group_takes ((Reader.u16_takes _).field ((Reader.u8_takes _).field ((Reader.u8_takes _).field
    ((Reader.u8_takes _).field (.pure _)))))).fields ?_
  refine (Decoder.present_takes (OutcomeCode.fromRaw_raw _)).bind_silent ?_
  refine (Decoder.present_takes (RejectionStage.fromRaw_raw _)).bind_silent ?_
  rw [h₀, h₁, h₂, h₃, h₄, h₅, h₆, h₇, l₀, l₁, l₂, l₃, hcount, hsome]
  refine (decodeWhen_takes fun id hid => decodeIdentity_takes (h.setId id hid) _ _).fields ?_
  refine (decodeWhen_takes fun id hid => decodeIdentity_takes (h.memberId id hid) _ _).fields ?_
  refine (decodeWhen_takes fun id hid => decodeIdentity_takes (h.pathId id hid) _ _).fields ?_
  refine (decodeWhen_takes fun g hg => decodeGeneration_takes (h.setGeneration g hg) _ _).fields ?_
  refine (decodeWhen_takes fun g hg => decodeGeneration_takes (h.membershipGeneration g hg) _ _).fields ?_
  refine (decodeWhen_takes fun g hg => decodeGeneration_takes (h.memberGeneration g hg) _ _).fields ?_
  refine (decodeWhen_takes fun g hg => decodeGeneration_takes (h.authorityGeneration g hg) _ _).fields ?_
  refine (decodeWhen_takes fun l _ => decodeEnumerator_takes (SetLifecycle.fromRaw_raw l) _ _).fields ?_
  refine (decodeWhen_takes fun c _ => decodeEnumerator_takes (SetCurrentness.fromRaw_raw c) _ _).fields ?_
  refine (decodeWhen_takes fun n _ => decodeNumber_takes n _).fields ?_
  refine (decodeWhen_takes fun n _ => decodeNumber_takes n _).fields ?_
  refine (decodeWhen_takes fun d _ => Decoder.group_takes (readDigest_takes d)).fields ?_
  refine (Decoder.group_takes (detail_takes hdetail)).last ?_
  rw [husable]
  exact .pure _

theorem readProvenance_takes (p : MembershipProvenance) (fallback : UInt64) :
    Reader.Takes readProvenance (encode (provenanceFields p fallback))
      (p.publisher.view, p.workerBoot.view, orElse p.epoch fallback, p.attempt.view, orElse p.setGeneration 1,
        p.cause.raw) :=
  (id_takes _).field ((id_takes _).field ((Reader.u64_takes _).field ((id_takes _).field
    ((Reader.u64_takes _).field ((Reader.u8_takes _).field (.pure _))))))

theorem decodeSetProvenance_takes {p : MembershipProvenance} (epoch : p.epoch.valid = true)
    (generation : p.setGeneration.valid = true) :
    Decoder.Takes decodeSetProvenance (encode (provenanceFields p 1)) p := by
  unfold decodeSetProvenance
  refine (Decoder.group_takes (readProvenance_takes p 1)).last ?_
  rw [orElse_valid epoch, orElse_valid generation]
  refine (Decoder.present_takes (MembershipCause.fromRaw_raw p.cause)).bind_silent ?_
  refine (decodeUnset_takes p.publisher _).bind_silent ((decodeUnset_takes p.workerBoot _).bind_silent
    ((decodeUnset_takes p.attempt _).bind_silent ?_))
  exact (checked_generation_takes epoch _).bind_silent
    ((decodeUnsetGeneration_takes p.setGeneration _).bind_silent (.pure _))

theorem decodeMemberProvenance_takes {p : MembershipProvenance} (generation : p.setGeneration.valid = true) :
    Decoder.Takes decodeMemberProvenance (encode (provenanceFields p 0)) p := by
  unfold decodeMemberProvenance
  refine (Decoder.group_takes (readProvenance_takes p 0)).last ?_
  rw [orElse_zero, orElse_valid generation]
  refine (Decoder.present_takes (MembershipCause.fromRaw_raw p.cause)).bind_silent ?_
  refine (decodeUnsetGeneration_takes p.setGeneration _).bind_silent ?_
  refine (decodeUnset_takes p.publisher _).bind_silent ((decodeUnset_takes p.workerBoot _).bind_silent ?_)
  exact (decodeUnsetGeneration_takes p.epoch _).bind_silent ((decodeUnset_takes p.attempt _).bind_silent (.pure _))

theorem decodeRevocation_takes {setId : MultipathSetId} {revocation : Option RevocationRecord}
    (h : ∀ r, revocation = some r → r.WellFormed ∧ r.setId = setId)
    (fits : (revocationFields revocation).all Field.fits = true) (truncated : Bytes) :
    Decoder.Takes (do
        let revoked ← decodeFlag truncated
        decodeWhen revoked (decodeRevocation setId))
      (encode (revocationFields revocation)) revocation := by
  cases revocation with
  | none => exact (decodeFlag_takes false truncated).last (.pure _)
  | some r =>
      obtain ⟨hr, rfl⟩ := h r rfl
      have hdetail : (Field.string r.detail maxTextLength).fits = true :=
        List.all_eq_true.mp fits _ (List.mem_cons_of_mem _ (List.mem_cons_of_mem _ List.mem_cons_self))
      have hfields : revocationFields (some r) = [Field.boolean true] ++ [.u8 r.reason.raw, .string r.detail maxTextLength,
          .u64 r.generation.value, .u64 r.authorityGeneration.value, .u64 r.epoch.value, idField r.publisher] := rfl
      rw [hfields]
      refine (decodeFlag_takes true truncated).fields ?_
      refine Decoder.Takes.last (x := r) ?_ (.pure _)
      unfold decodeRevocation
      refine (Decoder.group_takes ((Reader.u8_takes _).field ((Reader.string_takes hdetail le_rfl).field
        ((Reader.u64_takes _).field ((Reader.u64_takes _).field ((Reader.u64_takes _).field
          ((id_takes _).field (.pure _)))))))).last ?_
      refine (Decoder.present_takes (RevocationReason.fromRaw_raw r.reason)).bind_silent ?_
      refine (checked_generation_takes hr.generation _).bind_silent
        ((checked_generation_takes hr.authorityGeneration _).bind_silent ?_)
      exact (checked_generation_takes hr.epoch _).bind_silent
        ((Decoder.present_takes (r.publisher.parse_view hr.publisher)).bind_silent (.pure _))

theorem decodeWhen_identity_takes {d : IdDomain} {id : Option (StrongId d)} (h : ∀ a, id = some a → a.valid = true)
    (invalid : Bytes) :
    Decoder.Takes (decodeWhen (!((id.map StrongId.view).getD []).isEmpty)
      (identity ((id.map StrongId.view).getD []) invalid)) [] id := by
  cases id with
  | none => exact .pure _
  | some id =>
      change Decoder.Takes (decodeWhen (!id.view.isEmpty) (identity id.view invalid)) _ _
      rw [view_not_empty (h id rfl)]
      exact (identity_takes (h id rfl) invalid).bind_silent (.pure _)

theorem readIdentities_takes {d d' : IdDomain} (id : Option (StrongId d)) (id' : Option (StrongId d')) :
    Reader.Takes (do
        let member ← readOptionalId
        let path ← readOptionalId
        pure (member, path))
      (encode (optionalIdField id ++ optionalIdField id'))
      ((id.map StrongId.view).getD [], (id'.map StrongId.view).getD []) := by
  rw [← List.append_nil (optionalIdField id')]
  exact (readOptionalId_takes id).fields ((readOptionalId_takes id').fields (.pure _))

theorem readHistoryHead_takes (entry : HistoryEntry) : Reader.Takes (do
        let generation ← Reader.u64
        let event ← Reader.u8
        let cause ← Reader.u8
        let publisher ← Reader.string maxIdLength
        let epoch ← Reader.u64
        pure (generation, event, cause, publisher, epoch))
      (encode [.u64 entry.setGeneration.value, .u8 entry.event.raw, .u8 entry.cause.raw, idField entry.publisher,
        .u64 (orElse entry.epoch 1)])
      (entry.setGeneration.value, entry.event.raw, entry.cause.raw, entry.publisher.view, orElse entry.epoch 1) :=
  (Reader.u64_takes _).field ((Reader.u8_takes _).field ((Reader.u8_takes _).field
    ((id_takes _).field ((Reader.u64_takes _).field (.pure _)))))

theorem decodeHistoryEntry_takes {entry : HistoryEntry} (h : entry.WellFormed)
    (fits : (historyFields entry).all Field.fits = true) :
    Decoder.Takes decodeHistoryEntry (encode (historyFields entry)) entry := by
  have hsummary : (Field.string entry.summary maxDetailLength).fits = true := by
    apply List.all_eq_true.mp fits
    unfold historyFields
    exact List.mem_append_right _ (List.mem_append_right _ (List.mem_append_right _ List.mem_cons_self))
  unfold historyFields decodeHistoryEntry
  refine (Decoder.group_takes (readHistoryHead_takes entry)).fields ?_
  rw [← List.append_assoc]
  refine (Decoder.group_takes (readIdentities_takes entry.memberId entry.pathId)).fields ?_
  refine (Decoder.group_takes (detail_takes hsummary)).last ?_
  refine (Decoder.present_takes (SetEvent.fromRaw_raw entry.event)).bind_silent ?_
  refine (Decoder.present_takes (MembershipCause.fromRaw_raw entry.cause)).bind_silent ?_
  refine (checked_generation_takes h.setGeneration _).bind_silent ?_
  rw [orElse_valid h.epoch]
  refine (checked_generation_takes h.epoch _).bind_silent ((decodeUnset_takes entry.publisher _).bind_silent ?_)
  exact (decodeWhen_identity_takes h.memberId _).bind_silent
    ((decodeWhen_identity_takes h.pathId _).bind_silent (.pure _))

theorem readMemberHead_takes (m : MemberSnapshot) : Reader.Takes (do
        let id ← Reader.string maxIdLength
        let path ← Reader.string maxIdLength
        let bound ← Reader.u64
        let generation ← Reader.u64
        let lifecycle ← Reader.u8
        let currentness ← Reader.u8
        let adminEnabled ← Reader.boolean
        let usable ← Reader.boolean
        let watermark ← Reader.u64
        let pending ← Reader.u32
        pure (id, path, bound, generation, lifecycle, currentness, adminEnabled, usable, watermark, pending))
      (encode [idField m.id, idField m.pathId, .u64 m.boundAuthorityGeneration.value, .u64 m.generation.value,
        .u8 m.lifecycle.raw, .u8 m.currentness.raw, .boolean m.adminEnabled, .boolean m.usable,
        .u64 m.invalidationWatermark.value, .u32 m.pendingRevalidations])
      (m.id.view, m.pathId.view, m.boundAuthorityGeneration.value, m.generation.value, m.lifecycle.raw,
        m.currentness.raw, m.adminEnabled, m.usable, m.invalidationWatermark.value, m.pendingRevalidations) :=
  (id_takes _).field ((id_takes _).field ((Reader.u64_takes _).field ((Reader.u64_takes _).field
    ((Reader.u8_takes _).field ((Reader.u8_takes _).field ((Reader.boolean_takes _).field ((Reader.boolean_takes _).field
      ((Reader.u64_takes _).field ((Reader.u32_takes _).field (.pure _))))))))))

theorem decodeMember_takes {m : MemberSnapshot} (h : m.WellFormed) :
    Decoder.Takes decodeMember (encode (memberFields m)) m := by
  unfold memberFields decodeMember
  refine (Decoder.group_takes (readMemberHead_takes m)).fields ?_
  refine (Decoder.present_takes (m.id.parse_view h.id)).bind_silent ?_
  refine (Decoder.present_takes (m.pathId.parse_view h.pathId)).bind_silent ?_
  refine (checked_generation_takes h.boundAuthorityGeneration _).bind_silent
    ((checked_generation_takes h.generation _).bind_silent ?_)
  refine (Decoder.present_takes (MemberLifecycle.fromRaw_raw m.lifecycle)).bind_silent ?_
  refine (Decoder.present_takes (MemberCurrentness.fromRaw_raw m.currentness)).bind_silent ?_
  refine (decodeOptionalId_takes h.predecessor _ _).fields ((decodeOptionalId_takes h.successor _ _).fields ?_)
  exact (decodeMemberProvenance_takes h.provenance).last (.pure _)

theorem readSnapshotIds_takes (s : SetSnapshot) : Reader.Takes (do
        let snapshotId ← Reader.string maxIdLength
        let setId ← Reader.string maxIdLength
        pure (snapshotId, setId))
      (encode [idField s.snapshotId, idField s.setId]) (s.snapshotId.view, s.setId.view) :=
  (id_takes _).field ((id_takes _).field (.pure _))

def snapshotScalars (s : SetSnapshot) : List Field :=
  [.u64 s.generation.value, .u64 s.membershipGeneration.value, .u64 s.authorityGeneration.value,
    .u8 s.lifecycle.raw, .u8 s.currentness.raw, .u8 s.readiness.raw, .boolean s.adminEnabled,
    .u64 s.minimumUsableMembers, .boolean s.conditionalAuthorityPermitted,
    .u64 (UInt64.ofNat s.usableMemberCount), .u64 (UInt64.ofNat s.memberCount), .u64 s.governingEpoch.value,
    .u64 s.digest.high, .u64 s.digest.low]

theorem readSnapshotScalars_takes (s : SetSnapshot) : Reader.Takes (do
        let generation ← Reader.u64
        let membership ← Reader.u64
        let authority ← Reader.u64
        let lifecycle ← Reader.u8
        let currentness ← Reader.u8
        let readiness ← Reader.u8
        let adminEnabled ← Reader.boolean
        let minimum ← Reader.u64
        let conditional ← Reader.boolean
        let usable ← Reader.u64
        let memberCount ← Reader.u64
        let governing ← Reader.u64
        let high ← Reader.u64
        let low ← Reader.u64
        pure (generation, membership, authority, lifecycle, currentness, readiness, adminEnabled, minimum, conditional,
          usable, memberCount, governing, high, low))
      (encode (snapshotScalars s))
      (s.generation.value, s.membershipGeneration.value, s.authorityGeneration.value, s.lifecycle.raw,
        s.currentness.raw, s.readiness.raw, s.adminEnabled, s.minimumUsableMembers, s.conditionalAuthorityPermitted,
        UInt64.ofNat s.usableMemberCount, UInt64.ofNat s.memberCount, s.governingEpoch.value, s.digest.high,
        s.digest.low) :=
  (Reader.u64_takes _).field ((Reader.u64_takes _).field ((Reader.u64_takes _).field ((Reader.u8_takes _).field
    ((Reader.u8_takes _).field ((Reader.u8_takes _).field ((Reader.boolean_takes _).field ((Reader.u64_takes _).field
      ((Reader.boolean_takes _).field ((Reader.u64_takes _).field ((Reader.u64_takes _).field
        ((Reader.u64_takes _).field ((Reader.u64_takes _).field ((Reader.u64_takes _).field (.pure _))))))))))))))

def countedList {α : Type} (f : α → List Field) (l : List α) : List Field :=
  Field.u32 (UInt32.ofNat l.length) :: l.flatMap f

theorem countedFields_ok {α : Type} {what : Bytes} {f : α → List Field} {l : List α} {fields : List Field}
    (h : countedFields what f l = .ok fields) : fields = countedList f l := by
  unfold countedFields at h
  by_cases hlength : l.length < 2 ^ 32
  · rw [narrowU32_of_lt hlength] at h
    exact (Except.ok.inj h).symm
  · rw [show narrowU32 l.length = none from if_neg hlength] at h
    cases h

theorem countedList_fits {α : Type} {f : α → List Field} {l : List α} (h : (countedList f l).all Field.fits = true)
    {a : α} (ha : a ∈ l) : (f a).all Field.fits = true := by
  rw [List.all_eq_true] at h ⊢
  intro field hfield
  exact h field (List.mem_cons_of_mem _ (List.mem_flatMap.mpr ⟨a, ha, hfield⟩))

def snapshotList (s : SetSnapshot) : List Field :=
  snapshotHead s ++ (countedList historyFields s.history ++ countedList memberFields s.members)

theorem decodeSnapshot_takes {s : SetSnapshot} (h : s.WellFormed) (fits : (snapshotList s).all Field.fits = true)
    (few : s.history.length ≤ 100000) (within : s.members.length ≤ 1000000) :
    Decoder.Takes decodeSnapshot (encode (snapshotList s)) s := by
  obtain ⟨hhead, hlists⟩ := Bool.and_eq_true_iff.mp ((List.all_append).symm.trans fits)
  obtain ⟨hhistory, -⟩ := Bool.and_eq_true_iff.mp ((List.all_append).symm.trans hlists)
  have hmem : ∀ field ∈ revocationFields s.revocation ++ ([Field.string s.withdrawalReason maxTextLength] ++
      provenanceFields s.provenance 1), field.fits = true := by
    intro field hfield
    apply List.all_eq_true.mp hhead field
    unfold snapshotHead
    exact List.mem_append_right _ (List.mem_append_right _ (List.mem_append_right _ hfield))
  have hrevocation : (revocationFields s.revocation).all Field.fits = true := by
    rw [List.all_eq_true]
    intro field hfield
    exact hmem field (List.mem_append_left _ hfield)
  have hreason : (Field.string s.withdrawalReason maxTextLength).fits = true :=
    hmem _ (List.mem_append_right _ List.mem_cons_self)
  have hmembers : (UInt64.ofNat s.memberCount).toNat = s.memberCount := by
    apply ofNat_toNat
    rw [h.memberCount]
    omega
  have hcount : decide (UInt64.ofNat s.memberCount ≤ 1000000) = true := by
    rw [decide_eq_true_iff, UInt64.le_iff_toNat_le, hmembers, h.memberCount]
    exact within
  have hfields : snapshotList s = [idField s.snapshotId, idField s.setId] ++ (keyFields s.key ++ (snapshotScalars s ++
      (optionalIdField s.supersededBy ++ (optionalIdField s.supersedes ++ (revocationFields s.revocation ++
        ([Field.string s.withdrawalReason maxTextLength] ++ (provenanceFields s.provenance 1 ++
          (countedList historyFields s.history ++ countedList memberFields s.members)))))))) := by
    simp only [snapshotList, snapshotHead, snapshotScalars, List.append_assoc]
  rw [hfields]
  unfold decodeSnapshot
  refine (Decoder.group_takes (readSnapshotIds_takes s)).fields ?_
  refine (identity_takes h.snapshotId _).bind_silent ((identity_takes h.setId _).bind_silent ?_)
  refine (Decoder.group_takes (readKey_takes h.key)).fields ?_
  refine (Decoder.group_takes (readSnapshotScalars_takes s)).fields ?_
  refine (checked_generation_takes h.generation _).bind_silent
    ((checked_generation_takes h.membershipGeneration _).bind_silent
      ((checked_generation_takes h.authorityGeneration _).bind_silent
        ((checked_generation_takes h.governingEpoch _).bind_silent ?_)))
  refine (Decoder.present_takes (SetLifecycle.fromRaw_raw s.lifecycle)).bind_silent
    ((Decoder.present_takes (SetCurrentness.fromRaw_raw s.currentness)).bind_silent
      ((Decoder.present_takes (RouteReadiness.fromRaw_raw s.readiness)).bind_silent ?_))
  refine (Decoder.check_takes hcount).bind_silent ?_
  refine (decodeOptionalId_takes h.supersededBy _ _).fields ((decodeOptionalId_takes h.supersedes _ _).fields ?_)
  refine Decoder.Takes.assoc ((decodeRevocation_takes h.revocation hrevocation _).fields ?_)
  refine (Decoder.group_takes (detail_takes hreason)).fields ?_
  refine (decodeSetProvenance_takes h.provenance.1 h.provenance.2).fields ?_
  refine (decodeCounted_takes few (fun entry hentry => decodeHistoryEntry_takes (h.history entry hentry)
    (countedList_fits hhistory hentry)) _ _).fields ?_
  refine (decodeCounted_takes within (fun m hm => decodeMember_takes (h.members m hm)) _ _).last ?_
  rw [hmembers, ofNat_toNat h.usableMemberCount]
  exact .pure _

def memberExplanationHead (m : MemberExplanation) : List Field :=
  [idField m.id, idField m.pathId, .u8 m.lifecycle.raw, .u8 m.currentness.raw, .boolean m.adminEnabled,
    .boolean m.usable, .u64 m.boundAuthorityGeneration.value, .boolean m.observedAuthorityGeneration.isSome]

theorem memberExplanationFields_eq (m : MemberExplanation) : memberExplanationFields m =
    memberExplanationHead m ++ (optionalFields (fun n => [Field.u64 n])
        (m.observedAuthorityGeneration.map Generation.value) ++
      ([Field.boolean m.observedAuthorityState.isSome] ++ (optionalFields (fun state => [Field.u8 state.raw])
        m.observedAuthorityState ++ [.u32 m.pendingRevalidations, .u8 m.reason.raw]))) := by
  unfold memberExplanationFields memberExplanationHead
  cases m.observedAuthorityGeneration <;> cases m.observedAuthorityState <;> rfl

theorem readMemberExplanationHead_takes (m : MemberExplanation) : Reader.Takes (do
        let id ← Reader.string maxIdLength
        let path ← Reader.string maxIdLength
        let lifecycle ← Reader.u8
        let currentness ← Reader.u8
        let adminEnabled ← Reader.boolean
        let usable ← Reader.boolean
        let bound ← Reader.u64
        let observed ← Reader.boolean
        pure (id, path, lifecycle, currentness, adminEnabled, usable, bound, observed))
      (encode (memberExplanationHead m))
      (m.id.view, m.pathId.view, m.lifecycle.raw, m.currentness.raw, m.adminEnabled, m.usable,
        m.boundAuthorityGeneration.value, m.observedAuthorityGeneration.isSome) :=
  (id_takes _).field ((id_takes _).field ((Reader.u8_takes _).field ((Reader.u8_takes _).field
    ((Reader.boolean_takes _).field ((Reader.boolean_takes _).field ((Reader.u64_takes _).field
      ((Reader.boolean_takes _).field (.pure _))))))))

theorem readMemberExplanationTail_takes (m : MemberExplanation) : Reader.Takes (do
        let pending ← Reader.u32
        let reason ← Reader.u8
        pure (pending, reason))
      (encode [.u32 m.pendingRevalidations, .u8 m.reason.raw]) (m.pendingRevalidations, m.reason.raw) :=
  (Reader.u32_takes _).field ((Reader.u8_takes _).field (.pure _))

theorem decodeObserved_takes {g : Option PathAuthorityGeneration} (h : ∀ a, g = some a → a.valid = true)
    (failure : FabricOutcome) :
    Decoder.Takes (decodeWhen (g.map Generation.value).isSome
      (Decoder.present ((g.map Generation.value).bind Generation.fromValue) failure)) [] g := by
  cases g with
  | none => exact .pure _
  | some g => exact (checked_generation_takes (h g rfl) _).bind_silent (.pure _)

theorem decodeMemberExplanation_takes {m : MemberExplanation} (h : m.WellFormed) :
    Decoder.Takes decodeMemberExplanation (encode (memberExplanationFields m)) m := by
  have hsome : m.observedAuthorityGeneration.isSome = (m.observedAuthorityGeneration.map Generation.value).isSome :=
    Option.isSome_map.symm
  rw [memberExplanationFields_eq]
  unfold decodeMemberExplanation
  refine (Decoder.group_takes (readMemberExplanationHead_takes m)).fields ?_
  rw [hsome]
  refine (decodeWhen_takes fun n _ => decodeNumber_takes n _).fields ?_
  refine (decodeFlag_takes _ _).fields ?_
  refine (decodeWhen_takes fun state _ => decodeEnumerator_takes (PathAuthorityState.fromRaw_raw state) _ _).fields ?_
  refine (Decoder.group_takes (readMemberExplanationTail_takes m)).last ?_
  refine (Decoder.present_takes (MemberLifecycle.fromRaw_raw m.lifecycle)).bind_silent
    ((Decoder.present_takes (MemberCurrentness.fromRaw_raw m.currentness)).bind_silent
      ((Decoder.present_takes (ExplanationReason.fromRaw_raw m.reason)).bind_silent ?_))
  refine (Decoder.present_takes (m.id.parse_view h.id)).bind_silent
    ((Decoder.present_takes (m.pathId.parse_view h.pathId)).bind_silent ?_)
  refine (checked_generation_takes h.boundAuthorityGeneration _).bind_silent ?_
  exact (decodeObserved_takes h.observedAuthorityGeneration _).bind_silent (.pure _)

def explanationScalars (x : SetExplanation) : List Field :=
  [.u8 x.lifecycle.raw, .u8 x.currentness.raw, .u8 x.readiness.raw, .u64 (UInt64.ofNat x.memberCount),
    .u64 (UInt64.ofNat x.usableMemberCount), .u64 x.minimumUsableMembers, .boolean x.minimumSatisfied,
    .boolean x.adminEnabled, .boolean x.conditionalAuthorityPermitted, .u64 x.governingEpoch.value,
    .u64 x.authorityGeneration.value, .u8 x.lastCause.raw]

theorem readExplanationScalars_takes (x : SetExplanation) : Reader.Takes (do
        let lifecycle ← Reader.u8
        let currentness ← Reader.u8
        let readiness ← Reader.u8
        let memberCount ← Reader.u64
        let usable ← Reader.u64
        let minimum ← Reader.u64
        let satisfied ← Reader.boolean
        let adminEnabled ← Reader.boolean
        let conditional ← Reader.boolean
        let governing ← Reader.u64
        let authority ← Reader.u64
        let lastCause ← Reader.u8
        pure (lifecycle, currentness, readiness, memberCount, usable, minimum, satisfied, adminEnabled, conditional,
          governing, authority, lastCause))
      (encode (explanationScalars x))
      (x.lifecycle.raw, x.currentness.raw, x.readiness.raw, UInt64.ofNat x.memberCount,
        UInt64.ofNat x.usableMemberCount, x.minimumUsableMembers, x.minimumSatisfied, x.adminEnabled,
        x.conditionalAuthorityPermitted, x.governingEpoch.value, x.authorityGeneration.value, x.lastCause.raw) :=
  (Reader.u8_takes _).field ((Reader.u8_takes _).field ((Reader.u8_takes _).field ((Reader.u64_takes _).field
    ((Reader.u64_takes _).field ((Reader.u64_takes _).field ((Reader.boolean_takes _).field
      ((Reader.boolean_takes _).field ((Reader.boolean_takes _).field ((Reader.u64_takes _).field
        ((Reader.u64_takes _).field ((Reader.u8_takes _).field (.pure _))))))))))))

theorem decodePublisher_takes {publisher : Option PublisherId} (h : ∀ a, publisher = some a → a.valid = true)
    (flagless truncated invalid : Bytes) :
    Decoder.Takes (do
        let published ← decodeFlag flagless
        decodeWhen published (decodeIdentity truncated invalid))
      (encode (optionalIdField publisher)) publisher := by
  cases publisher with
  | none => exact (decodeFlag_takes false _).last (.pure _)
  | some a =>
      rw [show optionalIdField (some a) = [Field.boolean true] ++ [idField a] from rfl]
      exact (decodeFlag_takes true _).fields ((decodeIdentity_takes (h a rfl) _ _).last (.pure _))

def explanationList (x : SetExplanation) : List Field :=
  explanationHead x ++ (countedList (fun r => [Field.u8 r.raw]) x.reasons ++
    (countedList memberExplanationFields x.members ++ [.boolean x.truncated]))

theorem decodeExplanation_takes {x : SetExplanation} (h : x.WellFormed) (within : x.members.length ≤ 1000000) :
    Decoder.Takes decodeExplanation (encode (explanationList x)) x := by
  have hfields : explanationList x = [idField x.setId] ++ (keyFields x.key ++ (explanationScalars x ++
      (optionalIdField x.lastMutatingPublisher ++ (countedList (fun r => [Field.u8 r.raw]) x.reasons ++
        (countedList memberExplanationFields x.members ++ [.boolean x.truncated]))))) := by
    simp only [explanationList, explanationHead, explanationScalars, List.append_assoc]
  rw [hfields]
  unfold decodeExplanation
  refine (decodeIdentity_takes h.setId _ _).fields ((Decoder.group_takes (readKey_takes h.key)).fields ?_)
  refine (Decoder.group_takes (readExplanationScalars_takes x)).fields ?_
  refine (Decoder.present_takes (SetLifecycle.fromRaw_raw x.lifecycle)).bind_silent
    ((Decoder.present_takes (SetCurrentness.fromRaw_raw x.currentness)).bind_silent
      ((Decoder.present_takes (RouteReadiness.fromRaw_raw x.readiness)).bind_silent
        ((Decoder.present_takes (MembershipCause.fromRaw_raw x.lastCause)).bind_silent ?_)))
  refine (checked_generation_takes h.governingEpoch _).bind_silent
    ((checked_generation_takes h.authorityGeneration _).bind_silent ?_)
  refine Decoder.Takes.assoc ((decodePublisher_takes h.lastMutatingPublisher _ _ _).fields ?_)
  refine (decodeCounted_takes h.reasons (fun r _ => decodeEnumerator_takes (ExplanationReason.fromRaw_raw r) _ _) _
    _).fields ?_
  refine (decodeCounted_takes within (fun m hm => decodeMemberExplanation_takes (h.members m hm)) _ _).fields ?_
  refine (decodeFlag_takes x.truncated _).last ?_
  rw [ofNat_toNat h.memberCount, ofNat_toNat h.usableMemberCount]
  exact .pure _

def partList {α : Type} (f : α → List Field) (x : Option α) : List Field := [Field.boolean x.isSome] ++ optionalFields f x

def responseList (response : WireResponse) : List Field :=
  outcomeFields response.outcome ++ (partList snapshotList response.snapshot ++
    (partList explanationList response.explanation ++ countedList (fun id => [idField id]) response.setIds))

theorem partFields_ok {α : Type} {f : α → Checked (List Field)} {g : α → List Field} {x : Option α} {fields : List Field}
    (same : ∀ a written, f a = .ok written → written = g a) (h : partFields f x = .ok fields) : fields = partList g x := by
  cases x with
  | none => exact (Except.ok.inj h).symm
  | some a =>
      change (f a).map _ = _ at h
      cases hwritten : f a with
      | error rejection =>
          rw [hwritten] at h
          cases h
      | ok written =>
          rw [hwritten] at h
          rw [← Except.ok.inj h, same a written hwritten]
          rfl

theorem snapshotFields_ok (s : SetSnapshot) (fields : List Field) (h : snapshotFields s = .ok fields) :
    fields = snapshotList s := by
  unfold snapshotFields at h
  simp only [Checked.bind_ok, Checked.pure_ok] at h
  obtain ⟨history, hhistory, members, hmembers, rfl⟩ := h
  rw [countedFields_ok hhistory, countedFields_ok hmembers]
  rfl

theorem explanationFields_ok (x : SetExplanation) (fields : List Field) (h : explanationFields x = .ok fields) :
    fields = explanationList x := by
  unfold explanationFields at h
  simp only [Checked.bind_ok, Checked.pure_ok] at h
  obtain ⟨reasons, hreasons, members, hmembers, rfl⟩ := h
  rw [countedFields_ok hreasons, countedFields_ok hmembers]
  rfl

theorem writeFields_ok {w w' : ByteWriter} {fields : List Field} {overflow : Bytes} (bounded : w.buffer.length ≤ w.limit)
    (h : writeFields w fields overflow = .ok w') :
    fields.all Field.fits = true ∧ w' = { w with buffer := w.buffer ++ encode fields } ∧
      w'.buffer.length ≤ w'.limit := by
  unfold writeFields at h
  simp only [Checked.bind_ok, Checked.require_ok, Checked.pure_ok] at h
  obtain ⟨_, hok, rfl⟩ := h
  exact ⟨((ByteWriter.writeAll_ok bounded).mp hok).2.1, ByteWriter.writeAll_eq bounded hok,
    ByteWriter.writeAll_bounded bounded⟩

theorem encodeResponse_ok {response : WireResponse} {bytes : Bytes} (h : encodeResponse response = .ok bytes) :
    bytes = encode (responseList response) ∧ (responseList response).all Field.fits = true ∧
      bytes.length ≤ maxPayload := by
  unfold encodeResponse at h
  simp only [Checked.bind_ok, Checked.pure_ok] at h
  obtain ⟨w₁, h₁, snapshot, hsnapshot, w₂, h₂, explanation, hexplanation, w₃, h₃, setIds, hsetIds, w₄, h₄, rfl⟩ := h
  obtain ⟨hoks₁, rfl, hbound₁⟩ := writeFields_ok (Nat.zero_le _) h₁
  obtain ⟨hoks₂, rfl, hbound₂⟩ := writeFields_ok hbound₁ h₂
  obtain ⟨hoks₃, rfl, hbound₃⟩ := writeFields_ok hbound₂ h₃
  obtain ⟨hoks₄, rfl, hbound₄⟩ := writeFields_ok hbound₃ h₄
  rw [partFields_ok snapshotFields_ok hsnapshot] at *
  rw [partFields_ok explanationFields_ok hexplanation] at *
  rw [countedFields_ok hsetIds] at *
  refine ⟨?_, ?_, hbound₄⟩
  · simp only [responseList, encode_append, ByteWriter.start, List.nil_append, List.append_assoc]
  · simp only [responseList, List.all_append, hoks₁, hoks₂, hoks₃, hoks₄, Bool.and_self]

theorem counted_le {α : Type} {f : α → List Field} {l : List α} {width : ℕ} (h : ∀ a ∈ l, width ≤ (encode (f a)).length) :
    width * l.length ≤ (encode (countedList f l)).length := by
  have hlist := mul_length_le_encode h
  rw [countedList, encode_cons, List.length_append]
  omega

theorem historyFields_length (entry : HistoryEntry) : 16 ≤ (encode (historyFields entry)).length := by
  simp only [historyFields, encode_append, encode_cons, List.length_append, Field.bytes, littleEndian_length]
  omega

theorem memberFields_length (m : MemberSnapshot) : 16 ≤ (encode (memberFields m)).length := by
  simp only [memberFields, encode_append, encode_cons, List.length_append, Field.bytes, littleEndian_length]
  omega

theorem memberExplanationFields_length (m : MemberExplanation) : 8 ≤ (encode (memberExplanationFields m)).length := by
  rw [memberExplanationFields_eq, encode_append, List.length_append]
  have hhead := length_le_encode (memberExplanationHead m)
  have hcount : (memberExplanationHead m).length = 8 := rfl
  omega

theorem partList_length {α : Type} {f : α → List Field} {x : Option α} {a : α} (h : x = some a) :
    (encode (f a)).length ≤ (encode (partList f x)).length := by
  subst h
  rw [partList, encode_append, List.length_append]
  exact Nat.le_add_left _ _

theorem partList_fits {α : Type} {f : α → List Field} {x : Option α} {a : α} (h : x = some a)
    (fits : (partList f x).all Field.fits = true) : (f a).all Field.fits = true := by
  subst h
  exact (Bool.and_eq_true_iff.mp ((List.all_append).symm.trans fits)).2

theorem decodePart_takes {α β : Type} {f : α → List Field} {p : WireDecoder α} {x : Option α} {bytes : Bytes}
    {k : Option α → WireDecoder β} {y : β} (h : ∀ a, x = some a → Decoder.Takes p (encode (f a)) a) (truncated : Bytes)
    (hk : Decoder.Takes (k x) bytes y) :
    Decoder.Takes (decodeFlag truncated >>= fun present => decodeWhen present p >>= k) (encode (partList f x) ++ bytes)
      y := by
  refine Decoder.Takes.assoc (Decoder.Takes.bind (x := x) ?_ hk)
  exact (decodeFlag_takes x.isSome truncated).fields (decodeWhen_takes h)

theorem decodeResponse_takes {response : WireResponse} (h : response.WellFormed)
    (fits : (responseList response).all Field.fits = true) (bound : (encode (responseList response)).length ≤ maxPayload) :
    Decoder.Takes decodeResponse (encode (responseList response)) response := by
  have hpayload : maxPayload = 1048576 := rfl
  simp only [responseList, List.all_append, Bool.and_eq_true] at fits
  simp only [responseList, encode_append, List.length_append] at bound
  obtain ⟨houtcome, hsnapshot, -, -⟩ := fits
  have hids : response.setIds.length ≤ 1000000 := by
    have hcounted : 4 * response.setIds.length ≤ _ := counted_le (f := fun id => [idField id]) fun id _ => by
      simp only [encode_cons, List.length_append, idField, Field.bytes, littleEndian_length]
      omega
    omega
  have hsnapshots (s : SetSnapshot) (hs : response.snapshot = some s) :
      Decoder.Takes decodeSnapshot (encode (snapshotList s)) s := by
    have hlength := partList_length (f := snapshotList) hs
    have hhistory := counted_le (f := historyFields) (l := s.history) fun entry _ => historyFields_length entry
    have hmembers := counted_le (f := memberFields) (l := s.members) fun m _ => memberFields_length m
    simp only [snapshotList, encode_append, List.length_append] at hlength
    exact decodeSnapshot_takes (h.snapshot s hs) (partList_fits hs hsnapshot) (by omega) (by omega)
  have hexplanations (x : SetExplanation) (hx : response.explanation = some x) :
      Decoder.Takes decodeExplanation (encode (explanationList x)) x := by
    have hlength := partList_length (f := explanationList) hx
    have hmembers := counted_le (f := memberExplanationFields) (l := x.members) fun m _ =>
      memberExplanationFields_length m
    simp only [explanationList, encode_append, List.length_append] at hlength
    exact decodeExplanation_takes (h.explanation x hx) (by omega)
  unfold decodeResponse
  simp only [responseList, encode_append]
  refine (decodeOutcome_takes h.outcome houtcome).bind ?_
  refine decodePart_takes hsnapshots _ (decodePart_takes hexplanations _ ?_)
  exact (decodeCounted_takes hids (fun id hid => decodeIdentity_takes (h.setIds id hid) _ _) _ _).last (.pure _)

theorem decodeResponse_encoded {response : WireResponse} {bytes : Bytes} (h : response.WellFormed)
    (encoded : encodeResponse response = .ok bytes) : decodeResponse bytes = .ok (response, []) := by
  obtain ⟨rfl, hfits, hbound⟩ := encodeResponse_ok encoded
  have htaken := decodeResponse_takes h hfits hbound []
  rwa [List.append_nil] at htaken

end Wire

end MultipathFabric
