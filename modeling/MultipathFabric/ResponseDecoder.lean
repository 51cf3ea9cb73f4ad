import MultipathFabric.WireResponse

namespace MultipathFabric

namespace Wire

open ByteCodec

def framingError (detail : Bytes) : FabricOutcome := makeRejection .framingError detail

def decodeWhen {α : Type} (present : Bool) (p : WireDecoder α) : WireDecoder (Option α) :=
  if present then do
    let value ← p
    pure (some value)
  else pure none

def decodeIdentity {d : IdDomain} (truncated invalid : Bytes) : WireDecoder (StrongId d) := do
  let t ← Decoder.group (Reader.string maxIdLength) (malformed truncated)
  identity t invalid

def decodeGeneration {d : GenerationDomain} (truncated impossible : Bytes) : WireDecoder (Generation d) := do
  let value ← Decoder.group Reader.u64 (malformed truncated)
  Decoder.present (Generation.fromValue value) (malformed impossible)

def decodeEnumerator {α : Type} (fromRaw : UInt8 → Option α) (truncated bad : Bytes) : WireDecoder α := do
  let value ← Decoder.group Reader.u8 (malformed truncated)
  Decoder.present (fromRaw value) (malformed bad)

def decodeNumber (truncated : Bytes) : WireDecoder UInt64 := Decoder.group Reader.u64 (malformed truncated)

def decodeFlag (truncated : Bytes) : WireDecoder Bool := Decoder.group Reader.boolean (malformed truncated)

def bitSet (mask bit : UInt8) : Bool := mask &&& bit != 0

/-- The unknown bits of the second mask are ignored. -/
def decodeOutcome : WireDecoder FabricOutcome := do
  let (code, stage, mask, mask2) ← Decoder.group
    (do
      let code ← Reader.u16
      let stage ← Reader.u8
      let mask ← Reader.u8
      let mask2 ← Reader.u8
      pure (code, stage, mask, mask2))
    (framingError (text "result payload header is truncated"))
  let code ← Decoder.present (OutcomeCode.fromRaw code)
    (framingError (text "result carries an unknown outcome code " ++ decimal code.toNat))
  let stage ← Decoder.present (RejectionStage.fromRaw stage)
    (framingError (text "result carries an unknown rejection stage"))
  let setId ← decodeWhen (bitSet mask 0x01)
    (decodeIdentity (text "result set identity is truncated") (text "result carries an invalid set identity"))
  let memberId ← decodeWhen (bitSet mask 0x02)
    (decodeIdentity (text "result member identity is truncated") (text "result carries an invalid member identity"))
  let pathId ← decodeWhen (bitSet mask 0x04)
    (decodeIdentity (text "result path identity is truncated") (text "result carries an invalid path identity"))
  let setGeneration ← decodeWhen (bitSet mask 0x08)
    (decodeGeneration (text "result set generation is truncated")
      (text "result carries an impossible set generation"))
  let membershipGeneration ← decodeWhen (bitSet mask 0x10)
    (decodeGeneration (text "result membership generation is truncated")
      (text "result carries an impossible membership generation"))
  let memberGeneration ← decodeWhen (bitSet mask 0x20)
    (decodeGeneration (text "result member generation is truncated")
      (text "result carries an impossible member generation"))
  let authorityGeneration ← decodeWhen (bitSet mask 0x40)
    (decodeGeneration (text "result authority generation is truncated")
      (text "result carries an impossible authority generation"))
  let lifecycle ← decodeWhen (bitSet mask 0x80)
    (decodeEnumerator SetLifecycle.fromRaw (text "result lifecycle is truncated")
      (text "result carries a malformed lifecycle"))
  let currentness ← decodeWhen (bitSet mask2 0x01)
    (decodeEnumerator SetCurrentness.fromRaw (text "result currentness is truncated")
      (text "result carries a malformed currentness"))
  let usableMembers ← decodeWhen (bitSet mask2 0x02) (decodeNumber (text "result usable count is truncated"))
  let minimumUsableMembers ← decodeWhen (bitSet mask2 0x04)
    (decodeNumber (text "result minimum requirement is truncated"))
  let digest ← decodeWhen (bitSet mask2 0x08)
    (Decoder.group
      (do
        let high ← Reader.u64
        let low ← Reader.u64
        pure (Digest128.mk high low))
      (malformed (text "result digest is truncated")))
  let detail ← Decoder.group (Reader.string maxDetailLength) (malformed (text "result detail is truncated"))
  pure
    { code := code
      stage := stage
      detail := detail
      setId := setId
      memberId := memberId
      pathId := pathId
      setGeneration := setGeneration
      membershipGeneration := membershipGeneration
      memberGeneration := memberGeneration
      authorityGeneration := authorityGeneration
      lifecycle := lifecycle
      currentness := currentness
      usableMembers := usableMembers.map UInt64.toNat
      minimumUsableMembers := minimumUsableMembers
      digest := digest }

def decodeOptionalId {d : IdDomain} (truncated invalid : Bytes) : WireDecoder (Option (StrongId d)) := do
  let t ← Decoder.group readOptionalId (malformed truncated)
  if t.isEmpty then pure none
  else do
    let id ← identity t invalid
    pure (some id)

def decodeUnset {d : IdDomain} (t invalid : Bytes) : WireDecoder (StrongId d) :=
  if t.isEmpty then pure .unset else identity t invalid

def decodeUnsetGeneration {d : GenerationDomain} (value : UInt64) (impossible : Bytes) : WireDecoder (Generation d) :=
  if value = 0 then pure .unset else Decoder.present (Generation.fromValue value) (malformed impossible)

def readProvenance : Reader (Bytes × Bytes × UInt64 × Bytes × UInt64 × UInt8) := do
  let publisher ← Reader.string maxIdLength
  let boot ← Reader.string maxIdLength
  let epoch ← Reader.u64
  let attempt ← Reader.string maxIdLength
  let generation ← Reader.u64
  let cause ← Reader.u8
  pure (publisher, boot, epoch, attempt, generation, cause)

def decodeSetProvenance : WireDecoder MembershipProvenance := do
  let (publisher, boot, epoch, attempt, generation, cause) ← Decoder.group readProvenance
    (malformed (text "snapshot set provenance is truncated"))
  let cause ← Decoder.present (MembershipCause.fromRaw cause)
    (malformed (text "snapshot set provenance carries a malformed cause"))
  let publisher ← decodeUnset publisher (text "snapshot set provenance publisher is invalid")
  let workerBoot ← decodeUnset boot (text "snapshot set provenance boot is invalid")
  let attempt ← decodeUnset attempt (text "snapshot set provenance attempt is invalid")
  let epoch ← Decoder.present (Generation.fromValue epoch)
    (malformed (text "snapshot set provenance carries an impossible epoch"))
  let setGeneration ← decodeUnsetGeneration generation
    (text "snapshot set provenance carries an impossible generation")
  pure
    { publisher := publisher
      workerBoot := workerBoot
      epoch := epoch
      attempt := attempt
      setGeneration := setGeneration
      cause := cause }

/-- Unlike that of a set, the provenance of a member may be without an epoch. -/
def decodeMemberProvenance : WireDecoder MembershipProvenance := do
  let (publisher, boot, epoch, attempt, generation, cause) ← Decoder.group readProvenance
    (malformed (text "snapshot member provenance is truncated"))
  let cause ← Decoder.present (MembershipCause.fromRaw cause)
    (malformed (text "snapshot member provenance carries a malformed cause"))
  let setGeneration ← decodeUnsetGeneration generation
    (text "snapshot member provenance carries an impossible generation")
  let publisher ← decodeUnset publisher (text "snapshot member provenance publisher is invalid")
  let workerBoot ← decodeUnset boot (text "snapshot member provenance boot is invalid")
  let epoch ← decodeUnsetGeneration epoch (text "snapshot member provenance epoch is invalid")
  let attempt ← decodeUnset attempt (text "snapshot member provenance attempt is invalid")
  pure
    { publisher := publisher
      workerBoot := workerBoot
      epoch := epoch
      attempt := attempt
      setGeneration := setGeneration
      cause := cause }

def decodeRevocation (setId : MultipathSetId) : WireDecoder RevocationRecord := do
  let (reason, detail, generation, authority, epoch, publisher) ← Decoder.group
    (do
      let reason ← Reader.u8
      let detail ← Reader.string maxTextLength
      let generation ← Reader.u64
      let authority ← Reader.u64
      let epoch ← Reader.u64
      let publisher ← Reader.string maxIdLength
      pure (reason, detail, generation, authority, epoch, publisher))
    (malformed (text "snapshot revocation block is truncated"))
  let reason ← Decoder.present (RevocationReason.fromRaw reason)
    (malformed (text "snapshot revocation carries a malformed reason"))
  let impossible := malformed (text "snapshot revocation carries an impossible generation")
  let generation ← Decoder.present (Generation.fromValue generation) impossible
  let authorityGeneration ← Decoder.present (Generation.fromValue authority) impossible
  let epoch ← Decoder.present (Generation.fromValue epoch) impossible
  let publisher ← Decoder.present (StrongId.parse publisher) impossible
  pure
    { setId := setId
      generation := generation
      authorityGeneration := authorityGeneration
      epoch := epoch
      publisher := publisher
      reason := reason
      detail := detail }

def decodeHistoryEntry : WireDecoder HistoryEntry := do
  let (generation, event, cause, publisher, epoch) ← Decoder.group
    (do
      let generation ← Reader.u64
      let event ← Reader.u8
      let cause ← Reader.u8
      let publisher ← Reader.string maxIdLength
      let epoch ← Reader.u64
      pure (generation, event, cause, publisher, epoch))
    (malformed (text "snapshot history entry is truncated"))
  let (member, path) ← Decoder.group
    (do
      let member ← readOptionalId
      let path ← readOptionalId
      pure (member, path))
    (malformed (text "snapshot history identity is truncated"))
  let summary ← Decoder.group (Reader.string maxDetailLength) (malformed (text "snapshot history summary is truncated"))
  let bad := malformed (text "snapshot history entry carries a malformed enumerator")
  let event ← Decoder.present (SetEvent.fromRaw event) bad
  let cause ← Decoder.present (MembershipCause.fromRaw cause) bad
  let impossible := malformed (text "snapshot history entry carries an impossible generation")
  let setGeneration ← Decoder.present (Generation.fromValue generation) impossible
  let epoch ← Decoder.present (Generation.fromValue epoch) impossible
  let publisher ← decodeUnset publisher (text "snapshot history publisher is invalid")
  let memberId ← decodeWhen (!member.isEmpty) (identity member (text "snapshot history member identity is invalid"))
  let pathId ← decodeWhen (!path.isEmpty) (identity path (text "snapshot history path identity is invalid"))
  pure
    { setGeneration := setGeneration
      event := event
      cause := cause
      publisher := publisher
      epoch := epoch
      memberId := memberId
      pathId := pathId
      summary := summary }

def decodeMember : WireDecoder MemberSnapshot := do
  let (id, path, bound, generation, lifecycle, currentness, adminEnabled, usable, watermark, pending) ← Decoder.group
    (do
      let id ← Reader.string maxIdLength
      let path ← Reader.string maxIdLength
      let bound ← Reader.u64
      let generation ← Reader.u64
      let lifecycle ← Reader.u8
      let currentness ← Reader.u8
      let adminEnabled ← Reader.boolean
      let usable ← Reader.boolean
      let watermark ← Reader.u64
      let pending ← Reader.u32
      pure (id, path, bound, generation, lifecycle, currentness, adminEnabled, usable, watermark, pending))
    (malformed (text "snapshot member block is truncated"))
  let invalid := malformed (text "snapshot member carries an invalid identity or generation")
  let id ← Decoder.present (StrongId.parse id) invalid
  let pathId ← Decoder.present (StrongId.parse path) invalid
  let boundAuthorityGeneration ← Decoder.present (Generation.fromValue bound) invalid
  let generation ← Decoder.present (Generation.fromValue generation) invalid
  let bad := malformed (text "snapshot member carries a malformed enumerator")
  let lifecycle ← Decoder.present (MemberLifecycle.fromRaw lifecycle) bad
  let currentness ← Decoder.present (MemberCurrentness.fromRaw currentness) bad
  let predecessor ← decodeOptionalId (text "snapshot member predecessor is truncated")
    (text "snapshot member predecessor is invalid")
  let successor ← decodeOptionalId (text "snapshot member successor is truncated")
    (text "snapshot member successor is invalid")
  let provenance ← decodeMemberProvenance
  pure
    { id := id
      pathId := pathId
      boundAuthorityGeneration := boundAuthorityGeneration
      generation := generation
      lifecycle := lifecycle
      currentness := currentness
      adminEnabled := adminEnabled
      usable := usable
      invalidationWatermark := ⟨watermark⟩
      pendingRevalidations := pending
      predecessor := predecessor
      successor := successor
      provenance := provenance }

def decodeCounted {α : Type} (p : WireDecoder α) (bound : UInt32) (truncated absurd : Bytes) : WireDecoder (List α) := do
  let count ← Decoder.group Reader.u32 (malformed truncated)
  Decoder.check (decide (count ≤ bound)) (malformed absurd)
  Decoder.times p count.toNat

def decodeSnapshot : WireDecoder SetSnapshot := do
  let (snapshotId, setId) ← Decoder.group
    (do
      let snapshotId ← Reader.string maxIdLength
      let setId ← Reader.string maxIdLength
      pure (snapshotId, setId))
    (malformed (text "snapshot identity is truncated"))
  let snapshotId ← identity snapshotId (text "snapshot carries an invalid identity")
  let setId ← identity setId (text "snapshot carries an invalid identity")
  let key ← Decoder.group readKey (malformed (text "snapshot set key is truncated or malformed"))
  let (generation, membership, authority, lifecycle, currentness, readiness, adminEnabled, minimum, conditional,
      usable, memberCount, governing, high, low) ← Decoder.group
    (do
      let generation ← Reader.u64
      let membership ← Reader.u64
      let authority ← Reader.u64
      let lifecycle ← Reader.u8
      let currentness ← Reader.u8
      let readiness ← Reader.u8
      let adminEnabled ← Reader.boolean
      let minimum ← Reader.u64
      let conditional ← Reader.boolean
      let usable ← Reader.u64
      let memberCount ← Reader.u64
      let governing ← Reader.u64
      let high ← Reader.u64
      let low ← Reader.u64
      pure (generation, membership, authority, lifecycle, currentness, readiness, adminEnabled, minimum, conditional,
        usable, memberCount, governing, high, low))
    (malformed (text "snapshot scalar block is truncated"))
  let impossible := malformed (text "snapshot carries an impossible generation")
  let generation ← Decoder.present (Generation.fromValue generation) impossible
  let membershipGeneration ← Decoder.present (Generation.fromValue membership) impossible
  let authorityGeneration ← Decoder.present (Generation.fromValue authority) impossible
  let governingEpoch ← Decoder.present (Generation.fromValue governing) impossible
  let bad := malformed (text "snapshot carries a malformed enumerator")
  let lifecycle ← Decoder.present (SetLifecycle.fromRaw lifecycle) bad
  let currentness ← Decoder.present (SetCurrentness.fromRaw currentness) bad
  let readiness ← Decoder.present (RouteReadiness.fromRaw readiness) bad
  Decoder.check (decide (memberCount ≤ 1000000)) (malformed (text "snapshot declares an absurd member count"))
  let supersededBy ← decodeOptionalId (text "snapshot supersession field is truncated")
    (text "snapshot carries an invalid superseded_by")
  let supersedes ← decodeOptionalId (text "snapshot predecessor field is truncated")
    (text "snapshot carries an invalid supersedes")
  let revoked ← decodeFlag (text "snapshot revocation flag is truncated")
  let revocation ← decodeWhen revoked (decodeRevocation setId)
  let withdrawalReason ← Decoder.group (Reader.string maxTextLength)
    (malformed (text "snapshot withdrawal reason is truncated"))
  let provenance ← decodeSetProvenance
  let history ← decodeCounted decodeHistoryEntry 100000 (text "snapshot history count is truncated")
    (text "snapshot declares an absurd history count")
  let members ← decodeCounted decodeMember 1000000 (text "snapshot member count is truncated")
    (text "snapshot declares an absurd member count")
  pure
    { snapshotId := snapshotId
      setId := setId
      key := key
      generation := generation
      membershipGeneration := membershipGeneration
      authorityGeneration := authorityGeneration
      lifecycle := lifecycle
      currentness := currentness
      readiness := readiness
      adminEnabled := adminEnabled
      minimumUsableMembers := minimum
      conditionalAuthorityPermitted := conditional
      usableMemberCount := usable.toNat
      memberCount := memberCount.toNat
      governingEpoch := governingEpoch
      provenance := provenance
      supersededBy := supersededBy
      supersedes := supersedes
      revocation := revocation
      withdrawalReason := withdrawalReason
      members := members
      history := history
      digest := ⟨high, low⟩ }

def decodeMemberExplanation : WireDecoder MemberExplanation := do
  let (id, path, lifecycle, currentness, adminEnabled, usable, bound, observed) ← Decoder.group
    (do
      let id ← Reader.string maxIdLength
      let path ← Reader.string maxIdLength
      let lifecycle ← Reader.u8
      let currentness ← Reader.u8
      let adminEnabled ← Reader.boolean
      let usable ← Reader.boolean
      let bound ← Reader.u64
      let observed ← Reader.boolean
      pure (id, path, lifecycle, currentness, adminEnabled, usable, bound, observed))
    (malformed (text "explanation member block is truncated"))
  let observedGeneration ← decodeWhen observed (decodeNumber (text "explanation observed generation is truncated"))
  let stated ← decodeFlag (text "explanation observed state flag is truncated")
  let observedState ← decodeWhen stated
    (decodeEnumerator PathAuthorityState.fromRaw (text "explanation observed state is truncated")
      (text "explanation observed state is malformed"))
  let (pending, reason) ← Decoder.group
    (do
      let pending ← Reader.u32
      let reason ← Reader.u8
      pure (pending, reason))
    (malformed (text "explanation member tail is truncated"))
  let bad := malformed (text "explanation member carries a malformed enumerator")
  let lifecycle ← Decoder.present (MemberLifecycle.fromRaw lifecycle) bad
  let currentness ← Decoder.present (MemberCurrentness.fromRaw currentness) bad
  let reason ← Decoder.present (ExplanationReason.fromRaw reason) bad
  let invalid := malformed (text "explanation member carries an invalid identity or generation")
  let id ← Decoder.present (StrongId.parse id) invalid
  let pathId ← Decoder.present (StrongId.parse path) invalid
  let boundAuthorityGeneration ← Decoder.present (Generation.fromValue bound) invalid
  let observedAuthorityGeneration ← decodeWhen observedGeneration.isSome
    (Decoder.present (observedGeneration.bind Generation.fromValue)
      (malformed (text "explanation member observed generation is impossible")))
  pure
    { id := id
      pathId := pathId
      lifecycle := lifecycle
      currentness := currentness
      adminEnabled := adminEnabled
      usable := usable
      boundAuthorityGeneration := boundAuthorityGeneration
      observedAuthorityGeneration := observedAuthorityGeneration
      observedAuthorityState := observedState
      pendingRevalidations := pending
      reason := reason }

def decodeExplanation : WireDecoder SetExplanation := do
  let setId ← decodeIdentity (text "explanation set identity is truncated")
    (text "explanation carries an invalid set identity")
  let key ← Decoder.group readKey (malformed (text "explanation key is truncated or malformed"))
  let (lifecycle, currentness, readiness, memberCount, usable, minimum, satisfied, adminEnabled, conditional, governing,
      authority, lastCause) ← Decoder.group
    (do
      let lifecycle ← Reader.u8
      let currentness ← Reader.u8
      let readiness ← Reader.u8
      let memberCount ← Reader.u64
      let usable ← Reader.u64
      let minimum ← Reader.u64
      let satisfied ← Reader.boolean
      let adminEnabled ← Reader.boolean
      let conditional ← Reader.boolean
      let governing ← Reader.u64
      let authority ← Reader.u64
      let lastCause ← Reader.u8
      pure (lifecycle, currentness, readiness, memberCount, usable, minimum, satisfied, adminEnabled, conditional,
        governing, authority, lastCause))
    (malformed (text "explanation scalar block is truncated"))
  let bad := malformed (text "explanation carries a malformed enumerator")
  let lifecycle ← Decoder.present (SetLifecycle.fromRaw lifecycle) bad
  let currentness ← Decoder.present (SetCurrentness.fromRaw currentness) bad
  let readiness ← Decoder.present (RouteReadiness.fromRaw readiness) bad
  let lastCause ← Decoder.present (MembershipCause.fromRaw lastCause) bad
  let impossible := malformed (text "explanation carries an impossible generation")
  let governingEpoch ← Decoder.present (Generation.fromValue governing) impossible
  let authorityGeneration ← Decoder.present (Generation.fromValue authority) impossible
  let published ← decodeFlag (text "explanation publisher flag is truncated")
  let lastMutatingPublisher ← decodeWhen published
    (decodeIdentity (text "explanation publisher is truncated") (text "explanation publisher is invalid"))
  let reasons ← decodeCounted
    (decodeEnumerator ExplanationReason.fromRaw (text "explanation reason is truncated")
      (text "explanation carries a malformed reason"))
    4096 (text "explanation reason count is truncated") (text "explanation declares an absurd reason count")
  let members ← decodeCounted decodeMemberExplanation 1000000 (text "explanation member count is truncated")
    (text "explanation declares an absurd member count")
  let truncated ← decodeFlag (text "explanation truncated flag is missing")
  pure
    { setId := setId
      key := key
      lifecycle := lifecycle
      currentness := currentness
      readiness := readiness
      memberCount := memberCount.toNat
      usableMemberCount := usable.toNat
      minimumUsableMembers := minimum
      minimumSatisfied := satisfied
      adminEnabled := adminEnabled
      conditionalAuthorityPermitted := conditional
      governingEpoch := governingEpoch
      authorityGeneration := authorityGeneration
      lastMutatingPublisher := lastMutatingPublisher
      lastCause := lastCause
      reasons := reasons
      members := members
      truncated := truncated }

def decodeResponse : WireDecoder WireResponse := do
  let outcome ← decodeOutcome
  let hasSnapshot ← decodeFlag (text "response snapshot flag is truncated")
  let snapshot ← decodeWhen hasSnapshot decodeSnapshot
  let hasExplanation ← decodeFlag (text "response explanation flag is truncated")
  let explanation ← decodeWhen hasExplanation decodeExplanation
  let setIds ← decodeCounted
    (decodeIdentity (text "response set id is truncated") (text "response carries an invalid set identity"))
    1000000 (text "response set id count is truncated") (text "response declares an absurd set id count")
  pure ⟨outcome, snapshot, explanation, setIds⟩

end Wire

end MultipathFabric
