import MultipathFabric.Library.ByteCodec
import MultipathFabric.Engine

namespace MultipathFabric

open ByteCodec

def maxIdLength : Nat := 128

def maxShortText : Nat := 64

def maxReasonText : Nat := 512

def persistenceFormatVersion : UInt32 := 1

def storeHeaderSize : Nat := 24

def storeMagic : Bytes := text "MPFSTOR" ++ [0]

def encodeChecksum (bytes : Bytes) : UInt64 := bytes.foldl fnv1a64Roll fnv1a64OffsetBasis

def corrupt (detail : Bytes) : FabricOutcome := makeRejection .storeCorrupt detail

def provenanceFields (p : MembershipProvenance) : List Field :=
  [.string p.publisher.view maxIdLength, .string p.workerBoot.view maxIdLength, .u64 p.epoch.value,
    .string p.attempt.view maxIdLength, .u64 p.setGeneration.value, .u8 p.cause.raw]

def optionalIdFields {d : IdDomain} (id : Option (StrongId d)) : List Field :=
  match id with
  | some id => [.u8 1, .string id.view maxIdLength]
  | none => [.u8 0]

def storedFenceFields (f : FenceRecord) : List Field :=
  [.string f.publisher.view maxIdLength, .string f.workerBoot.view maxIdLength, .u64 f.epoch.value,
    .string f.cause maxShortText]

def observationFields (m : MemberRecord) : List Field :=
  match m.observedAuthorityGeneration, m.observedAuthorityState with
  | some generation, some state => [.u8 1, .u64 generation.value, .u8 state.raw]
  | _, _ => [.u8 0]

def storedMemberHead (m : MemberRecord) : List Field :=
  [.string m.id.view maxIdLength, .string m.pathId.view maxIdLength,
    .u64 m.boundAuthorityGeneration.value, .u64 m.generation.value, .u8 m.lifecycle.raw,
    .u8 m.currentness.raw, .boolean m.adminEnabled, .u64 m.invalidationWatermark.value,
    .u32 m.pendingRevalidations]

def storedMemberFields (m : MemberRecord) : List Field :=
  storedMemberHead m ++ (optionalIdFields m.predecessor ++ (optionalIdFields m.successor ++
    (observationFields m ++ provenanceFields m.provenance)))

def storedRevocationFields (revocation : RevocationRecord) : List Field :=
  [.u8 revocation.reason.raw, .string revocation.detail maxReasonText, .u64 revocation.generation.value,
    .u64 revocation.authorityGeneration.value, .u64 revocation.epoch.value,
    .string revocation.publisher.view maxIdLength]

def optionalRevocationFields (revocation : Option RevocationRecord) : List Field :=
  match revocation with
  | some revocation => [Field.u8 1] ++ storedRevocationFields revocation
  | none => [.u8 0]

def storedSetHead (r : SetRecord) : List Field :=
  [.string r.id.view maxIdLength, .string r.key.fabric.view maxIdLength,
    .string r.key.nameSpace.view maxIdLength, .string r.key.name.view maxIdLength, .u64 r.generation.value,
    .u64 r.membershipGeneration.value, .u64 r.authorityGeneration.value, .u8 r.lifecycle.raw,
    .u8 r.currentness.raw, .boolean r.adminEnabled, .u64 r.minimumUsableMembers,
    .boolean r.conditionalAuthorityPermitted, .u64 r.governingEpoch.value]

def storedMembers (r : SetRecord) : List MemberRecord := r.members.toList.map Prod.snd

def storedSetFields (r : SetRecord) : List Field :=
  storedSetHead r ++ (optionalIdFields r.supersededBy ++ (optionalIdFields r.supersedes ++
    (optionalRevocationFields r.revocation ++ ([Field.string r.withdrawalReason maxReasonText] ++
      (provenanceFields r.provenance ++ ([Field.u32 (UInt32.ofNat r.members.size)] ++
        (storedMembers r).flatMap storedMemberFields))))))

def storedFences (e : FabricEngine) : List FenceRecord := e.fences.toList.map Prod.snd

def storedSets (e : FabricEngine) : List SetRecord := e.sets.toList.map Prod.snd

def storeHead (e : FabricEngine) : List Field :=
  [.u32 persistenceFormatVersion, .u64 e.currentEpoch.value, .u64 e.currentAuthorityGeneration.value,
    .u32 (UInt32.ofNat e.fences.size), .u32 (UInt32.ofNat e.sets.size)]

def storeFields (e : FabricEngine) : List Field :=
  storeHead e ++ ((storedFences e).flatMap storedFenceFields ++ (storedSets e).flatMap storedSetFields)

def storeHeader (payloadLength : Nat) : Bytes :=
  storeMagic ++ encode [.u32 persistenceFormatVersion, .u32 0, .u64 (UInt64.ofNat payloadLength)]

def storeFile (body : Bytes) : Bytes :=
  let covered := storeHeader body.length ++ body
  covered ++ encode [.u64 (encodeChecksum covered)]

def encodeStore (e : FabricEngine) : Checked Bytes := do
  let payload := (ByteWriter.start e.limits.maxPersistenceRecordBytes.toNat).writeAll (storeFields e)
  Checked.require payload.ok
    (makeRejection .resourceLimit
      (text "store payload exceeds max_persistence_record_bytes " ++
        decimal e.limits.maxPersistenceRecordBytes.toNat))
  let body := payload.buffer
  Checked.require (decide (body.length ≤ e.limits.maxPersistenceRecordBytes.toNat))
    (makeRejection .resourceLimit (text "store payload exceeds max_persistence_record_bytes"))
  let total := storeHeaderSize + body.length + 8
  Checked.require (decide (total ≤ e.limits.maxStoreBytes.toNat))
    (makeRejection .resourceLimit
      (text "store size " ++ decimal total ++ text " exceeds max_store_bytes " ++
        decimal e.limits.maxStoreBytes.toNat))
  pure (storeFile body)

structure DecodedStore where
  epoch : CoordinatorEpoch
  authorityGeneration : MultipathAuthorityGeneration
  fences : List FenceRecord
  sets : List SetRecord

abbrev StoreDecoder := Decoder FabricOutcome

def readOptionalId : Reader Bytes := do
  let flag ← Reader.boolean
  if flag then Reader.string maxIdLength else pure []

def readProvenance : Reader MembershipProvenance := do
  let publisher ← Reader.string maxIdLength
  let boot ← Reader.string maxIdLength
  let epoch ← Reader.u64
  let attempt ← Reader.string maxIdLength
  let setGeneration ← Reader.u64
  let cause ← Reader.u8
  let cause ← Reader.present (MembershipCause.fromRaw cause)
  let publisher ← Reader.present (StrongId.parse publisher)
  let workerBoot ← Reader.present (StrongId.parse boot)
  let attempt ← Reader.present (StrongId.parse attempt)
  let epoch ← Reader.present (Generation.fromValue epoch)
  let setGeneration ← Reader.present (Generation.fromValue setGeneration)
  pure
    { publisher := publisher
      workerBoot := workerBoot
      epoch := epoch
      attempt := attempt
      setGeneration := setGeneration
      cause := cause }

def decodeOptionalId {d : IdDomain} (truncated impossible : Bytes) : StoreDecoder (Option (StrongId d)) := do
  let t ← Decoder.group readOptionalId (corrupt truncated)
  if t.isEmpty then pure none
  else
    let id ← Decoder.present (StrongId.parse t) (corrupt impossible)
    pure (some id)

def decodeFence : StoreDecoder FenceRecord := do
  let (publisher, boot, epoch, cause) ← Decoder.group
    (do
      let publisher ← Reader.string maxIdLength
      let boot ← Reader.string maxIdLength
      let epoch ← Reader.u64
      let cause ← Reader.string maxShortText
      pure (publisher, boot, epoch, cause))
    (corrupt (text "store fence record is truncated"))
  let impossible := corrupt (text "store fence record carries an impossible identity or epoch")
  let publisher ← Decoder.present (StrongId.parse publisher) impossible
  let workerBoot ← Decoder.present (StrongId.parse boot) impossible
  let epoch ← Decoder.present (Generation.fromValue epoch) impossible
  pure { publisher := publisher, workerBoot := workerBoot, epoch := epoch, cause := cause }

def decodeObservation : StoreDecoder (Option (PathAuthorityGeneration × PathAuthorityState)) := do
  let flag ← Decoder.group Reader.boolean (corrupt (text "store member observation flag is truncated"))
  if flag then
    let (generation, state) ← Decoder.group
      (do
        let generation ← Reader.u64
        let state ← Reader.u8
        pure (generation, state))
      (corrupt (text "store member observation is truncated"))
    let state ← Decoder.present (PathAuthorityState.fromRaw state)
      (corrupt (text "store member observation carries a malformed state"))
    let generation ← Decoder.present (Generation.fromValue generation)
      (corrupt (text "store member observation carries an impossible generation"))
    pure (some (generation, state))
  else pure none

def decodeMember (limits : Limits) : StoreDecoder MemberRecord := do
  let (id, path, bound, generation, lifecycle, currentness, adminEnabled, watermark, pending) ← Decoder.group
    (do
      let id ← Reader.string maxIdLength
      let path ← Reader.string maxIdLength
      let bound ← Reader.u64
      let generation ← Reader.u64
      let lifecycle ← Reader.u8
      let currentness ← Reader.u8
      let adminEnabled ← Reader.boolean
      let watermark ← Reader.u64
      let pending ← Reader.u32
      pure (id, path, bound, generation, lifecycle, currentness, adminEnabled, watermark, pending))
    (corrupt (text "store member record is truncated"))
  let impossible := corrupt (text "store member record carries an impossible identity or generation")
  let id ← Decoder.present (StrongId.parse id) impossible
  let path ← Decoder.present (StrongId.parse path) impossible
  let bound ← Decoder.present (Generation.fromValue bound) impossible
  let generation ← Decoder.present (Generation.fromValue generation) impossible
  let lifecycle ← Decoder.present (MemberLifecycle.fromRaw lifecycle)
    (corrupt (text "store member record carries a malformed lifecycle enumerator"))
  let currentness ← Decoder.present (MemberCurrentness.fromRaw currentness)
    (corrupt (text "store member record carries a malformed currentness enumerator"))
  Decoder.check (decide (pending.toNat ≤ limits.maxPendingRevalidationsPerSet.toNat))
    (corrupt (text "store member record declares more pending revalidations than the bound"))
  let predecessor ← decodeOptionalId (text "store member predecessor field is truncated")
    (text "store member predecessor carries an impossible member identity")
  let successor ← decodeOptionalId (text "store member successor field is truncated")
    (text "store member successor carries an impossible member identity")
  let observation ← decodeObservation
  let provenance ← Decoder.group readProvenance
    (corrupt (text "store member provenance is truncated or malformed"))
  pure
    { id := id
      pathId := path
      boundAuthorityGeneration := bound
      generation := generation
      lifecycle := lifecycle
      currentness := currentness
      adminEnabled := adminEnabled
      invalidationWatermark := ⟨watermark⟩
      pendingRevalidations := pending
      provenance := provenance
      predecessor := predecessor
      successor := successor
      observedAuthorityGeneration := observation.map Prod.fst
      observedAuthorityState := observation.map Prod.snd }

def duplicateMember (setId : MultipathSetId) (what : Bytes) : FabricOutcome :=
  makeRejection .storeDuplicateMember
    (text "store set " ++ setId.view ++ text " contains the same " ++ what ++ text " more than once")

def decodeMembers (limits : Limits) : Nat → SetRecord → StoreDecoder SetRecord
  | 0, r => pure r
  | n + 1, r => do
      let member ← decodeMember limits
      Decoder.check r.members[member.pathId]?.isNone (duplicateMember r.id (text "exact path"))
      Decoder.check r.memberIndex[member.id]?.isNone (duplicateMember r.id (text "member identity"))
      decodeMembers limits n
        { r with
          memberIndex := r.memberIndex.insert member.id member.pathId
          members := r.members.insert member.pathId member }

def decodeRevocation (setId : MultipathSetId) : StoreDecoder (Option RevocationRecord) := do
  let flag ← Decoder.group Reader.boolean (corrupt (text "store revocation flag is truncated"))
  if flag then
    let (reason, detail, generation, authority, epoch, publisher) ← Decoder.group
      (do
        let reason ← Reader.u8
        let detail ← Reader.string maxReasonText
        let generation ← Reader.u64
        let authority ← Reader.u64
        let epoch ← Reader.u64
        let publisher ← Reader.string maxIdLength
        pure (reason, detail, generation, authority, epoch, publisher))
      (corrupt (text "store revocation record is truncated"))
    let reason ← Decoder.present (RevocationReason.fromRaw reason)
      (corrupt (text "store revocation record carries a malformed reason enumerator"))
    let impossible := corrupt (text "store revocation record carries an impossible generation or identity")
    let generation ← Decoder.present (Generation.fromValue generation) impossible
    let authority ← Decoder.present (Generation.fromValue authority) impossible
    let epoch ← Decoder.present (Generation.fromValue epoch) impossible
    let publisher ← Decoder.present (StrongId.parse publisher) impossible
    pure (some
      { setId := setId
        generation := generation
        authorityGeneration := authority
        epoch := epoch
        publisher := publisher
        reason := reason
        detail := detail })
  else pure none

def decodeSet (limits : Limits) (total : Nat) : StoreDecoder SetRecord := do
  let (id, fabric, nameSpace, name, generation, membership, authority, lifecycle, currentness, adminEnabled,
      minimum, conditional, governing) ← Decoder.group
    (do
      let id ← Reader.string maxIdLength
      let fabric ← Reader.string maxIdLength
      let nameSpace ← Reader.string maxIdLength
      let name ← Reader.string maxIdLength
      let generation ← Reader.u64
      let membership ← Reader.u64
      let authority ← Reader.u64
      let lifecycle ← Reader.u8
      let currentness ← Reader.u8
      let adminEnabled ← Reader.boolean
      let minimum ← Reader.u64
      let conditional ← Reader.boolean
      let governing ← Reader.u64
      pure (id, fabric, nameSpace, name, generation, membership, authority, lifecycle, currentness,
        adminEnabled, minimum, conditional, governing))
    (corrupt (text "store set record is truncated"))
  let impossible := corrupt (text "store set record carries an impossible identity or generation")
  let id ← Decoder.present (StrongId.parse id) impossible
  let fabric ← Decoder.present (StrongId.parse fabric) impossible
  let nameSpace ← Decoder.present (StrongId.parse nameSpace) impossible
  let name ← Decoder.present (StrongId.parse name) impossible
  let generation ← Decoder.present (Generation.fromValue generation) impossible
  let membership ← Decoder.present (Generation.fromValue membership) impossible
  let authority ← Decoder.present (Generation.fromValue authority) impossible
  let governing ← Decoder.present (Generation.fromValue governing) impossible
  let lifecycle ← Decoder.present (SetLifecycle.fromRaw lifecycle)
    (corrupt (text "store set record carries a malformed lifecycle enumerator"))
  let currentness ← Decoder.present (SetCurrentness.fromRaw currentness)
    (corrupt (text "store set record carries a malformed currentness enumerator"))
  Decoder.check (decide (minimum ≤ limits.maxMembersPerSet))
    (corrupt (text "store set record declares a minimum usable-member requirement above max_members_per_set"))
  let supersededBy ← decodeOptionalId (text "store set supersession field is truncated")
    (text "store set supersession field carries an impossible set identity")
  let supersedes ← decodeOptionalId (text "store set predecessor field is truncated")
    (text "store set predecessor field carries an impossible set identity")
  let revocation ← decodeRevocation id
  Decoder.check (lifecycle != .revoked || revocation.isSome)
    (corrupt (text "store declares a revoked set without a revocation record"))
  let withdrawal ← Decoder.group (Reader.string maxReasonText)
    (corrupt (text "store withdrawal reason is truncated"))
  let provenance ← Decoder.group readProvenance
    (corrupt (text "store set provenance is truncated or malformed"))
  let count ← Decoder.group Reader.u32 (corrupt (text "store member count is truncated"))
  Decoder.check
    (decide (count.toUInt64 ≤ limits.maxMembersPerSet + limits.maxArchivedMembersPerSet + 1))
    (corrupt (text "store set declares " ++ decimal count.toNat ++
      text " member records which exceeds the configured bound"))
  Decoder.check (decide (total + count.toNat ≤ limits.maxTotalMembers.toNat))
    (corrupt (text "store declares more members than max_total_members"))
  let r ← decodeMembers limits count.toNat
    { id := id
      key := { fabric := fabric, nameSpace := nameSpace, name := name }
      generation := generation
      membershipGeneration := membership
      authorityGeneration := authority
      lifecycle := lifecycle
      currentness := currentness
      adminEnabled := adminEnabled
      minimumUsableMembers := minimum
      conditionalAuthorityPermitted := conditional
      governingEpoch := governing
      provenance := provenance
      supersededBy := supersededBy
      supersedes := supersedes
      revocation := revocation
      withdrawalReason := withdrawal
      history := []
      invalidationWatermark := ⟨0⟩
      members := ∅
      memberIndex := ∅
      usableMemberCount := 0 }
  Decoder.check (decide (liveMemberCount r ≤ limits.maxMembersPerSet.toNat))
    (corrupt (text "store set " ++ r.id.view ++ text " declares " ++ decimal (liveMemberCount r) ++
      text " live membership relations which exceeds max_members_per_set " ++
      decimal limits.maxMembersPerSet.toNat))
  pure { r with usableMemberCount := r.recomputeUsableMembers }

def decodeSets (limits : Limits) : Nat → Nat → StoreDecoder (List SetRecord)
  | 0, _ => pure []
  | n + 1, total => do
      let r ← decodeSet limits total
      let rest ← decodeSets limits n (total + r.members.size)
      pure (r :: rest)

def decodePayload (limits : Limits) : StoreDecoder DecodedStore := do
  let (version, epoch, authority, fenceCount, setCount) ← Decoder.group
    (do
      let version ← Reader.u32
      let epoch ← Reader.u64
      let authority ← Reader.u64
      let fenceCount ← Reader.u32
      let setCount ← Reader.u32
      pure (version, epoch, authority, fenceCount, setCount))
    (corrupt (text "store payload header is truncated"))
  Decoder.check (version == persistenceFormatVersion)
    (makeRejection .storeVersionUnsupported
      (text "store payload version " ++ decimal version.toNat ++ text " is not supported"))
  let impossible := corrupt (text "store declares an impossible epoch or authority generation")
  let epoch ← Decoder.present (Generation.fromValue epoch) impossible
  let authority ← Decoder.present (Generation.fromValue authority) impossible
  Decoder.check (decide (setCount.toUInt64 ≤ limits.maxSets))
    (corrupt (text "store declares " ++ decimal setCount.toNat ++ text " sets which exceeds max_sets"))
  -- The bound is computed in 64 bits and wraps there.
  Decoder.check (decide (fenceCount.toUInt64 ≤ limits.maxPublishers * 64 + 64))
    (corrupt (text "store declares an absurd fence count"))
  let fences ← Decoder.times decodeFence fenceCount.toNat
  let sets ← decodeSets limits setCount.toNat 0
  pure { epoch := epoch, authorityGeneration := authority, fences := fences, sets := sets }

def unframeStore (limits : Limits) (file : Bytes) : Checked Bytes := do
  Checked.require (decide (storeHeaderSize + 8 ≤ file.length))
    (corrupt (text "store file is shorter than the minimum framed length"))
  Checked.require (file.take 8 == storeMagic) (corrupt (text "store magic does not match"))
  let (format, reserved, payloadLength) ← Checked.present
    (((do
        let format ← Reader.u32
        let reserved ← Reader.u32
        let payloadLength ← Reader.u64
        pure (format, reserved, payloadLength)) : Reader (UInt32 × UInt32 × UInt64))
      ((file.drop 8).take 16) |>.map Prod.fst)
    (corrupt (text "store header is truncated"))
  Checked.require (reserved == 0) (corrupt (text "store header reserved field is not zero"))
  Checked.require (format == persistenceFormatVersion)
    (makeRejection .storeVersionUnsupported
      (text "store format version " ++ decimal format.toNat ++
        text " is not supported; this build writes and reads version " ++
        decimal persistenceFormatVersion.toNat))
  Checked.require (decide (payloadLength ≤ limits.maxPersistenceRecordBytes))
    (corrupt (text "store payload length exceeds max_persistence_record_bytes"))
  -- The expected size is computed in 64 bits and wraps there.
  let expected := (UInt64.ofNat storeHeaderSize + payloadLength + 8).toNat
  Checked.require (expected == file.length)
    (corrupt (text "store length mismatch: header declares " ++ decimal expected ++
      text " bytes but the file holds " ++ decimal file.length))
  Checked.require (decide (file.length ≤ limits.maxStoreBytes.toNat))
    (makeRejection .resourceLimit (text "store exceeds max_store_bytes"))
  let covered := file.take (storeHeaderSize + payloadLength.toNat)
  let stored ← Checked.present ((Reader.u64 (file.drop (storeHeaderSize + payloadLength.toNat))).map Prod.fst)
    (corrupt (text "store trailer is truncated"))
  Checked.require (encodeChecksum covered == stored)
    (makeRejection .integrityError
      (text "store checksum mismatch: stored " ++ decimal stored.toNat ++ text " computed " ++
        decimal (encodeChecksum covered).toNat))
  pure (covered.drop storeHeaderSize)

def decodeStore (limits : Limits) (file : Bytes) : Checked DecodedStore := do
  let payload ← unframeStore limits file
  let (decoded, rest) ← decodePayload limits payload
  Checked.require rest.isEmpty
    (corrupt (text "store payload has " ++ decimal rest.length ++
      text " trailing byte(s) after the declared records"))
  pure decoded

structure StoreFiles where
  target : Option Bytes
  temporary : Option Bytes
  backup : Option Bytes
  deriving DecidableEq

def readFile (path : Bytes) (contents : Option Bytes) : Checked Bytes :=
  Checked.present contents (makeRejection .storeIoError (text "cannot open store file: " ++ path))

def readAndDecode (path : Bytes) (limits : Limits) (files : StoreFiles) : Checked (DecodedStore × Bool) :=
  match readFile path files.target >>= decodeStore limits with
  | .ok decoded => .ok (decoded, false)
  | .error primary =>
      match readFile (path ++ text ".bak") files.backup >>= decodeStore limits with
      | .ok decoded => .ok (decoded, true)
      | .error _ => .error primary

namespace FabricEngine

/-- A stored set as it comes back: its membership survives, its live currentness does not. -/
def recoveredSet (e : FabricEngine) (r : SetRecord) : SetRecord :=
  let r := { r with members := r.members.map fun _ (m : MemberRecord) => m.bumpWatermark }
  let r := r.bumpWatermark
  let r :=
    { r with
      currentness := .revalidationRequired
      governingEpoch := e.currentEpoch
      authorityGeneration := e.currentAuthorityGeneration }
  let r := { r with usableMemberCount := r.recomputeUsableMembers }
  e.appendHistory r .epochAdvance .recovered none none none
    (text "recovered from durable store at epoch " ++ decimal e.currentEpoch.value.toNat ++
      text "; live currentness not established")

/-- Installs the stored sets one by one; a duplicate ends the load with the sets installed so far. -/
def installSets : FabricEngine → List SetRecord → FabricEngine × Option FabricOutcome
  | e, [] => (e, none)
  | e, r :: rest =>
      if e.keyIndex[r.key]?.isSome then
        (e, some (makeRejection .storeDuplicateSet
          (text "store contains two sets with the same semantic key " ++ r.key.render)))
      else if e.sets[r.id]?.isSome then
        (e, some (makeRejection .storeDuplicateSet
          (text "store contains the same set identity more than once: " ++ r.id.view)))
      else
        let recovered := e.recoveredSet r
        let installed := e.putSet recovered.id recovered
        let installed := { installed with keyIndex := installed.keyIndex.insert recovered.key recovered.id }
        let installed := recovered.members.keys.foldl (fun e path => e.indexPath recovered.id path) installed
        let installed := { installed with totalMembers := installed.totalMembers + recovered.members.size }
        installSets (installed.captureSnapshot recovered) rest

def clearedForLoad (e : FabricEngine) (fences : List FenceRecord) (epoch : CoordinatorEpoch)
    (authority : MultipathAuthorityGeneration) : FabricEngine :=
  { e with
    currentEpoch := epoch
    currentAuthorityGeneration := authority
    sets := ∅
    keyIndex := ∅
    pathDependents := ∅
    registrations := ∅
    fences := fences.foldl
      (fun table fence => table.insert ⟨fence.publisher, fence.workerBoot⟩ { fence with epoch := epoch }) ∅
    attempts := []
    attemptIndex := ∅
    snapshotHistory := ∅
    totalMembers := 0 }

def loadDecoded (e : FabricEngine) (path : Bytes) (decoded : DecodedStore) (recovered : Bool) :
    FabricEngine × FabricOutcome :=
  conclude e do
    let nextEpoch ← Checked.present decoded.epoch.next
      (makeRejection .generationOverflow
        (text "the stored coordinator epoch is exhausted; a new epoch cannot be consumed"))
    let nextAuthority ← Checked.present decoded.authorityGeneration.next
      (makeRejection .generationOverflow (text "the stored authority generation is exhausted"))
    let installed := (e.clearedForLoad decoded.fences nextEpoch nextAuthority).installSets decoded.sets
    pure
      (match installed.2 with
      | some rejection => (installed.1, rejection)
      | none =>
          (installed.1,
            { makeOutcome .recovered
                (text "loaded " ++ decimal decoded.sets.length ++ text " set(s) from " ++ path ++
                  text " at epoch " ++ decimal nextEpoch.value.toNat ++
                  text "; every set reports currentness REVALIDATION_REQUIRED until revalidation establishes live authority" ++
                  if recovered then
                    text "; primary store was unusable and the previous-generation backup was loaded"
                  else []) with
              authorityGeneration := some nextAuthority }))

def loadStore (e : FabricEngine) (path : Bytes) (files : StoreFiles) : FabricEngine × FabricOutcome :=
  if path.isEmpty then (e, makeRejection .malformedRequest (text "load_store requires a file path"))
  else
    match readAndDecode path e.limits files with
    | .error rejection => (e, rejection)
    | .ok (decoded, recovered) => e.loadDecoded path decoded recovered

end FabricEngine

end MultipathFabric
