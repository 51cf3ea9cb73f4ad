import MultipathFabric.Wire

namespace MultipathFabric

open ByteCodec

namespace Wire

structure WireResponse where
  outcome : FabricOutcome
  snapshot : Option SetSnapshot
  explanation : Option SetExplanation
  setIds : List MultipathSetId
  deriving DecidableEq

def WireResponse.empty : WireResponse := ⟨.empty, none, none, []⟩

def presenceMask : List Bool → UInt8
  | [] => 0
  | bit :: rest => (if bit then 1 else 0) + 2 * presenceMask rest

def optionalFields {α : Type} (f : α → List Field) (x : Option α) : List Field := (x.map f).getD []

def outcomeFields (o : FabricOutcome) : List Field :=
  [Field.u16 o.code.raw, .u8 o.stage.raw,
      .u8 (presenceMask [o.setId.isSome, o.memberId.isSome, o.pathId.isSome, o.setGeneration.isSome,
        o.membershipGeneration.isSome, o.memberGeneration.isSome, o.authorityGeneration.isSome,
        o.lifecycle.isSome]),
      .u8 (presenceMask [o.currentness.isSome, o.usableMembers.isSome, o.minimumUsableMembers.isSome,
        o.digest.isSome])] ++
    optionalFields (fun id => [idField id]) o.setId ++
    optionalFields (fun id => [idField id]) o.memberId ++
    optionalFields (fun id => [idField id]) o.pathId ++
    optionalFields (fun g => [.u64 g.value]) o.setGeneration ++
    optionalFields (fun g => [.u64 g.value]) o.membershipGeneration ++
    optionalFields (fun g => [.u64 g.value]) o.memberGeneration ++
    optionalFields (fun g => [.u64 g.value]) o.authorityGeneration ++
    optionalFields (fun l => [.u8 l.raw]) o.lifecycle ++
    optionalFields (fun c => [.u8 c.raw]) o.currentness ++
    optionalFields (fun n => [.u64 (UInt64.ofNat n)]) o.usableMembers ++
    optionalFields (fun n => [.u64 n]) o.minimumUsableMembers ++
    optionalFields (fun d => [.u64 d.high, .u64 d.low]) o.digest ++
    [.string o.detail maxDetailLength]

def optionalIdField {d : IdDomain} (id : Option (StrongId d)) : List Field :=
  match id with
  | some id => [.boolean true, idField id]
  | none => [.boolean false]

def orElse {d : GenerationDomain} (g : Generation d) (fallback : UInt64) : UInt64 :=
  if g.valid then g.value else fallback

/-- An unset epoch is written as 1 for a set and as 0 for a member. -/
def provenanceFields (p : MembershipProvenance) (epochFallback : UInt64) : List Field :=
  [idField p.publisher, idField p.workerBoot, .u64 (orElse p.epoch epochFallback), idField p.attempt,
    .u64 (orElse p.setGeneration 1), .u8 p.cause.raw]

def revocationFields (revocation : Option RevocationRecord) : List Field :=
  match revocation with
  | some r =>
      [.boolean true, .u8 r.reason.raw, .string r.detail maxTextLength, .u64 r.generation.value,
        .u64 r.authorityGeneration.value, .u64 r.epoch.value, idField r.publisher]
  | none => [.boolean false]

def historyFields (entry : HistoryEntry) : List Field :=
  [Field.u64 entry.setGeneration.value, .u8 entry.event.raw, .u8 entry.cause.raw, idField entry.publisher,
      .u64 (orElse entry.epoch 1)] ++
    (optionalIdField entry.memberId ++ (optionalIdField entry.pathId ++
      [.string entry.summary maxDetailLength]))

def memberFields (m : MemberSnapshot) : List Field :=
  [idField m.id, idField m.pathId, .u64 m.boundAuthorityGeneration.value, .u64 m.generation.value,
      .u8 m.lifecycle.raw, .u8 m.currentness.raw, .boolean m.adminEnabled, .boolean m.usable,
      .u64 m.invalidationWatermark.value, .u32 m.pendingRevalidations] ++
    (optionalIdField m.predecessor ++ (optionalIdField m.successor ++ provenanceFields m.provenance 0))

def snapshotHead (s : SetSnapshot) : List Field :=
  [idField s.snapshotId, idField s.setId] ++ keyFields s.key ++
    [.u64 s.generation.value, .u64 s.membershipGeneration.value, .u64 s.authorityGeneration.value,
      .u8 s.lifecycle.raw, .u8 s.currentness.raw, .u8 s.readiness.raw, .boolean s.adminEnabled,
      .u64 s.minimumUsableMembers, .boolean s.conditionalAuthorityPermitted,
      .u64 (UInt64.ofNat s.usableMemberCount), .u64 (UInt64.ofNat s.memberCount), .u64 s.governingEpoch.value,
      .u64 s.digest.high, .u64 s.digest.low] ++
    (optionalIdField s.supersededBy ++ (optionalIdField s.supersedes ++ (revocationFields s.revocation ++
      ([Field.string s.withdrawalReason maxTextLength] ++ provenanceFields s.provenance 1))))

def countedFields {α : Type} (what : Bytes) (f : α → List Field) (l : List α) : Checked (List Field) :=
  match narrowU32 l.length with
  | some count => .ok (Field.u32 count :: l.flatMap f)
  | none => .error (makeRejection .resourceLimit (what ++ text " is not representable"))

def snapshotFields (s : SetSnapshot) : Checked (List Field) := do
  let history ← countedFields (text "snapshot history count") historyFields s.history
  let members ← countedFields (text "snapshot member count") memberFields s.members
  pure (snapshotHead s ++ (history ++ members))

def memberExplanationFields (m : MemberExplanation) : List Field :=
  [idField m.id, idField m.pathId, Field.u8 m.lifecycle.raw, .u8 m.currentness.raw, .boolean m.adminEnabled,
      .boolean m.usable, .u64 m.boundAuthorityGeneration.value] ++
    (match m.observedAuthorityGeneration with
      | some generation => [Field.boolean true, .u64 generation.value]
      | none => [.boolean false]) ++
    (match m.observedAuthorityState with
      | some state => [Field.boolean true, .u8 state.raw]
      | none => [.boolean false]) ++
    [.u32 m.pendingRevalidations, .u8 m.reason.raw]

def explanationHead (x : SetExplanation) : List Field :=
  [idField x.setId] ++ keyFields x.key ++
    [Field.u8 x.lifecycle.raw, .u8 x.currentness.raw, .u8 x.readiness.raw, .u64 (UInt64.ofNat x.memberCount),
      .u64 (UInt64.ofNat x.usableMemberCount), .u64 x.minimumUsableMembers, .boolean x.minimumSatisfied,
      .boolean x.adminEnabled, .boolean x.conditionalAuthorityPermitted, .u64 x.governingEpoch.value,
      .u64 x.authorityGeneration.value, .u8 x.lastCause.raw] ++
    optionalIdField x.lastMutatingPublisher

def explanationFields (x : SetExplanation) : Checked (List Field) := do
  let reasons ← countedFields (text "explanation reason count") (fun r => [Field.u8 r.raw]) x.reasons
  let members ← countedFields (text "explanation member count") memberExplanationFields x.members
  pure (explanationHead x ++ (reasons ++ (members ++ [.boolean x.truncated])))

def partFields {α : Type} (f : α → Checked (List Field)) (x : Option α) : Checked (List Field) :=
  match x with
  | some a => (f a).map fun fields => Field.boolean true :: fields
  | none => .ok [.boolean false]

def writeFields (w : ByteWriter) (fields : List Field) (overflow : Bytes) : Checked ByteWriter := do
  let w := w.writeAll fields
  Checked.require w.ok (makeRejection .resourceLimit overflow)
  pure w

def encodeResponse (response : WireResponse) : Checked Bytes := do
  let w ← writeFields (ByteWriter.start maxPayload) (outcomeFields response.outcome)
    (text "outcome encoding exceeded its bound")
  let snapshot ← partFields snapshotFields response.snapshot
  let w ← writeFields w snapshot (text "snapshot encoding exceeded its bound")
  let explanation ← partFields explanationFields response.explanation
  let w ← writeFields w explanation (text "explanation encoding exceeded its bound")
  let setIds ← countedFields (text "set id list") (fun id => [idField id]) response.setIds
  let w ← writeFields w setIds (text "response encoding exceeded its bound")
  pure w.buffer

def maxFrameHardBound : UInt64 := 64 * 1024 * 1024

def frameBound (maxFrameBytes : UInt64) : UInt64 :=
  if maxFrameBytes = 0 then maxFrameHardBound
  else if maxFrameBytes < maxFrameHardBound then maxFrameBytes
  else maxFrameHardBound

def frameMagic : UInt32 := 0x5746504D

def wireProtocolVersion : UInt16 := 1

def frameHeaderSize : Nat := 24

def frameIntegrityOffset : Nat := 16

def frameHead (id : MessageId) (payloadLength : UInt32) : Bytes :=
  encode [.u32 frameMagic, .u16 wireProtocolVersion, .u16 id.raw, .u32 payloadLength, .u32 0]

def frameIntegrity (head payload : Bytes) : UInt64 :=
  ((DigestBuilder.start.absorbBytes head).absorbBytes payload).finish.high

def encodeFrame (id : MessageId) (payload : Bytes) (maxFrameBytes : UInt64) : Checked Bytes := do
  Checked.require (decide (payload.length ≤ (frameBound maxFrameBytes).toNat))
    (makeRejection .resourceLimit
      (text "frame payload of " ++ decimal payload.length ++ text " bytes exceeds max_frame_bytes " ++
        decimal (frameBound maxFrameBytes).toNat))
  let length ← Checked.present (narrowU32 payload.length)
    (makeRejection .resourceLimit (text "frame payload length is not representable"))
  let head := frameHead id length
  pure (head ++ encode [.u64 (frameIntegrity head payload)] ++ payload)

def decodeHeader (header : Bytes) (maxFrameBytes : UInt64) : Checked (MessageId × UInt32) := do
  Checked.require (decide (frameIntegrityOffset ≤ header.length))
    (makeRejection .framingError
      (text "frame header buffer holds " ++ decimal header.length ++ text " byte(s); " ++
        decimal frameIntegrityOffset ++ text " are required before the frame can be decoded"))
  let (magic, version, message, length, flags) ← Checked.present
    (((do
        let magic ← Reader.u32
        let version ← Reader.u16
        let message ← Reader.u16
        let length ← Reader.u32
        let flags ← Reader.u32
        pure (magic, version, message, length, flags)) :
        Reader (UInt32 × UInt16 × UInt16 × UInt32 × UInt32)) header |>.map Prod.fst)
    (makeRejection .framingError (text "frame header is truncated"))
  Checked.require (magic == frameMagic) (makeRejection .framingError (text "frame magic does not match"))
  Checked.require (version == wireProtocolVersion)
    (makeRejection .unsupportedWireVersion
      (text "wire version " ++ decimal version.toNat ++ text " is not supported; this build speaks version " ++
        decimal wireProtocolVersion.toNat))
  Checked.require (flags == 0) (makeRejection .framingError (text "frame flags must be zero"))
  let id ← Checked.present (MessageId.fromRaw message)
    (makeRejection .framingError (text "frame carries an unknown message id " ++ decimal message.toNat))
  Checked.require (decide (length.toUInt64 ≤ frameBound maxFrameBytes))
    (makeRejection .resourceLimit
      (text "frame declares " ++ decimal length.toNat ++ text " payload bytes which exceeds max_frame_bytes " ++
        decimal (frameBound maxFrameBytes).toNat))
  pure (id, length)

def verifyIntegrity (header payload : Bytes) : Checked Unit := do
  Checked.require (decide (frameHeaderSize ≤ header.length))
    (makeRejection .framingError
      (text "frame header buffer holds " ++ decimal header.length ++ text " byte(s); " ++
        decimal frameHeaderSize ++ text " are required to verify the integrity field"))
  let stored ← Checked.present ((Reader.u64 (header.drop frameIntegrityOffset)).map Prod.fst)
    (makeRejection .framingError (text "frame integrity field is truncated"))
  Checked.require (frameIntegrity (header.take frameIntegrityOffset) payload == stored)
    (makeRejection .integrityError
      (text "frame integrity check failed over the semantic header and payload"))

end Wire

end MultipathFabric
