import MultipathFabric.Library.ByteCodec
import MultipathFabric.FabricQuery

namespace MultipathFabric

open ByteCodec

namespace Wire

def maxIdLength : Nat := 128

def maxTextLength : Nat := 512

def maxDetailLength : Nat := 1024

def maxScopeCount : UInt32 := 4096

def maxBatchCount : UInt32 := 100000

def maxPayload : Nat := 2 ^ 20

def malformed (detail : Bytes) : FabricOutcome := makeRejection .malformedRequest detail

inductive MessageId
  | hello | helloAck | registerPublisher | createSet | addMember | removeMember | revalidateMember
  | revalidateSet | revokeSet | retireSet | querySet | snapshotRequest | snapshotResponse | fenceNotice
  | result | error | replaceMember | setMinimum | setAdminEnable | setAdminDisable | memberAdminEnable
  | memberAdminDisable | epochAdvance | listSets | advanceSetState | applyPathAuthority | refreshPath
  | addMembers | withdrawMember | setConditionalPolicy | supersedeSet | shutdown | explainSet
  | declarePathAuthority
  deriving DecidableEq

namespace MessageId

def raw : MessageId → UInt16
  | .hello => 1
  | .helloAck => 2
  | .registerPublisher => 3
  | .createSet => 4
  | .addMember => 5
  | .removeMember => 6
  | .revalidateMember => 7
  | .revalidateSet => 8
  | .revokeSet => 9
  | .retireSet => 10
  | .querySet => 11
  | .snapshotRequest => 12
  | .snapshotResponse => 13
  | .fenceNotice => 14
  | .result => 15
  | .error => 16
  | .replaceMember => 17
  | .setMinimum => 18
  | .setAdminEnable => 19
  | .setAdminDisable => 20
  | .memberAdminEnable => 21
  | .memberAdminDisable => 22
  | .epochAdvance => 23
  | .listSets => 24
  | .advanceSetState => 25
  | .applyPathAuthority => 26
  | .refreshPath => 27
  | .addMembers => 28
  | .withdrawMember => 29
  | .setConditionalPolicy => 30
  | .supersedeSet => 31
  | .shutdown => 32
  | .explainSet => 33
  | .declarePathAuthority => 34

def all : List MessageId :=
  [.hello, .helloAck, .registerPublisher, .createSet, .addMember, .removeMember, .revalidateMember,
  .revalidateSet, .revokeSet, .retireSet, .querySet, .snapshotRequest, .snapshotResponse, .fenceNotice,
  .result, .error, .replaceMember, .setMinimum, .setAdminEnable, .setAdminDisable, .memberAdminEnable,
  .memberAdminDisable, .epochAdvance, .listSets, .advanceSetState, .applyPathAuthority, .refreshPath,
  .addMembers, .withdrawMember, .setConditionalPolicy, .supersedeSet, .shutdown, .explainSet,
  .declarePathAuthority]

def fromRaw (r : UInt16) : Option MessageId := all.find? fun x => x.raw == r

theorem fromRaw_raw (x : MessageId) : fromRaw x.raw = some x := by
  cases x <;> rfl

def toString : MessageId → Bytes
  | .hello => text "HELLO"
  | .helloAck => text "HELLO_ACK"
  | .registerPublisher => text "REGISTER_PUBLISHER"
  | .createSet => text "CREATE_SET"
  | .addMember => text "ADD_MEMBER"
  | .removeMember => text "REMOVE_MEMBER"
  | .revalidateMember => text "REVALIDATE_MEMBER"
  | .revalidateSet => text "REVALIDATE_SET"
  | .revokeSet => text "REVOKE_SET"
  | .retireSet => text "RETIRE_SET"
  | .querySet => text "QUERY_SET"
  | .snapshotRequest => text "SNAPSHOT_REQUEST"
  | .snapshotResponse => text "SNAPSHOT_RESPONSE"
  | .fenceNotice => text "FENCE_NOTICE"
  | .result => text "RESULT"
  | .error => text "ERROR"
  | .replaceMember => text "REPLACE_MEMBER"
  | .setMinimum => text "SET_MINIMUM"
  | .setAdminEnable => text "SET_ADMIN_ENABLE"
  | .setAdminDisable => text "SET_ADMIN_DISABLE"
  | .memberAdminEnable => text "MEMBER_ADMIN_ENABLE"
  | .memberAdminDisable => text "MEMBER_ADMIN_DISABLE"
  | .epochAdvance => text "EPOCH_ADVANCE"
  | .listSets => text "LIST_SETS"
  | .advanceSetState => text "ADVANCE_SET_STATE"
  | .applyPathAuthority => text "APPLY_PATH_AUTHORITY"
  | .refreshPath => text "REFRESH_PATH"
  | .addMembers => text "ADD_MEMBERS"
  | .withdrawMember => text "WITHDRAW_MEMBER"
  | .setConditionalPolicy => text "SET_CONDITIONAL_POLICY"
  | .supersedeSet => text "SUPERSEDE_SET"
  | .shutdown => text "SHUTDOWN"
  | .explainSet => text "EXPLAIN_SET"
  | .declarePathAuthority => text "DECLARE_PATH_AUTHORITY"

end MessageId

inductive SetStateAction
  | publish | withdraw | completeWithdrawal
  deriving DecidableEq

namespace SetStateAction

def raw : SetStateAction → UInt8
  | .publish => 1
  | .withdraw => 2
  | .completeWithdrawal => 3

def all : List SetStateAction := [.publish, .withdraw, .completeWithdrawal]

def fromRaw (r : UInt8) : Option SetStateAction := all.find? fun x => x.raw == r

theorem fromRaw_raw (x : SetStateAction) : fromRaw x.raw = some x := by
  cases x <;> rfl

end SetStateAction

structure WireRequest where
  id : MessageId
  context : MutationContext
  scope : AuthorityScope
  key : SetKey
  options : SetOptions
  setId : MultipathSetId
  memberId : MultipathMemberId
  pathId : PathId
  pathAuthorityGeneration : PathAuthorityGeneration
  members : List MemberRequest
  number : UInt64
  flag : Bool
  stateAction : SetStateAction
  revocationReason : RevocationReason
  pathState : PathAuthorityState
  text : Bytes
  snapshotId : SnapshotId
  deriving DecidableEq

def WireRequest.blank (id : MessageId) : WireRequest where
  id := id
  context := .unset
  scope := ⟨.unset, .unset, []⟩
  key := ⟨.unset, .unset, .unset⟩
  options := ⟨1, true, false⟩
  setId := .unset
  memberId := .unset
  pathId := .unset
  pathAuthorityGeneration := .unset
  members := []
  number := 0
  flag := false
  stateAction := .publish
  revocationReason := .administrative
  pathState := .authorized
  text := []
  snapshotId := .unset

def narrowU32 (n : Nat) : Option UInt32 := if n < 2 ^ 32 then some (UInt32.ofNat n) else none

def idField {d : IdDomain} (id : StrongId d) : Field := .string id.view maxIdLength

def optionalNumberFields {d : GenerationDomain} (generation : Option (Generation d)) : List Field :=
  match generation with
  | some generation => [.boolean true, .string (decimal generation.value.toNat) maxIdLength]
  | none => [.boolean false]

/-- A count that does not fit leaves the writer without the list, and without a failure. -/
def scopeFields (scope : AuthorityScope) : List Field :=
  [idField scope.fabric, idField scope.nameSpace] ++
    match narrowU32 scope.setIds.length with
    | some count => Field.u32 count :: scope.setIds.map idField
    | none => []

def contextFields (context : MutationContext) : List Field :=
  [Field.u64 context.epoch.value, idField context.publisher, idField context.workerBoot,
      idField context.session, idField context.attempt] ++
    (optionalNumberFields context.expectedSetGeneration ++
      optionalNumberFields context.expectedMemberGeneration)

def keyFields (key : SetKey) : List Field := [idField key.fabric, idField key.nameSpace, idField key.name]

def memberRequestFields (request : MemberRequest) : List Field :=
  [idField request.pathId, .u64 request.authorityGeneration.value]

def requestFields (request : WireRequest) : Checked (List Field) :=
  let context := contextFields request.context
  match request.id with
  | .hello | .listSets | .shutdown => .ok []
  | .registerPublisher =>
      .ok ([idField request.context.publisher, idField request.context.workerBoot,
        idField request.context.session] ++ scopeFields request.scope)
  | .createSet =>
      .ok (context ++ (keyFields request.key ++ [.u64 request.options.minimumUsableMembers,
        .boolean request.options.adminEnabled, .boolean request.options.conditionalAuthorityPermitted]))
  | .addMember =>
      .ok (context ++ [idField request.setId, idField request.pathId,
        .u64 request.pathAuthorityGeneration.value])
  | .addMembers =>
      match narrowU32 request.members.length with
      | none => .error (makeRejection .resourceLimit (MultipathFabric.text "batch size is not representable"))
      | some count =>
          .ok (context ++ ([idField request.setId, .u32 count] ++
            request.members.flatMap memberRequestFields))
  | .removeMember | .withdrawMember =>
      .ok (context ++ [idField request.setId, idField request.memberId, .string request.text maxTextLength])
  | .replaceMember =>
      .ok (context ++ [idField request.setId, idField request.memberId, idField request.pathId,
        .u64 request.pathAuthorityGeneration.value, .string request.text maxTextLength])
  | .setMinimum => .ok (context ++ [idField request.setId, .u64 request.number])
  | .setConditionalPolicy => .ok (context ++ [idField request.setId, .boolean request.flag])
  | .setAdminEnable | .setAdminDisable => .ok (context ++ [idField request.setId])
  | .memberAdminEnable | .memberAdminDisable =>
      .ok (context ++ [idField request.setId, idField request.memberId])
  | .revalidateMember => .ok (context ++ [idField request.setId, idField request.memberId])
  | .revalidateSet => .ok (context ++ [idField request.setId])
  | .revokeSet =>
      .ok (context ++ [idField request.setId, .u8 request.revocationReason.raw,
        .string request.text maxTextLength])
  | .retireSet => .ok (context ++ [idField request.setId, .string request.text maxTextLength])
  -- The successor is written from the path field.
  | .supersedeSet => .ok (context ++ [idField request.setId, idField request.pathId])
  | .epochAdvance => .ok (context ++ [.u64 request.number])
  | .advanceSetState =>
      .ok (context ++ [idField request.setId, .u8 request.stateAction.raw,
        .string request.text maxTextLength])
  | .applyPathAuthority | .declarePathAuthority =>
      .ok (context ++ [idField request.pathId, .u64 request.pathAuthorityGeneration.value,
        .u8 request.pathState.raw])
  | .refreshPath => .ok (context ++ [idField request.pathId])
  | .querySet | .explainSet => .ok [idField request.setId]
  | .snapshotRequest => .ok [idField request.setId, idField request.snapshotId]
  | .helloAck | .snapshotResponse | .fenceNotice | .result | .error =>
      .error (makeRejection .malformedRequest
        (request.id.toString ++ MultipathFabric.text " is not a client request message"))

def encodeRequest (request : WireRequest) : Checked Bytes := do
  let fields ← requestFields request
  let payload := (ByteWriter.start maxPayload).writeAll fields
  Checked.require payload.ok
    (makeRejection .resourceLimit (MultipathFabric.text "request encoding exceeded its bound"))
  pure payload.buffer

def parseU64Digits : Bytes → Nat → Option Nat
  | [], value => some value
  | c :: rest, value =>
      if c < 48 ∨ 57 < c then none
      else
        let digit := c.toNat - 48
        if (2 ^ 64 - 1 - digit) / 10 < value then none else parseU64Digits rest (value * 10 + digit)

def parseU64 (t : Bytes) : Option UInt64 :=
  if t.isEmpty then none else (parseU64Digits t 0).map UInt64.ofNat

def readOptionalId : Reader Bytes := do
  let flag ← Reader.boolean
  if flag then Reader.string maxIdLength else pure []

def optionalGeneration {d : GenerationDomain} (t : Bytes) : Reader (Option (Generation d)) :=
  if t.isEmpty then pure none
  else do
    let value ← Reader.present (parseU64 t)
    let generation ← Reader.present (Generation.fromValue value)
    pure (some generation)

def optionalIdentity {d : IdDomain} (t : Bytes) : Reader (StrongId d) :=
  if t.isEmpty then pure .unset else Reader.present (StrongId.parse t)

def readSetIds : Nat → Reader (List MultipathSetId)
  | 0 => pure []
  | n + 1 => do
      let value ← Reader.string maxIdLength
      let first ← Reader.present (StrongId.parse value)
      let rest ← readSetIds n
      pure (first :: rest)

def readScope : Reader AuthorityScope := do
  let fabric ← Reader.string maxIdLength
  let nameSpace ← Reader.string maxIdLength
  let count ← Reader.u32
  Reader.present (if maxScopeCount < count then none else some ())
  let fabric ← optionalIdentity fabric
  let nameSpace ← optionalIdentity nameSpace
  let setIds ← readSetIds count.toNat
  pure ⟨fabric, nameSpace, setIds⟩

def readContext : Reader MutationContext := do
  let epoch ← Reader.u64
  let publisher ← Reader.string maxIdLength
  let boot ← Reader.string maxIdLength
  let session ← Reader.string maxIdLength
  let attempt ← Reader.string maxIdLength
  let expectedSet ← readOptionalId
  let expectedMember ← readOptionalId
  let epoch ← Reader.present (Generation.fromValue epoch)
  let publisher ← Reader.present (StrongId.parse publisher)
  let workerBoot ← Reader.present (StrongId.parse boot)
  let session ← Reader.present (StrongId.parse session)
  let attempt ← Reader.present (StrongId.parse attempt)
  let expectedSetGeneration ← optionalGeneration expectedSet
  let expectedMemberGeneration ← optionalGeneration expectedMember
  pure
    { epoch := epoch
      publisher := publisher
      workerBoot := workerBoot
      session := session
      attempt := attempt
      expectedSetGeneration := expectedSetGeneration
      expectedMemberGeneration := expectedMemberGeneration }

def readKey : Reader SetKey := do
  let fabric ← Reader.string maxIdLength
  let nameSpace ← Reader.string maxIdLength
  let name ← Reader.string maxIdLength
  let fabric ← Reader.present (StrongId.parse fabric)
  let nameSpace ← Reader.present (StrongId.parse nameSpace)
  let name ← Reader.present (StrongId.parse name)
  pure ⟨fabric, nameSpace, name⟩

abbrev WireDecoder := Decoder FabricOutcome

def decodeContext (failure : Bytes) : WireDecoder MutationContext := Decoder.group readContext (malformed failure)

def identity {d : IdDomain} (t invalid : Bytes) : WireDecoder (StrongId d) :=
  Decoder.present (StrongId.parse t) (malformed invalid)

def decodeMemberRequest : WireDecoder MemberRequest := do
  let (path, generation) ← Decoder.group
    (do
      let path ← Reader.string maxIdLength
      let generation ← Reader.u64
      pure (path, generation))
    (malformed (text "bulk add member entry is truncated"))
  let invalid := text "bulk add member entry carries an invalid identity or generation"
  let pathId ← identity path invalid
  let generation ← Decoder.present (Generation.fromValue generation) (malformed invalid)
  pure ⟨pathId, generation⟩

def decodeSetRequest (out : WireRequest) : WireDecoder WireRequest := do
  let context ← decodeContext (text "set request context is truncated or malformed")
  let setId ← Decoder.group (Reader.string maxIdLength) (malformed (text "set request is truncated"))
  let setId ← identity setId (text "set request carries an invalid set identity")
  pure { out with context := context, setId := setId }

def decodeMemberMessage (out : WireRequest) : WireDecoder WireRequest := do
  let context ← decodeContext (text "member request context is truncated or malformed")
  let (setId, memberId) ← Decoder.group
    (do
      let setId ← Reader.string maxIdLength
      let memberId ← Reader.string maxIdLength
      pure (setId, memberId))
    (malformed (text "member request is truncated"))
  let setId ← identity setId (text "member request carries an invalid identity")
  let memberId ← identity memberId (text "member request carries an invalid identity")
  pure { out with context := context, setId := setId, memberId := memberId }

def decodeRemoval (out : WireRequest) : WireDecoder WireRequest := do
  let out ← decodeMemberMessage out
  let reason ← Decoder.group (Reader.string maxTextLength)
    (malformed (MultipathFabric.text "member removal reason is truncated"))
  pure { out with text := reason }

def decodePathAuthority (out : WireRequest) : WireDecoder WireRequest := do
  let context ← decodeContext (text "path authority request context is truncated or malformed")
  let (path, generation, state) ← Decoder.group
    (do
      let path ← Reader.string maxIdLength
      let generation ← Reader.u64
      let state ← Reader.u8
      pure (path, generation, state))
    (malformed (text "path authority request is truncated"))
  let pathState ← Decoder.present (PathAuthorityState.fromRaw state)
    (malformed (text "path authority request carries a malformed state"))
  let invalid := text "path authority request carries an invalid identity or generation"
  let pathId ← identity path invalid
  let generation ← Decoder.present (Generation.fromValue generation) (malformed invalid)
  pure { out with context := context, pathId := pathId, pathAuthorityGeneration := generation, pathState := pathState }

def decodeQuery (out : WireRequest) : WireDecoder WireRequest := do
  let setId ← Decoder.group (Reader.string maxIdLength) (malformed (text "query request is truncated"))
  let setId ← identity setId (text "query request carries an invalid set identity")
  pure { out with setId := setId }

def decodeRegister (out : WireRequest) : WireDecoder WireRequest := do
  let (publisher, boot, session) ← Decoder.group
    (do
      let publisher ← Reader.string maxIdLength
      let boot ← Reader.string maxIdLength
      let session ← Reader.string maxIdLength
      pure (publisher, boot, session))
    (malformed (text "register request is truncated"))
  let invalid := text "register request carries an invalid identity"
  let publisher ← identity publisher invalid
  let workerBoot ← identity boot invalid
  let session ← identity session invalid
  let scope ← Decoder.group readScope (malformed (text "register request scope is truncated or malformed"))
  pure
    { out with
      context := { out.context with publisher := publisher, workerBoot := workerBoot, session := session }
      scope := scope }

def decodeCreate (out : WireRequest) : WireDecoder WireRequest := do
  let context ← decodeContext (text "create request context is truncated or malformed")
  let key ← Decoder.group readKey (malformed (text "create request key is truncated or malformed"))
  let (minimum, admin, conditional) ← Decoder.group
    (do
      let minimum ← Reader.u64
      let admin ← Reader.boolean
      let conditional ← Reader.boolean
      pure (minimum, admin, conditional))
    (malformed (text "create request options are truncated"))
  pure { out with context := context, key := key, options := ⟨minimum, admin, conditional⟩ }

def decodeAdd (out : WireRequest) : WireDecoder WireRequest := do
  let context ← decodeContext (text "add request context is truncated or malformed")
  let (setId, path, generation) ← Decoder.group
    (do
      let setId ← Reader.string maxIdLength
      let path ← Reader.string maxIdLength
      let generation ← Reader.u64
      pure (setId, path, generation))
    (malformed (text "add request is truncated"))
  let invalid := text "add request carries an invalid identity or generation"
  let setId ← identity setId invalid
  let pathId ← identity path invalid
  let generation ← Decoder.present (Generation.fromValue generation) (malformed invalid)
  pure { out with context := context, setId := setId, pathId := pathId, pathAuthorityGeneration := generation }

def decodeAddMembers (out : WireRequest) : WireDecoder WireRequest := do
  let context ← decodeContext (text "bulk add request context is truncated or malformed")
  let (setId, count) ← Decoder.group
    (do
      let setId ← Reader.string maxIdLength
      let count ← Reader.u32
      pure (setId, count))
    (malformed (text "bulk add request is truncated"))
  Decoder.check (decide (count ≤ maxBatchCount))
    (malformed (text "bulk add request declares an absurd member count"))
  let setId ← identity setId (text "bulk add request carries an invalid set identity")
  let members ← Decoder.times decodeMemberRequest count.toNat
  pure { out with context := context, setId := setId, members := members }

def decodeReplace (out : WireRequest) : WireDecoder WireRequest := do
  let context ← decodeContext (MultipathFabric.text "replace request context is truncated or malformed")
  let (setId, memberId, path, generation, reason) ← Decoder.group
    (do
      let setId ← Reader.string maxIdLength
      let memberId ← Reader.string maxIdLength
      let path ← Reader.string maxIdLength
      let generation ← Reader.u64
      let reason ← Reader.string maxTextLength
      pure (setId, memberId, path, generation, reason))
    (malformed (MultipathFabric.text "replace request is truncated"))
  let invalid := MultipathFabric.text "replace request carries an invalid identity or generation"
  let setId ← identity setId invalid
  let memberId ← identity memberId invalid
  let pathId ← identity path invalid
  let generation ← Decoder.present (Generation.fromValue generation) (malformed invalid)
  pure
    { out with
      context := context
      setId := setId
      memberId := memberId
      pathId := pathId
      pathAuthorityGeneration := generation
      text := reason }

def decodeMinimum (out : WireRequest) : WireDecoder WireRequest := do
  let context ← decodeContext (text "minimum request context is truncated or malformed")
  let (setId, minimum) ← Decoder.group
    (do
      let setId ← Reader.string maxIdLength
      let minimum ← Reader.u64
      pure (setId, minimum))
    (malformed (text "minimum request is truncated"))
  let setId ← identity setId (text "minimum request carries an invalid set identity")
  pure { out with context := context, setId := setId, number := minimum }

def decodePolicy (out : WireRequest) : WireDecoder WireRequest := do
  let context ← decodeContext (text "policy request context is truncated or malformed")
  let (setId, permitted) ← Decoder.group
    (do
      let setId ← Reader.string maxIdLength
      let permitted ← Reader.boolean
      pure (setId, permitted))
    (malformed (text "policy request is truncated"))
  let setId ← identity setId (text "policy request carries an invalid set identity")
  pure { out with context := context, setId := setId, flag := permitted }

def decodeRevoke (out : WireRequest) : WireDecoder WireRequest := do
  let context ← decodeContext (MultipathFabric.text "revoke request context is truncated or malformed")
  let (setId, reason, detail) ← Decoder.group
    (do
      let setId ← Reader.string maxIdLength
      let reason ← Reader.u8
      let detail ← Reader.string maxTextLength
      pure (setId, reason, detail))
    (malformed (MultipathFabric.text "revoke request is truncated"))
  let reason ← Decoder.present (RevocationReason.fromRaw reason)
    (malformed (MultipathFabric.text "revoke request carries a malformed reason code"))
  let setId ← identity setId (MultipathFabric.text "revoke request carries an invalid set identity")
  pure { out with context := context, setId := setId, revocationReason := reason, text := detail }

def decodeRetire (out : WireRequest) : WireDecoder WireRequest := do
  let context ← decodeContext (MultipathFabric.text "retire request context is truncated or malformed")
  let (setId, reason) ← Decoder.group
    (do
      let setId ← Reader.string maxIdLength
      let reason ← Reader.string maxTextLength
      pure (setId, reason))
    (malformed (MultipathFabric.text "retire request is truncated"))
  let setId ← identity setId (MultipathFabric.text "retire request carries an invalid set identity")
  pure { out with context := context, setId := setId, text := reason }

def decodeSupersede (out : WireRequest) : WireDecoder WireRequest := do
  let context ← decodeContext (MultipathFabric.text "supersede request context is truncated or malformed")
  let (predecessor, successor) ← Decoder.group
    (do
      let predecessor ← Reader.string maxIdLength
      let successor ← Reader.string maxIdLength
      pure (predecessor, successor))
    (malformed (MultipathFabric.text "supersede request is truncated"))
  let invalid := MultipathFabric.text "supersede request carries an invalid set identity"
  let predecessor ← identity predecessor invalid
  let successor : MultipathSetId ← identity successor invalid
  pure { out with context := context, setId := predecessor, text := successor.view }

def decodeEpochAdvance (out : WireRequest) : WireDecoder WireRequest := do
  let context ← decodeContext (text "epoch advance context is truncated or malformed")
  let expected ← Decoder.group Reader.u64 (malformed (text "epoch advance request is truncated"))
  Decoder.check (Generation.fromValue (d := .coordinatorEpoch) expected).isSome
    (malformed (text "epoch advance request carries an impossible epoch"))
  pure { out with context := context, number := expected }

def decodeSetState (out : WireRequest) : WireDecoder WireRequest := do
  let context ← decodeContext (MultipathFabric.text "set state request context is truncated or malformed")
  let (setId, action, reason) ← Decoder.group
    (do
      let setId ← Reader.string maxIdLength
      let action ← Reader.u8
      let reason ← Reader.string maxTextLength
      pure (setId, action, reason))
    (malformed (MultipathFabric.text "set state request is truncated"))
  let action ← Decoder.present (SetStateAction.fromRaw action)
    (malformed (MultipathFabric.text "set state request carries a malformed action selector"))
  let setId ← identity setId (MultipathFabric.text "set state request carries an invalid set identity")
  pure { out with context := context, setId := setId, stateAction := action, text := reason }

def decodeRefresh (out : WireRequest) : WireDecoder WireRequest := do
  let context ← decodeContext (text "refresh request context is truncated or malformed")
  let path ← Decoder.group (Reader.string maxIdLength) (malformed (text "refresh request is truncated"))
  let pathId ← identity path (text "refresh request carries an invalid path identity")
  pure { out with context := context, pathId := pathId }

def decodeSnapshotRequest (out : WireRequest) : WireDecoder WireRequest := do
  let (setId, snapshotId) ← Decoder.group
    (do
      let setId ← Reader.string maxIdLength
      let snapshotId ← Reader.string maxIdLength
      pure (setId, snapshotId))
    (malformed (text "snapshot request is truncated"))
  let invalid := text "snapshot request carries an invalid identity"
  let setId ← identity setId invalid
  let snapshotId ← identity snapshotId invalid
  pure { out with setId := setId, snapshotId := snapshotId }

def decodeRequest (id : MessageId) : WireDecoder WireRequest :=
  let out := WireRequest.blank id
  match id with
  | .hello | .listSets | .shutdown => pure out
  | .registerPublisher => decodeRegister out
  | .createSet => decodeCreate out
  | .addMember => decodeAdd out
  | .addMembers => decodeAddMembers out
  | .removeMember | .withdrawMember => decodeRemoval out
  | .revalidateMember | .memberAdminEnable | .memberAdminDisable => decodeMemberMessage out
  | .replaceMember => decodeReplace out
  | .setMinimum => decodeMinimum out
  | .setConditionalPolicy => decodePolicy out
  | .setAdminEnable | .setAdminDisable | .revalidateSet => decodeSetRequest out
  | .revokeSet => decodeRevoke out
  | .retireSet => decodeRetire out
  | .supersedeSet => decodeSupersede out
  | .epochAdvance => decodeEpochAdvance out
  | .advanceSetState => decodeSetState out
  | .applyPathAuthority | .declarePathAuthority => decodePathAuthority out
  | .refreshPath => decodeRefresh out
  | .querySet | .explainSet => decodeQuery out
  | .snapshotRequest => decodeSnapshotRequest out
  | .helloAck | .snapshotResponse | .fenceNotice | .result | .error =>
      fun _ => .error (makeRejection .protocolError
        (id.toString ++ text " is not a client request message"))

end Wire

end MultipathFabric
