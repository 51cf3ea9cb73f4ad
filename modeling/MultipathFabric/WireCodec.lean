import MultipathFabric.Wire

namespace MultipathFabric

open ByteCodec

theorem Generation.fromValue_value {d : GenerationDomain} {g : Generation d} (h : g.valid = true) :
    Generation.fromValue g.value = some g := by
  have hne : g.value ≠ 0 := by simpa [Generation.valid] using h
  simp [Generation.fromValue, hne]

theorem digitChar_toUInt8 {n : Nat} (h : n < 10) : n.digitChar.toUInt8 = UInt8.ofNat (48 + n) := by
  interval_cases n <;> rfl

theorem decimal_of_lt {n : Nat} (h : n < 10) : decimal n = [UInt8.ofNat (48 + n)] := by
  rw [decimal, Nat.toDigits_of_lt_base h, List.map_singleton, digitChar_toUInt8 h]

theorem decimal_of_le {n : Nat} (h : 10 ≤ n) : decimal n = decimal (n / 10) ++ [UInt8.ofNat (48 + n % 10)] := by
  rw [decimal, Nat.toDigits_of_base_le (by decide) h, List.map_append, List.map_singleton,
    digitChar_toUInt8 (Nat.mod_lt n (by decide))]
  rfl

namespace Wire

theorem parseU64Digits_append (a b : Bytes) (value : Nat) :
    parseU64Digits (a ++ b) value = (parseU64Digits a value).bind (parseU64Digits b) := by
  induction a generalizing value with
  | nil => rfl
  | cons c rest ih =>
      simp only [List.cons_append, parseU64Digits]
      split
      · rfl
      · split
        · rfl
        · exact ih _

theorem parseU64Digits_digit {digit value : Nat} (hdigit : digit < 10) (h : value * 10 + digit < 2 ^ 64) :
    parseU64Digits [UInt8.ofNat (48 + digit)] value = some (value * 10 + digit) := by
  have hbyte : (UInt8.ofNat (48 + digit)).toNat = 48 + digit := by
    rw [UInt8.toNat_ofNat']
    omega
  have hrange : ¬(UInt8.ofNat (48 + digit) < 48 ∨ 57 < UInt8.ofNat (48 + digit)) := by
    simp only [UInt8.lt_iff_toNat_lt, hbyte]
    change ¬(48 + digit < 48 ∨ 57 < 48 + digit)
    omega
  simp only [parseU64Digits, if_neg hrange, hbyte]
  rw [if_neg (by omega)]
  congr 1
  omega

theorem parseU64Digits_decimal (n : Nat) (h : n < 2 ^ 64) : parseU64Digits (decimal n) 0 = some n := by
  induction n using Nat.strongRecOn with
  | ind n ih =>
      by_cases hsmall : n < 10
      · rw [decimal_of_lt hsmall, parseU64Digits_digit hsmall (by omega), Nat.zero_mul, Nat.zero_add]
      · have hdiv : n / 10 * 10 + n % 10 = n := by omega
        rw [decimal_of_le (by omega), parseU64Digits_append, ih (n / 10) (by omega) (by omega)]
        change parseU64Digits [UInt8.ofNat (48 + n % 10)] (n / 10) = some n
        rw [parseU64Digits_digit (Nat.mod_lt n (by decide)) (by omega), hdiv]

theorem parseU64_decimal (n : UInt64) : parseU64 (decimal n.toNat) = some n := by
  have hne : (decimal n.toNat).isEmpty = false := by
    rw [List.isEmpty_eq_false_iff]
    exact decimal_ne_nil _
  rw [parseU64, hne, parseU64Digits_decimal _ n.toNat_lt]
  simp

theorem idField_fits {d : IdDomain} (id : StrongId d) : (idField id).fits = true := by
  have hlen := id.length_le_maxId
  exact Field.fits_string.mpr ⟨hlen, by omega⟩

theorem id_takes {d : IdDomain} (id : StrongId d) :
    Reader.Takes (Reader.string maxIdLength) (idField id).bytes id.view :=
  Reader.string_takes (idField_fits id) (Nat.le_refl _)

theorem parse_takes {d : IdDomain} {id : StrongId d} (h : id.valid = true) :
    Reader.Takes (Reader.present (StrongId.parse id.view)) [] id :=
  Reader.present_takes (id.parse_view h)

theorem generation_takes {d : GenerationDomain} {g : Generation d} (h : g.valid = true) :
    Reader.Takes (Reader.present (Generation.fromValue g.value)) [] g :=
  Reader.present_takes (Generation.fromValue_value h)

theorem optionalIdentity_takes {d : IdDomain} (id : StrongId d) :
    Reader.Takes (optionalIdentity id.view) [] id := by
  unfold optionalIdentity
  split
  · rename_i hempty
    have hunset : id = .unset := StrongId.ext (List.isEmpty_iff.mp hempty)
    rw [hunset]
    exact .pure _
  · rename_i hne
    exact parse_takes (by simpa [StrongId.valid] using hne)

theorem optionalNumber_takes {d : GenerationDomain} (g : Option (Generation d)) :
    Reader.Takes readOptionalId (encode (optionalNumberFields g))
      ((g.map fun g => decimal g.value.toNat).getD []) := by
  cases g with
  | none => exact (Reader.boolean_takes false).field (.pure _)
  | some g =>
      refine (Reader.boolean_takes true).field ?_
      have hfits : (Field.string (decimal g.value.toNat) maxIdLength).fits = true := by
        have hlen := decimal_length_of_u64 g.value
        exact Field.fits_string.mpr ⟨hlen.trans (by decide), by omega⟩
      have htakes := Reader.string_takes hfits (Nat.le_refl maxIdLength)
      simpa [encode] using htakes

theorem optionalGeneration_takes {d : GenerationDomain} {g : Option (Generation d)}
    (h : ∀ value, g = some value → value.valid = true) :
    Reader.Takes (optionalGeneration ((g.map fun g => decimal g.value.toNat).getD [])) [] g := by
  cases g with
  | none => exact .pure _
  | some g =>
      have hne : (decimal g.value.toNat).isEmpty = false := by
        rw [List.isEmpty_eq_false_iff]
        exact decimal_ne_nil _
      simp only [Option.map_some, Option.getD_some, optionalGeneration, hne]
      exact (Reader.present_takes (parseU64_decimal _)).bind_silent
        ((generation_takes (h g rfl)).bind_silent (.pure _))

end Wire

structure MutationContext.Sendable (context : MutationContext) : Prop where
  epoch : context.epoch.valid = true
  publisher : context.publisher.valid = true
  workerBoot : context.workerBoot.valid = true
  session : context.session.valid = true
  attempt : context.attempt.valid = true
  expectedSet : ∀ g, context.expectedSetGeneration = some g → g.valid = true
  expectedMember : ∀ g, context.expectedMemberGeneration = some g → g.valid = true

namespace Wire

theorem readContext_takes {context : MutationContext} (h : context.Sendable) :
    Reader.Takes readContext (encode (contextFields context)) context := by
  unfold readContext contextFields
  refine (Reader.u64_takes _).field ((id_takes _).field ((id_takes _).field ((id_takes _).field
    ((id_takes _).field ?_))))
  refine (optionalNumber_takes _).fields ?_
  rw [← List.append_nil (optionalNumberFields context.expectedMemberGeneration)]
  refine (optionalNumber_takes _).fields ?_
  refine (generation_takes h.epoch).bind_silent ((parse_takes h.publisher).bind_silent
    ((parse_takes h.workerBoot).bind_silent ((parse_takes h.session).bind_silent
      ((parse_takes h.attempt).bind_silent ?_))))
  exact (optionalGeneration_takes h.expectedSet).bind_silent
    ((optionalGeneration_takes h.expectedMember).bind_silent (.pure _))

theorem readKey_takes {key : SetKey} (h : key.valid = true) :
    Reader.Takes readKey (encode (keyFields key)) key := by
  simp only [SetKey.valid, Bool.and_eq_true] at h
  refine (id_takes _).field ((id_takes _).field ((id_takes _).field ?_))
  exact (parse_takes h.1.1).bind_silent ((parse_takes h.1.2).bind_silent
    ((parse_takes h.2).bind_silent (.pure _)))

theorem readSetIds_takes {setIds : List MultipathSetId} (h : ∀ id ∈ setIds, id.valid = true) :
    Reader.Takes (readSetIds setIds.length) (encode (setIds.map idField)) setIds := by
  induction setIds with
  | nil => exact .pure _
  | cons id rest ih =>
      refine (id_takes id).field ((parse_takes (h id List.mem_cons_self)).bind_silent ?_)
      rw [← List.append_nil (List.map idField rest)]
      exact (ih fun other hother => h other (List.mem_cons_of_mem _ hother)).fields (.pure _)

theorem narrowU32_of_lt {n : Nat} (h : n < 2 ^ 32) : narrowU32 n = some (UInt32.ofNat n) := if_pos h

theorem toNat_ofNat_of_lt {n : Nat} (h : n < 2 ^ 32) : (UInt32.ofNat n).toNat = n := by
  rw [UInt32.toNat_ofNat']
  exact Nat.mod_eq_of_lt h

theorem readScope_takes {scope : AuthorityScope} (h : ∀ id ∈ scope.setIds, id.valid = true)
    (hcount : scope.setIds.length ≤ maxScopeCount.toNat) :
    Reader.Takes readScope (encode (scopeFields scope)) scope := by
  have hmax : maxScopeCount.toNat = 4096 := rfl
  have hlt : scope.setIds.length < 2 ^ 32 := by omega
  rw [scopeFields, narrowU32_of_lt hlt]
  refine (id_takes _).field ((id_takes _).field ((Reader.u32_takes _).field ?_))
  have hwithin : ¬maxScopeCount < UInt32.ofNat scope.setIds.length := by
    rw [UInt32.lt_iff_toNat_lt, toNat_ofNat_of_lt hlt]
    omega
  refine Reader.Takes.bind_silent (Reader.present_takes (if_neg hwithin)) ?_
  refine (optionalIdentity_takes _).bind_silent ((optionalIdentity_takes _).bind_silent ?_)
  rw [toNat_ofNat_of_lt hlt, ← List.append_nil (List.map idField scope.setIds)]
  exact (readSetIds_takes h).fields (.pure _)

theorem identity_takes {d : IdDomain} {id : StrongId d} (h : id.valid = true) (invalid : Bytes) :
    Decoder.Takes (identity id.view invalid) [] id :=
  Decoder.present_takes (id.parse_view h)

theorem checked_generation_takes {d : GenerationDomain} {g : Generation d} (h : g.valid = true)
    (failure : FabricOutcome) : Decoder.Takes (Decoder.present (Generation.fromValue g.value) failure) [] g :=
  Decoder.present_takes (Generation.fromValue_value h)

theorem decodeContext_takes {context : MutationContext} (h : context.Sendable) (failure : Bytes) :
    Decoder.Takes (decodeContext failure) (encode (contextFields context)) context :=
  Decoder.group_takes (readContext_takes h)

variable {context : MutationContext} {setId : MultipathSetId} {memberId : MultipathMemberId} {pathId : PathId}
  {generation : PathAuthorityGeneration} {reason : Bytes}

theorem text_takes (h : reason.length ≤ maxTextLength) :
    Reader.Takes (Reader.string maxTextLength) (Field.string reason maxTextLength).bytes reason := by
  have hmax : maxTextLength = 512 := rfl
  exact Reader.string_takes (Field.fits_string.mpr ⟨h, by omega⟩) (Nat.le_refl _)

theorem decodeMemberRequest_takes {request : MemberRequest} (hpath : request.pathId.valid = true)
    (hgeneration : request.authorityGeneration.valid = true) :
    Decoder.Takes decodeMemberRequest (encode (memberRequestFields request)) request := by
  refine (Decoder.group_takes ((id_takes _).field ((Reader.u64_takes _).field (.pure _)))).last ?_
  exact (identity_takes hpath _).bind_silent ((checked_generation_takes hgeneration _).bind_silent (.pure _))

theorem decodeSetRequest_takes (hcontext : context.Sendable) (hset : setId.valid = true) (out : WireRequest) :
    Decoder.Takes (decodeSetRequest out) (encode (contextFields context ++ [idField setId]))
      { out with context := context, setId := setId } := by
  refine (decodeContext_takes hcontext _).fields ((Decoder.group_takes (id_takes _).only).last ?_)
  exact (identity_takes hset _).bind_silent (.pure _)

theorem decodeMemberMessage_takes (hcontext : context.Sendable) (hset : setId.valid = true)
    (hmember : memberId.valid = true) (out : WireRequest) :
    Decoder.Takes (decodeMemberMessage out)
      (encode (contextFields context ++ [idField setId, idField memberId]))
      { out with context := context, setId := setId, memberId := memberId } := by
  refine (decodeContext_takes hcontext _).fields ?_
  refine (Decoder.group_takes ((id_takes _).field ((id_takes _).field (.pure _)))).last ?_
  exact (identity_takes hset _).bind_silent ((identity_takes hmember _).bind_silent (.pure _))

theorem decodeRemoval_takes (hcontext : context.Sendable) (hset : setId.valid = true)
    (hmember : memberId.valid = true) (hreason : reason.length ≤ maxTextLength) (out : WireRequest) :
    Decoder.Takes (decodeRemoval out)
      (encode (contextFields context ++ [idField setId, idField memberId, .string reason maxTextLength]))
      { out with context := context, setId := setId, memberId := memberId, text := reason } := by
  have hsplit : contextFields context ++ [idField setId, idField memberId, .string reason maxTextLength] =
      (contextFields context ++ [idField setId, idField memberId]) ++ [.string reason maxTextLength] := by
    rw [List.append_assoc]
    rfl
  rw [hsplit]
  exact (decodeMemberMessage_takes hcontext hset hmember out).fields
    ((Decoder.group_takes (text_takes hreason).only).last (.pure _))

theorem decodePathAuthority_takes (hcontext : context.Sendable) (hpath : pathId.valid = true)
    (hgeneration : generation.valid = true) (state : PathAuthorityState) (out : WireRequest) :
    Decoder.Takes (decodePathAuthority out)
      (encode (contextFields context ++ [idField pathId, .u64 generation.value, .u8 state.raw]))
      { out with
        context := context, pathId := pathId, pathAuthorityGeneration := generation, pathState := state } := by
  refine (decodeContext_takes hcontext _).fields ?_
  refine (Decoder.group_takes ((id_takes _).field ((Reader.u64_takes _).field
    ((Reader.u8_takes _).field (.pure _))))).last ?_
  exact (Decoder.present_takes (PathAuthorityState.fromRaw_raw state)).bind_silent
    ((identity_takes hpath _).bind_silent ((checked_generation_takes hgeneration _).bind_silent (.pure _)))

theorem decodeQuery_takes (hset : setId.valid = true) (out : WireRequest) :
    Decoder.Takes (decodeQuery out) (encode [idField setId]) { out with setId := setId } :=
  (Decoder.group_takes (id_takes _).only).last ((identity_takes hset _).bind_silent (.pure _))

theorem decodeRegister_takes (request : WireRequest) (hpublisher : request.context.publisher.valid = true)
    (hboot : request.context.workerBoot.valid = true) (hsession : request.context.session.valid = true)
    (hids : ∀ id ∈ request.scope.setIds, id.valid = true)
    (hcount : request.scope.setIds.length ≤ maxScopeCount.toNat) (out : WireRequest) :
    Decoder.Takes (decodeRegister out)
      (encode ([idField request.context.publisher, idField request.context.workerBoot,
        idField request.context.session] ++ scopeFields request.scope))
      { out with
        context := { out.context with
          publisher := request.context.publisher
          workerBoot := request.context.workerBoot
          session := request.context.session }
        scope := request.scope } := by
  refine (Decoder.group_takes ((id_takes _).field ((id_takes _).field ((id_takes _).field (.pure _))))).fields ?_
  refine (identity_takes hpublisher _).bind_silent ((identity_takes hboot _).bind_silent
    ((identity_takes hsession _).bind_silent ?_))
  exact (Decoder.group_takes (readScope_takes hids hcount)).last (.pure _)

theorem decodeCreate_takes {key : SetKey} (hcontext : context.Sendable) (hkey : key.valid = true)
    (options : SetOptions) (out : WireRequest) :
    Decoder.Takes (decodeCreate out)
      (encode (contextFields context ++ (keyFields key ++ [.u64 options.minimumUsableMembers,
        .boolean options.adminEnabled, .boolean options.conditionalAuthorityPermitted])))
      { out with context := context, key := key, options := options } := by
  refine (decodeContext_takes hcontext _).fields ((Decoder.group_takes (readKey_takes hkey)).fields ?_)
  exact (Decoder.group_takes ((Reader.u64_takes _).field ((Reader.boolean_takes _).field
    ((Reader.boolean_takes _).field (.pure _))))).last (.pure _)

theorem decodeAdd_takes (hcontext : context.Sendable) (hset : setId.valid = true) (hpath : pathId.valid = true)
    (hgeneration : generation.valid = true) (out : WireRequest) :
    Decoder.Takes (decodeAdd out)
      (encode (contextFields context ++ [idField setId, idField pathId, .u64 generation.value]))
      { out with
        context := context, setId := setId, pathId := pathId, pathAuthorityGeneration := generation } := by
  refine (decodeContext_takes hcontext _).fields ?_
  refine (Decoder.group_takes ((id_takes _).field ((id_takes _).field
    ((Reader.u64_takes _).field (.pure _))))).last ?_
  exact (identity_takes hset _).bind_silent ((identity_takes hpath _).bind_silent
    ((checked_generation_takes hgeneration _).bind_silent (.pure _)))

theorem decodeAddMembers_takes {members : List MemberRequest} (hcontext : context.Sendable)
    (hset : setId.valid = true)
    (hmembers : ∀ m ∈ members, m.pathId.valid = true ∧ m.authorityGeneration.valid = true)
    (hcount : members.length ≤ maxBatchCount.toNat) (out : WireRequest) :
    Decoder.Takes (decodeAddMembers out)
      (encode (contextFields context ++ ([idField setId, .u32 (UInt32.ofNat members.length)] ++
        members.flatMap memberRequestFields)))
      { out with context := context, setId := setId, members := members } := by
  have hmax : maxBatchCount.toNat = 100000 := rfl
  have hlt : members.length < 2 ^ 32 := by omega
  refine (decodeContext_takes hcontext _).fields ?_
  refine (Decoder.group_takes ((id_takes _).field ((Reader.u32_takes _).field (.pure _)))).fields ?_
  have hwithin : decide (UInt32.ofNat members.length ≤ maxBatchCount) = true := by
    rw [decide_eq_true_iff, UInt32.le_iff_toNat_le, toNat_ofNat_of_lt hlt]
    exact hcount
  refine (Decoder.check_takes hwithin).bind_silent ((identity_takes hset _).bind_silent ?_)
  rw [toNat_ofNat_of_lt hlt]
  have htimes : Decoder.Takes (Decoder.times decodeMemberRequest members.length)
      (encode (members.flatMap memberRequestFields)) members := by
    rw [encode, List.flatMap_assoc]
    exact Decoder.times_takes fun m hm => decodeMemberRequest_takes (hmembers m hm).1 (hmembers m hm).2
  exact htimes.last (.pure _)

theorem decodeReplace_takes (hcontext : context.Sendable) (hset : setId.valid = true)
    (hmember : memberId.valid = true) (hpath : pathId.valid = true) (hgeneration : generation.valid = true)
    (hreason : reason.length ≤ maxTextLength) (out : WireRequest) :
    Decoder.Takes (decodeReplace out)
      (encode (contextFields context ++ [idField setId, idField memberId, idField pathId, .u64 generation.value,
        .string reason maxTextLength]))
      { out with
        context := context
        setId := setId
        memberId := memberId
        pathId := pathId
        pathAuthorityGeneration := generation
        text := reason } := by
  refine (decodeContext_takes hcontext _).fields ?_
  refine (Decoder.group_takes ((id_takes _).field ((id_takes _).field ((id_takes _).field
    ((Reader.u64_takes _).field ((text_takes hreason).field (.pure _))))))).last ?_
  exact (identity_takes hset _).bind_silent ((identity_takes hmember _).bind_silent
    ((identity_takes hpath _).bind_silent ((checked_generation_takes hgeneration _).bind_silent (.pure _))))

theorem decodeMinimum_takes (hcontext : context.Sendable) (hset : setId.valid = true) (minimum : UInt64)
    (out : WireRequest) :
    Decoder.Takes (decodeMinimum out) (encode (contextFields context ++ [idField setId, .u64 minimum]))
      { out with context := context, setId := setId, number := minimum } := by
  refine (decodeContext_takes hcontext _).fields ?_
  refine (Decoder.group_takes ((id_takes _).field ((Reader.u64_takes _).field (.pure _)))).last ?_
  exact (identity_takes hset _).bind_silent (.pure _)

theorem decodePolicy_takes (hcontext : context.Sendable) (hset : setId.valid = true) (permitted : Bool)
    (out : WireRequest) :
    Decoder.Takes (decodePolicy out) (encode (contextFields context ++ [idField setId, .boolean permitted]))
      { out with context := context, setId := setId, flag := permitted } := by
  refine (decodeContext_takes hcontext _).fields ?_
  refine (Decoder.group_takes ((id_takes _).field ((Reader.boolean_takes _).field (.pure _)))).last ?_
  exact (identity_takes hset _).bind_silent (.pure _)

theorem decodeRevoke_takes (hcontext : context.Sendable) (hset : setId.valid = true) (code : RevocationReason)
    (hreason : reason.length ≤ maxTextLength) (out : WireRequest) :
    Decoder.Takes (decodeRevoke out)
      (encode (contextFields context ++ [idField setId, .u8 code.raw, .string reason maxTextLength]))
      { out with context := context, setId := setId, revocationReason := code, text := reason } := by
  refine (decodeContext_takes hcontext _).fields ?_
  refine (Decoder.group_takes ((id_takes _).field ((Reader.u8_takes _).field
    ((text_takes hreason).field (.pure _))))).last ?_
  exact (Decoder.present_takes (RevocationReason.fromRaw_raw code)).bind_silent
    ((identity_takes hset _).bind_silent (.pure _))

theorem decodeRetire_takes (hcontext : context.Sendable) (hset : setId.valid = true)
    (hreason : reason.length ≤ maxTextLength) (out : WireRequest) :
    Decoder.Takes (decodeRetire out)
      (encode (contextFields context ++ [idField setId, .string reason maxTextLength]))
      { out with context := context, setId := setId, text := reason } := by
  refine (decodeContext_takes hcontext _).fields ?_
  refine (Decoder.group_takes ((id_takes _).field ((text_takes hreason).field (.pure _)))).last ?_
  exact (identity_takes hset _).bind_silent (.pure _)

theorem decodeEpochAdvance_takes (hcontext : context.Sendable) {epoch : CoordinatorEpoch}
    (hepoch : epoch.valid = true) (out : WireRequest) :
    Decoder.Takes (decodeEpochAdvance out) (encode (contextFields context ++ [.u64 epoch.value]))
      { out with context := context, number := epoch.value } := by
  refine (decodeContext_takes hcontext _).fields ((Decoder.group_takes (Reader.u64_takes _).only).last ?_)
  have hsome : (Generation.fromValue (d := .coordinatorEpoch) epoch.value).isSome = true := by
    rw [Generation.fromValue_value hepoch]
    rfl
  exact (Decoder.check_takes hsome).bind_silent (.pure _)

theorem decodeSetState_takes (hcontext : context.Sendable) (hset : setId.valid = true) (action : SetStateAction)
    (hreason : reason.length ≤ maxTextLength) (out : WireRequest) :
    Decoder.Takes (decodeSetState out)
      (encode (contextFields context ++ [idField setId, .u8 action.raw, .string reason maxTextLength]))
      { out with context := context, setId := setId, stateAction := action, text := reason } := by
  refine (decodeContext_takes hcontext _).fields ?_
  refine (Decoder.group_takes ((id_takes _).field ((Reader.u8_takes _).field
    ((text_takes hreason).field (.pure _))))).last ?_
  exact (Decoder.present_takes (SetStateAction.fromRaw_raw action)).bind_silent
    ((identity_takes hset _).bind_silent (.pure _))

theorem decodeRefresh_takes (hcontext : context.Sendable) (hpath : pathId.valid = true) (out : WireRequest) :
    Decoder.Takes (decodeRefresh out) (encode (contextFields context ++ [idField pathId]))
      { out with context := context, pathId := pathId } := by
  refine (decodeContext_takes hcontext _).fields ((Decoder.group_takes (id_takes _).only).last ?_)
  exact (identity_takes hpath _).bind_silent (.pure _)

theorem decodeSnapshotRequest_takes {snapshotId : SnapshotId} (hset : setId.valid = true)
    (hsnapshot : snapshotId.valid = true) (out : WireRequest) :
    Decoder.Takes (decodeSnapshotRequest out) (encode [idField setId, idField snapshotId])
      { out with setId := setId, snapshotId := snapshotId } := by
  refine (Decoder.group_takes ((id_takes _).field ((id_takes _).field (.pure _)))).last ?_
  exact (identity_takes hset _).bind_silent ((identity_takes hsnapshot _).bind_silent (.pure _))

theorem decodeSupersede_unset (hcontext : context.Sendable) (hset : setId.valid = true) (out : WireRequest)
    (rest : Bytes) :
    decodeSupersede out (encode (contextFields context ++ [idField setId, idField (.unset : PathId)]) ++ rest) =
      .error (malformed (text "supersede request carries an invalid set identity")) := by
  have hgroup : Reader.Takes
      (do
        let predecessor ← Reader.string maxIdLength
        let successor ← Reader.string maxIdLength
        pure (predecessor, successor))
      (encode [idField setId, idField (.unset : PathId)]) (setId.view, (StrongId.unset : PathId).view) :=
    (id_takes setId).field ((id_takes .unset).field (.pure _))
  rw [encode_append, List.append_assoc]
  refine (decodeContext_takes hcontext _).run.trans ((Decoder.group_takes hgroup).run.trans ?_)
  exact (identity_takes hset _).run_silent.trans (Decoder.bind_error rfl)

theorem readScope_overlong {scope : AuthorityScope} (h : maxScopeCount.toNat < scope.setIds.length) :
    readScope (encode (scopeFields scope)) = none := by
  have hmax : maxScopeCount.toNat = 4096 := rfl
  rw [scopeFields, encode_append, encode_cons, encode_cons, encode_nil, List.append_nil, List.append_assoc]
  refine (id_takes scope.fabric).run.trans ((id_takes scope.nameSpace).run.trans ?_)
  by_cases hlt : scope.setIds.length < 2 ^ 32
  · have hover : maxScopeCount < UInt32.ofNat scope.setIds.length := by
      rw [UInt32.lt_iff_toNat_lt, toNat_ofNat_of_lt hlt]
      exact h
    rw [narrowU32_of_lt hlt]
    refine (Reader.u32_takes _).run.trans (Reader.bind_none ?_)
    simp [Reader.present, hover]
  · rw [narrowU32, if_neg hlt]
    exact Reader.bind_none rfl

theorem decodeRegister_overlong (request : WireRequest) (hpublisher : request.context.publisher.valid = true)
    (hboot : request.context.workerBoot.valid = true) (hsession : request.context.session.valid = true)
    (hcount : maxScopeCount.toNat < request.scope.setIds.length) (out : WireRequest) :
    decodeRegister out
      (encode ([idField request.context.publisher, idField request.context.workerBoot,
        idField request.context.session] ++ scopeFields request.scope)) =
      .error (malformed (text "register request scope is truncated or malformed")) := by
  have hgroup : Reader.Takes
      (do
        let publisher ← Reader.string maxIdLength
        let boot ← Reader.string maxIdLength
        let session ← Reader.string maxIdLength
        pure (publisher, boot, session))
      (encode [idField request.context.publisher, idField request.context.workerBoot,
        idField request.context.session])
      (request.context.publisher.view, request.context.workerBoot.view, request.context.session.view) :=
    (id_takes _).field ((id_takes _).field ((id_takes _).field (.pure _)))
  rw [encode_append]
  refine (Decoder.group_takes hgroup).run.trans ((identity_takes hpublisher _).run_silent.trans
    ((identity_takes hboot _).run_silent.trans ((identity_takes hsession _).run_silent.trans ?_)))
  refine Decoder.bind_error ?_
  rw [Decoder.group, readScope_overlong hcount]

end Wire

end MultipathFabric
