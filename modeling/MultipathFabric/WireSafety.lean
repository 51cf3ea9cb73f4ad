import MultipathFabric.Library.ReadScript
import MultipathFabric.ResponseRoundTrip

namespace MultipathFabric

open ByteCodec

instance : Nonempty FabricOutcome := ⟨makeOutcome .ok []⟩

theorem Generation.valid_of_fromValue {d : GenerationDomain} {value : UInt64} {g : Generation d}
    (h : Generation.fromValue value = some g) : g.valid = true := by
  unfold Generation.fromValue at h
  split at h
  · cases h
  · rename_i hne
    cases h
    simpa [Generation.valid] using hne

namespace Wire

section Readers

variable {d : IdDomain} {g : GenerationDomain}

theorem readOptionalId_safe : Reader.Safe readOptionalId fun _ => True := by
  refine .boolean fun flag => ?_
  split
  · exact .read (.string maxIdLength)
  · exact .any _

theorem optionalGeneration_safe (t : Bytes) :
    Reader.Safe (optionalGeneration t : Reader (Option (Generation g))) fun x => ∀ y, x = some y → y.valid = true := by
  unfold optionalGeneration
  split
  · refine .done fun y hy => ?_
    cases hy
  · refine .present fun value _ => .present fun y hy => .done ?_
    rintro _ ⟨⟩
    exact Generation.valid_of_fromValue hy

theorem optionalIdentity_safe (t : Bytes) : Reader.Safe (optionalIdentity t : Reader (StrongId d)) fun _ => True := by
  unfold optionalIdentity
  split
  · exact .any _
  · have hpresent : Reader.Safe (Reader.present (StrongId.parse t : Option (StrongId d)) >>= pure) fun _ => True :=
      .present fun _ _ => .any _
    rwa [bind_pure] at hpresent

theorem readContext_safe : Reader.Safe readContext MutationContext.Sendable := by
  refine .u64 fun epoch => .string fun publisher => .string fun boot => .string fun session => .string fun attempt => ?_
  refine readOptionalId_safe.bind fun set _ => readOptionalId_safe.bind fun member _ => ?_
  refine .present fun _ hepoch => .present fun _ hpublisher => .present fun _ hboot => .present fun _ hsession =>
    .present fun _ hattempt => ?_
  refine (optionalGeneration_safe set).bind fun _ hset => (optionalGeneration_safe member).bind fun _ hmember => .done ?_
  exact
    { epoch := Generation.valid_of_fromValue hepoch
      publisher := StrongId.valid_of_parse hpublisher
      workerBoot := StrongId.valid_of_parse hboot
      session := StrongId.valid_of_parse hsession
      attempt := StrongId.valid_of_parse hattempt
      expectedSet := hset
      expectedMember := hmember }

theorem readKey_safe : Reader.Safe readKey fun key => key.valid = true := by
  refine .string fun fabric => .string fun space => .string fun name => ?_
  refine .present fun _ hfabric => .present fun _ hspace => .present fun _ hname => .done ?_
  simp only [SetKey.valid, Bool.and_eq_true]
  exact ⟨⟨StrongId.valid_of_parse hfabric, StrongId.valid_of_parse hspace⟩, StrongId.valid_of_parse hname⟩

theorem readSetIds_safe (n : ℕ) : Reader.Safe (readSetIds n) fun ids => ∀ id ∈ ids, id.valid = true := by
  induction n with
  | zero => exact .done fun id hid => absurd hid List.not_mem_nil
  | succ n ih =>
      refine .string fun value => .present fun first hfirst => ih.bind fun rest hrest => .done ?_
      intro id hid
      rcases List.mem_cons.mp hid with rfl | hid
      · exact StrongId.valid_of_parse hfirst
      · exact hrest id hid

theorem readScope_safe : Reader.Safe readScope fun scope => ∀ id ∈ scope.setIds, id.valid = true := by
  refine .string fun fabric => .string fun space => .u32 fun count => .present fun _ _ => ?_
  exact (optionalIdentity_safe fabric).bind fun _ _ => (optionalIdentity_safe space).bind fun _ _ =>
    (readSetIds_safe count.toNat).bind fun ids hids => .done hids

theorem identity_safe (t invalid : Bytes) :
    Decoder.Safe (identity t invalid : WireDecoder (StrongId d)) fun id => id.valid = true :=
  .present_only fun _ h => StrongId.valid_of_parse h

theorem decodeContext_safe (failure : Bytes) : Decoder.Safe (decodeContext failure) MutationContext.Sendable :=
  .group_only readContext_safe

end Readers

section Requests

variable (out : WireRequest)

theorem decodeMemberRequest_safe :
    Decoder.Safe decodeMemberRequest fun m => m.pathId.valid = true ∧ m.authorityGeneration.valid = true := by
  refine .group (.string fun _ => .u64 fun _ => .any _) ?_
  rintro ⟨path, generation⟩ -
  exact (identity_safe _ _).step fun _ hpath => .present fun _ hgeneration =>
    .done ⟨hpath, Generation.valid_of_fromValue hgeneration⟩

theorem decodeSetRequest_safe :
    Decoder.Safe (decodeSetRequest out) fun r => r.context.Sendable ∧ r.setId.valid = true := by
  refine (decodeContext_safe _).step fun context hcontext => .group (.read (.string maxIdLength)) fun t _ => ?_
  exact (identity_safe t _).step fun _ hset => .done ⟨hcontext, hset⟩

theorem decodeMemberMessage_safe : Decoder.Safe (decodeMemberMessage out) fun r =>
    r.context.Sendable ∧ r.setId.valid = true ∧ r.memberId.valid = true := by
  refine (decodeContext_safe _).step fun context hcontext =>
    .group (.string fun _ => .string fun _ => .any _) ?_
  rintro ⟨set, member⟩ -
  exact (identity_safe set _).step fun _ hset => (identity_safe member _).step fun _ hmember =>
    .done ⟨hcontext, hset, hmember⟩

theorem decodeRemoval_safe : Decoder.Safe (decodeRemoval out) fun r =>
    r.context.Sendable ∧ r.setId.valid = true ∧ r.memberId.valid = true :=
  (decodeMemberMessage_safe out).step fun _ h => .group (.read (.string maxTextLength)) fun _ _ => .done h

theorem decodePathAuthority_safe : Decoder.Safe (decodePathAuthority out) fun r =>
    r.context.Sendable ∧ r.pathId.valid = true ∧ r.pathAuthorityGeneration.valid = true := by
  refine (decodeContext_safe _).step fun context hcontext =>
    .group (.string fun _ => .u64 fun _ => .u8 fun _ => .any _) ?_
  rintro ⟨path, generation, state⟩ -
  exact .present fun _ _ => (identity_safe path _).step fun _ hpath => .present fun _ hgeneration =>
    .done ⟨hcontext, hpath, Generation.valid_of_fromValue hgeneration⟩

theorem decodeQuery_safe : Decoder.Safe (decodeQuery out) fun r => r.setId.valid = true :=
  .group (.read (.string maxIdLength)) fun t _ => (identity_safe t _).step fun _ hset => .done hset

theorem decodeRegister_safe : Decoder.Safe (decodeRegister out) fun r =>
    r.context.publisher.valid = true ∧ r.context.workerBoot.valid = true ∧ r.context.session.valid = true ∧
      ∀ setId ∈ r.scope.setIds, setId.valid = true := by
  refine .group (.string fun _ => .string fun _ => .string fun _ => .any _) ?_
  rintro ⟨publisher, boot, session⟩ -
  exact (identity_safe publisher _).step fun _ hpublisher => (identity_safe boot _).step fun _ hboot =>
    (identity_safe session _).step fun _ hsession => .group readScope_safe fun _ hscope =>
      .done ⟨hpublisher, hboot, hsession, hscope⟩

theorem decodeCreate_safe : Decoder.Safe (decodeCreate out) fun r => r.context.Sendable ∧ r.key.valid = true := by
  refine (decodeContext_safe _).step fun context hcontext => .group readKey_safe fun key hkey =>
    .group (.u64 fun _ => .boolean fun _ => .boolean fun _ => .any _) ?_
  rintro ⟨minimum, admin, conditional⟩ -
  exact .done ⟨hcontext, hkey⟩

theorem decodeAdd_safe : Decoder.Safe (decodeAdd out) fun r =>
    r.context.Sendable ∧ r.setId.valid = true ∧ r.pathId.valid = true ∧ r.pathAuthorityGeneration.valid = true := by
  refine (decodeContext_safe _).step fun context hcontext =>
    .group (.string fun _ => .string fun _ => .u64 fun _ => .any _) ?_
  rintro ⟨set, path, generation⟩ -
  exact (identity_safe set _).step fun _ hset => (identity_safe path _).step fun _ hpath => .present fun _ hgeneration =>
    .done ⟨hcontext, hset, hpath, Generation.valid_of_fromValue hgeneration⟩

theorem decodeAddMembers_safe : Decoder.Safe (decodeAddMembers out) fun r =>
    r.context.Sendable ∧ r.setId.valid = true ∧
      ∀ m ∈ r.members, m.pathId.valid = true ∧ m.authorityGeneration.valid = true := by
  refine (decodeContext_safe _).step fun context hcontext => .group (.string fun _ => .u32 fun _ => .any _) ?_
  rintro ⟨set, count⟩ -
  exact .check fun _ => (identity_safe set _).step fun _ hset => (decodeMemberRequest_safe.times _).step
    fun _ hmembers => .done ⟨hcontext, hset, hmembers.2⟩

theorem decodeReplace_safe : Decoder.Safe (decodeReplace out) fun r =>
    r.context.Sendable ∧ r.setId.valid = true ∧ r.memberId.valid = true ∧ r.pathId.valid = true ∧
      r.pathAuthorityGeneration.valid = true := by
  refine (decodeContext_safe _).step fun context hcontext => .group (.string fun _ => .string fun _ => .string fun _ =>
    .u64 fun _ => .string fun _ => .any _) ?_
  rintro ⟨set, member, path, generation, reason⟩ -
  exact (identity_safe set _).step fun _ hset => (identity_safe member _).step fun _ hmember =>
    (identity_safe path _).step fun _ hpath => .present fun _ hgeneration =>
      .done ⟨hcontext, hset, hmember, hpath, Generation.valid_of_fromValue hgeneration⟩

theorem decodeMinimum_safe :
    Decoder.Safe (decodeMinimum out) fun r => r.context.Sendable ∧ r.setId.valid = true := by
  refine (decodeContext_safe _).step fun context hcontext => .group (.string fun _ => .u64 fun _ => .any _) ?_
  rintro ⟨set, minimum⟩ -
  exact (identity_safe set _).step fun _ hset => .done ⟨hcontext, hset⟩

theorem decodePolicy_safe :
    Decoder.Safe (decodePolicy out) fun r => r.context.Sendable ∧ r.setId.valid = true := by
  refine (decodeContext_safe _).step fun context hcontext =>
    .group (.string fun _ => .boolean fun _ => .any _) ?_
  rintro ⟨set, permitted⟩ -
  exact (identity_safe set _).step fun _ hset => .done ⟨hcontext, hset⟩

theorem decodeRevoke_safe :
    Decoder.Safe (decodeRevoke out) fun r => r.context.Sendable ∧ r.setId.valid = true := by
  refine (decodeContext_safe _).step fun context hcontext =>
    .group (.string fun _ => .u8 fun _ => .string fun _ => .any _) ?_
  rintro ⟨set, reason, detail⟩ -
  exact .present fun _ _ => (identity_safe set _).step fun _ hset => .done ⟨hcontext, hset⟩

theorem decodeRetire_safe :
    Decoder.Safe (decodeRetire out) fun r => r.context.Sendable ∧ r.setId.valid = true := by
  refine (decodeContext_safe _).step fun context hcontext =>
    .group (.string fun _ => .string fun _ => .any _) ?_
  rintro ⟨set, reason⟩ -
  exact (identity_safe set _).step fun _ hset => .done ⟨hcontext, hset⟩

theorem view_allowed {d : IdDomain} {id : StrongId d} (h : id.valid = true) : idTextAllowed d id.view = true := by
  rcases id.wellFormed with hview | hview
  · simp [StrongId.valid, hview] at h
  · exact hview

theorem decodeSupersede_safe : Decoder.Safe (decodeSupersede out) fun r =>
    r.context.Sendable ∧ r.setId.valid = true ∧ idTextAllowed .multipathSet r.text = true := by
  refine (decodeContext_safe _).step fun context hcontext =>
    .group (.string fun _ => .string fun _ => .any _) ?_
  rintro ⟨predecessor, successor⟩ -
  exact (identity_safe predecessor _).step fun _ hset => (identity_safe successor _).step fun _ hsuccessor =>
    .done ⟨hcontext, hset, view_allowed hsuccessor⟩

theorem decodeEpochAdvance_safe :
    Decoder.Safe (decodeEpochAdvance out) fun r => r.context.Sendable ∧ r.number ≠ 0 := by
  refine (decodeContext_safe _).step fun context hcontext => .group (.read .u64) fun expected _ => .check fun hexpected =>
    .done ⟨hcontext, ?_⟩
  intro hzero
  change expected = 0 at hzero
  rw [hzero] at hexpected
  cases hexpected

theorem decodeSetState_safe :
    Decoder.Safe (decodeSetState out) fun r => r.context.Sendable ∧ r.setId.valid = true := by
  refine (decodeContext_safe _).step fun context hcontext =>
    .group (.string fun _ => .u8 fun _ => .string fun _ => .any _) ?_
  rintro ⟨set, action, reason⟩ -
  exact .present fun _ _ => (identity_safe set _).step fun _ hset => .done ⟨hcontext, hset⟩

theorem decodeRefresh_safe :
    Decoder.Safe (decodeRefresh out) fun r => r.context.Sendable ∧ r.pathId.valid = true := by
  refine (decodeContext_safe _).step fun context hcontext => .group (.read (.string maxIdLength)) fun path _ => ?_
  exact (identity_safe path _).step fun _ hpath => .done ⟨hcontext, hpath⟩

theorem decodeSnapshotRequest_safe :
    Decoder.Safe (decodeSnapshotRequest out) fun r => r.setId.valid = true ∧ r.snapshotId.valid = true := by
  refine .group (.string fun _ => .string fun _ => .any _) ?_
  rintro ⟨set, snapshot⟩ -
  exact (identity_safe set _).step fun _ hset => (identity_safe snapshot _).step fun _ hsnapshot =>
    .done ⟨hset, hsnapshot⟩

def Decoded (id : MessageId) (r : WireRequest) : Prop :=
  match id with
  | .hello | .listSets | .shutdown => r = WireRequest.blank id
  | .registerPublisher =>
      r.context.publisher.valid = true ∧ r.context.workerBoot.valid = true ∧ r.context.session.valid = true ∧
        ∀ setId ∈ r.scope.setIds, setId.valid = true
  | .createSet => r.context.Sendable ∧ r.key.valid = true
  | .addMember =>
      r.context.Sendable ∧ r.setId.valid = true ∧ r.pathId.valid = true ∧ r.pathAuthorityGeneration.valid = true
  | .addMembers =>
      r.context.Sendable ∧ r.setId.valid = true ∧
        ∀ m ∈ r.members, m.pathId.valid = true ∧ m.authorityGeneration.valid = true
  | .removeMember | .withdrawMember | .revalidateMember | .memberAdminEnable | .memberAdminDisable =>
      r.context.Sendable ∧ r.setId.valid = true ∧ r.memberId.valid = true
  | .replaceMember =>
      r.context.Sendable ∧ r.setId.valid = true ∧ r.memberId.valid = true ∧ r.pathId.valid = true ∧
        r.pathAuthorityGeneration.valid = true
  | .setMinimum | .setConditionalPolicy | .setAdminEnable | .setAdminDisable | .revalidateSet | .revokeSet | .retireSet
  | .advanceSetState => r.context.Sendable ∧ r.setId.valid = true
  | .supersedeSet => r.context.Sendable ∧ r.setId.valid = true ∧ idTextAllowed .multipathSet r.text = true
  | .epochAdvance => r.context.Sendable ∧ r.number ≠ 0
  | .applyPathAuthority | .declarePathAuthority =>
      r.context.Sendable ∧ r.pathId.valid = true ∧ r.pathAuthorityGeneration.valid = true
  | .refreshPath => r.context.Sendable ∧ r.pathId.valid = true
  | .querySet | .explainSet => r.setId.valid = true
  | .snapshotRequest => r.setId.valid = true ∧ r.snapshotId.valid = true
  | .helloAck | .snapshotResponse | .fenceNotice | .result | .error => False

theorem refused_safe (e : FabricOutcome) (good : WireRequest → Prop) :
    Decoder.Safe (fun _ => .error e) good := by
  refine ⟨⟨.fail e, fun _ => rfl⟩, ?_⟩
  intro bytes value rest h
  cases h

theorem decodeRequest_safe (id : MessageId) : Decoder.Safe (decodeRequest id) (Decoded id) := by
  cases id with
  | hello => exact .done rfl
  | listSets => exact .done rfl
  | shutdown => exact .done rfl
  | registerPublisher => exact decodeRegister_safe _
  | createSet => exact decodeCreate_safe _
  | addMember => exact decodeAdd_safe _
  | addMembers => exact decodeAddMembers_safe _
  | removeMember => exact decodeRemoval_safe _
  | withdrawMember => exact decodeRemoval_safe _
  | revalidateMember => exact decodeMemberMessage_safe _
  | memberAdminEnable => exact decodeMemberMessage_safe _
  | memberAdminDisable => exact decodeMemberMessage_safe _
  | replaceMember => exact decodeReplace_safe _
  | setMinimum => exact decodeMinimum_safe _
  | setConditionalPolicy => exact decodePolicy_safe _
  | setAdminEnable => exact decodeSetRequest_safe _
  | setAdminDisable => exact decodeSetRequest_safe _
  | revalidateSet => exact decodeSetRequest_safe _
  | revokeSet => exact decodeRevoke_safe _
  | retireSet => exact decodeRetire_safe _
  | supersedeSet => exact decodeSupersede_safe _
  | epochAdvance => exact decodeEpochAdvance_safe _
  | advanceSetState => exact decodeSetState_safe _
  | applyPathAuthority => exact decodePathAuthority_safe _
  | declarePathAuthority => exact decodePathAuthority_safe _
  | refreshPath => exact decodeRefresh_safe _
  | querySet => exact decodeQuery_safe _
  | explainSet => exact decodeQuery_safe _
  | snapshotRequest => exact decodeSnapshotRequest_safe _
  | _ => exact refused_safe _ _

end Requests

section Responses

variable {α : Type} {d : IdDomain} {g : GenerationDomain} {p : WireDecoder α} {good : α → Prop}

theorem decodeWhen_safe (h : Decoder.Safe p good) (present : Bool) :
    Decoder.Safe (decodeWhen present p) fun x => ∀ a, x = some a → good a := by
  unfold decodeWhen
  split
  · refine h.step fun a ha => .done ?_
    rintro _ ⟨⟩
    exact ha
  · refine .done fun a ha => ?_
    cases ha

theorem decodeIdentity_safe (truncated invalid : Bytes) :
    Decoder.Safe (decodeIdentity truncated invalid : WireDecoder (StrongId d)) fun id => id.valid = true :=
  .group (.read (.string maxIdLength)) fun t _ => identity_safe t _

theorem decodeGeneration_safe (truncated impossible : Bytes) :
    Decoder.Safe (decodeGeneration truncated impossible : WireDecoder (Generation g)) fun x => x.valid = true :=
  .group (.read .u64) fun _ _ => .present_only fun _ h => Generation.valid_of_fromValue h

theorem decodeEnumerator_safe (fromRaw : UInt8 → Option α) (truncated bad : Bytes) :
    Decoder.Safe (decodeEnumerator fromRaw truncated bad) fun x => ∃ raw, fromRaw raw = some x :=
  .group (.read .u8) fun raw _ => .present_only fun _ h => ⟨raw, h⟩

theorem decodeNumber_safe (truncated : Bytes) : Decoder.Safe (decodeNumber truncated) fun _ => True :=
  .group_only (.read .u64)

theorem decodeFlag_safe (truncated : Bytes) : Decoder.Safe (decodeFlag truncated) fun _ => True :=
  .group_only (.read .boolean)

theorem decodeOutcome_safe : Decoder.Safe decodeOutcome FabricOutcome.WellFormed := by
  refine .group (.u16 fun _ => .u8 fun _ => .u8 fun _ => .u8 fun _ => .any _) ?_
  rintro ⟨code, stage, mask, mask2⟩ -
  refine .present fun _ _ => .present fun _ _ => ?_
  refine (decodeWhen_safe (decodeIdentity_safe _ _) _).step fun _ hset =>
    (decodeWhen_safe (decodeIdentity_safe _ _) _).step fun _ hmember =>
    (decodeWhen_safe (decodeIdentity_safe _ _) _).step fun _ hpath =>
    (decodeWhen_safe (decodeGeneration_safe _ _) _).step fun _ hgeneration =>
    (decodeWhen_safe (decodeGeneration_safe _ _) _).step fun _ hmembership =>
    (decodeWhen_safe (decodeGeneration_safe _ _) _).step fun _ hmemberGeneration =>
    (decodeWhen_safe (decodeGeneration_safe _ _) _).step fun _ hauthority =>
    (decodeWhen_safe (decodeEnumerator_safe _ _ _) _).step fun _ _ =>
    (decodeWhen_safe (decodeEnumerator_safe _ _ _) _).step fun _ _ =>
    (decodeWhen_safe (decodeNumber_safe _) _).step fun usable _ =>
    (decodeWhen_safe (decodeNumber_safe _) _).step fun _ _ => ?_
  refine (decodeWhen_safe (.group_only (.u64 fun _ => .u64 fun _ => .any _)) _).step fun _ _ =>
    .group (.read (.string maxDetailLength)) fun _ _ => .done ?_
  refine ⟨hset, hmember, hpath, hgeneration, hmembership, hmemberGeneration, hauthority, ?_⟩
  intro n hn
  obtain ⟨value, -, rfl⟩ := Option.map_eq_some_iff.mp hn
  exact value.toNat_lt

theorem decodeOptionalId_safe (truncated invalid : Bytes) :
    Decoder.Safe (decodeOptionalId truncated invalid : WireDecoder (Option (StrongId d))) fun x =>
      ∀ id, x = some id → id.valid = true := by
  refine .group readOptionalId_safe fun t _ => ?_
  split
  · refine .done fun id hid => ?_
    cases hid
  · refine (identity_safe t _).step fun id hid => .done ?_
    rintro _ ⟨⟩
    exact hid

theorem decodeUnset_safe (t invalid : Bytes) :
    Decoder.Safe (decodeUnset t invalid : WireDecoder (StrongId d)) fun _ => True := by
  unfold decodeUnset
  split
  · exact .done trivial
  · exact (identity_safe t invalid).mono fun _ _ => trivial

theorem decodeUnsetGeneration_safe (value : UInt64) (impossible : Bytes) :
    Decoder.Safe (decodeUnsetGeneration value impossible : WireDecoder (Generation g)) fun _ => True := by
  unfold decodeUnsetGeneration
  split
  · exact .done trivial
  · exact .present_only fun _ _ => trivial

theorem readProvenance_safe : Reader.Safe readProvenance fun _ => True :=
  .string fun _ => .string fun _ => .u64 fun _ => .string fun _ => .u64 fun _ => .u8 fun _ => .any _

theorem decodeSetProvenance_safe : Decoder.Safe decodeSetProvenance fun _ => True := by
  refine .group readProvenance_safe ?_
  rintro ⟨publisher, boot, epoch, attempt, generation, cause⟩ -
  exact .present fun _ _ => (decodeUnset_safe _ _).step fun _ _ => (decodeUnset_safe _ _).step fun _ _ =>
    (decodeUnset_safe _ _).step fun _ _ => .present fun _ _ => (decodeUnsetGeneration_safe _ _).step fun _ _ =>
    .done trivial

theorem decodeMemberProvenance_safe : Decoder.Safe decodeMemberProvenance fun _ => True := by
  refine .group readProvenance_safe ?_
  rintro ⟨publisher, boot, epoch, attempt, generation, cause⟩ -
  exact .present fun _ _ => (decodeUnsetGeneration_safe _ _).step fun _ _ => (decodeUnset_safe _ _).step fun _ _ =>
    (decodeUnset_safe _ _).step fun _ _ => (decodeUnsetGeneration_safe _ _).step fun _ _ =>
    (decodeUnset_safe _ _).step fun _ _ => .done trivial

theorem decodeRevocation_safe (setId : MultipathSetId) :
    Decoder.Safe (decodeRevocation setId) fun r => r.WellFormed ∧ r.setId = setId := by
  refine .group (.u8 fun _ => .string fun _ => .u64 fun _ => .u64 fun _ => .u64 fun _ => .string fun _ => .any _) ?_
  rintro ⟨reason, detail, generation, authority, epoch, publisher⟩ -
  refine .present fun _ _ => .present fun _ hgeneration => .present fun _ hauthority => .present fun _ hepoch =>
    .present fun _ hpublisher => .done ⟨⟨?_, ?_, ?_, ?_⟩, rfl⟩
  · exact Generation.valid_of_fromValue hgeneration
  · exact Generation.valid_of_fromValue hauthority
  · exact Generation.valid_of_fromValue hepoch
  · exact StrongId.valid_of_parse hpublisher

theorem decodeHistoryEntry_safe : Decoder.Safe decodeHistoryEntry HistoryEntry.WellFormed := by
  refine .group (.u64 fun _ => .u8 fun _ => .u8 fun _ => .string fun _ => .u64 fun _ => .any _) ?_
  rintro ⟨generation, event, cause, publisher, epoch⟩ -
  refine .group (readOptionalId_safe.bind fun _ _ => readOptionalId_safe.bind fun _ _ => .any _) ?_
  rintro ⟨member, path⟩ -
  refine .group (.read (.string maxDetailLength)) fun _ _ => .present fun _ _ => .present fun _ _ =>
    .present fun _ hgeneration => .present fun _ hepoch => (decodeUnset_safe _ _).step fun _ _ =>
    (decodeWhen_safe (identity_safe _ _) _).step fun _ hmember =>
    (decodeWhen_safe (identity_safe _ _) _).step fun _ hpath => .done ?_
  exact ⟨Generation.valid_of_fromValue hgeneration, Generation.valid_of_fromValue hepoch, hmember, hpath⟩

structure DecodedMember (m : MemberSnapshot) : Prop where
  id : m.id.valid = true
  pathId : m.pathId.valid = true
  boundAuthorityGeneration : m.boundAuthorityGeneration.valid = true
  generation : m.generation.valid = true
  predecessor : ∀ id, m.predecessor = some id → id.valid = true
  successor : ∀ id, m.successor = some id → id.valid = true

theorem decodeMember_safe : Decoder.Safe decodeMember DecodedMember := by
  refine .group (.string fun _ => .string fun _ => .u64 fun _ => .u64 fun _ => .u8 fun _ => .u8 fun _ =>
    .boolean fun _ => .boolean fun _ => .u64 fun _ => .u32 fun _ => .any _) ?_
  rintro ⟨id, path, bound, generation, lifecycle, currentness, adminEnabled, usable, watermark, pending⟩ -
  refine .present fun _ hid => .present fun _ hpath => .present fun _ hbound => .present fun _ hgeneration =>
    .present fun _ _ => .present fun _ _ => (decodeOptionalId_safe _ _).step fun _ hpredecessor =>
    (decodeOptionalId_safe _ _).step fun _ hsuccessor => decodeMemberProvenance_safe.step fun _ _ => .done ?_
  exact
    { id := StrongId.valid_of_parse hid
      pathId := StrongId.valid_of_parse hpath
      boundAuthorityGeneration := Generation.valid_of_fromValue hbound
      generation := Generation.valid_of_fromValue hgeneration
      predecessor := hpredecessor
      successor := hsuccessor }

theorem decodeCounted_safe (h : Decoder.Safe p good) (bound : UInt32) (truncated absurd : Bytes) :
    Decoder.Safe (decodeCounted p bound truncated absurd) fun l => l.length ≤ bound.toNat ∧ ∀ a ∈ l, good a := by
  refine .group (.read .u32) fun count _ => .check fun hcount => (h.times count.toNat).mono ?_
  rintro l ⟨hlength, hall⟩
  rw [decide_eq_true_eq, UInt32.le_iff_toNat_le] at hcount
  exact ⟨hlength.trans_le hcount, hall⟩

structure DecodedSnapshot (s : SetSnapshot) : Prop where
  snapshotId : s.snapshotId.valid = true
  setId : s.setId.valid = true
  key : s.key.valid = true
  generation : s.generation.valid = true
  membershipGeneration : s.membershipGeneration.valid = true
  authorityGeneration : s.authorityGeneration.valid = true
  governingEpoch : s.governingEpoch.valid = true
  supersededBy : ∀ id, s.supersededBy = some id → id.valid = true
  supersedes : ∀ id, s.supersedes = some id → id.valid = true
  revocation : ∀ r, s.revocation = some r → r.WellFormed ∧ r.setId = s.setId
  history : ∀ entry ∈ s.history, entry.WellFormed
  members : ∀ m ∈ s.members, DecodedMember m

theorem decodeSnapshot_safe : Decoder.Safe decodeSnapshot DecodedSnapshot := by
  refine .group (.string fun _ => .string fun _ => .any _) ?_
  rintro ⟨snapshotId, setId⟩ -
  refine (identity_safe _ _).step fun _ hsnapshot => (identity_safe _ _).step fun _ hset => .group readKey_safe
    fun _ hkey => .group (.u64 fun _ => .u64 fun _ => .u64 fun _ => .u8 fun _ => .u8 fun _ => .u8 fun _ =>
      .boolean fun _ => .u64 fun _ => .boolean fun _ => .u64 fun _ => .u64 fun _ => .u64 fun _ => .u64 fun _ =>
      .u64 fun _ => .any _) ?_
  rintro ⟨generation, membership, authority, lifecycle, currentness, readiness, adminEnabled, minimum, conditional, usable,
    memberCount, governing, high, low⟩ -
  refine .present fun _ hgeneration => .present fun _ hmembership => .present fun _ hauthority =>
    .present fun _ hgoverning => .present fun _ _ => .present fun _ _ => .present fun _ _ => .check fun _ =>
    (decodeOptionalId_safe _ _).step fun _ hby => (decodeOptionalId_safe _ _).step fun _ hsupersedes =>
    (decodeFlag_safe _).step fun _ _ => (decodeWhen_safe (decodeRevocation_safe _) _).step fun _ hrevocation =>
    .group (.read (.string maxTextLength)) fun _ _ => decodeSetProvenance_safe.step fun _ _ =>
    (decodeCounted_safe decodeHistoryEntry_safe _ _ _).step fun _ hhistory =>
    (decodeCounted_safe decodeMember_safe _ _ _).step fun _ hmembers => .done ?_
  exact
    { snapshotId := hsnapshot
      setId := hset
      key := hkey
      generation := Generation.valid_of_fromValue hgeneration
      membershipGeneration := Generation.valid_of_fromValue hmembership
      authorityGeneration := Generation.valid_of_fromValue hauthority
      governingEpoch := Generation.valid_of_fromValue hgoverning
      supersededBy := hby
      supersedes := hsupersedes
      revocation := hrevocation
      history := hhistory.2
      members := hmembers.2 }

theorem decodeMemberExplanation_safe : Decoder.Safe decodeMemberExplanation MemberExplanation.WellFormed := by
  refine .group (.string fun _ => .string fun _ => .u8 fun _ => .u8 fun _ => .boolean fun _ => .boolean fun _ =>
    .u64 fun _ => .boolean fun _ => .any _) ?_
  rintro ⟨id, path, lifecycle, currentness, adminEnabled, usable, bound, observed⟩ -
  refine (decodeWhen_safe (decodeNumber_safe _) _).step fun value _ => (decodeFlag_safe _).step fun _ _ =>
    (decodeWhen_safe (decodeEnumerator_safe _ _ _) _).step fun _ _ => .group (.u32 fun _ => .u8 fun _ => .any _) ?_
  rintro ⟨pending, reason⟩ -
  refine .present fun _ _ => .present fun _ _ => .present fun _ _ => .present fun _ hid => .present fun _ hpath =>
    .present fun _ hbound => ?_
  have hobserved : ∀ (failure : FabricOutcome), Decoder.Safe
      (Decoder.present (value.bind Generation.fromValue : Option PathAuthorityGeneration) failure) fun x => x.valid = true := by
    intro failure
    refine .present_only fun x hx => ?_
    obtain ⟨n, -, hn⟩ := Option.bind_eq_some_iff.mp hx
    exact Generation.valid_of_fromValue hn
  refine (decodeWhen_safe (hobserved _) _).step fun _ hgeneration => .done ?_
  exact ⟨StrongId.valid_of_parse hid, StrongId.valid_of_parse hpath, Generation.valid_of_fromValue hbound, hgeneration⟩

theorem decodeExplanation_safe : Decoder.Safe decodeExplanation SetExplanation.WellFormed := by
  refine (decodeIdentity_safe _ _).step fun _ hset => .group readKey_safe fun _ hkey =>
    .group (.u8 fun _ => .u8 fun _ => .u8 fun _ => .u64 fun _ => .u64 fun _ => .u64 fun _ => .boolean fun _ =>
      .boolean fun _ => .boolean fun _ => .u64 fun _ => .u64 fun _ => .u8 fun _ => .any _) ?_
  rintro ⟨lifecycle, currentness, readiness, memberCount, usable, minimum, satisfied, adminEnabled, conditional, governing,
    authority, lastCause⟩ -
  refine .present fun _ _ => .present fun _ _ => .present fun _ _ => .present fun _ _ => .present fun _ hgoverning =>
    .present fun _ hauthority => (decodeFlag_safe _).step fun _ _ =>
    (decodeWhen_safe (decodeIdentity_safe _ _) _).step fun _ hpublisher =>
    (decodeCounted_safe (decodeEnumerator_safe _ _ _) _ _ _).step fun _ hreasons =>
    (decodeCounted_safe decodeMemberExplanation_safe _ _ _).step fun _ hmembers =>
    (decodeFlag_safe _).step fun _ _ => .done ?_
  exact
    { setId := hset
      key := hkey
      memberCount := memberCount.toNat_lt
      usableMemberCount := usable.toNat_lt
      governingEpoch := Generation.valid_of_fromValue hgoverning
      authorityGeneration := Generation.valid_of_fromValue hauthority
      lastMutatingPublisher := hpublisher
      reasons := hreasons.1
      members := hmembers.2 }

structure DecodedResponse (response : WireResponse) : Prop where
  outcome : response.outcome.WellFormed
  snapshot : ∀ s, response.snapshot = some s → DecodedSnapshot s
  explanation : ∀ x, response.explanation = some x → x.WellFormed
  setIds : ∀ id ∈ response.setIds, id.valid = true

theorem decodeResponse_safe : Decoder.Safe decodeResponse DecodedResponse := by
  exact decodeOutcome_safe.step fun _ houtcome => (decodeFlag_safe _).step fun _ _ =>
    (decodeWhen_safe decodeSnapshot_safe _).step fun _ hsnapshot => (decodeFlag_safe _).step fun _ _ =>
    (decodeWhen_safe decodeExplanation_safe _).step fun _ hexplanation =>
    (decodeCounted_safe (decodeIdentity_safe _ _) _ _ _).step fun _ hids =>
    .done ⟨houtcome, hsnapshot, hexplanation, hids.2⟩

end Responses

section Id

variable {out : WireRequest}

theorem decodeSetRequest_id : Decoder.Yields (decodeSetRequest out) fun r => r.id = out.id :=
  .after fun _ => .after fun _ => .after fun _ => .pure rfl

theorem decodeMemberMessage_id : Decoder.Yields (decodeMemberMessage out) fun r => r.id = out.id :=
  .after fun _ => .after fun _ => .after fun _ => .after fun _ => .pure rfl

theorem decodeRemoval_id : Decoder.Yields (decodeRemoval out) fun r => r.id = out.id :=
  .bind decodeMemberMessage_id fun _ hid => .after fun _ => .pure hid

theorem decodePathAuthority_id : Decoder.Yields (decodePathAuthority out) fun r => r.id = out.id :=
  .after fun _ => .after fun _ => .after fun _ => .after fun _ => .after fun _ => .pure rfl

theorem decodeQuery_id : Decoder.Yields (decodeQuery out) fun r => r.id = out.id :=
  .after fun _ => .after fun _ => .pure rfl

theorem decodeRequest_id (id : MessageId) : Decoder.Yields (decodeRequest id) fun r => r.id = id := by
  cases id with
  | hello => exact .pure rfl
  | listSets => exact .pure rfl
  | shutdown => exact .pure rfl
  | registerPublisher =>
      exact .after fun _ => .after fun _ => .after fun _ => .after fun _ => .after fun _ => .pure rfl
  | createSet => exact .after fun _ => .after fun _ => .after fun _ => .pure rfl
  | addMember => exact .after fun _ => .after fun _ => .after fun _ => .after fun _ => .after fun _ => .pure rfl
  | addMembers => exact .after fun _ => .after fun _ => .after fun _ => .after fun _ => .after fun _ => .pure rfl
  | removeMember => exact decodeRemoval_id
  | withdrawMember => exact decodeRemoval_id
  | revalidateMember => exact decodeMemberMessage_id
  | memberAdminEnable => exact decodeMemberMessage_id
  | memberAdminDisable => exact decodeMemberMessage_id
  | replaceMember =>
      exact .after fun _ => .after fun _ => .after fun _ => .after fun _ => .after fun _ => .after fun _ => .pure rfl
  | setMinimum => exact .after fun _ => .after fun _ => .after fun _ => .pure rfl
  | setConditionalPolicy => exact .after fun _ => .after fun _ => .after fun _ => .pure rfl
  | setAdminEnable => exact decodeSetRequest_id
  | setAdminDisable => exact decodeSetRequest_id
  | revalidateSet => exact decodeSetRequest_id
  | revokeSet => exact .after fun _ => .after fun _ => .after fun _ => .after fun _ => .pure rfl
  | retireSet => exact .after fun _ => .after fun _ => .after fun _ => .pure rfl
  | supersedeSet => exact .after fun _ => .after fun _ => .after fun _ => .after fun _ => .pure rfl
  | epochAdvance => exact .after fun _ => .after fun _ => .after fun _ => .pure rfl
  | advanceSetState => exact .after fun _ => .after fun _ => .after fun _ => .after fun _ => .pure rfl
  | applyPathAuthority => exact decodePathAuthority_id
  | declarePathAuthority => exact decodePathAuthority_id
  | refreshPath => exact .after fun _ => .after fun _ => .after fun _ => .pure rfl
  | querySet => exact decodeQuery_id
  | explainSet => exact decodeQuery_id
  | snapshotRequest => exact .after fun _ => .after fun _ => .after fun _ => .pure rfl
  | helloAck => exact (refused_safe _ _).yields
  | snapshotResponse => exact (refused_safe _ _).yields
  | fenceNotice => exact (refused_safe _ _).yields
  | result => exact (refused_safe _ _).yields
  | error => exact (refused_safe _ _).yields

end Id

theorem decodeRegister_worker {publisher : PublisherId} {workerBoot : WorkerBootId} {session : SessionId}
    {fields : List Field} {out decoded : WireRequest} {rest : Bytes}
    (h : decodeRegister out (encode ([idField publisher, idField workerBoot, idField session] ++ fields)) =
      .ok (decoded, rest)) : decoded.context.publisher = publisher ∧ decoded.context.workerBoot = workerBoot := by
  have hgroup : Reader.Takes
      (do
        let publisher ← Reader.string maxIdLength
        let boot ← Reader.string maxIdLength
        let session ← Reader.string maxIdLength
        pure (publisher, boot, session))
      (encode [idField publisher, idField workerBoot, idField session])
      (publisher.view, workerBoot.view, session.view) :=
    (id_takes _).field ((id_takes _).field ((id_takes _).field (.pure _)))
  have hidentity {d : IdDomain} (id : StrongId d) (invalid : Bytes) :
      Decoder.Yields (identity id.view invalid : WireDecoder (StrongId d)) fun found => found = id := by
    have hread : Decoder.Safe (identity id.view invalid : WireDecoder (StrongId d)) fun found => found = id :=
      Decoder.Safe.present_only fun _ hfound => StrongId.ext (StrongId.view_of_parse hfound)
    exact hread.yields
  rw [encode_append, decodeRegister, (Decoder.group_takes hgroup).run] at h
  refine (?_ : Decoder.Yields _ fun decoded : WireRequest =>
    decoded.context.publisher = publisher ∧ decoded.context.workerBoot = workerBoot) _ _ _ h
  exact .bind (hidentity publisher _) fun _ hpublisher => .bind (hidentity workerBoot _) fun _ hboot =>
    .after fun _ => .after fun _ => .pure ⟨hpublisher, hboot⟩

end Wire

end MultipathFabric
