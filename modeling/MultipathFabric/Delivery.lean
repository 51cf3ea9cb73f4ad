import MultipathFabric.Client

namespace MultipathFabric

open ByteCodec Wire

def Compact (bound : Nat) (f : Field) : Prop := f.fits = true ∧ f.bytes.length ≤ bound

theorem Compact.mono {a b : Nat} {f : Field} (h : Compact a f) (hab : a ≤ b) : Compact b f :=
  ⟨h.1, h.2.trans hab⟩

theorem compact_id {d : IdDomain} (id : StrongId d) : Compact 132 (idField id) := by
  have hlen := id.length_le_maxId
  refine ⟨idField_fits id, ?_⟩
  simp only [idField, Field.bytes, List.length_append, littleEndian_length]
  omega

theorem compact_u8 (n : UInt8) : Compact 132 (.u8 n) := ⟨rfl, by simp [Field.bytes]⟩

theorem compact_u32 (n : UInt32) : Compact 132 (.u32 n) := ⟨rfl, by simp [Field.bytes]⟩

theorem compact_u64 (n : UInt64) : Compact 132 (.u64 n) := ⟨rfl, by simp [Field.bytes]⟩

theorem compact_boolean (b : Bool) : Compact 132 (.boolean b) := compact_u8 _

theorem compact_text {reason : Bytes} (h : ClientCall.WithinText reason) :
    Compact 516 (.string reason maxTextLength) := by
  have hmax : maxTextLength = 512 := rfl
  have hlen : reason.length ≤ maxTextLength := h
  refine ⟨Field.fits_string.mpr ⟨hlen, by omega⟩, ?_⟩
  simp only [Field.bytes, List.length_append, littleEndian_length]
  omega

structure Short (fields : List Field) : Prop where
  compact : ∀ f ∈ fields, Compact 516 f
  count : fields.length ≤ 8

@[simp] theorem short_id {d : IdDomain} (id : StrongId d) : Compact 516 (idField id) :=
  (compact_id id).mono (by decide)

@[simp] theorem short_u8 (n : UInt8) : Compact 516 (.u8 n) := (compact_u8 n).mono (by decide)

@[simp] theorem short_u64 (n : UInt64) : Compact 516 (.u64 n) := (compact_u64 n).mono (by decide)

@[simp] theorem short_boolean (b : Bool) : Compact 516 (.boolean b) := (compact_boolean b).mono (by decide)

theorem compact_optionalNumber {d : GenerationDomain} (g : Option (Generation d)) :
    ∀ f ∈ optionalNumberFields g, Compact 132 f := by
  intro f hf
  cases g with
  | none =>
      rw [optionalNumberFields, List.mem_singleton] at hf
      exact hf ▸ compact_boolean false
  | some g =>
      have hdigits := decimal_length_of_u64 g.value
      simp only [optionalNumberFields, List.mem_cons, List.not_mem_nil, or_false] at hf
      rcases hf with rfl | rfl
      · exact compact_boolean true
      · refine ⟨Field.fits_string.mpr ⟨hdigits.trans (by decide), by omega⟩, ?_⟩
        simp only [Field.bytes, List.length_append, littleEndian_length]
        omega

theorem compact_context (context : MutationContext) : ∀ f ∈ contextFields context, Compact 132 f := by
  intro f hf
  simp only [contextFields, List.mem_append, List.mem_cons, List.not_mem_nil, or_false] at hf
  rcases hf with (rfl | rfl | rfl | rfl | rfl) | h | h
  · exact compact_u64 _
  · exact compact_id _
  · exact compact_id _
  · exact compact_id _
  · exact compact_id _
  · exact compact_optionalNumber _ f h
  · exact compact_optionalNumber _ f h

theorem optionalNumberFields_length {d : GenerationDomain} (g : Option (Generation d)) :
    (optionalNumberFields g).length ≤ 2 := by
  cases g <;> simp [optionalNumberFields]

theorem contextFields_length (context : MutationContext) : (contextFields context).length ≤ 9 := by
  have hset := optionalNumberFields_length context.expectedSetGeneration
  have hmember := optionalNumberFields_length context.expectedMemberGeneration
  simp only [contextFields, List.length_append, List.length_cons, List.length_nil]
  omega

theorem encode_length_le {fields : List Field} {bound : Nat} (h : ∀ f ∈ fields, Compact bound f) :
    (encode fields).length ≤ fields.length * bound := by
  induction fields with
  | nil => simp
  | cons f rest ih =>
      have hf := (h f List.mem_cons_self).2
      have hrest := ih fun g hg => h g (List.mem_cons_of_mem _ hg)
      rw [encode_cons, List.length_append, List.length_cons, Nat.add_mul]
      omega

theorem encodeRequest_eq {request : WireRequest} {fields : List Field}
    (hfields : requestFields request = .ok fields) :
    encodeRequest request =
      if fields.all Field.fits = true ∧ (encode fields).length ≤ maxPayload then .ok (encode fields)
      else .error (makeRejection .resourceLimit (text "request encoding exceeded its bound")) := by
  have hiff := ByteWriter.start_ok maxPayload fields
  by_cases hok : ((ByteWriter.start maxPayload).writeAll fields).ok = true
  · rw [if_pos (hiff.mp hok)]
    simp only [encodeRequest, hfields, Checked.require, bind, Except.bind, hok, if_true,
      ByteWriter.start_buffer hok]
    rfl
  · rw [if_neg fun hwithin => hok (hiff.mpr hwithin)]
    simp only [encodeRequest, hfields, Checked.require, bind, Except.bind, hok, Bool.false_eq_true, if_false]

theorem payload_of_encode {request : WireRequest} {fields : List Field} {payload : Bytes}
    (hfields : requestFields request = .ok fields) (h : encodeRequest request = .ok payload) :
    payload = encode fields ∧ (encode fields).length ≤ maxPayload := by
  rw [encodeRequest_eq hfields] at h
  split at h
  · rename_i hwithin
    exact ⟨(Except.ok.inj h).symm, hwithin.2⟩
  · cases h

theorem delivered_of_takes {request : WireRequest} {fields : List Field}
    (hfields : requestFields request = .ok fields) (hfits : ∀ f ∈ fields, f.fits = true)
    (hsize : (encode fields).length ≤ maxPayload)
    (htakes : Decoder.Takes (decodeRequest request.id) (encode fields) request) : Delivered request := by
  have hencode := encodeRequest_eq hfields
  rw [if_pos ⟨List.all_eq_true.mpr hfits, hsize⟩] at hencode
  have hdecoded := htakes []
  rw [List.append_nil] at hdecoded
  exact ⟨encode fields, request, hencode, hdecoded, rfl⟩

theorem delivered_of_plain {request : WireRequest} {fields : List Field}
    (hfields : requestFields request = .ok fields) (hcompact : ∀ f ∈ fields, Compact 516 f)
    (hcount : fields.length ≤ 17) (htakes : Decoder.Takes (decodeRequest request.id) (encode fields) request) :
    Delivered request := by
  have hlength := encode_length_le hcompact
  have hmax : maxPayload = 1048576 := rfl
  exact delivered_of_takes hfields (fun f hf => (hcompact f hf).1) (by omega) htakes

theorem delivered_of_short {request : WireRequest} {fields : List Field}
    (hfields : requestFields request = .ok (contextFields request.context ++ fields))
    (hshort : Short fields)
    (htakes : Decoder.Takes (decodeRequest request.id) (encode (contextFields request.context ++ fields)) request) :
    Delivered request := by
  have hall : ∀ f ∈ contextFields request.context ++ fields, Compact 516 f := by
    intro f hf
    rcases List.mem_append.mp hf with h | h
    · exact (compact_context _ f h).mono (by decide)
    · exact hshort.compact f h
  have hcontext := contextFields_length request.context
  have hcount := hshort.count
  refine delivered_of_plain hfields hall ?_ htakes
  rw [List.length_append]
  omega

def optionalNumberSize {d : GenerationDomain} : Option (Generation d) → Nat
  | some g => 5 + (decimal g.value.toNat).length
  | none => 1

def contextSize (context : MutationContext) : Nat :=
  24 + context.publisher.view.length + context.workerBoot.view.length + context.session.view.length +
    context.attempt.view.length + optionalNumberSize context.expectedSetGeneration +
    optionalNumberSize context.expectedMemberGeneration

def batchSize (context : MutationContext) (setId : MultipathSetId) (members : List MemberRequest) : Nat :=
  contextSize context + (8 + setId.view.length) + (members.map fun m => 12 + m.pathId.view.length).sum

theorem encode_optionalNumber_length {d : GenerationDomain} (g : Option (Generation d)) :
    (encode (optionalNumberFields g)).length = optionalNumberSize g := by
  cases g with
  | none => rfl
  | some g =>
      simp [optionalNumberFields, optionalNumberSize, Field.boolean, Field.bytes]
      omega

theorem encode_context_length (context : MutationContext) :
    (encode (contextFields context)).length = contextSize context := by
  simp only [contextFields, encode_append, List.length_append, encode_optionalNumber_length, encode_cons,
    encode_nil, idField, Field.bytes, littleEndian_length, List.length_nil, contextSize]
  omega

theorem encode_members_length (members : List MemberRequest) :
    (encode (members.flatMap memberRequestFields)).length =
      (members.map fun m => 12 + m.pathId.view.length).sum := by
  induction members with
  | nil => rfl
  | cons m rest ih =>
      rw [List.flatMap_cons, encode_append, List.length_append, ih, List.map_cons, List.sum_cons]
      simp only [memberRequestFields, encode_cons, encode_nil, idField, Field.bytes, List.length_append,
        littleEndian_length, List.length_nil]
      omega

theorem encode_batch_length (context : MutationContext) (setId : MultipathSetId) (members : List MemberRequest)
    (count : UInt32) :
    (encode (contextFields context ++ ([idField setId, .u32 count] ++ members.flatMap memberRequestFields))).length =
      batchSize context setId members := by
  simp only [encode_append, List.length_append, encode_context_length, encode_members_length, encode_cons,
    encode_nil, idField, Field.bytes, littleEndian_length, List.length_nil, batchSize]
  omega

theorem length_le_batchSize (context : MutationContext) (setId : MultipathSetId) {members : List MemberRequest}
    (h : ∀ m ∈ members, m.pathId.valid = true) : members.length * 13 ≤ batchSize context setId members := by
  have hsum : members.length * 13 ≤ (members.map fun m => 12 + m.pathId.view.length).sum := by
    induction members with
    | nil => simp
    | cons m rest ih =>
        have hm := h m List.mem_cons_self
        have hne : m.pathId.view ≠ [] := by simpa [StrongId.valid] using hm
        have hpos := List.length_pos_iff.mpr hne
        have hrest := ih fun other hother => h other (List.mem_cons_of_mem _ hother)
        rw [List.length_cons, List.map_cons, List.sum_cons, Nat.add_mul]
        omega
  rw [batchSize]
  omega

theorem compact_scope {scope : AuthorityScope} (h : scope.setIds.length ≤ maxScopeCount.toNat) :
    (∀ f ∈ scopeFields scope, Compact 132 f) ∧ (scopeFields scope).length ≤ 4099 := by
  have hmax : maxScopeCount.toNat = 4096 := rfl
  rw [scopeFields, narrowU32_of_lt (by omega)]
  constructor
  · intro f hf
    simp only [List.mem_append, List.mem_cons, List.not_mem_nil, or_false, List.mem_map] at hf
    rcases hf with (rfl | rfl) | rfl | ⟨id, -, rfl⟩
    · exact compact_id _
    · exact compact_id _
    · exact compact_u32 _
    · exact compact_id _
  · simp only [List.length_append, List.length_cons, List.length_nil, List.length_map]
    omega

namespace ClientCall

variable {client : Client} {context : MutationContext}

/-- The calls whose request arrives: not the supersession, and neither a scope nor a batch that is too large. -/
def Arrives (client : Client) : ClientCall → Prop
  | .supersedeSet _ _ _ => False
  | .registerPublisher _ _ scope => scope.setIds.length ≤ maxScopeCount.toNat
  | .addMembers context setId members => batchSize (client.stamp context) setId members ≤ maxPayload
  | _ => True

theorem delivered_register {publisher : PublisherId} {workerBoot : WorkerBootId} {scope : AuthorityScope}
    (h : (registerPublisher publisher workerBoot scope).Valid client) :
    Delivered ((registerPublisher publisher workerBoot scope).request client) ↔
      scope.setIds.length ≤ maxScopeCount.toNat := by
  obtain ⟨hpublisher, hboot, hsession, hids⟩ := h
  constructor
  · rintro ⟨payload, decoded, hencode, hdecode, -⟩
    by_contra hover
    have hfields : requestFields ((registerPublisher publisher workerBoot scope).request client) = .ok
        ([idField publisher, idField workerBoot, idField client.session] ++ scopeFields scope) := rfl
    rw [(payload_of_encode hfields hencode).1] at hdecode
    have hrefused := decodeRegister_overlong
      ((registerPublisher publisher workerBoot scope).request client) hpublisher hboot hsession
      (Nat.lt_of_not_le hover) (.blank .registerPublisher)
    exact absurd (hrefused.symm.trans hdecode) (fun h => by cases h)
  · intro hcount
    obtain ⟨hscope, hlength⟩ := compact_scope hcount
    have hall : ∀ f ∈ [idField publisher, idField workerBoot, idField client.session] ++ scopeFields scope,
        Compact 132 f := by
      intro f hf
      simp only [List.mem_append, List.mem_cons, List.not_mem_nil, or_false] at hf
      rcases hf with (rfl | rfl | rfl) | hf
      · exact compact_id _
      · exact compact_id _
      · exact compact_id _
      · exact hscope f hf
    have hmax : maxPayload = 1048576 := rfl
    have hsize : (encode ([idField publisher, idField workerBoot, idField client.session] ++
        scopeFields scope)).length ≤ maxPayload := by
      have hlength := encode_length_le hall
      rw [List.length_append, List.length_cons, List.length_cons, List.length_cons, List.length_nil] at hlength
      omega
    exact delivered_of_takes rfl (fun f hf => (hall f hf).1) hsize
      (decodeRegister_takes ((registerPublisher publisher workerBoot scope).request client)
        hpublisher hboot hsession hids hcount _)

theorem requestFields_addMembers {setId : MultipathSetId} {members : List MemberRequest}
    (hcount : members.length < 2 ^ 32) :
    requestFields ((addMembers context setId members).request client) =
      .ok (contextFields (client.stamp context) ++
        ([idField setId, .u32 (UInt32.ofNat members.length)] ++ members.flatMap memberRequestFields)) := by
  simp only [requestFields, request, WireRequest.blank, narrowU32_of_lt hcount]

theorem delivered_addMembers {setId : MultipathSetId} {members : List MemberRequest}
    (h : (addMembers context setId members).Valid client) :
    Delivered ((addMembers context setId members).request client) ↔
      batchSize (client.stamp context) setId members ≤ maxPayload := by
  obtain ⟨hcontext, hset, hmembers⟩ := h
  have hmin := length_le_batchSize (client.stamp context) setId
    fun m hm => (hmembers m hm).1
  have hmax : maxPayload = 1048576 := rfl
  have hbatch : maxBatchCount.toNat = 100000 := rfl
  constructor
  · rintro ⟨payload, decoded, hencode, -, -⟩
    by_cases hcount : members.length < 2 ^ 32
    · have hsize := (payload_of_encode (requestFields_addMembers hcount) hencode).2
      rwa [encode_batch_length] at hsize
    · have hrefused : requestFields ((addMembers context setId members).request client) =
          .error (makeRejection .resourceLimit (text "batch size is not representable")) := by
        have hnarrow : narrowU32 members.length = none := if_neg hcount
        simp only [requestFields, request, WireRequest.blank, hnarrow]
      simp [encodeRequest, hrefused, bind, Except.bind] at hencode
  · intro hsize
    have hfits : ∀ f ∈ contextFields (client.stamp context) ++
        ([idField setId, .u32 (UInt32.ofNat members.length)] ++ members.flatMap memberRequestFields),
        f.fits = true := by
      intro f hf
      simp only [List.mem_append, List.mem_cons, List.not_mem_nil, or_false, List.mem_flatMap,
        memberRequestFields] at hf
      rcases hf with hf | (rfl | rfl) | ⟨m, -, rfl | rfl⟩
      · exact (compact_context _ f hf).1
      · exact idField_fits _
      · rfl
      · exact idField_fits _
      · rfl
    refine delivered_of_takes (requestFields_addMembers (by omega)) hfits ?_
      (decodeAddMembers_takes hcontext hset hmembers (by omega) _)
    rwa [encode_batch_length]

theorem not_delivered_supersede {predecessor successor : MultipathSetId}
    (h : (supersedeSet context predecessor successor).Valid client) :
    ¬Delivered ((supersedeSet context predecessor successor).request client) := by
  rintro ⟨payload, decoded, hencode, hdecode, -⟩
  have hfields : requestFields ((supersedeSet context predecessor successor).request client) = .ok
      (contextFields (client.stamp context) ++ [idField predecessor, idField (.unset : PathId)]) := rfl
  have hrefused := decodeSupersede_unset h.1 h.2.1 (.blank .supersedeSet) []
  rw [List.append_nil, ← (payload_of_encode hfields hencode).1] at hrefused
  exact absurd (hrefused.symm.trans hdecode) (fun h => by cases h)

theorem no_text : WithinText [] := Nat.zero_le _

/-- Every valid call arrives as the caller made it, except where `Arrives` says otherwise. -/
theorem delivered_iff {call : ClientCall} (h : call.Valid client) :
    Delivered (call.request client) ↔ call.Arrives client := by
  cases call with
  | registerPublisher publisher workerBoot scope => exact delivered_register h
  | addMembers context setId members => exact delivered_addMembers h
  | supersedeSet context predecessor successor => exact iff_of_false (not_delivered_supersede h) id
  | createSet context key options =>
      obtain ⟨hcontext, hkey⟩ := h
      exact iff_of_true (delivered_of_short rfl ⟨by simp [keyFields], by simp [keyFields]⟩
        (decodeCreate_takes hcontext hkey options _)) trivial
  | addMember context setId path generation =>
      obtain ⟨hcontext, hset, hpath, hgeneration⟩ := h
      exact iff_of_true (delivered_of_short rfl ⟨by simp, by simp⟩
        (decodeAdd_takes hcontext hset hpath hgeneration _)) trivial
  | removeMember context setId memberId reason =>
      obtain ⟨hcontext, hset, hmember, hreason⟩ := h
      exact iff_of_true (delivered_of_short rfl ⟨by simp [request, compact_text hreason], by simp⟩
        (decodeRemoval_takes hcontext hset hmember hreason _)) trivial
  | withdrawMember context setId memberId reason =>
      obtain ⟨hcontext, hset, hmember, hreason⟩ := h
      exact iff_of_true (delivered_of_short rfl ⟨by simp [request, compact_text hreason], by simp⟩
        (decodeRemoval_takes hcontext hset hmember hreason _)) trivial
  | replaceMember context setId memberId successorPath successorGeneration reason =>
      obtain ⟨hcontext, hset, hmember, hpath, hgeneration, hreason⟩ := h
      exact iff_of_true (delivered_of_short rfl ⟨by simp [request, compact_text hreason], by simp⟩
        (decodeReplace_takes hcontext hset hmember hpath hgeneration hreason _)) trivial
  | setMemberAdminEnabled context setId memberId enabled =>
      obtain ⟨hcontext, hset, hmember⟩ := h
      have htakes := decodeMemberMessage_takes hcontext hset hmember
      cases enabled <;> exact iff_of_true (delivered_of_short rfl ⟨by simp, by simp⟩ (htakes _)) trivial
  | setMinimum context setId minimum =>
      obtain ⟨hcontext, hset⟩ := h
      exact iff_of_true (delivered_of_short rfl ⟨by simp, by simp⟩
        (decodeMinimum_takes hcontext hset minimum _)) trivial
  | setConditionalPolicy context setId permitted =>
      obtain ⟨hcontext, hset⟩ := h
      exact iff_of_true (delivered_of_short rfl ⟨by simp, by simp⟩
        (decodePolicy_takes hcontext hset permitted _)) trivial
  | setAdminEnabled context setId enabled =>
      obtain ⟨hcontext, hset⟩ := h
      have htakes := decodeSetRequest_takes hcontext hset
      cases enabled <;> exact iff_of_true (delivered_of_short rfl ⟨by simp, by simp⟩ (htakes _)) trivial
  | publishSet context setId =>
      obtain ⟨hcontext, hset⟩ := h
      exact iff_of_true (delivered_of_short rfl
        ⟨by simp [request, WireRequest.blank, compact_text no_text], by simp⟩
        (decodeSetState_takes hcontext hset .publish no_text _)) trivial
  | withdrawSet context setId reason =>
      obtain ⟨hcontext, hset, hreason⟩ := h
      exact iff_of_true (delivered_of_short rfl ⟨by simp [request, compact_text hreason], by simp⟩
        (decodeSetState_takes hcontext hset .withdraw hreason _)) trivial
  | completeWithdrawal context setId =>
      obtain ⟨hcontext, hset⟩ := h
      exact iff_of_true (delivered_of_short rfl
        ⟨by simp [request, WireRequest.blank, compact_text no_text], by simp⟩
        (decodeSetState_takes hcontext hset .completeWithdrawal no_text _)) trivial
  | revokeSet context setId reason detail =>
      obtain ⟨hcontext, hset, hdetail⟩ := h
      exact iff_of_true (delivered_of_short rfl ⟨by simp [request, compact_text hdetail], by simp⟩
        (decodeRevoke_takes hcontext hset reason hdetail _)) trivial
  | retireSet context setId reason =>
      obtain ⟨hcontext, hset, hreason⟩ := h
      exact iff_of_true (delivered_of_short rfl ⟨by simp [request, compact_text hreason], by simp⟩
        (decodeRetire_takes hcontext hset hreason _)) trivial
  | revalidateSet context setId =>
      obtain ⟨hcontext, hset⟩ := h
      exact iff_of_true (delivered_of_short rfl ⟨by simp, by simp⟩
        (decodeSetRequest_takes hcontext hset _)) trivial
  | revalidateMember context setId memberId =>
      obtain ⟨hcontext, hset, hmember⟩ := h
      exact iff_of_true (delivered_of_short rfl ⟨by simp, by simp⟩
        (decodeMemberMessage_takes hcontext hset hmember _)) trivial
  | applyPathAuthority context view =>
      obtain ⟨hcontext, hpath, hgeneration⟩ := h
      exact iff_of_true (delivered_of_short rfl ⟨by simp, by simp⟩
        (decodePathAuthority_takes hcontext hpath hgeneration view.state _)) trivial
  | declarePathAuthority context view =>
      obtain ⟨hcontext, hpath, hgeneration⟩ := h
      exact iff_of_true (delivered_of_short rfl ⟨by simp, by simp⟩
        (decodePathAuthority_takes hcontext hpath hgeneration view.state _)) trivial
  | refreshPath context path =>
      obtain ⟨hcontext, hpath⟩ := h
      exact iff_of_true (delivered_of_short rfl ⟨by simp, by simp⟩ (decodeRefresh_takes hcontext hpath _)) trivial
  | advanceEpoch context expectedEpoch =>
      obtain ⟨hcontext, hepoch⟩ := h
      exact iff_of_true (delivered_of_short rfl ⟨by simp, by simp⟩
        (decodeEpochAdvance_takes hcontext hepoch _)) trivial
  | listSets => exact iff_of_true ⟨[], _, rfl, rfl, rfl⟩ trivial
  | querySet setId => exact iff_of_true (delivered_of_plain rfl (by simp) (by simp) (decodeQuery_takes h _)) trivial
  | explainSet setId => exact iff_of_true (delivered_of_plain rfl (by simp) (by simp) (decodeQuery_takes h _)) trivial
  | requestSnapshot setId snapshotId =>
      exact iff_of_true (delivered_of_plain rfl (by simp) (by simp) (decodeSnapshotRequest_takes h.1 h.2 _)) trivial

def sampleClient : Client := ⟨sampleId "sess", .first, sampleId "pub", sampleId "boot"⟩

def sampleAttempt : MutationContext := { MutationContext.unset with attempt := sampleId "a1" }

theorem sampleAttempt_sendable : (sampleClient.stamp sampleAttempt).Sendable where
  epoch := by decide
  publisher := by decide
  workerBoot := by decide
  session := by decide
  attempt := by decide
  expectedSet := fun _ h => by cases h
  expectedMember := fun _ h => by cases h

def sampleAddition : ClientCall := .addMember sampleAttempt sampleSet samplePath .first

theorem delivered_iff_addition : Delivered (sampleAddition.request sampleClient) ↔ True :=
  have hvalid : sampleAddition.Valid sampleClient :=
    ⟨sampleAttempt_sendable, by decide, by decide, by decide⟩
  delivered_iff hvalid

/-- The client puts the successor where the encoder does not look. -/
theorem delivered_fails :
    ¬∀ (client : Client) (call : ClientCall), call.Valid client → Delivered (call.request client) := by
  intro h
  let call : ClientCall := .supersedeSet sampleAttempt sampleSet (sampleId "mpf-set-7f-2")
  have hvalid : call.Valid sampleClient := ⟨sampleAttempt_sendable, by decide, by decide⟩
  exact not_delivered_supersede hvalid (h sampleClient call hvalid)

end ClientCall

end MultipathFabric
