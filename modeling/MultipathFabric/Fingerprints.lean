import MultipathFabric.Attempts
import MultipathFabric.Rendering

namespace MultipathFabric

open ByteCodec

section Chunks

variable {a b s t : Bytes}

def chunk (value : Bytes) : Bytes := littleEndian 8 (UInt64.ofNat value.length).toNat ++ value

theorem lengthBytes_eq (value : UInt64) :
    (List.range 8).map (fun i => (value >>> UInt64.ofNat (8 * i)).toUInt8) = littleEndian 8 value.toNat := by
  have hbyte : ∀ i < 8, (value >>> UInt64.ofNat (8 * i)).toUInt8 = UInt8.ofNat (value.toNat / 2 ^ (8 * i) % 256) := by
    intro i hi
    apply UInt8.toNat_inj.mp
    have hshift : (UInt64.ofNat (8 * i)).toNat % 64 = 8 * i := by
      rw [UInt64.toNat_ofNat']
      omega
    rw [UInt64.toNat_toUInt8, UInt64.toNat_shiftRight, hshift, Nat.shiftRight_eq_div_pow, UInt8.toNat_ofNat']
    omega
  have hrange : List.range 8 = [0, 1, 2, 3, 4, 5, 6, 7] := rfl
  simp only [hrange, List.map_cons, List.map_nil]
  simp only [hbyte _ (show 0 < 8 by omega), hbyte _ (show 1 < 8 by omega), hbyte _ (show 2 < 8 by omega),
    hbyte _ (show 3 < 8 by omega), hbyte _ (show 4 < 8 by omega), hbyte _ (show 5 < 8 by omega),
    hbyte _ (show 6 < 8 by omega), hbyte _ (show 7 < 8 by omega), littleEndian, Nat.div_div_eq_div_mul]
  norm_num

theorem absorbBytes_eq (d : DigestBuilder) (value : Bytes) :
    d.absorbBytes value = (chunk value).foldl DigestBuilder.absorbByte d := by
  rw [chunk, List.foldl_append, ← lengthBytes_eq, List.foldl_map]
  rfl

theorem chunk_inj (ha : a.length < 2 ^ 64) (hb : b.length < 2 ^ 64) (h : chunk a ++ s = chunk b ++ t) :
    a = b ∧ s = t := by
  simp only [chunk, List.append_assoc] at h
  obtain ⟨hlengths, h⟩ := List.append_inj h (by rw [littleEndian_length, littleEndian_length])
  have hread := congrArg fromLittleEndian hlengths
  rw [fromLittleEndian_littleEndian 8 _ (UInt64.toNat_lt _), fromLittleEndian_littleEndian 8 _ (UInt64.toNat_lt _),
    UInt64.toNat_ofNat', UInt64.toNat_ofNat', Nat.mod_eq_of_lt ha, Nat.mod_eq_of_lt hb] at hread
  exact List.append_inj h hread

theorem chunks_inj {xs ys : List Bytes} (hx : ∀ x ∈ xs, x.length < 2 ^ 64) (hy : ∀ y ∈ ys, y.length < 2 ^ 64)
    (h : xs.flatMap chunk = ys.flatMap chunk) : xs = ys := by
  have hne : ∀ value rest, chunk value ++ rest ≠ [] := by
    intro value rest hnil
    have hlength := congrArg List.length hnil
    simp only [chunk, List.length_append, littleEndian_length, List.length_nil] at hlength
    omega
  induction xs generalizing ys with
  | nil =>
      cases ys with
      | nil => rfl
      | cons y ys => exact absurd h.symm (hne y _)
  | cons x xs ih =>
      cases ys with
      | nil => exact absurd h (hne x _)
      | cons y ys =>
          simp only [List.flatMap_cons] at h
          obtain ⟨hvalue, hrest⟩ := chunk_inj (hx x List.mem_cons_self) (hy y List.mem_cons_self) h
          rw [hvalue, ih (fun x hmem => hx x (List.mem_cons_of_mem _ hmem))
            (fun y hmem => hy y (List.mem_cons_of_mem _ hmem)) hrest]

end Chunks

namespace Request

def absorbed (operation : Bytes) (fields : List Bytes) : List Bytes :=
  [text "domain", text "multipath-fabric.request.v1", text "operation", operation, text "field_count",
    decimal fields.length] ++ fields.flatMap fun field => [text "field", field]

def stream (q : Request) : Bytes := (absorbed q.operation q.fields).flatMap chunk

def vector (q : Request) : Bytes × List Bytes := (q.operation, q.fields)

def digestOf (stream : Bytes) : Digest128 := (stream.foldl DigestBuilder.absorbByte DigestBuilder.start).finish

structure Fits (q : Request) : Prop where
  count : q.fields.length < 2 ^ 64
  texts : ∀ t ∈ q.operation :: q.fields, t.length < 2 ^ 64

variable {q q' : Request}

theorem fingerprint_eq (q : Request) : q.fingerprint = digestOf q.stream := by
  have hfields : ∀ (fields : List Bytes) (d : DigestBuilder),
      fields.foldl (fun d field => d.absorbTagged (text "field") field) d =
        ((fields.flatMap fun field => [text "field", field]).flatMap chunk).foldl DigestBuilder.absorbByte d := by
    intro fields
    induction fields with
    | nil => exact fun d => rfl
    | cons field fields ih =>
        intro d
        rw [List.foldl_cons, ih]
        simp only [DigestBuilder.absorbTagged, absorbBytes_eq, List.flatMap_cons, List.flatMap_append, List.flatMap_nil,
          List.foldl_append, List.append_nil]
  unfold fingerprint fingerprintRequest digestOf stream absorbed
  dsimp only
  rw [hfields]
  simp only [DigestBuilder.absorbTagged, absorbBytes_eq, List.flatMap_cons, List.flatMap_append, List.flatMap_nil,
    List.foldl_append, List.append_nil]

theorem flatMap_field_inj {xs ys : List Bytes} {tag : Bytes}
    (h : xs.flatMap (fun x => [tag, x]) = ys.flatMap fun y => [tag, y]) : xs = ys := by
  induction xs generalizing ys with
  | nil =>
      cases ys with
      | nil => rfl
      | cons y ys => cases h
  | cons x xs ih =>
      cases ys with
      | nil => cases h
      | cons y ys =>
          simp only [List.flatMap_cons, List.cons_append, List.nil_append, List.cons.injEq, true_and] at h
          rw [h.1, ih h.2]

theorem Fits.absorbed (fits : q.Fits) : ∀ t ∈ absorbed q.operation q.fields, t.length < 2 ^ 64 := by
  have hcount : (decimal q.fields.length).length < 2 ^ 64 := by
    have hdigits := decimal_length_of_u64 (UInt64.ofNat q.fields.length)
    rw [UInt64.toNat_ofNat', Nat.mod_eq_of_lt fits.count] at hdigits
    omega
  intro t ht
  rcases List.mem_append.mp ht with hhead | hfields
  · simp only [List.mem_cons, List.not_mem_nil, or_false] at hhead
    rcases hhead with rfl | rfl | rfl | rfl | rfl | rfl
    · decide
    · decide
    · decide
    · exact fits.texts _ List.mem_cons_self
    · decide
    · exact hcount
  · obtain ⟨field, hfield, ht⟩ := List.mem_flatMap.mp hfields
    simp only [List.mem_cons, List.not_mem_nil, or_false] at ht
    rcases ht with rfl | rfl
    · decide
    · exact fits.texts _ (List.mem_cons_of_mem _ hfield)

theorem stream_inj (fits : q.Fits) (fits' : q'.Fits) (h : q.stream = q'.stream) : q.vector = q'.vector := by
  have hsame := chunks_inj fits.absorbed fits'.absorbed h
  simp only [absorbed, List.cons_append, List.nil_append, List.cons.injEq, true_and] at hsame
  rw [vector, vector, hsame.1, flatMap_field_inj hsame.2.2]

end Request

inductive RecordedOperation
  | createSet | publishSet | setMinimumUsableMembers | setConditionalAuthorityPolicy | setAdminEnabled | withdrawSet
  | completeWithdrawal | revokeSet | retireSet | supersedeSet | addMember | addMembers | removeMember | withdrawMember
  | replaceMember | setMemberAdminEnabled | revalidateSet | revalidateMember | completeMemberRevalidation
  | declarePathAuthority | applyPathAuthority
  deriving DecidableEq

@[ext] structure Completion where
  setId : MultipathSetId
  memberId : MultipathMemberId
  attempt : RevalidationAttemptId
  setWatermark : Watermark
  memberWatermark : Watermark
  epoch : CoordinatorEpoch
  current : Option PathAuthorityView

def RevalidationTicket.completion (ticket : RevalidationTicket) (current : Option PathAuthorityView) : Completion :=
  ⟨ticket.setId, ticket.memberId, ticket.attempt, ticket.setWatermark, ticket.memberWatermark, ticket.epoch, current⟩

namespace RecordedOperation

def all : List RecordedOperation :=
  [.createSet, .publishSet, .setMinimumUsableMembers, .setConditionalAuthorityPolicy, .setAdminEnabled, .withdrawSet,
    .completeWithdrawal, .revokeSet, .retireSet, .supersedeSet, .addMember, .addMembers, .removeMember, .withdrawMember,
    .replaceMember, .setMemberAdminEnabled, .revalidateSet, .revalidateMember, .completeMemberRevalidation,
    .declarePathAuthority, .applyPathAuthority]

def operation : RecordedOperation → Bytes
  | .createSet => text "create_set"
  | .publishSet => text "publish_set"
  | .setMinimumUsableMembers => text "set_minimum_usable_members"
  | .setConditionalAuthorityPolicy => text "set_conditional_authority_policy"
  | .setAdminEnabled => text "set_admin_enabled"
  | .withdrawSet => text "withdraw_set"
  | .completeWithdrawal => text "complete_withdrawal"
  | .revokeSet => text "revoke_set"
  | .retireSet => text "retire_set"
  | .supersedeSet => text "supersede_set"
  | .addMember => text "add_member"
  | .addMembers => text "add_members"
  | .removeMember => text "remove_member"
  | .withdrawMember => text "withdraw_member"
  | .replaceMember => text "replace_member"
  | .setMemberAdminEnabled => text "set_member_admin_enabled"
  | .revalidateSet => text "revalidate_set"
  | .revalidateMember => text "revalidate_member"
  | .completeMemberRevalidation => text "complete_member_revalidation"
  | .declarePathAuthority => text "declare_path_authority"
  | .applyPathAuthority => text "apply_path_authority"

theorem operation_injective : Function.Injective operation :=
  @injective_of_find _ all _ fun x => by cases x <;> rfl

def Arguments : RecordedOperation → Type
  | .createSet => SetKey × SetOptions
  | .publishSet | .completeWithdrawal | .revalidateSet => MultipathSetId
  | .setMinimumUsableMembers => MultipathSetId × UInt64
  | .setConditionalAuthorityPolicy | .setAdminEnabled => MultipathSetId × Bool
  | .withdrawSet | .retireSet => MultipathSetId × Bytes
  | .revokeSet => MultipathSetId × RevocationReason × Bytes
  | .supersedeSet => MultipathSetId × MultipathSetId
  | .addMember => MultipathSetId × MemberRequest
  | .addMembers => MultipathSetId × List MemberRequest
  | .removeMember | .withdrawMember => MultipathSetId × MultipathMemberId × Bytes
  | .replaceMember => MultipathSetId × MultipathMemberId × MemberRequest × Bytes
  | .setMemberAdminEnabled => MultipathSetId × MultipathMemberId × Bool
  | .revalidateMember => MultipathSetId × MultipathMemberId
  | .completeMemberRevalidation => Completion
  | .declarePathAuthority | .applyPathAuthority => PathAuthorityView

def fields : (m : RecordedOperation) → m.Arguments → List Bytes
  | .createSet, (key, options) =>
      [key.render, decimal options.minimumUsableMembers.toNat, flagText options.adminEnabled,
        flagText options.conditionalAuthorityPermitted]
  | .publishSet, setId | .completeWithdrawal, setId | .revalidateSet, setId => [StrongId.view setId]
  | .setMinimumUsableMembers, (setId, minimum) => [setId.view, decimal minimum.toNat]
  | .setConditionalAuthorityPolicy, (setId, flag) | .setAdminEnabled, (setId, flag) => [setId.view, flagText flag]
  | .withdrawSet, (setId, reason) | .retireSet, (setId, reason) => [setId.view, reason]
  | .revokeSet, (setId, reason, detail) => [setId.view, reason.toString, detail]
  | .supersedeSet, (predecessor, successor) => [predecessor.view, successor.view]
  | .addMember, (setId, request) => [setId.view, memberFields (text "add_member") setId request]
  | .addMembers, (setId, requests) =>
      setId.view :: requests.map (memberFields (text "add_members") setId)
  | .removeMember, (setId, memberId, reason) | .withdrawMember, (setId, memberId, reason) =>
      [setId.view, memberId.view, reason]
  | .replaceMember, (setId, memberId, request, reason) =>
      [setId.view, memberId.view, request.pathId.view, decimal request.authorityGeneration.value.toNat, reason]
  | .setMemberAdminEnabled, (setId, memberId, enabled) => [setId.view, memberId.view, flagText enabled]
  | .revalidateMember, (setId, memberId) => [setId.view, memberId.view]
  | .completeMemberRevalidation, completion =>
      [Completion.setId completion |>.view, Completion.memberId completion |>.view, Completion.attempt completion |>.view]
  | .declarePathAuthority, view | .applyPathAuthority, view =>
      [PathAuthorityView.path view |>.view, decimal (PathAuthorityView.generation view).value.toNat,
        (PathAuthorityView.state view).toString]

end RecordedOperation

def Op.asked : Op → Option (Σ m : RecordedOperation, m.Arguments)
  | .createSet _ key options => some ⟨.createSet, (key, options)⟩
  | .publishSet _ setId => some ⟨.publishSet, setId⟩
  | .setMinimumUsableMembers _ setId minimum => some ⟨.setMinimumUsableMembers, (setId, minimum)⟩
  | .setConditionalAuthorityPolicy _ setId permitted => some ⟨.setConditionalAuthorityPolicy, (setId, permitted)⟩
  | .setAdminEnabled _ setId enabled => some ⟨.setAdminEnabled, (setId, enabled)⟩
  | .withdrawSet _ setId reason => some ⟨.withdrawSet, (setId, reason)⟩
  | .completeWithdrawal _ setId => some ⟨.completeWithdrawal, setId⟩
  | .revokeSet _ setId reason detail => some ⟨.revokeSet, (setId, reason, detail)⟩
  | .retireSet _ setId reason => some ⟨.retireSet, (setId, reason)⟩
  | .supersedeSet _ predecessor successor => some ⟨.supersedeSet, (predecessor, successor)⟩
  | .addMember _ setId request _ => some ⟨.addMember, (setId, request)⟩
  | .addMembers _ setId requests => some ⟨.addMembers, (setId, requests.map Prod.fst)⟩
  | .removeMember _ setId memberId reason => some ⟨.removeMember, (setId, memberId, reason)⟩
  | .withdrawMember _ setId memberId reason => some ⟨.withdrawMember, (setId, memberId, reason)⟩
  | .replaceMember _ setId memberId request reason _ => some ⟨.replaceMember, (setId, memberId, request, reason)⟩
  | .setMemberAdminEnabled _ setId memberId enabled _ => some ⟨.setMemberAdminEnabled, (setId, memberId, enabled)⟩
  | .revalidateSet _ setId _ => some ⟨.revalidateSet, setId⟩
  | .revalidateMember _ setId memberId _ => some ⟨.revalidateMember, (setId, memberId)⟩
  | .completeMemberRevalidation _ ticket current => some ⟨.completeMemberRevalidation, ticket.completion current⟩
  | .declarePathAuthority _ view => some ⟨.declarePathAuthority, view⟩
  | .applyPathAuthority _ view | .refreshPath _ _ (some view) => some ⟨.applyPathAuthority, view⟩
  | _ => none

theorem asked_of_request {op : Op} {q : Request} (recorded : op.request = some q) :
    ∃ m a, op.asked = some ⟨m, a⟩ ∧ q.operation = m.operation ∧ q.fields = m.operation :: m.fields a := by
  cases op with
  | refreshPath context path view =>
      cases view with
      | none => cases recorded
      | some view =>
          cases recorded
          exact ⟨_, _, rfl, rfl, rfl⟩
  | _ =>
      first
        | (cases recorded
           exact ⟨_, _, rfl, rfl, rfl⟩)
        | cases recorded

def SetKey.segments (key : SetKey) : List Bytes :=
  (orUnset key.fabric.view).splitOn 47 ++ (orUnset key.nameSpace.view).splitOn 47 ++ (orUnset key.name.view).splitOn 47

theorem SetKey.render_eq_iff {key key' : SetKey} : key.render = key'.render ↔ key.segments = key'.segments := by
  have hsplit : ∀ key : SetKey, key.render.splitOn 47 = key.segments := by
    intro key
    have hslash : text "/" = [47] := by decide
    simp only [render, segments, hslash, List.append_assoc, List.cons_append, List.nil_append]
    rw [List.splitOn_append_cons_self, List.splitOn_append_cons_self]
  rw [← hsplit, ← hsplit]
  refine ⟨congrArg _, fun h => ?_⟩
  have hjoined := congrArg ([47] : Bytes).intercalate h
  rwa [List.intercalate_splitOn, List.intercalate_splitOn] at hjoined

namespace RecordedOperation

def Blurs : (m : RecordedOperation) → m.Arguments → m.Arguments → Prop
  | .createSet, (key, options), (key', options') => key ≠ key' ∧ key.segments = key'.segments ∧ options = options'
  | .completeMemberRevalidation, completion, completion' =>
      completion ≠ completion' ∧ Completion.setId completion = Completion.setId completion' ∧
        Completion.memberId completion = Completion.memberId completion' ∧
        Completion.attempt completion = Completion.attempt completion'
  | _, _, _ => False

theorem memberFields_inj {operation : Bytes} {setId : MultipathSetId} {request request' : MemberRequest}
    (h : memberFields operation setId request = memberFields operation setId request') : request = request' := by
  unfold memberFields at h
  simp only [List.append_assoc, List.append_cancel_left_eq] at h
  obtain ⟨hpath, h⟩ := labelled_inj (c := 124) (by decide) (request.pathId.notMem_view rfl) (request'.pathId.notMem_view rfl) h
  cases request
  cases request'
  cases StrongId.ext hpath
  cases Generation.decimal_inj h
  rfl

theorem viewFields_inj {view view' : PathAuthorityView}
    (h : [view.path.view, decimal view.generation.value.toNat, view.state.toString] =
      [view'.path.view, decimal view'.generation.value.toNat, view'.state.toString]) : view = view' := by
  simp only [List.cons.injEq, and_true] at h
  obtain ⟨hpath, hgeneration, hstate⟩ := h
  cases view
  cases view'
  cases StrongId.ext hpath
  cases Generation.decimal_inj hgeneration
  cases PathAuthorityState.toString_injective hstate
  rfl

theorem fields_of_blurs {m : RecordedOperation} {a b : m.Arguments} (h : m.Blurs a b) : m.fields a = m.fields b := by
  cases m with
  | createSet =>
      obtain ⟨key, options⟩ := a
      obtain ⟨key', options'⟩ := b
      obtain ⟨_, hsegments, rfl⟩ := h
      simp only [fields, SetKey.render_eq_iff.mpr hsegments]
  | completeMemberRevalidation =>
      obtain ⟨_, hset, hmember, hattempt⟩ := h
      cases a
      cases b
      cases hset
      cases hmember
      cases hattempt
      rfl
  | _ => exact h.elim

theorem fields_inj {m : RecordedOperation} {a b : m.Arguments} (h : m.fields a = m.fields b) : a = b ∨ m.Blurs a b := by
  cases m with
  | createSet =>
      obtain ⟨key, options⟩ := a
      obtain ⟨key', options'⟩ := b
      simp only [fields, List.cons.injEq, and_true] at h
      obtain ⟨hkey, hminimum, hadmin, hconditional⟩ := h
      have hoptions : options = options' := by
        cases options
        cases options'
        cases decimal_u64_inj hminimum
        cases flagText_injective hadmin
        cases flagText_injective hconditional
        rfl
      by_cases hsame : key = key'
      · exact .inl (Prod.ext hsame hoptions)
      · exact .inr ⟨hsame, SetKey.render_eq_iff.mp hkey, hoptions⟩
  | publishSet => exact .inl (StrongId.ext (List.cons.inj h).1)
  | completeWithdrawal => exact .inl (StrongId.ext (List.cons.inj h).1)
  | revalidateSet => exact .inl (StrongId.ext (List.cons.inj h).1)
  | setMinimumUsableMembers =>
      obtain ⟨setId, minimum⟩ := a
      obtain ⟨setId', minimum'⟩ := b
      simp only [fields, List.cons.injEq, and_true] at h
      exact .inl (Prod.ext (StrongId.ext h.1) (decimal_u64_inj h.2))
  | setConditionalAuthorityPolicy =>
      obtain ⟨setId, permitted⟩ := a
      obtain ⟨setId', permitted'⟩ := b
      simp only [fields, List.cons.injEq, and_true] at h
      exact .inl (Prod.ext (StrongId.ext h.1) (flagText_injective h.2))
  | setAdminEnabled =>
      obtain ⟨setId, enabled⟩ := a
      obtain ⟨setId', enabled'⟩ := b
      simp only [fields, List.cons.injEq, and_true] at h
      exact .inl (Prod.ext (StrongId.ext h.1) (flagText_injective h.2))
  | withdrawSet =>
      obtain ⟨setId, reason⟩ := a
      obtain ⟨setId', reason'⟩ := b
      simp only [fields, List.cons.injEq, and_true] at h
      exact .inl (Prod.ext (StrongId.ext h.1) h.2)
  | retireSet =>
      obtain ⟨setId, reason⟩ := a
      obtain ⟨setId', reason'⟩ := b
      simp only [fields, List.cons.injEq, and_true] at h
      exact .inl (Prod.ext (StrongId.ext h.1) h.2)
  | revokeSet =>
      obtain ⟨setId, reason, detail⟩ := a
      obtain ⟨setId', reason', detail'⟩ := b
      simp only [fields, List.cons.injEq, and_true] at h
      exact .inl (Prod.ext (StrongId.ext h.1) (Prod.ext (RevocationReason.toString_injective h.2.1) h.2.2))
  | supersedeSet =>
      obtain ⟨predecessor, successor⟩ := a
      obtain ⟨predecessor', successor'⟩ := b
      simp only [fields, List.cons.injEq, and_true] at h
      exact .inl (Prod.ext (StrongId.ext h.1) (StrongId.ext h.2))
  | addMember =>
      obtain ⟨setId, request⟩ := a
      obtain ⟨setId', request'⟩ := b
      simp only [fields, List.cons.injEq, and_true] at h
      obtain ⟨hset, hrequest⟩ := h
      cases StrongId.ext hset
      exact .inl (congrArg (Prod.mk setId) (memberFields_inj hrequest))
  | addMembers =>
      obtain ⟨setId, requests⟩ := a
      obtain ⟨setId', requests'⟩ := b
      simp only [fields, List.cons.injEq] at h
      obtain ⟨hset, hrequests⟩ := h
      cases StrongId.ext hset
      exact .inl (congrArg (Prod.mk setId) (List.map_injective_iff.mpr (fun _ _ => memberFields_inj) hrequests))
  | removeMember =>
      obtain ⟨setId, memberId, reason⟩ := a
      obtain ⟨setId', memberId', reason'⟩ := b
      simp only [fields, List.cons.injEq, and_true] at h
      exact .inl (Prod.ext (StrongId.ext h.1) (Prod.ext (StrongId.ext h.2.1) h.2.2))
  | withdrawMember =>
      obtain ⟨setId, memberId, reason⟩ := a
      obtain ⟨setId', memberId', reason'⟩ := b
      simp only [fields, List.cons.injEq, and_true] at h
      exact .inl (Prod.ext (StrongId.ext h.1) (Prod.ext (StrongId.ext h.2.1) h.2.2))
  | replaceMember =>
      obtain ⟨setId, memberId, request, reason⟩ := a
      obtain ⟨setId', memberId', request', reason'⟩ := b
      simp only [fields, List.cons.injEq, and_true] at h
      obtain ⟨hset, hmember, hpath, hgeneration, hreason⟩ := h
      cases request
      cases request'
      cases StrongId.ext hset
      cases StrongId.ext hmember
      cases StrongId.ext hpath
      cases Generation.decimal_inj hgeneration
      cases hreason
      exact .inl rfl
  | setMemberAdminEnabled =>
      obtain ⟨setId, memberId, enabled⟩ := a
      obtain ⟨setId', memberId', enabled'⟩ := b
      simp only [fields, List.cons.injEq, and_true] at h
      exact .inl (Prod.ext (StrongId.ext h.1) (Prod.ext (StrongId.ext h.2.1) (flagText_injective h.2.2)))
  | revalidateMember =>
      obtain ⟨setId, memberId⟩ := a
      obtain ⟨setId', memberId'⟩ := b
      simp only [fields, List.cons.injEq, and_true] at h
      exact .inl (Prod.ext (StrongId.ext h.1) (StrongId.ext h.2))
  | completeMemberRevalidation =>
      have hset := List.cons.inj h
      have hmember := List.cons.inj hset.2
      have hattempt := List.cons.inj hmember.2
      by_cases hsame : a = b
      · exact .inl hsame
      · exact .inr ⟨hsame, StrongId.ext hset.1, StrongId.ext hmember.1, StrongId.ext hattempt.1⟩
  | declarePathAuthority => exact .inl (viewFields_inj h)
  | applyPathAuthority => exact .inl (viewFields_inj h)

end RecordedOperation

namespace Op

/-- Two requests that differ and are recorded as one: declarations of keys with the same segments, or completions
of one attempt with differing tickets or views. -/
def Blurs (op op' : Op) : Prop := ∃ m a b, op.asked = some ⟨m, a⟩ ∧ op'.asked = some ⟨m, b⟩ ∧ m.Blurs a b

/-- Two recorded requests have vectors and streams of their own, and the one is taken for a replay of the other
only if their streams collide. -/
structure ToldApart (q q' : Request) : Prop where
  vectors : q.vector ≠ q'.vector
  streams : q.stream ≠ q'.stream
  replays : ∀ (e : FabricEngine) (outcome : FabricOutcome), e.attemptIndex[q'.context.attempt]? = some q.fingerprint →
    e.attemptCheck q'.context q'.operation q'.fields = some outcome → outcome.code = .idempotent →
      Request.digestOf q.stream = Request.digestOf q'.stream

variable {op op' : Op} {q q' : Request}

theorem vector_eq_iff (recorded : op.request = some q) (recorded' : op'.request = some q') :
    q.vector = q'.vector ↔ op.asked = op'.asked ∨ op.Blurs op' := by
  obtain ⟨m, a, hasked, hoperation, hfields⟩ := asked_of_request recorded
  obtain ⟨m', a', hasked', hoperation', hfields'⟩ := asked_of_request recorded'
  rw [Request.vector, Request.vector, hoperation, hoperation', hfields, hfields']
  constructor
  · intro h
    obtain ⟨hsame, h⟩ := Prod.mk.inj h
    cases RecordedOperation.operation_injective hsame
    rcases RecordedOperation.fields_inj (List.cons.inj h).2 with rfl | hblurs
    · exact .inl (hasked.trans hasked'.symm)
    · exact .inr ⟨m, a, a', hasked, hasked', hblurs⟩
  · rintro (hsame | ⟨_, _, _, hleft, hright, hblurs⟩)
    · rw [hasked, hasked'] at hsame
      cases hsame
      rfl
    · rw [hasked] at hleft
      rw [hasked'] at hright
      cases hleft
      cases hright
      rw [RecordedOperation.fields_of_blurs hblurs]

theorem not_asked_of_blurs (h : op.Blurs op') : op.asked ≠ op'.asked := by
  obtain ⟨m, a, b, hleft, hright, hblurs⟩ := h
  rw [hleft, hright]
  intro hsame
  cases hsame
  cases m with
  | createSet => exact hblurs.1 rfl
  | completeMemberRevalidation => exact hblurs.1 rfl
  | _ => exact hblurs

theorem digest_of_replay {e : FabricEngine} {outcome : FabricOutcome}
    (known : e.attemptIndex[q'.context.attempt]? = some q.fingerprint)
    (answer : e.attemptCheck q'.context q'.operation q'.fields = some outcome) (replayed : outcome.code = .idempotent) :
    Request.digestOf q.stream = Request.digestOf q'.stream := by
  rw [← Request.fingerprint_eq, ← Request.fingerprint_eq]
  by_contra hdiffer
  have hconflict : q.fingerprint ≠ fingerprintRequest q'.operation q'.fields := hdiffer
  unfold FabricEngine.attemptCheck at answer
  simp only [known] at answer
  rw [if_pos hconflict] at answer
  cases answer
  cases replayed

/-- The vectors of recorded requests are absorbed as streams of their own, and requests that ask for something else
have vectors of their own unless they blur. -/
theorem fingerprints_cover (recorded : op.request = some q) (recorded' : op'.request = some q') (fits : q.Fits)
    (fits' : q'.Fits) :
    (q.vector ≠ q'.vector → q.stream ≠ q'.stream) ∧ ((op.asked ≠ op'.asked → ToldApart q q') ↔ ¬op.Blurs op') := by
  have hstreams : q.vector ≠ q'.vector → q.stream ≠ q'.stream :=
    fun hdiffer hsame => hdiffer (Request.stream_inj fits fits' hsame)
  refine ⟨hstreams, fun hcovers hblurs => ?_, fun hclear hdiffer => ?_⟩
  · exact (hcovers (not_asked_of_blurs hblurs)).vectors ((vector_eq_iff recorded recorded').mpr (.inr hblurs))
  · have hvectors : q.vector ≠ q'.vector := by
      intro hsame
      rcases (vector_eq_iff recorded recorded').mp hsame with hasked | hblurs
      · exact hdiffer hasked
      · exact hclear hblurs
    exact ⟨hvectors, hstreams hvectors, fun _ _ known answer replayed => digest_of_replay known answer replayed⟩

end Op

def slashedNamespace : Op :=
  .createSet { sampleContext "a9" with publisher := sampleId "pub2", session := sampleId "sess2" }
    ⟨sampleId "fab", sampleId "ns/a", sampleId "set"⟩ ⟨1, true, false⟩

def slashedName : Op := .createSet (sampleContext "a9") ⟨sampleId "fab", sampleId "ns", sampleId "a/set"⟩ ⟨1, true, false⟩

def slashedRun : FabricEngine :=
  sampleRun (sampleSteps ++
    [.registerPublisher (sampleId "pub2") (sampleId "boot") ⟨sampleId "fab", sampleId "ns/a", []⟩ (sampleId "sess2"),
      slashedNamespace])

/-- The second declaration is answered with the set of the first, and its own key is left without a set. -/
theorem Op.fingerprints_blur_keys :
    (¬∀ (op op' : Op) (q q' : Request), op.request = some q → op'.request = some q' → q.Fits → q'.Fits →
      op.asked ≠ op'.asked → ToldApart q q') ∧
    ((slashedRun.exec slashedName).2.code = .idempotent ∧
      (slashedRun.exec slashedName).2.setId = some (sampleId "mpf-set-7f-3") ∧
      slashedRun.keyIndex[(⟨sampleId "fab", sampleId "ns", sampleId "a/set"⟩ : SetKey)]? = none) := by
  refine ⟨fun h => ?_, by decide +kernel⟩
  have hfits : ∀ op ∈ [slashedNamespace, slashedName], ∀ q, op.request = some q → q.Fits := by
    intro op hop q hq
    rcases List.mem_cons.mp hop with rfl | hop
    · cases hq
      exact ⟨by decide +kernel, by decide +kernel⟩
    · rcases List.mem_singleton.mp hop with rfl
      cases hq
      exact ⟨by decide +kernel, by decide +kernel⟩
  have happart := h slashedNamespace slashedName _ _ rfl rfl (hfits _ List.mem_cons_self _ rfl)
    (hfits _ (List.mem_cons_of_mem _ List.mem_cons_self) _ rfl) (by
      intro hsame
      cases hsame)
  exact happart.vectors (by decide +kernel)

theorem Op.fingerprints_cover_sample :
    (Op.withdrawSet (sampleContext "a5") sampleSet (text "old")).asked ≠
      (Op.withdrawSet (sampleContext "a5") sampleSet (text "new")).asked ∧
    ((Op.withdrawSet (sampleContext "a5") sampleSet (text "old")).asked ≠
      (Op.withdrawSet (sampleContext "a5") sampleSet (text "new")).asked →
      Op.ToldApart (.onSet (sampleContext "a5") (text "withdraw_set") sampleSet [text "old"])
        (.onSet (sampleContext "a5") (text "withdraw_set") sampleSet [text "new"])) := by
  refine ⟨?_, (Op.fingerprints_cover rfl rfl ⟨by decide, by decide⟩ ⟨by decide, by decide⟩).2.mpr ?_⟩
  · intro hsame
    cases hsame
  · rintro ⟨m, a, b, hleft, hright, hblurs⟩
    cases hleft
    exact hblurs

end MultipathFabric
