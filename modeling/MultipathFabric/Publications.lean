import MultipathFabric.Attempts
import MultipathFabric.Counters
import MultipathFabric.DerivedState
import MultipathFabric.MemberChange
import MultipathFabric.MemberCount
import MultipathFabric.Verdicts

namespace MultipathFabric

open OrderedMap Precedence

inductive PublicationCall
  | member (context : MutationContext) (request : MemberRequest)
  | batch (context : MutationContext) (requests : List MemberRequest)

namespace PublicationCall

def context : PublicationCall → MutationContext
  | .member context _ | .batch context _ => context

def requests : PublicationCall → List MemberRequest
  | .member _ request => [request]
  | .batch _ requests => requests

def bulk : PublicationCall → Bool
  | .member _ _ => false
  | .batch _ _ => true

def operation : PublicationCall → Bytes
  | .member _ _ => text "add_member"
  | .batch _ _ => text "add_members"

def looked (source : PathId → Option PathAuthorityView) (call : PublicationCall) :
    List (MemberRequest × Option PathAuthorityView) :=
  call.requests.map fun request => (request, source request.pathId)

def op (source : PathId → Option PathAuthorityView) (setId : MultipathSetId) : PublicationCall → Op
  | .member context request => .addMember context setId request (source request.pathId)
  | .batch context requests =>
      .addMembers context setId (requests.map fun request => (request, source request.pathId))

def run (source : PathId → Option PathAuthorityView) (setId : MultipathSetId) (e : FabricEngine) :
    PublicationCall → FabricEngine × FabricOutcome
  | .member context request => e.addMember source context setId request.pathId request.authorityGeneration
  | .batch context requests => e.addMembers source context setId requests

def sized (limits : Limits) : PublicationCall → Prop
  | .member _ _ => True
  | .batch _ requests => requests ≠ [] ∧ requests.length ≤ limits.maxBatchSize.toNat

instance (limits : Limits) : (call : PublicationCall) → Decidable (call.sized limits)
  | .member _ _ => inferInstanceAs (Decidable True)
  | .batch _ _ => inferInstanceAs (Decidable (_ ∧ _))

theorem sized.nonempty {limits : Limits} {call : PublicationCall} (h : call.sized limits) : call.requests ≠ [] := by
  cases call with
  | member context request => exact List.cons_ne_nil _ _
  | batch context requests => exact h.1

theorem sized.batch {limits : Limits} {call : PublicationCall} (h : call.sized limits) (bulk : call.bulk = true) :
    call.requests.length ≤ limits.maxBatchSize.toNat := by
  cases call with
  | member context request => cases bulk
  | batch context requests => exact h.2

variable (source : PathId → Option PathAuthorityView) (setId : MultipathSetId) (call : PublicationCall)

theorem looked_requests : (call.looked source).map Prod.fst = call.requests := by
  unfold looked
  rw [List.map_map]
  exact List.map_id _

theorem publishes : (call.op source setId).Publishes call.context setId (call.looked source) call.bulk := by
  cases call with
  | member context request => exact .one request _
  | batch context requests => exact .many _

theorem request : (call.op source setId).request =
    some ⟨call.context, call.operation, bulkFields call.operation setId call.requests⟩ := by
  cases call with
  | member context request => rfl
  | batch context requests =>
      change some (Request.mk _ _ _) = _
      rw [← looked_requests source (.batch context requests)]
      rfl

theorem run_eq (e : FabricEngine) : call.run source setId e =
    (e.addMembersLocked call.context setId (call.looked source) call.operation call.bulk).answer := by
  cases call with
  | member context request => exact FabricEngine.addMembersInternal_eq _ _ _ _ _ _ _
  | batch context requests => exact FabricEngine.addMembersInternal_eq _ _ _ _ _ _ _

end PublicationCall

def publishAll (source : PathId → Option PathAuthorityView) (setId : MultipathSetId) :
    FabricEngine → List PublicationCall → FabricEngine × List OutcomeCode
  | e, [] => (e, [])
  | e, call :: rest =>
      let answer := call.run source setId e
      let later := publishAll source setId answer.1 rest
      (later.1, answer.2.code :: later.2)

namespace FabricEngine

variable {e : FabricEngine} {context : MutationContext} {setId : MultipathSetId} {r : SetRecord}
  {source : PathId → Option PathAuthorityView}

/-- The set `r` can take the requests: their paths are distinct, Path Authority supports every one of them, and the
limits permit them. -/
structure Admissible (source : PathId → Option PathAuthorityView) (setId : MultipathSetId) (e : FabricEngine)
    (r : SetRecord) (requests : List MemberRequest) : Prop where
  named : setId.valid = true
  allowed : transitionAllowed r.lifecycle .memberAdded = true
  distinct : (requests.map MemberRequest.pathId).Nodup
  wellFormed : ∀ request ∈ requests, request.wellFormed = true
  authorized : ∀ request ∈ requests, classifyPathAuthority (source request.pathId) request.authorityGeneration
    r.conditionalAuthorityPermitted = .current
  members : r.members.size + requests.length ≤ e.limits.maxMembersPerSet.toNat
  total : e.totalMembers + requests.length ≤ e.limits.maxTotalMembers.toNat
  dependents : ∀ request ∈ requests,
    (e.dependents request.pathId).size < e.limits.maxPathDependenciesPerPath.toNat

/-- The callers may make the calls one after the other: they are authorized, no attempt has been used, and the
generations that they expect are the ones that the calls before leave. -/
structure Callable (setId : MultipathSetId) (e : FabricEngine) (r : SetRecord) (calls : List PublicationCall) :
    Prop where
  sized : ∀ call ∈ calls, call.sized e.limits
  callers : ∀ call ∈ calls, e.callerFaults call.context (e.coversSet setId) = []
  unused : ∀ call ∈ calls, e.attemptIndex[call.context.attempt]? = none
  attempts : (calls.map fun call => call.context.attempt).Nodup
  expected : ∀ (i : ℕ) (call : PublicationCall), calls[i]? = some call →
    ∀ expected, call.context.expectedSetGeneration = some expected →
      expected.value.toNat = r.generation.value.toNat + i
  generations : r.generation.value.toNat + calls.length < 2 ^ 64
  membership : r.membershipGeneration.value.toNat + calls.length < 2 ^ 64

theorem Admissible.first {requests rest : List MemberRequest} (h : Admissible source setId e r (requests ++ rest)) :
    Admissible source setId e r requests := by
  have hmembers := h.members
  have htotal := h.total
  rw [List.length_append] at hmembers htotal
  have hdistinct := h.distinct
  rw [List.map_append] at hdistinct
  exact {
    named := h.named
    allowed := h.allowed
    distinct := (List.nodup_append.mp hdistinct).1
    wellFormed := fun request hrequest => h.wellFormed request (List.mem_append_left _ hrequest)
    authorized := fun request hrequest => h.authorized request (List.mem_append_left _ hrequest)
    members := by omega
    total := by omega
    dependents := fun request hrequest => h.dependents request (List.mem_append_left _ hrequest) }

theorem Callable.current {call : PublicationCall} {calls : List PublicationCall}
    (h : Callable setId e r (call :: calls)) : r.staleSet call.context = false := by
  unfold SetRecord.staleSet
  rw [Bool.not_eq_false', Option.all_eq_true]
  intro expected hexpected
  have hvalue := h.expected 0 call rfl expected hexpected
  rw [beq_iff_eq]
  exact Generation.ext (UInt64.toNat_inj.mp hvalue.symm)

theorem next_of_room {d : GenerationDomain} {g : Generation d} (room : g.value.toNat + 1 < 2 ^ 64) :
    ∃ g', g.next = some g' := by
  cases hnext : g.next with
  | some g' => exact ⟨g', rfl⟩
  | none =>
      exfalso
      unfold Generation.next at hnext
      cases hinc : checkedIncrement g.value with
      | some advanced =>
          have hadvanced := toNat_of_checkedIncrement hinc
          simp only [hinc, Generation.fromValue] at hnext
          split at hnext
          · rename_i hzero
            rw [hzero] at hadvanced
            cases hadvanced
          · cases hnext
      | none =>
          unfold checkedIncrement at hinc
          split at hinc
          · rename_i hlast
            rw [hlast] at room
            exact absurd room (by decide)
          · cases hinc

theorem unsupportedRequest_none {looked : List (MemberRequest × Option PathAuthorityView)}
    (authorized : ∀ request ∈ looked, classifyPathAuthority request.2 request.1.authorityGeneration
      r.conditionalAuthorityPermitted = .current) : unsupportedRequest r looked = none := by
  unfold unsupportedRequest
  rw [List.findSome?_eq_none_iff]
  intro request hrequest
  dsimp only
  rw [if_pos (authorized request hrequest)]

theorem duplicateRequest_none {seen : List PathId} {requests : List MemberRequest}
    (distinct : (seen ++ requests.map MemberRequest.pathId).Nodup)
    (free : ∀ request ∈ requests, r.members[request.pathId]? = none) :
    duplicateRequest r setId seen requests = none := by
  induction requests generalizing seen with
  | nil => rfl
  | cons request rest ih =>
      rw [List.map_cons, List.append_cons] at distinct
      have hunseen : seen.contains request.pathId = false := by
        rw [← Bool.not_eq_true, List.contains_iff_mem]
        intro hseen
        have hprefix := (List.nodup_append.mp distinct).1
        exact (List.nodup_append.mp hprefix).2.2 _ hseen _ List.mem_cons_self rfl
      unfold duplicateRequest
      rw [hunseen, free request List.mem_cons_self]
      exact ih distinct fun other hother => free other (List.mem_cons_of_mem _ hother)

theorem newLive_length_le (r : SetRecord) (requests : List MemberRequest) :
    (newLive r requests).length ≤ requests.length := List.length_filter_le _ _

theorem liveMemberCount_le (r : SetRecord) : liveMemberCount r ≤ r.members.size := count_le_size _ _

theorem dependencyLimit_none {requests : List MemberRequest} (room : ∀ request ∈ requests,
    (e.dependents request.pathId).size < e.limits.maxPathDependenciesPerPath.toNat) :
    e.dependencyLimit r requests = none := by
  unfold dependencyLimit
  rw [List.findSome?_eq_none_iff]
  intro request hrequest
  have hroom := room request (List.mem_of_mem_filter hrequest)
  unfold dependents InvertedIndex.owners at hroom
  cases hfound : e.pathDependents[request.pathId]? with
  | none => rfl
  | some dependents =>
      rw [hfound, Option.getD_some] at hroom
      exact if_neg (Nat.not_le.mpr hroom)

theorem joinFaults_eq_nil {looked : List (MemberRequest × Option PathAuthorityView)}
    (admissible : Admissible source setId e r (looked.map Prod.fst))
    (authorized : ∀ request ∈ looked, classifyPathAuthority request.2 request.1.authorityGeneration
      r.conditionalAuthorityPermitted = .current)
    (free : ∀ request ∈ looked.map Prod.fst, r.members[request.pathId]? = none)
    (expected : r.staleSet context = false) (generation : r.generation.next.isSome = true)
    (membership : r.membershipGeneration.next.isSome = true) : e.joinFaults r context setId looked = [] := by
  have hnew := newLive_length_le r (looked.map Prod.fst)
  have hlive := liveMemberCount_le r
  have hmembers := admissible.members
  have htotal := admissible.total
  have hroom : e.roomFaults r (looked.map Prod.fst) = [] := by
    unfold roomFaults
    rw [dependencyLimit_none admissible.dependents, decide_eq_true (by omega), decide_eq_true (by omega)]
    rfl
  unfold joinFaults SetRecord.lifecycleFault SetRecord.staleFault SetRecord.exhaustedFaults SetRecord.refuses
  rw [unsupportedRequest_none authorized, duplicateRequest_none admissible.distinct free, hroom, admissible.allowed,
    expected, generation, membership]
  rfl

theorem publication_accepted {op : Op} {looked : List (MemberRequest × Option PathAuthorityView)} {operation : Bytes}
    {bulk : Bool} (publication : op.Publishes context setId looked bulk)
    (request : op.request = some ⟨context, operation, bulkFields operation setId (looked.map Prod.fst)⟩)
    (found : e.sets[setId]? = some r) (admissible : Admissible source setId e r (looked.map Prod.fst))
    (authorized : ∀ request ∈ looked, classifyPathAuthority request.2 request.1.authorityGeneration
      r.conditionalAuthorityPermitted = .current)
    (free : ∀ request ∈ looked.map Prod.fst, r.members[request.pathId]? = none) (nonempty : looked ≠ [])
    (sized : bulk = true → looked.length ≤ e.limits.maxBatchSize.toNat)
    (caller : e.callerFaults context (e.coversSet setId) = []) (unused : e.attemptIndex[context.attempt]? = none)
    (expected : r.staleSet context = false) (generation : r.generation.next.isSome = true)
    (membership : r.membershipGeneration.next.isSome = true) :
    (e.addMembersLocked context setId looked operation bulk).outcome.succeeded = true := by
  have hknown : e.attemptCheck context operation (bulkFields operation setId (looked.map Prod.fst)) = none :=
    attemptCheck_unknown (q := ⟨context, operation, _⟩) unused
  have hattempt : e.attemptFault op = [] := by
    unfold attemptFault conflicts
    rw [request, Option.elim_some, hknown]
    rfl
  have hfaults : e.publicationFaults op context setId looked bulk = [] := by
    have hshape : looked.isEmpty = false := List.isEmpty_eq_false_iff.mpr nonempty
    have hbatch : (!bulk || decide (looked.length ≤ e.limits.maxBatchSize.toNat)) = true := by
      cases bulk with
      | false => rfl
      | true => exact decide_eq_true (sized rfl)
    have hwellFormed : (looked.map Prod.fst).all MemberRequest.wellFormed = true :=
      List.all_eq_true.mpr admissible.wellFormed
    unfold publicationFaults authorityFaults unknownSet atSet
    rw [admissible.named, hshape, hbatch, hwellFormed, caller, hattempt, found, Option.elim_some,
      joinFaults_eq_nil admissible authorized free expected generation membership]
    rfl
  have hplain : op.views = false := by cases publication <;> rfl
  rcases addMembersLocked_verdict e context setId looked request publication hplain with ⟨_, q, hq, hreplayed⟩ |
    ⟨haccepted, _⟩ | ⟨fault, hfault, _⟩
  · rw [request] at hq
    cases hq
    rw [hknown] at hreplayed
    cases hreplayed
  · exact haccepted
  · rw [hfaults] at hfault
    cases hfault

end FabricEngine

open FabricEngine

theorem PublicationCall.accepted {source : PathId → Option PathAuthorityView} {setId : MultipathSetId}
    {e : FabricEngine} {r : SetRecord} (call : PublicationCall) {calls : List PublicationCall}
    {rest : List MemberRequest} (found : e.sets[setId]? = some r)
    (free : ∀ request ∈ call.requests ++ rest, r.members[request.pathId]? = none)
    (admissible : Admissible source setId e r (call.requests ++ rest)) (callable : Callable setId e r (call :: calls)) :
    (call.run source setId e).2.succeeded = true := by
  have hlooked := call.looked_requests source
  have hfirst := admissible.first
  have hroom := callable.generations
  have hmembership := callable.membership
  rw [List.length_cons] at hroom hmembership
  obtain ⟨generation, hgeneration⟩ := next_of_room (g := r.generation) (by omega)
  obtain ⟨membershipGeneration, hnext⟩ := next_of_room (g := r.membershipGeneration) (by omega)
  have hsized := callable.sized call List.mem_cons_self
  have hrequest := call.request source setId
  rw [← hlooked] at hrequest
  rw [call.run_eq]
  have hadmissible : Admissible source setId e r ((call.looked source).map Prod.fst) := by
    rw [hlooked]
    exact hfirst
  apply publication_accepted (call.publishes source setId) hrequest found hadmissible
  · intro request hrequest
    obtain ⟨member, hmember, rfl⟩ := List.mem_map.mp hrequest
    exact hfirst.authorized member hmember
  · rw [hlooked]
    exact fun request hrequest => free request (List.mem_append_left _ hrequest)
  · intro hempty
    rw [hempty] at hlooked
    exact hsized.nonempty hlooked.symm
  · intro hbulk
    rw [PublicationCall.looked, List.length_map]
    exact hsized.batch hbulk
  · exact callable.callers call List.mem_cons_self
  · exact callable.unused call List.mem_cons_self
  · exact callable.current
  · rw [hgeneration]
    rfl
  · rw [hnext]
    rfl

end MultipathFabric
