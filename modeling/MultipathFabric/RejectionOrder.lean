import MultipathFabric.Verdicts
import MultipathFabric.Attempts

namespace MultipathFabric

open OrderedMap Precedence

namespace OutcomeCode

def rank (code : OutcomeCode) : ℕ := (stageOf code).raw.toNat

def From (n : ℕ) (codes : List OutcomeCode) : Prop := ∀ code ∈ codes, n ≤ code.rank

theorem From.mono {m n : ℕ} {codes : List OutcomeCode} (h : From n codes) (le : m ≤ n) : From m codes :=
  fun code hcode => le.trans (h code hcode)

@[simp] theorem from_nil (n : ℕ) : From n [] := fun _ h => by cases h

@[simp] theorem from_append {n : ℕ} {codes later : List OutcomeCode} :
    From n (codes ++ later) ↔ From n codes ∧ From n later :=
  List.forall_mem_append

@[simp] theorem from_faultIf {n : ℕ} {violated : Bool} {code : OutcomeCode} :
    From n (faultIf violated code) ↔ (violated = true → n ≤ code.rank) := by
  simp [From, and_imp]

@[simp] theorem from_cons {n : ℕ} {code : OutcomeCode} {codes : List OutcomeCode} :
    From n (code :: codes) ↔ n ≤ code.rank ∧ From n codes :=
  List.forall_mem_cons

def Below (n : ℕ) (codes : List OutcomeCode) : Prop := ∀ code ∈ codes, code.rank < n

theorem Below.trans {m n : ℕ} {codes : List OutcomeCode} (h : Below m codes) (le : m ≤ n) : Below n codes :=
  fun code hcode => (h code hcode).trans_le le

@[simp] theorem below_nil (n : ℕ) : Below n [] := fun _ h => by cases h

@[simp] theorem below_append {n : ℕ} {codes later : List OutcomeCode} :
    Below n (codes ++ later) ↔ Below n codes ∧ Below n later :=
  List.forall_mem_append

@[simp] theorem below_faultIf {n : ℕ} {violated : Bool} {code : OutcomeCode} :
    Below n (faultIf violated code) ↔ (violated = true → code.rank < n) := by
  simp [Below, and_imp]

theorem from_iff_nil {n : ℕ} {codes : List OutcomeCode} (below : Below n codes) : From n codes ↔ codes = [] := by
  constructor
  · intro h
    refine List.eq_nil_iff_forall_not_mem.mpr fun code hcode => ?_
    exact absurd (h code hcode) (Nat.not_le.mpr (below code hcode))
  · rintro rfl
    exact from_nil n

@[simp] theorem ordered_faultIf_append {violated : Bool} {code : OutcomeCode} {later : List OutcomeCode} :
    Ordered rank (faultIf violated code ++ later) ↔
      (violated = true → From code.rank later) ∧ (violated = false → Ordered rank later) := by
  rw [ordered_faultIf]
  cases violated <;> simp [From]

@[simp] theorem ordered_faultIf_alone {violated : Bool} {code : OutcomeCode} :
    Ordered rank (faultIf violated code) := by
  cases violated <;> simp [faultIf, Ordered]

theorem from_flatten_cons {n : ℕ} {codes : List OutcomeCode} {later : List (List OutcomeCode)} :
    From n (codes :: later).flatten ↔ From n codes ∧ From n later.flatten := by
  rw [List.flatten_cons, from_append]

@[simp] theorem ordered_cons {code : OutcomeCode} {later : List OutcomeCode} :
    Ordered rank (code :: later) ↔ From code.rank later := by
  simp [Ordered, From]

theorem ranks : rank .malformedRequest = 1 ∧ rank .unauthorizedCaller = 2 ∧ rank .staleEpoch = 3 ∧
    rank .staleWorker = 4 ∧ rank .unknownPublisher = 4 ∧ rank .unauthorizedScope = 5 ∧ rank .attemptConflict = 6 ∧
    rank .setNotFound = 7 ∧ rank .memberNotFound = 7 ∧ rank .setKeyConflict = 7 ∧ rank .revoked = 7 ∧
    rank .invalidLifecycleTransition = 7 ∧ rank .staleSetGeneration = 8 ∧ rank .staleMemberGeneration = 8 ∧
    rank .generationOverflow = 8 ∧ rank .staleRevalidation = 9 ∧ rank .pathAuthorityUnknown = 9 ∧
    rank .resourceLimit = 10 ∧ rank .duplicateMember = 11 ∧ rank .invalidThreshold = 11 ∧
    rank .unsupportedOperation = 11 := by decide

@[simp] theorem rank_lifecycleRejection (lifecycle : SetLifecycle) (setId : MultipathSetId) :
    (lifecycleRejection lifecycle setId).code.rank = 7 := by
  cases lifecycle <;> rfl

end OutcomeCode

open OutcomeCode

def OutcomeCode.At (n : ℕ) (codes : List OutcomeCode) : Prop := ∀ code ∈ codes, code.rank = n

theorem OutcomeCode.At.from {m n : ℕ} {codes : List OutcomeCode} (h : At n codes) (le : m ≤ n) : From m codes :=
  fun code hcode => le.trans (h code hcode).ge

theorem OutcomeCode.At.below {m n : ℕ} {codes : List OutcomeCode} (h : At n codes) (lt : n < m) : Below m codes :=
  fun code hcode => (h code hcode).trans_lt lt

theorem OutcomeCode.At.ordered {n : ℕ} {codes later : List OutcomeCode} (h : At n codes) :
    Ordered rank (codes ++ later) ↔ (codes ≠ [] → From n later) ∧ (codes = [] → Ordered rank later) := by
  cases codes with
  | nil => simp
  | cons first rest =>
      have hfirst : first.rank = n := h first List.mem_cons_self
      have hrest : From n rest := fun code hcode => (h code (List.mem_cons_of_mem _ hcode)).ge
      simp [hfirst, hrest]

theorem capacity_ordered {unsupported room exhausted : List OutcomeCode} {duplicate : Bool}
    (hunsupported : At 9 unsupported) (hroom : At 10 room) (hexhausted : At 8 exhausted) :
    Ordered rank (unsupported ++ (faultIf duplicate .duplicateMember ++ (room ++ exhausted))) ↔
      ¬((exhausted ≠ [] ∧ (unsupported ≠ [] ∨ duplicate = true ∨ room ≠ [])) ∨
        (unsupported = [] ∧ duplicate = true ∧ room ≠ [])) := by
  have hlast : Ordered rank exhausted := by
    rw [← List.append_nil exhausted, hexhausted.ordered]
    simp
  rw [hunsupported.ordered, ordered_faultIf_append, hroom.ordered]
  simp only [from_append, from_faultIf, hroom.from (show 9 ≤ 10 by decide), from_iff_nil (hroom.below (show 10 < 11 by decide)),
    from_iff_nil (hexhausted.below (show 8 < 9 by decide)), from_iff_nil (hexhausted.below (show 8 < 10 by decide)),
    from_iff_nil (hexhausted.below (show 8 < 11 by decide)), hlast, ranks]
  by_cases hu : unsupported = [] <;> by_cases hr : room = [] <;> by_cases he : exhausted = [] <;>
    cases duplicate <;> simp [hu, hr, he]

namespace FabricEngine

variable {e : FabricEngine} {op : Op} {context : MutationContext} {setId : MultipathSetId}

/-- The rejection carries the earliest stage among those whose condition the request violates. -/
def EarliestStage (e : FabricEngine) (op : Op) (outcome : FabricOutcome) : Prop :=
  (∃ code ∈ e.violations op, stageOf code = outcome.stage) ∧
    ∀ code ∈ e.violations op, outcome.stage.raw ≤ (stageOf code).raw

theorem earliestStage_iff {outcome : FabricOutcome} (settles : outcome.Settles (e.violations op))
    (rejected : outcome.succeeded = false) : e.EarliestStage op outcome ↔ Ordered rank (e.violations op) := by
  obtain ⟨hsucceeded, _⟩ | ⟨fault, hhead, _, _, hstage⟩ := settles
  · rw [rejected] at hsucceeded
    cases hsucceeded
  · unfold EarliestStage Ordered
    rw [hhead, hstage]
    constructor
    · intro h first hfirst code hcode
      cases hfirst
      exact UInt8.le_iff_toNat_le.mp (h.2 code hcode)
    · intro h
      exact ⟨⟨fault, List.mem_of_head? hhead, rfl⟩, fun code hcode => UInt8.le_iff_toNat_le.mpr (h fault rfl code hcode)⟩

def contested (e : FabricEngine) (op : Op) : Bool := op.request.any e.conflicts

theorem attemptFault_eq (e : FabricEngine) (op : Op) :
    e.attemptFault op = faultIf (e.contested op) .attemptConflict := by
  unfold attemptFault contested
  cases op.request with
  | none => rfl
  | some q => rfl

@[mk_iff]
structure Hidden (e : FabricEngine) (op : Op) (context : MutationContext) (setId : MultipathSetId) : Prop where
  caller : e.callerFaults context (e.coversSet setId) = []
  unknown : e.sets[setId]? = none
  conflict : e.contested op = true

@[mk_iff]
structure Enters (e : FabricEngine) (op : Op) (context : MutationContext) (setId : MultipathSetId) (r : SetRecord) :
    Prop where
  caller : e.callerFaults context (e.coversSet setId) = []
  fresh : e.contested op = false
  found : e.sets[setId]? = some r

theorem callerFaults_ordered (e : FabricEngine) (context : MutationContext) (covers : AuthorityScope → Bool)
    {later : List OutcomeCode} (late : From 5 later) :
    Ordered rank (e.callerFaults context covers ++ later) ↔ (e.callerFaults context covers = [] → Ordered rank later) := by
  have h4 := late.mono (show 4 ≤ 5 by decide)
  have h3 := late.mono (show 3 ≤ 5 by decide)
  have h2 := late.mono (show 2 ≤ 5 by decide)
  simp only [callerFaults, List.flatten_cons, List.flatten_nil, List.append_assoc, List.nil_append,
    List.append_eq_nil_iff, faultIf_eq_nil, ordered_faultIf_append, from_append, from_faultIf]
  simp [ranks, late, h2, h3, h4]

theorem callerFaults_from (e : FabricEngine) (context : MutationContext) (covers : AuthorityScope → Bool) :
    From 2 (e.callerFaults context covers) := by
  simp [callerFaults, ranks]

theorem callerFaults_below (e : FabricEngine) (context : MutationContext) (covers : AuthorityScope → Bool) :
    Below 6 (e.callerFaults context covers) := by
  simp [callerFaults, ranks]

theorem authorityFaults_below (e : FabricEngine) (context : MutationContext) (setId : MultipathSetId) :
    Below 8 (e.authorityFaults context setId) := by
  simp [authorityFaults, unknownSet, ranks, (e.callerFaults_below context (e.coversSet setId)).trans (show 6 ≤ 8 by decide)]

theorem authorityFaults_from (e : FabricEngine) (context : MutationContext) (setId : MultipathSetId) :
    From 2 (e.authorityFaults context setId) := by
  simp [authorityFaults, callerFaults_from, unknownSet, ranks]

theorem attemptFault_from (e : FabricEngine) (op : Op) : From 6 (e.attemptFault op) := by
  simp [attemptFault_eq, ranks]

theorem atSet_from {n : ℕ} {faults : SetRecord → List OutcomeCode} (late : ∀ r, From n (faults r)) :
    From n (e.atSet setId faults) := by
  unfold atSet
  cases e.sets[setId]? with
  | none => exact from_nil n
  | some r => exact late r

theorem ordered_admission {faults : SetRecord → List OutcomeCode} (late : ∀ r, From 7 (faults r)) :
    Ordered rank [e.authorityFaults context setId, e.attemptFault op, e.atSet setId faults].flatten ↔
      ¬e.Hidden op context setId ∧ ∀ r, e.Enters op context setId r → Ordered rank (faults r) := by
  have hset := @atSet_from e setId _ _ late
  have hattempt := (e.attemptFault_from op).mono (show 5 ≤ 6 by decide)
  simp only [authorityFaults, List.flatten_cons, List.flatten_nil, List.append_assoc, List.append_nil]
  rw [callerFaults_ordered]
  · cases hfound : e.sets[setId]? with
    | none =>
        simp [unknownSet, atSet, hfound, attemptFault_eq, hidden_iff, enters_iff, ranks]
    | some r =>
        have hseven := (late r).mono (show 6 ≤ 7 by decide)
        simp [unknownSet, atSet, hfound, attemptFault_eq, hidden_iff, enters_iff, ranks,
          hseven]
  · simp only [from_append]
    exact ⟨by simp [unknownSet, ranks], hattempt, hset.mono (by decide)⟩

end FabricEngine

namespace SetRecord

def GenerationFirst (r : SetRecord) (context : MutationContext) (event : SetEvent) : Prop :=
  r.refuses event = true ∧ (r.staleSet context = true ∨ r.generation.next = none)

end SetRecord

def Op.Slips (limits : Limits) (r : SetRecord) : Op → Prop
  | .publishSet context _ => r.GenerationFirst context .publish
  | .retireSet context _ _ => r.GenerationFirst context .retire
  | .setMinimumUsableMembers context _ minimum =>
      (r.staleSet context = true ∧ r.refuses .minimumChanged = true) ∨
        (r.staleSet context = false ∧ r.refuses .minimumChanged = false ∧ limits.maxMembersPerSet < minimum ∧
          r.minimumUsableMembers ≠ minimum ∧ r.generation.next = none)
  | .setConditionalAuthorityPolicy context _ _ => r.staleSet context = true ∧ r.refuses .policyChanged = true
  | .setAdminEnabled context _ enabled =>
      r.staleSet context = true ∧ r.refuses (if enabled then .adminEnabled else .adminDisabled) = true
  | .withdrawSet context _ reason =>
      if r.lifecycle = .withdrawing then r.staleSet context = true ∧ r.withdrawalReason ≠ reason
      else r.GenerationFirst context .beginWithdraw
  | .completeWithdrawal _ _ => r.refuses .completeWithdraw = true ∧ r.generation.next = none
  | .revokeSet context _ reason detail =>
      match (if r.lifecycle = .revoked then r.revocation else none) with
      | some revocation => r.staleSet context = true ∧ ¬(revocation.reason = reason ∧ revocation.detail = detail)
      | none => r.GenerationFirst context .revoke
  | .withdrawMember context _ memberId _ =>
      r.refuses .memberRemoved = false ∧ ∃ path m, r.finds memberId path m ∧ m.lifecycle ≠ .withdrawn ∧
        memberTransition m.lifecycle .withdraw = none ∧
        (m.staleMember context = true ∨ m.generation.next = none ∨ r.generation.next = none ∨
          r.membershipGeneration.next = none)
  | _ => False

namespace FabricEngine

variable {e : FabricEngine} {op : Op} {context : MutationContext} {setId : MultipathSetId}

def Trips (e : FabricEngine) (op : Op) : Prop :=
  ∃ context setId, op.context = some context ∧ op.subject = some setId ∧
    (e.Hidden op context setId ∨ ∃ r, e.Enters op context setId r ∧ op.Slips e.limits r)

def PublicationSlips (e : FabricEngine) (r : SetRecord) (context : MutationContext) (setId : MultipathSetId)
    (requests : List (MemberRequest × Option PathAuthorityView)) : Prop :=
  r.refuses .memberAdded = false ∧ r.staleSet context = false ∧
    ((r.exhaustedFaults ≠ [] ∧
        (unsupportedRequest r requests ≠ none ∨ duplicateRequest r setId [] (requests.map Prod.fst) ≠ none ∨
          e.roomFaults r (requests.map Prod.fst) ≠ [])) ∨
      (unsupportedRequest r requests = none ∧ duplicateRequest r setId [] (requests.map Prod.fst) ≠ none ∧
        e.roomFaults r (requests.map Prod.fst) ≠ []))

def BatchSlips (e : FabricEngine) (op : Op) (context : MutationContext) (setId : MultipathSetId)
    (requests : List (MemberRequest × Option PathAuthorityView)) : Prop :=
  (requests.map Prod.fst).all MemberRequest.wellFormed = false ∨ e.authorityFaults context setId ≠ [] ∨
    e.contested op = true ∨
    ∃ r, e.sets[setId]? = some r ∧ (r.refuses .memberAdded = true ∨ r.staleSet context = true ∨
      unsupportedRequest r requests ≠ none ∨ r.exhaustedFaults ≠ [])

def replacementExhausted (r : SetRecord) (m : MemberRecord) : Bool :=
  !(r.generation.next.isSome && r.membershipGeneration.next.isSome && m.generation.next.isSome)

def ReplacementSlips (e : FabricEngine) (r : SetRecord) (context : MutationContext) (path : PathId) (m : MemberRecord)
    (request : MemberRequest) (view : Option PathAuthorityView) : Prop :=
  path ≠ request.pathId ∧ r.refuses .memberReplaced = false ∧ r.staleSet context = false ∧
    m.staleMember context = false ∧
    ((replacementExhausted r m = true ∧
        (unsupportedRequest r [(request, view)] ≠ none ∨
          (r.members[request.pathId]?.any fun m => !memberIsTerminal m) = true ∨
          e.replacementRoomFaults r m request.pathId ≠ [])) ∨
      (unsupportedRequest r [(request, view)] = none ∧
        (r.members[request.pathId]?.any fun m => !memberIsTerminal m) = true ∧
        e.replacementRoomFaults r m request.pathId ≠ []))

def Unrequested (e : FabricEngine) (ticket : RevalidationTicket) : Prop :=
  ∃ r path m, e.sets[ticket.setId]? = some r ∧ r.finds ticket.memberId path m ∧ m.pendingRevalidations = 0

def TicketSlips (e : FabricEngine) (context : MutationContext) (ticket : RevalidationTicket) (r : SetRecord)
    (m : MemberRecord) : Prop :=
  if r.invalidationWatermark ≠ ticket.setWatermark ∨ m.invalidationWatermark ≠ ticket.memberWatermark then
    ticket.epoch ≠ e.currentEpoch ∨ m.staleMember context = true ∨ memberIsTerminal m = true ∨
      m.generation.next = none ∨ r.generation.next = none
  else ticket.epoch = e.currentEpoch ∧ m.staleMember context = true ∧ memberIsTerminal m = true

def FindingsSlip (e : FabricEngine) (context : MutationContext) (ticket : RevalidationTicket) : Prop :=
  (ticket.epoch ≠ e.currentEpoch ∧ ∀ r, e.sets[ticket.setId]? = some r → r.memberIndex[ticket.memberId]? = none) ∨
    ∃ r path m, e.sets[ticket.setId]? = some r ∧ r.finds ticket.memberId path m ∧ m.pendingRevalidations ≠ 0 ∧
      e.TicketSlips context ticket r m

/-- When the checks of an operation reject for a stage later than another that its request violates. -/
def Inverted (e : FabricEngine) (op : Op) : Prop :=
  match op with
  | .supersedeSet context predecessor successor =>
      op.formed e.limits = true ∧ e.callerFaults context (e.coversSet predecessor) = [] ∧
        match e.sets[predecessor]? with
        | none => e.outOfScope context (e.coversSet successor) = true ∨ e.contested op = true
        | some r =>
            e.outOfScope context (e.coversSet successor) = false ∧
              if e.sets[successor]?.isNone then e.contested op = true
              else e.contested op = false ∧ r.supersededBy ≠ some successor ∧ r.GenerationFirst context .supersede
  | .addMember context setId request view =>
      op.formed e.limits = true ∧
        (e.Hidden op context setId ∨ ∃ r, e.Enters op context setId r ∧ e.PublicationSlips r context setId [(request, view)])
  | .addMembers context setId requests =>
      setId.valid = true ∧ requests.isEmpty = false ∧
        if requests.length ≤ e.limits.maxBatchSize.toNat then
          (requests.map Prod.fst).all MemberRequest.wellFormed = true ∧
            (e.Hidden op context setId ∨ ∃ r, e.Enters op context setId r ∧ e.PublicationSlips r context setId requests)
        else
          e.BatchSlips op context setId requests
  | .replaceMember context setId memberId request _ view =>
      op.formed e.limits = true ∧
        (e.Hidden op context setId ∨
          (∃ r, e.sets[setId]? = some r ∧ r.memberIndex[memberId]? = some request.pathId ∧
            (e.callerFaults context (e.coversSet setId) ≠ [] ∨ e.contested op = true ∨ r.refuses .memberReplaced = true)) ∨
          ∃ r path m, e.Enters op context setId r ∧ r.finds memberId path m ∧
            e.ReplacementSlips r context path m request view)
  | .revalidateMember context setId memberId looked =>
      (setId.valid && memberId.valid) = true ∧ e.callerFaults context (e.coversSet setId) = [] ∧
        e.contested op = true ∧ (e.sets[setId]? = none ∨ looked = none)
  | .completeMemberRevalidation context ticket _ =>
      (ticket.valid && (ticket.setId.valid && ticket.memberId.valid)) = true ∧
        if e.callerFaults context (e.coversSet ticket.setId) = [] then e.FindingsSlip context ticket
        else
          e.Unrequested ticket ∨
            (context.hasCallerIdentity = true ∧ context.epoch = e.currentEpoch ∧ ticket.epoch ≠ e.currentEpoch)
  | .declarePathAuthority context view =>
      op.formed e.limits = true ∧ e.pathCallerFaults context = [] ∧ e.uncovers context view.path = true ∧
        (e.contested op = true ∨ e.externalPathAuthority = true)
  | .applyPathAuthority context view | .refreshPath context _ (some view) =>
      op.formed e.limits = true ∧ e.pathCallerFaults context = [] ∧ e.uncovers context view.path = true ∧
        e.contested op = true
  | .refreshPath context path none =>
      path.valid = true ∧ (e.pathCallerFaults context ≠ [] ∨ e.uncovers context path = true)
  | op => op.formed e.limits = true ∧ e.Trips op

theorem ordered_formed {valid : Bool} {later : List (List OutcomeCode)} (late : From 1 later.flatten) :
    Ordered rank (faultIf (!valid) .malformedRequest :: later).flatten ↔ (valid = true → Ordered rank later.flatten) := by
  rw [List.flatten_cons, ordered_faultIf_append]
  cases valid <;> simp [ranks, late]

theorem admission_from {faults : SetRecord → List OutcomeCode} (late : ∀ r, From 7 (faults r)) :
    From 1 [e.authorityFaults context setId, e.attemptFault op, e.atSet setId faults].flatten := by
  simp only [List.flatten_cons, List.flatten_nil, from_append, from_nil, and_true]
  exact ⟨(e.authorityFaults_from context setId).mono (by decide), (e.attemptFault_from op).mono (by decide),
    (atSet_from late).mono (by decide)⟩

theorem trips_iff {faults : SetRecord → List OutcomeCode} (late : ∀ r, From 7 (faults r))
    (slips : ∀ r, Ordered rank (faults r) ↔ ¬op.Slips e.limits r) (carries : op.context = some context)
    (names : op.subject = some setId) :
    Ordered rank [e.authorityFaults context setId, e.attemptFault op, e.atSet setId faults].flatten ↔ ¬e.Trips op := by
  rw [ordered_admission late]
  unfold Trips
  rw [carries, names]
  simp only [slips, Option.some.injEq]
  constructor
  · rintro ⟨hhidden, hslips⟩ ⟨_, _, rfl, rfl, hhide | ⟨r, henters, hslip⟩⟩
    · exact hhidden hhide
    · exact hslips r henters hslip
  · intro h
    exact ⟨fun hhidden => h ⟨_, _, rfl, rfl, .inl hhidden⟩,
      fun r henters hslip => h ⟨_, _, rfl, rfl, .inr ⟨r, henters, hslip⟩⟩⟩

theorem single_ordered (e : FabricEngine) (op : Op) {valid : Bool} {faults : SetRecord → List OutcomeCode}
    (carries : op.context = some context) (names : op.subject = some setId) (late : ∀ r, From 7 (faults r))
    (slips : ∀ r, Ordered rank (faults r) ↔ ¬op.Slips e.limits r) :
    Ordered rank [faultIf (!valid) .malformedRequest, e.authorityFaults context setId, e.attemptFault op,
      e.atSet setId faults].flatten ↔ ¬(valid = true ∧ e.Trips op) := by
  rw [ordered_formed (admission_from late), trips_iff late slips carries names]
  exact not_and.symm

theorem double_ordered (e : FabricEngine) (op : Op) {valid bounded : Bool} {faults : SetRecord → List OutcomeCode}
    (carries : op.context = some context) (names : op.subject = some setId) (late : ∀ r, From 7 (faults r))
    (slips : ∀ r, Ordered rank (faults r) ↔ ¬op.Slips e.limits r) :
    Ordered rank [faultIf (!valid) .malformedRequest, faultIf (!bounded) .malformedRequest,
      e.authorityFaults context setId, e.attemptFault op, e.atSet setId faults].flatten ↔
        ¬((valid && bounded) = true ∧ e.Trips op) := by
  have hlater : From 1 [faultIf (!bounded) .malformedRequest, e.authorityFaults context setId, e.attemptFault op,
      e.atSet setId faults].flatten := by
    rw [List.flatten_cons, from_append]
    exact ⟨by simp [ranks], admission_from late⟩
  rw [ordered_formed hlater, single_ordered e op carries names late slips, Bool.and_eq_true]
  tauto

end FabricEngine

theorem generationFirst_ordered (r : SetRecord) (context : MutationContext) (event : SetEvent)
    (setId : MultipathSetId) :
    Ordered rank [r.staleFault context, r.exhaustedFault, r.lifecycleFault event setId].flatten ↔
      ¬r.GenerationFirst context event := by
  simp [SetRecord.staleFault, SetRecord.exhaustedFault, SetRecord.lifecycleFault, SetRecord.GenerationFirst, ranks]
  grind

theorem idle_ordered (r : SetRecord) (context : MutationContext) (event : SetEvent) (setId : MultipathSetId)
    {idle : Prop} [Decidable idle] :
    From 7 [r.staleFault context, r.lifecycleFault event setId, if idle then [] else r.exhaustedFault].flatten ∧
      (Ordered rank [r.staleFault context, r.lifecycleFault event setId,
        if idle then [] else r.exhaustedFault].flatten ↔ ¬(r.staleSet context = true ∧ r.refuses event = true)) := by
  split <;> simp [SetRecord.staleFault, SetRecord.exhaustedFault, SetRecord.lifecycleFault, ranks]

namespace FabricEngine

variable {e : FabricEngine} {op : Op} {context : MutationContext} {setId : MultipathSetId}
  {memberId : MultipathMemberId}

theorem publishSet_ordered :
    Ordered rank (e.violations (.publishSet context setId)) ↔ ¬e.Inverted (.publishSet context setId) := by
  refine single_ordered e (.publishSet context setId) rfl rfl (fun r => ?_) fun r =>
    generationFirst_ordered r context .publish setId
  simp [SetRecord.staleFault, SetRecord.exhaustedFault, SetRecord.lifecycleFault, ranks]

theorem setMinimumUsableMembers_ordered {minimum : UInt64} :
    Ordered rank (e.violations (.setMinimumUsableMembers context setId minimum)) ↔
      ¬e.Inverted (.setMinimumUsableMembers context setId minimum) := by
  refine single_ordered e (.setMinimumUsableMembers context setId minimum) rfl rfl (fun r => ?_) fun r => ?_
  · split <;> simp [SetRecord.staleFault, SetRecord.exhaustedFault, SetRecord.lifecycleFault, ranks]
  · simp only [Op.Slips]
    split <;> simp [SetRecord.staleFault, SetRecord.exhaustedFault, SetRecord.lifecycleFault, ranks] <;> grind

theorem setConditionalAuthorityPolicy_ordered {permitted : Bool} :
    Ordered rank (e.violations (.setConditionalAuthorityPolicy context setId permitted)) ↔
      ¬e.Inverted (.setConditionalAuthorityPolicy context setId permitted) :=
  single_ordered e (.setConditionalAuthorityPolicy context setId permitted) rfl rfl
    (fun r => (idle_ordered r context .policyChanged setId).1) fun r => (idle_ordered r context .policyChanged setId).2

theorem setAdminEnabled_ordered {enabled : Bool} :
    Ordered rank (e.violations (.setAdminEnabled context setId enabled)) ↔
      ¬e.Inverted (.setAdminEnabled context setId enabled) :=
  single_ordered e (.setAdminEnabled context setId enabled) rfl rfl (fun r => (idle_ordered r context _ setId).1)
    fun r => (idle_ordered r context _ setId).2

theorem withdrawSet_ordered {reason : Bytes} :
    Ordered rank (e.violations (.withdrawSet context setId reason)) ↔ ¬e.Inverted (.withdrawSet context setId reason) := by
  refine double_ordered e (.withdrawSet context setId reason) rfl rfl (fun r => ?_) fun r => ?_
  · split <;> simp [SetRecord.staleFault, SetRecord.exhaustedFault, SetRecord.lifecycleFault, ranks]
  · simp only [Op.Slips, SetRecord.GenerationFirst]
    split <;> simp [SetRecord.staleFault, SetRecord.exhaustedFault, SetRecord.lifecycleFault, ranks]
    grind

theorem completeWithdrawal_ordered :
    Ordered rank (e.violations (.completeWithdrawal context setId)) ↔ ¬e.Inverted (.completeWithdrawal context setId) := by
  refine single_ordered e (.completeWithdrawal context setId) rfl rfl (fun r => ?_) fun r => ?_
  · simp [SetRecord.exhaustedFault, SetRecord.lifecycleFault, ranks]
  · simp only [Op.Slips]
    simp [SetRecord.exhaustedFault, SetRecord.lifecycleFault, ranks]
    grind

theorem revokeSet_ordered {reason : RevocationReason} {detail : Bytes} :
    Ordered rank (e.violations (.revokeSet context setId reason detail)) ↔
      ¬e.Inverted (.revokeSet context setId reason detail) := by
  refine double_ordered e (.revokeSet context setId reason detail) rfl rfl (fun r => ?_) fun r => ?_
  · split <;> simp [SetRecord.staleFault, SetRecord.exhaustedFault, SetRecord.lifecycleFault, ranks]
  · simp only [Op.Slips]
    generalize (if r.lifecycle = .revoked then r.revocation else none) = revoked
    cases revoked with
    | none =>
        rw [← generationFirst_ordered r context .revoke setId]
        simp only [List.flatten_cons, List.append_assoc]
    | some revocation =>
        by_cases hstale : r.staleSet context = true <;>
          by_cases hsame : revocation.reason = reason ∧ revocation.detail = detail <;>
          simp [SetRecord.staleFault, hstale, hsame, ranks]

theorem retireSet_ordered {reason : Bytes} :
    Ordered rank (e.violations (.retireSet context setId reason)) ↔ ¬e.Inverted (.retireSet context setId reason) := by
  refine double_ordered e (.retireSet context setId reason) rfl rfl (fun r => ?_) fun r =>
    generationFirst_ordered r context .retire setId
  simp [SetRecord.staleFault, SetRecord.exhaustedFault, SetRecord.lifecycleFault, ranks]

theorem removeMember_ordered {reason : Bytes} :
    Ordered rank (e.violations (.removeMember context setId memberId reason)) ↔
      ¬e.Inverted (.removeMember context setId memberId reason) := by
  refine double_ordered e (.removeMember context setId memberId reason) rfl rfl (fun r => ?_) fun r => ?_
  · rcases atMember_cases r memberId with ⟨path, m, hfinds, hat⟩ | ⟨hnone, hat⟩ <;>
      simp [hat, SetRecord.unknownMember, SetRecord.staleFault, MemberRecord.staleFault, SetRecord.exhaustedFaults,
        SetRecord.lifecycleFault, ranks]
  · rcases atMember_cases r memberId with ⟨path, m, hfinds, hat⟩ | ⟨hnone, hat⟩ <;>
      simp [hat, Op.Slips, SetRecord.unknownMember, SetRecord.staleFault, MemberRecord.staleFault,
        SetRecord.exhaustedFaults, SetRecord.lifecycleFault, ranks]

theorem withdrawMember_ordered {reason : Bytes} :
    Ordered rank (e.violations (.withdrawMember context setId memberId reason)) ↔
      ¬e.Inverted (.withdrawMember context setId memberId reason) := by
  refine double_ordered e (.withdrawMember context setId memberId reason) rfl rfl (fun r => ?_) fun r => ?_
  · rcases atMember_cases r memberId with ⟨path, m, hfinds, hat⟩ | ⟨hnone, hat⟩
    · by_cases hwithdrawn : m.lifecycle = .withdrawn <;>
        simp [hat, hwithdrawn, SetRecord.unknownMember, MemberRecord.staleFault, SetRecord.lifecycleFault, ranks]
    · simp [hat, SetRecord.unknownMember, SetRecord.lifecycleFault, ranks]
  · rcases atMember_cases r memberId with ⟨path, m, hfinds, hat⟩ | ⟨hnone, hat⟩
    · have hindex : r.memberIndex[memberId]?.isNone = false := by rw [hfinds.1]; rfl
      have hslips : (Op.withdrawMember context setId memberId reason).Slips e.limits r ↔ r.refuses .memberRemoved = false ∧
          m.lifecycle ≠ .withdrawn ∧ memberTransition m.lifecycle .withdraw = none ∧
            (m.staleMember context = true ∨ m.generation.next = none ∨ r.generation.next = none ∨
              r.membershipGeneration.next = none) := by
        refine and_congr_right fun _ => ⟨?_, fun h => ⟨path, m, hfinds, h⟩⟩
        rintro ⟨path', m', hfinds', h⟩
        rw [finds_unique hfinds hfinds'] at h
        exact h
      rw [hslips]
      by_cases hwithdrawn : m.lifecycle = .withdrawn <;>
        simp [hat, hwithdrawn, hindex, SetRecord.unknownMember, MemberRecord.staleFault, SetRecord.lifecycleFault, ranks]
      grind
    · simp [hat, Op.Slips, SetRecord.unknownMember, SetRecord.lifecycleFault, ranks, hnone]

theorem setMemberAdminEnabled_ordered {enabled : Bool} {view : Option PathAuthorityView} :
    Ordered rank (e.violations (.setMemberAdminEnabled context setId memberId enabled view)) ↔
      ¬e.Inverted (.setMemberAdminEnabled context setId memberId enabled view) := by
  refine single_ordered e (.setMemberAdminEnabled context setId memberId enabled view) rfl rfl (fun r => ?_) fun r => ?_
  · rcases atMember_cases r memberId with ⟨path, m, hfinds, hat⟩ | ⟨hnone, hat⟩
    · by_cases hsame : m.adminEnabled = enabled <;>
        simp [hat, hsame, SetRecord.unknownMember, MemberRecord.staleFault, MemberRecord.terminalFault, ranks]
    · simp [hat, SetRecord.unknownMember, ranks]
  · rcases atMember_cases r memberId with ⟨path, m, hfinds, hat⟩ | ⟨hnone, hat⟩
    · by_cases hsame : m.adminEnabled = enabled <;>
        simp [hat, hsame, Op.Slips, SetRecord.unknownMember, MemberRecord.staleFault, MemberRecord.terminalFault, ranks]
    · simp [hat, Op.Slips, SetRecord.unknownMember]

theorem revalidateSet_ordered {views : ViewTable} :
    Ordered rank (e.violations (.revalidateSet context setId views)) ↔ ¬e.Inverted (.revalidateSet context setId views) := by
  refine single_ordered e (.revalidateSet context setId views) rfl rfl (fun r => ?_) fun r => ?_
  · split <;> simp [SetRecord.staleFault, SetRecord.exhaustedFault, SetRecord.lifecycleFault, ranks]
  · simp only [Op.Slips]
    split <;> simp [SetRecord.staleFault, SetRecord.exhaustedFault, SetRecord.lifecycleFault, ranks]

theorem createSet_ordered {key : SetKey} {options : SetOptions} :
    Ordered rank (e.violations (.createSet context key options)) := by
  have hlater : From 5 [e.attemptFault (.createSet context key options),
      faultIf (!e.keyIndex[key]?.isNone) .setKeyConflict,
      faultIf (!decide (e.sets.size < e.limits.maxSets.toNat)) .resourceLimit,
      faultIf (!decide (options.minimumUsableMembers ≤ e.limits.maxMembersPerSet)) .invalidThreshold].flatten := by
    simp [attemptFault_eq, ranks]
  unfold violations
  rw [ordered_formed]
  · intro _
    rw [List.flatten_cons, callerFaults_ordered _ _ _ hlater]
    intro _
    simp [attemptFault_eq, ranks]
  · rw [List.flatten_cons, from_append]
    exact ⟨(e.callerFaults_from context _).mono (by decide), hlater.mono (by decide)⟩

theorem supersession_ordered (r : SetRecord) (context : MutationContext) (predecessor successor : MultipathSetId) :
    From 7 [r.staleFault context,
      if r.supersededBy = some successor then []
      else r.exhaustedFault ++ r.lifecycleFault .supersede predecessor].flatten ∧
    (Ordered rank [r.staleFault context,
      if r.supersededBy = some successor then []
      else r.exhaustedFault ++ r.lifecycleFault .supersede predecessor].flatten ↔
        ¬(r.supersededBy ≠ some successor ∧ r.GenerationFirst context .supersede)) := by
  unfold SetRecord.GenerationFirst
  split
  · rename_i hsame
    simp [hsame, SetRecord.staleFault, ranks]
  · rename_i hother
    simp [hother, SetRecord.staleFault, SetRecord.exhaustedFault, SetRecord.lifecycleFault, ranks]
    grind

theorem supersession_admission {predecessor successor : MultipathSetId} {faults : SetRecord → List OutcomeCode}
    (late : ∀ r, From 7 (faults r)) :
    Ordered rank [e.authorityFaults context predecessor,
      faultIf (e.outOfScope context (e.coversSet successor)) .unauthorizedScope, e.unknownSet successor,
      e.attemptFault op, e.atSet predecessor faults].flatten ↔
        (e.callerFaults context (e.coversSet predecessor) = [] →
          match e.sets[predecessor]? with
          | none => e.outOfScope context (e.coversSet successor) = false ∧ e.contested op = false
          | some r =>
              e.outOfScope context (e.coversSet successor) = false →
                if e.sets[successor]?.isNone then e.contested op = false
                else e.contested op = false → Ordered rank (faults r)) := by
  have hset := @atSet_from e predecessor _ _ late
  rw [List.flatten_cons, authorityFaults, List.flatten_cons, List.append_assoc, callerFaults_ordered]
  · refine imp_congr_right fun _ => ?_
    cases hfound : e.sets[predecessor]? with
    | none =>
        simp [unknownSet, atSet, hfound, attemptFault_eq, ranks]
    | some r =>
        have hsix := (late r).mono (show 6 ≤ 7 by decide)
        have hfive := (late r).mono (show 5 ≤ 7 by decide)
        cases hnew : e.sets[successor]?.isNone <;>
          simp [unknownSet, atSet, hfound, hnew, attemptFault_eq, ranks, late, hsix, hfive]
  · simp [unknownSet, attemptFault_eq, ranks, hset.mono (show 5 ≤ 7 by decide)]

theorem supersession_admission_from {predecessor successor : MultipathSetId} {faults : SetRecord → List OutcomeCode}
    (late : ∀ r, From 7 (faults r)) :
    From 1 [e.authorityFaults context predecessor,
      faultIf (e.outOfScope context (e.coversSet successor)) .unauthorizedScope, e.unknownSet successor,
      e.attemptFault op, e.atSet predecessor faults].flatten := by
  have hset := @atSet_from e predecessor _ _ late
  have hauthority := e.authorityFaults_from context predecessor
  simp [unknownSet, attemptFault_eq, ranks, hset.mono (show 1 ≤ 7 by decide), hauthority.mono (show 1 ≤ 2 by decide)]

theorem supersedeSet_ordered {predecessor successor : MultipathSetId} :
    Ordered rank (e.violations (.supersedeSet context predecessor successor)) ↔
      ¬e.Inverted (.supersedeSet context predecessor successor) := by
  have hlate := fun r => (supersession_ordered r context predecessor successor).1
  unfold violations
  rw [ordered_formed, ordered_formed (supersession_admission_from hlate), supersession_admission hlate]
  · simp only [(supersession_ordered _ context predecessor successor).2, Inverted, Op.formed]
    cases e.sets[predecessor]? with
    | none => grind
    | some r => grind
  · rw [List.flatten_cons, from_append]
    exact ⟨by simp [ranks], supersession_admission_from hlate⟩

theorem looked_admission {missing : Bool} {faults : SetRecord → List OutcomeCode} (late : ∀ r, From 7 (faults r))
    (ordered : ∀ r, Ordered rank (faults r)) :
    Ordered rank [e.authorityFaults context setId, faultIf missing .memberNotFound, e.attemptFault op,
      e.atSet setId faults].flatten ↔
        ¬(e.callerFaults context (e.coversSet setId) = [] ∧ e.contested op = true ∧
          (e.sets[setId]? = none ∨ missing = true)) := by
  have hset := @atSet_from e setId _ _ late
  rw [List.flatten_cons, authorityFaults, List.flatten_cons, List.append_assoc, callerFaults_ordered]
  · cases hfound : e.sets[setId]? with
    | none =>
        simp [unknownSet, atSet, hfound, attemptFault_eq, ranks]
    | some r =>
        have hsix := (late r).mono (show 6 ≤ 7 by decide)
        simp [unknownSet, atSet, hfound, attemptFault_eq, ranks, late, hsix, ordered]
        grind
  · simp [unknownSet, attemptFault_eq, ranks, hset.mono (show 5 ≤ 7 by decide)]

theorem looked_admission_from {missing : Bool} {faults : SetRecord → List OutcomeCode} (late : ∀ r, From 7 (faults r)) :
    From 1 [e.authorityFaults context setId, faultIf missing .memberNotFound, e.attemptFault op,
      e.atSet setId faults].flatten := by
  have hset := @atSet_from e setId _ _ late
  have hauthority := e.authorityFaults_from context setId
  simp [attemptFault_eq, ranks, hset.mono (show 1 ≤ 7 by decide), hauthority.mono (show 1 ≤ 2 by decide)]

theorem revalidateMember_ordered {looked : Option (Option PathAuthorityView)} :
    Ordered rank (e.violations (.revalidateMember context setId memberId looked)) ↔
      ¬e.Inverted (.revalidateMember context setId memberId looked) := by
  have hmember : ∀ r : SetRecord, From 7 [r.unknownMember memberId, r.lifecycleFault .membershipRecheck setId,
      r.atMember memberId fun m => m.terminalFault, r.staleFault context,
      r.atMember memberId fun m => [m.staleFault context,
        faultIf (!(m.generation.next.isSome && r.generation.next.isSome)) .generationOverflow].flatten].flatten ∧
    Ordered rank [r.unknownMember memberId, r.lifecycleFault .membershipRecheck setId,
      r.atMember memberId fun m => m.terminalFault, r.staleFault context,
      r.atMember memberId fun m => [m.staleFault context,
        faultIf (!(m.generation.next.isSome && r.generation.next.isSome)) .generationOverflow].flatten].flatten := by
    intro r
    rcases atMember_cases r memberId with ⟨path, m, hfinds, hat⟩ | ⟨hnone, hat⟩ <;>
      simp [hat, SetRecord.unknownMember, SetRecord.staleFault, MemberRecord.staleFault, MemberRecord.terminalFault,
        SetRecord.lifecycleFault, ranks]
  unfold violations
  rw [ordered_formed (looked_admission_from fun r => (hmember r).1),
    looked_admission (fun r => (hmember r).1) fun r => (hmember r).2]
  simp only [Inverted, Option.isNone_iff_eq_none]
  tauto

theorem beginMemberRevalidation_ordered {attempt : RevalidationAttemptId} :
    Ordered rank (e.violations (.beginMemberRevalidation context setId memberId attempt)) := by
  have hmember : ∀ r : SetRecord, From 7 [r.unknownMember memberId,
      r.atMember memberId fun m => [m.terminalFault, faultIf (!decide (m.pendingRevalidations.toNat <
        e.limits.maxPendingRevalidationsPerSet.toNat)) .resourceLimit].flatten].flatten ∧
    Ordered rank [r.unknownMember memberId,
      r.atMember memberId fun m => [m.terminalFault, faultIf (!decide (m.pendingRevalidations.toNat <
        e.limits.maxPendingRevalidationsPerSet.toNat)) .resourceLimit].flatten].flatten := by
    intro r
    rcases atMember_cases r memberId with ⟨path, m, hfinds, hat⟩ | ⟨hnone, hat⟩ <;>
      simp [hat, SetRecord.unknownMember, MemberRecord.terminalFault, ranks]
  have hset := @atSet_from e setId _ _ fun r => (hmember r).1
  have hauthority := e.authorityFaults_from context setId
  unfold violations
  rw [ordered_formed]
  · intro _
    rw [List.flatten_cons, authorityFaults, List.flatten_cons, List.append_assoc, callerFaults_ordered]
    · intro _
      cases hfound : e.sets[setId]? with
      | none => simp [unknownSet, atSet, hfound]
      | some r => simpa [unknownSet, atSet, hfound] using (hmember r).2
    · simpa [unknownSet, ranks] using hset.mono (show 5 ≤ 7 by decide)
  · simpa [hauthority.mono (show 1 ≤ 2 by decide)] using hset.mono (show 1 ≤ 7 by decide)

theorem pathCallerFaults_ordered (e : FabricEngine) (context : MutationContext) {later : List OutcomeCode}
    (late : From 4 later) :
    Ordered rank (e.pathCallerFaults context ++ later) ↔ (e.pathCallerFaults context = [] → Ordered rank later) := by
  have h3 := late.mono (show 3 ≤ 4 by decide)
  have h2 := late.mono (show 2 ≤ 4 by decide)
  simp only [pathCallerFaults, List.flatten_cons, List.flatten_nil, List.append_assoc, List.nil_append,
    List.append_eq_nil_iff, faultIf_eq_nil, ordered_faultIf_append, from_append, from_faultIf]
  simp [ranks, late, h2, h3]

theorem pathCallerFaults_from (e : FabricEngine) (context : MutationContext) :
    From 2 (e.pathCallerFaults context) := by
  simp [pathCallerFaults, ranks]

theorem pathCallerFaults_below (e : FabricEngine) (context : MutationContext) :
    Below 5 (e.pathCallerFaults context) := by
  simp [pathCallerFaults, ranks]

theorem declarePathAuthority_ordered {view : PathAuthorityView} :
    Ordered rank (e.violations (.declarePathAuthority context view)) ↔ ¬e.Inverted (.declarePathAuthority context view) := by
  have hlater : From 4 [e.attemptFault (.declarePathAuthority context view),
      faultIf (!!e.externalPathAuthority) .unsupportedOperation,
      faultIf (e.uncovers context view.path) .unauthorizedScope].flatten := by
    simp [attemptFault_eq, ranks]
  unfold violations
  rw [ordered_formed]
  · rw [List.flatten_cons, pathCallerFaults_ordered _ _ hlater]
    simp [attemptFault_eq, ranks, Inverted, Op.formed]
    grind
  · rw [List.flatten_cons, from_append]
    exact ⟨(e.pathCallerFaults_from context).mono (by decide), hlater.mono (by decide)⟩

theorem application_ordered (e : FabricEngine) (op : Op) (context : MutationContext) {valid : Bool} {path : PathId} :
    Ordered rank [faultIf (!valid) .malformedRequest, e.pathCallerFaults context, e.attemptFault op,
      faultIf (e.uncovers context path) .unauthorizedScope].flatten ↔
        ¬(valid = true ∧ e.pathCallerFaults context = [] ∧ e.uncovers context path = true ∧ e.contested op = true) := by
  have hlater : From 4 [e.attemptFault op, faultIf (e.uncovers context path) .unauthorizedScope].flatten := by
    simp [attemptFault_eq, ranks]
  rw [ordered_formed]
  · rw [List.flatten_cons, pathCallerFaults_ordered _ _ hlater]
    simp [attemptFault_eq, ranks]
    grind
  · rw [List.flatten_cons, from_append]
    exact ⟨(e.pathCallerFaults_from context).mono (by decide), hlater.mono (by decide)⟩

theorem refreshPath_ordered {path : PathId} {view : Option PathAuthorityView} :
    Ordered rank (e.violations (.refreshPath context path view)) ↔ ¬e.Inverted (.refreshPath context path view) := by
  cases view with
  | some view =>
      unfold violations
      rw [ordered_formed, application_ordered]
      · simp only [Inverted, Op.formed, Bool.and_eq_true]
        tauto
      · simp [attemptFault_eq, ranks, (e.pathCallerFaults_from context).mono (show 1 ≤ 2 by decide)]
  | none =>
      unfold violations
      rw [ordered_formed]
      · have hnine := from_iff_nil ((e.pathCallerFaults_below context).trans (show 5 ≤ 9 by decide))
        rw [List.flatten_cons, List.singleton_append, ordered_cons, from_flatten_cons, from_flatten_cons]
        have hrank : rank .pathAuthorityUnknown = 9 := rfl
        rw [hrank, hnine]
        simp [Inverted, ranks]
      · simp [ranks, (e.pathCallerFaults_from context).mono (show 1 ≤ 2 by decide)]

theorem unsupported_at (r : SetRecord) (requests : List (MemberRequest × Option PathAuthorityView)) :
    At 9 (answerFault (unsupportedRequest r requests)) := by
  cases hanswer : unsupportedRequest r requests with
  | none => exact fun _ h => by cases h
  | some outcome =>
      obtain ⟨request, _, hrequest⟩ := List.exists_of_findSome?_eq_some hanswer
      intro code hcode
      rw [answerFault, Option.toList_some, List.map_singleton, List.mem_singleton] at hcode
      rw [hcode]
      dsimp only at hrequest
      split at hrequest
      · cases hrequest
      · cases hrequest
        cases classifyPathAuthority request.2 request.1.authorityGeneration r.conditionalAuthorityPermitted <;> rfl

theorem answerFault_nil {answer : Option FabricOutcome} : answerFault answer = [] ↔ answer = none := by
  cases answer <;> simp [answerFault]

theorem answerFault_eq {answer : Option FabricOutcome} {code : OutcomeCode}
    (h : ∀ outcome, answer = some outcome → outcome.RejectsFor code) :
    answerFault answer = faultIf answer.isSome code := by
  cases answer with
  | none => rfl
  | some outcome =>
      rw [answerFault, Option.toList_some, List.map_singleton, (h outcome rfl).2.1]
      rfl

theorem roomFaults_at (e : FabricEngine) (r : SetRecord) (requests : List MemberRequest) :
    At 10 (e.roomFaults r requests) := by
  rw [roomFaults, answerFault_eq fun _ => dependencyLimit_rejectsFor]
  simp [At, or_imp, forall_and, ranks]

theorem exhaustedFaults_at (r : SetRecord) : At 8 r.exhaustedFaults := by
  simp [SetRecord.exhaustedFaults, At, ranks]

theorem joinFaults_ordered (e : FabricEngine) (r : SetRecord) (context : MutationContext) (setId : MultipathSetId)
    (requests : List (MemberRequest × Option PathAuthorityView)) :
    From 7 (e.joinFaults r context setId requests) ∧
      (Ordered rank (e.joinFaults r context setId requests) ↔ ¬e.PublicationSlips r context setId requests) := by
  unfold joinFaults
  have hunsupported := unsupported_at r requests
  have hroom := e.roomFaults_at r (requests.map Prod.fst)
  have hexhausted := exhaustedFaults_at r
  have hcapacity := @capacity_ordered _ _ _ (duplicateRequest r setId [] (requests.map Prod.fst)).isSome hunsupported
    hroom hexhausted
  rw [answerFault_eq fun _ => duplicateRequest_rejectsFor]
  refine ⟨?_, ?_⟩
  · simp [SetRecord.lifecycleFault, SetRecord.staleFault, ranks, hunsupported.from (show 7 ≤ 9 by decide),
      hroom.from (show 7 ≤ 10 by decide), hexhausted.from (show 7 ≤ 8 by decide)]
  · simp only [List.flatten_cons, List.flatten_nil, List.append_nil, SetRecord.lifecycleFault, SetRecord.staleFault,
      ordered_faultIf_append, from_append, from_faultIf, rank_lifecycleRejection, ranks, hcapacity, PublicationSlips,
      hunsupported.from (show 7 ≤ 9 by decide), hunsupported.from (show 8 ≤ 9 by decide),
      hroom.from (show 7 ≤ 10 by decide), hroom.from (show 8 ≤ 10 by decide),
      hexhausted.from (show 7 ≤ 8 by decide), hexhausted.from (show 8 ≤ 8 by decide), answerFault_nil, Option.isSome_iff_ne_none]
    cases r.refuses .memberAdded <;> cases r.staleSet context <;> simp [answerFault_nil]

theorem joinFaults_from {r : SetRecord} {requests : List (MemberRequest × Option PathAuthorityView)} :
    From 10 (e.joinFaults r context setId requests) ↔ r.refuses .memberAdded = false ∧ r.staleSet context = false ∧
      unsupportedRequest r requests = none ∧ r.exhaustedFaults = [] := by
  have hunsupported := (unsupported_at r requests).below (show 9 < 10 by decide)
  have hroom := (e.roomFaults_at r (requests.map Prod.fst)).from (show 10 ≤ 10 by decide)
  have hexhausted := (exhaustedFaults_at r).below (show 8 < 10 by decide)
  unfold joinFaults
  rw [answerFault_eq fun _ => duplicateRequest_rejectsFor]
  simp [SetRecord.lifecycleFault, SetRecord.staleFault, ranks, from_iff_nil hunsupported, from_iff_nil hexhausted,
    answerFault_nil, hroom]

theorem batch_from {requests : List (MemberRequest × Option PathAuthorityView)} :
    From 10 [faultIf (!(requests.map Prod.fst).all MemberRequest.wellFormed) .malformedRequest,
      e.authorityFaults context setId, e.attemptFault op,
      e.atSet setId fun r => e.joinFaults r context setId requests].flatten ↔
        ¬e.BatchSlips op context setId requests := by
  have hauthority := (e.authorityFaults_below context setId).trans (show 8 ≤ 10 by decide)
  unfold BatchSlips
  rw [attemptFault_eq]
  simp only [from_flatten_cons, from_iff_nil hauthority, from_faultIf, ranks]
  cases hfound : e.sets[setId]? with
  | none => simp [atSet, hfound]
  | some r => simp [atSet, hfound, joinFaults_from]

theorem publication_ordered (e : FabricEngine) (op : Op) (context : MutationContext) (setId : MultipathSetId)
    (requests : List (MemberRequest × Option PathAuthorityView)) (bulk : Bool) :
    Ordered rank (e.publicationFaults op context setId requests bulk) ↔
      ¬(setId.valid = true ∧ requests.isEmpty = false ∧
        if !bulk || decide (requests.length ≤ e.limits.maxBatchSize.toNat) then
          (requests.map Prod.fst).all MemberRequest.wellFormed = true ∧
            (e.Hidden op context setId ∨ ∃ r, e.Enters op context setId r ∧ e.PublicationSlips r context setId requests)
        else e.BatchSlips op context setId requests) := by
  have hrecord := fun r => e.joinFaults_ordered r context setId requests
  have hlast := @admission_from e op context setId _ fun r => (hrecord r).1
  have hlater : From 1 [faultIf (!(requests.map Prod.fst).all MemberRequest.wellFormed) .malformedRequest,
      e.authorityFaults context setId, e.attemptFault op,
      e.atSet setId fun r => e.joinFaults r context setId requests].flatten := by
    rw [List.flatten_cons, from_append]
    exact ⟨by simp [ranks], hlast⟩
  unfold publicationFaults
  rw [ordered_formed, ordered_formed, List.flatten_cons, ordered_faultIf_append, ordered_formed hlast,
    ordered_admission fun r => (hrecord r).1]
  · have hrank : rank .resourceLimit = 10 := rfl
    rw [hrank, batch_from]
    simp only [fun r => (hrecord r).2]
    cases (!bulk || decide (requests.length ≤ e.limits.maxBatchSize.toNat)) <;> simp
  · rw [List.flatten_cons, from_append]
    exact ⟨by simp [ranks], hlater⟩
  · rw [List.flatten_cons, from_append, List.flatten_cons, from_append]
    exact ⟨by simp [ranks], by simp [ranks], hlater⟩

theorem addMember_ordered {request : MemberRequest} {view : Option PathAuthorityView} :
    Ordered rank (e.violations (.addMember context setId request view)) ↔
      ¬e.Inverted (.addMember context setId request view) := by
  unfold violations
  rw [publication_ordered]
  simp [Inverted, Op.formed, MemberRequest.wellFormed]

theorem addMembers_ordered {requests : List (MemberRequest × Option PathAuthorityView)} :
    Ordered rank (e.violations (.addMembers context setId requests)) ↔ ¬e.Inverted (.addMembers context setId requests) := by
  unfold violations
  rw [publication_ordered]
  simp [Inverted]

theorem callerFaults_early (e : FabricEngine) (context : MutationContext) (covers : AuthorityScope → Bool)
    {later : List OutcomeCode} {formed timely : Prop} (identity : From 2 later ↔ formed) (epoch : From 3 later ↔ formed)
    (worker : From 4 later ↔ formed ∧ timely) (scope : From 5 later ↔ formed ∧ timely) :
    Ordered rank (e.callerFaults context covers ++ later) ↔
      (e.callerFaults context covers = [] → Ordered rank later) ∧
        (e.callerFaults context covers ≠ [] →
          formed ∧ (context.hasCallerIdentity = true → context.epoch = e.currentEpoch → timely)) := by
  have hidentity : context.hasCallerIdentity = true ↔ (!context.hasCallerIdentity) = false := by simp
  have hepoch : context.epoch = e.currentEpoch ↔ (!context.epoch == e.currentEpoch) = false := by simp
  rw [hidentity, hepoch]
  simp only [callerFaults, List.flatten_cons, List.flatten_nil, List.append_assoc, List.nil_append,
    List.append_eq_nil_iff, ne_eq, faultIf_eq_nil, ordered_faultIf_append, from_append, from_faultIf, ranks, identity, epoch,
    worker, scope]
  generalize (!context.hasCallerIdentity) = a, (!context.epoch == e.currentEpoch) = b,
    e.fences[(⟨context.publisher, context.workerBoot⟩ : WorkerKey)]?.isSome = c,
    e.registrations[(⟨context.publisher, context.workerBoot⟩ : WorkerKey)]?.isNone = d,
    (!e.registrations[(⟨context.publisher, context.workerBoot⟩ : WorkerKey)]?.all fun registration =>
      registration.epoch == e.currentEpoch) = f, e.outOfScope context covers = g
  cases a with
  | true => simp
  | false =>
      cases b with
      | true => simp
      | false => cases c <;> cases d <;> cases f <;> cases g <;> simp

theorem replacementRoomFaults_at (e : FabricEngine) (r : SetRecord) (m : MemberRecord) (path : PathId) :
    At 10 (e.replacementRoomFaults r m path) := by
  simp [At, replacementRoomFaults, or_imp, forall_and, ranks]

theorem replacementFaults_from {r : SetRecord} {request : MemberRequest} {view : Option PathAuthorityView} {n : ℕ}
    (low : 2 ≤ n) (high : n ≤ 7) :
    From n (e.replacementFaults r context setId memberId request view) ↔
      r.memberIndex[memberId]? ≠ some request.pathId := by
  have hunsupported := (unsupported_at r [(request, view)]).from (show n ≤ 9 by omega)
  have hmalformed : ¬n ≤ 1 := by omega
  have height : n ≤ 8 := by omega
  have heleven : n ≤ 11 := by omega
  unfold replacementFaults
  rcases atMember_cases r memberId with ⟨path, m, hfinds, hat⟩ | ⟨hnone, hat⟩
  · have hroom := (e.replacementRoomFaults_at r m request.pathId).from (show n ≤ 10 by omega)
    simp [hat, SetRecord.lifecycleFault, SetRecord.unknownMember, SetRecord.staleFault, MemberRecord.staleFault, ranks,
      hunsupported, hmalformed, hroom, high, height, heleven]
  · simp [hat, SetRecord.lifecycleFault, SetRecord.unknownMember, SetRecord.staleFault, ranks, hunsupported, hmalformed,
      high, height, heleven]

theorem replacementFaults_formed {r : SetRecord} {request : MemberRequest} {view : Option PathAuthorityView} :
    From 1 (e.replacementFaults r context setId memberId request view) := by
  have hunsupported := (unsupported_at r [(request, view)]).from (show 1 ≤ 9 by decide)
  unfold replacementFaults
  rcases atMember_cases r memberId with ⟨path, m, hfinds, hat⟩ | ⟨hnone, hat⟩
  · have hroom := (e.replacementRoomFaults_at r m request.pathId).from (show 1 ≤ 10 by decide)
    simp [hat, SetRecord.lifecycleFault, SetRecord.unknownMember, SetRecord.staleFault, MemberRecord.staleFault, ranks,
      hunsupported, hroom]
  · simp [hat, SetRecord.lifecycleFault, SetRecord.unknownMember, SetRecord.staleFault, ranks, hunsupported]

theorem replacementFaults_ordered {r : SetRecord} {request : MemberRequest} {view : Option PathAuthorityView} :
    Ordered rank (e.replacementFaults r context setId memberId request view) ↔
      ¬((r.refuses .memberReplaced = true ∧ r.memberIndex[memberId]? = some request.pathId) ∨
        ∃ path m, r.finds memberId path m ∧ e.ReplacementSlips r context path m request view) := by
  have hunsupported := unsupported_at r [(request, view)]
  unfold replacementFaults
  rcases atMember_cases r memberId with ⟨path, m, hfinds, hat⟩ | ⟨hnone, hat⟩
  · have hslips : (∃ path m, r.finds memberId path m ∧ e.ReplacementSlips r context path m request view) ↔
        e.ReplacementSlips r context path m request view := by
      refine ⟨?_, fun h => ⟨path, m, hfinds, h⟩⟩
      rintro ⟨path', m', hfinds', h⟩
      have hpath := hfinds.1.symm.trans hfinds'.1
      cases hpath
      rw [finds_unique hfinds hfinds'] at h
      exact h
    have hexhausted : At 8 (faultIf (replacementExhausted r m) .generationOverflow) := by simp [At, ranks]
    have hroom := e.replacementRoomFaults_at r m request.pathId
    have hcapacity := @capacity_ordered _ _ _ (r.members[request.pathId]?.any fun m => !memberIsTerminal m) hunsupported
      hroom hexhausted
    rw [hslips]
    simp only [hat, hfinds.1, SetRecord.lifecycleFault, SetRecord.unknownMember, SetRecord.staleFault,
      MemberRecord.staleFault, List.flatten_cons, List.flatten_nil, List.append_nil, ordered_faultIf_append, from_append,
      from_faultIf, ranks, rank_lifecycleRejection]
    have hfault : (!(r.generation.next.isSome && r.membershipGeneration.next.isSome && m.generation.next.isSome)) =
        replacementExhausted r m := rfl
    rw [hfault, hcapacity]
    unfold ReplacementSlips
    simp [hunsupported.from (show 7 ≤ 9 by decide), hunsupported.from (show 8 ≤ 9 by decide),
      hunsupported.from (show 1 ≤ 9 by decide), hroom.from (show 7 ≤ 10 by decide), hroom.from (show 8 ≤ 10 by decide),
      hroom.from (show 1 ≤ 10 by decide), answerFault_nil]
    cases r.refuses .memberReplaced <;> cases r.staleSet context <;> cases m.staleMember context <;> simp
  · have hlast : Ordered rank (answerFault (unsupportedRequest r [(request, view)]) ++
        faultIf (r.members[request.pathId]?.any fun m => !memberIsTerminal m) .duplicateMember) := by
      rw [hunsupported.ordered]
      simp [ranks]
    simp [hat, SetRecord.lifecycleFault, SetRecord.unknownMember, SetRecord.staleFault, ranks, hnone, hlast,
      hunsupported.from (show 7 ≤ 9 by decide), hunsupported.from (show 8 ≤ 9 by decide),
      hunsupported.from (show 1 ≤ 9 by decide)]
    grind

theorem early_admission {faults : SetRecord → List OutcomeCode} {early : SetRecord → Prop}
    (gap : ∀ r n, 2 ≤ n → n ≤ 7 → (From n (faults r) ↔ ¬early r)) :
    Ordered rank [e.authorityFaults context setId, e.attemptFault op, e.atSet setId faults].flatten ↔
      ¬(e.Hidden op context setId ∨
        (∃ r, e.sets[setId]? = some r ∧ early r ∧
          (e.callerFaults context (e.coversSet setId) ≠ [] ∨ e.contested op = true)) ∨
        ∃ r, e.Enters op context setId r ∧ ¬Ordered rank (faults r)) := by
  have hlater : ∀ n, 2 ≤ n → n ≤ 6 → (From n (e.unknownSet setId ++ (e.attemptFault op ++ e.atSet setId faults)) ↔
      ∀ r, e.sets[setId]? = some r → ¬early r) := by
    intro n low high
    cases hfound : e.sets[setId]? with
    | none => simp [unknownSet, atSet, hfound, attemptFault_eq, ranks, high, show n ≤ 7 by omega]
    | some r => simp [unknownSet, atSet, hfound, attemptFault_eq, ranks, high, gap r n low (by omega)]
  have hpair : ∀ n, 2 ≤ n → n ≤ 6 → (From n (e.unknownSet setId ++ (e.attemptFault op ++ e.atSet setId faults)) ↔
      (∀ r, e.sets[setId]? = some r → ¬early r) ∧ True) := by
    intro n low high
    rw [hlater n low high, and_true]
  simp only [authorityFaults, List.flatten_cons, List.flatten_nil, List.append_assoc, List.append_nil]
  rw [callerFaults_early e context _ (hlater 2 (by decide) (by decide)) (hlater 3 (by decide) (by decide))
    (hpair 4 (by decide) (by decide)) (hpair 5 (by decide) (by decide))]
  cases hfound : e.sets[setId]? with
  | none =>
      simp [unknownSet, atSet, hfound, attemptFault_eq, ranks, hidden_iff, enters_iff]
  | some r =>
      simp [unknownSet, atSet, hfound, attemptFault_eq, ranks, hidden_iff, enters_iff, gap r 6 (by decide) (by decide)]
      cases e.contested op <;> tauto

theorem replaceMember_ordered {request : MemberRequest} {reason : Bytes} {view : Option PathAuthorityView} :
    Ordered rank (e.violations (.replaceMember context setId memberId request reason view)) ↔
      ¬e.Inverted (.replaceMember context setId memberId request reason view) := by
  have hgap : ∀ (r : SetRecord) (n : ℕ), 2 ≤ n → n ≤ 7 →
      (From n (e.replacementFaults r context setId memberId request view) ↔
        ¬r.memberIndex[memberId]? = some request.pathId) :=
    fun r n low high => replacementFaults_from low high
  have hfrom : From 1 [e.authorityFaults context setId, e.attemptFault (.replaceMember context setId memberId request reason view),
      e.atSet setId fun r => e.replacementFaults r context setId memberId request view].flatten := by
    have hset := @atSet_from e setId 1 _ fun r =>
      @replacementFaults_formed e context setId memberId r request view
    simp [attemptFault_eq, ranks, (e.authorityFaults_from context setId).mono (show 1 ≤ 2 by decide), hset]
  unfold violations
  rw [ordered_formed, ordered_formed hfrom, early_admission hgap]
  · simp only [replacementFaults_ordered, Inverted, Op.formed]
    simp only [enters_iff, Bool.and_eq_true, not_not]
    constructor
    · rintro h ⟨⟨hvalid, hlength⟩, hcase⟩
      refine h hvalid hlength ?_
      rcases hcase with hhidden | ⟨r, hfound, hsame, hcaller | hcontested | hrefuses⟩ | ⟨r, path, m, henters, hfinds, hslips⟩
      · exact .inl hhidden
      · exact .inr (.inl ⟨r, hfound, hsame, .inl hcaller⟩)
      · exact .inr (.inl ⟨r, hfound, hsame, .inr hcontested⟩)
      · by_cases hpassed : e.callerFaults context (e.coversSet setId) = [] ∧
            e.contested (.replaceMember context setId memberId request reason view) = false
        · exact .inr (.inr ⟨r, ⟨hpassed.1, hpassed.2, hfound⟩, .inl ⟨hrefuses, hsame⟩⟩)
        · refine .inr (.inl ⟨r, hfound, hsame, ?_⟩)
          rw [not_and_or, Bool.not_eq_false] at hpassed
          exact hpassed
      · exact .inr (.inr ⟨r, henters, .inr ⟨path, m, hfinds, hslips⟩⟩)
    · intro h hvalid hlength hcase
      refine h ⟨⟨hvalid, hlength⟩, ?_⟩
      rcases hcase with hhidden | ⟨r, hfound, hsame, hcaller | hcontested⟩ |
        ⟨r, henters, ⟨hrefuses, hsame⟩ | ⟨path, m, hfinds, hslips⟩⟩
      · exact .inl hhidden
      · exact .inr (.inl ⟨r, hfound, hsame, .inl hcaller⟩)
      · exact .inr (.inl ⟨r, hfound, hsame, .inr (.inl hcontested)⟩)
      · exact .inr (.inl ⟨r, henters.2.2, hsame, .inr (.inr hrefuses)⟩)
      · exact .inr (.inr ⟨r, path, m, henters, hfinds, hslips⟩)
  · rw [List.flatten_cons, from_append]
    exact ⟨by simp [ranks], hfrom⟩

theorem completionFaults_ordered {ticket : RevalidationTicket} {r : SetRecord} {m : MemberRecord} :
    Ordered rank (e.completionFaults context ticket r m) ↔ ¬e.TicketSlips context ticket r m := by
  unfold completionFaults TicketSlips
  split
  · rename_i hmoved
    simp [hmoved, ticketFault, MemberRecord.staleFault, MemberRecord.terminalFault, ranks]
  · rename_i hstood
    simp [hstood, ticketFault, MemberRecord.staleFault, MemberRecord.terminalFault, ranks]

theorem completionFaults_from {ticket : RevalidationTicket} {r : SetRecord} {m : MemberRecord} {n : ℕ} (high : n ≤ 7) :
    From n (e.completionFaults context ticket r m) ↔ n ≤ 3 ∨ ticket.epoch = e.currentEpoch := by
  simp [completionFaults, ticketFault, MemberRecord.staleFault, MemberRecord.terminalFault, ranks, high,
    show n ≤ 8 by omega, show n ≤ 9 by omega]
  grind

def findings (e : FabricEngine) (context : MutationContext) (ticket : RevalidationTicket) : List OutcomeCode :=
  match e.sets[ticket.setId]? with
  | none => e.ticketFault ticket
  | some r =>
      match r.memberIndex[ticket.memberId]? with
      | none => .memberNotFound :: e.ticketFault ticket
      | some path =>
          (r.members[path]?).elim (e.ticketFault ticket) fun m =>
            [faultIf (!m.pendingRevalidations != 0) .malformedRequest, e.completionFaults context ticket r m].flatten

theorem findings_from {ticket : RevalidationTicket} {n : ℕ} (low : 2 ≤ n) (high : n ≤ 7) :
    From n (e.unknownSet ticket.setId ++ e.findings context ticket) ↔
      ¬e.Unrequested ticket ∧ (n ≤ 3 ∨ ticket.epoch = e.currentEpoch) := by
  have hticket : From n (e.ticketFault ticket) ↔ n ≤ 3 ∨ ticket.epoch = e.currentEpoch := by
    simp [ticketFault, ranks]
    grind
  have hmalformed : ¬n ≤ 1 := by omega
  unfold findings Unrequested unknownSet
  cases hfound : e.sets[ticket.setId]? with
  | none => simp [hticket, ranks, high]
  | some r =>
      cases hpath : r.memberIndex[ticket.memberId]? with
      | none => simp [hticket, ranks, high, hpath, SetRecord.finds]
      | some path =>
          cases hm : r.members[path]? with
          | none => simp [hticket, hpath, hm, SetRecord.finds]
          | some m => simp [completionFaults_from high, hpath, hm, hmalformed, SetRecord.finds, ranks]

theorem findings_formed (e : FabricEngine) (context : MutationContext) (ticket : RevalidationTicket) :
    From 1 (e.findings context ticket) := by
  have hticket : From 1 (e.ticketFault ticket) := by simp [ticketFault, ranks]
  unfold findings
  cases e.sets[ticket.setId]? with
  | none => exact hticket
  | some r =>
      cases hpath : r.memberIndex[ticket.memberId]? with
      | none => simp [hticket, ranks, hpath]
      | some path =>
          cases hm : r.members[path]? with
          | none => simpa [hpath, hm] using hticket
          | some m =>
              have hcompletion : From 1 (e.completionFaults context ticket r m) :=
                (completionFaults_from (by decide)).mpr (.inl (by decide))
              simp [hpath, hm, hcompletion, ranks]

theorem findings_ordered {ticket : RevalidationTicket} :
    Ordered rank (e.unknownSet ticket.setId ++ e.findings context ticket) ↔ ¬e.FindingsSlip context ticket := by
  unfold findings unknownSet FindingsSlip
  cases hfound : e.sets[ticket.setId]? with
  | none => simp [ticketFault, ranks]
  | some r =>
      cases hpath : r.memberIndex[ticket.memberId]? with
      | none =>
          have habsent : ticket.memberId ∉ r.memberIndex := by simpa using hpath
          simp [ticketFault, ranks, habsent, SetRecord.finds]
      | some path =>
          have hknown : ticket.memberId ∈ r.memberIndex := by grind
          cases hm : r.members[path]? with
          | none =>
              simp [ticketFault, hpath, hm, SetRecord.finds]
              exact fun _ => hknown
          | some m =>
              have hformed : From 1 (e.completionFaults context ticket r m) :=
                (completionFaults_from (by decide)).mpr (.inl (by decide))
              simp [hpath, hm, hformed, completionFaults_ordered, SetRecord.finds, ranks]
              exact fun _ _ => hknown

theorem completeMemberRevalidation_ordered {ticket : RevalidationTicket} {current : Option PathAuthorityView} :
    Ordered rank (e.violations (.completeMemberRevalidation context ticket current)) ↔
      ¬e.Inverted (.completeMemberRevalidation context ticket current) := by
  have hviolations : e.violations (.completeMemberRevalidation context ticket current) =
      [faultIf (!ticket.valid) .malformedRequest, faultIf (!(ticket.setId.valid && ticket.memberId.valid)) .malformedRequest,
        e.authorityFaults context ticket.setId, e.findings context ticket].flatten := rfl
  have hearly : ∀ n, 2 ≤ n → n ≤ 3 → (From n (e.unknownSet ticket.setId ++ e.findings context ticket) ↔
      ¬e.Unrequested ticket) := by
    intro n low high
    rw [findings_from low (by omega)]
    simp [high]
  have hlate : ∀ n, 4 ≤ n → n ≤ 5 → (From n (e.unknownSet ticket.setId ++ e.findings context ticket) ↔
      ¬e.Unrequested ticket ∧ ticket.epoch = e.currentEpoch) := by
    intro n low high
    rw [findings_from (by omega) (by omega)]
    simp [show ¬n ≤ 3 by omega]
  have hfrom : From 1 [e.authorityFaults context ticket.setId, e.findings context ticket].flatten := by
    simp [(e.authorityFaults_from context ticket.setId).mono (show 1 ≤ 2 by decide), e.findings_formed context ticket]
  rw [hviolations, ordered_formed, ordered_formed hfrom, List.flatten_cons, authorityFaults, List.flatten_cons,
    List.flatten_cons, List.flatten_nil, List.flatten_cons, List.flatten_nil, List.append_nil, List.append_nil,
    List.append_assoc, callerFaults_early e context _ (hearly 2 (by decide) (by decide))
      (hearly 3 (by decide) (by decide)) (hlate 4 (by decide) (by decide)) (hlate 5 (by decide) (by decide)),
    findings_ordered]
  · simp only [Inverted, Bool.and_eq_true]
    split <;> tauto
  · rw [List.flatten_cons, from_append]
    exact ⟨by simp [ranks], hfrom⟩

theorem violations_ordered (carries : op.context.isSome = true) :
    Ordered rank (e.violations op) ↔ ¬e.Inverted op := by
  cases op with
  | createSet context key options =>
      refine iff_of_true createSet_ordered ?_
      rintro ⟨_, _, setId, _, hsubject, _⟩
      cases hsubject
  | publishSet => exact publishSet_ordered
  | setMinimumUsableMembers => exact setMinimumUsableMembers_ordered
  | setConditionalAuthorityPolicy => exact setConditionalAuthorityPolicy_ordered
  | setAdminEnabled => exact setAdminEnabled_ordered
  | withdrawSet => exact withdrawSet_ordered
  | completeWithdrawal => exact completeWithdrawal_ordered
  | revokeSet => exact revokeSet_ordered
  | retireSet => exact retireSet_ordered
  | supersedeSet => exact supersedeSet_ordered
  | addMember => exact addMember_ordered
  | addMembers => exact addMembers_ordered
  | removeMember => exact removeMember_ordered
  | withdrawMember => exact withdrawMember_ordered
  | replaceMember => exact replaceMember_ordered
  | setMemberAdminEnabled => exact setMemberAdminEnabled_ordered
  | revalidateSet => exact revalidateSet_ordered
  | revalidateMember => exact revalidateMember_ordered
  | beginMemberRevalidation =>
      refine iff_of_true beginMemberRevalidation_ordered ?_
      rintro ⟨hformed, _⟩
      cases hformed
  | completeMemberRevalidation => exact completeMemberRevalidation_ordered
  | declarePathAuthority => exact declarePathAuthority_ordered
  | applyPathAuthority context view =>
      unfold violations
      exact application_ordered e (.applyPathAuthority context view) context
  | refreshPath => exact refreshPath_ordered
  | registerPublisher | unregisterPublisher | fenceWorker | advanceEpoch | abandonMemberRevalidation | reconcilePath |
    bindPathAuthority | loadStore => cases carries

/-- A rejection carries the earliest violated stage, unless the checks of its operation invert the order. -/
theorem rejection_order {config : FabricConfig} (run : Reachable config e) (carries : op.context.isSome = true)
    (rejected : (e.exec op).2.succeeded = false) : e.EarliestStage op (e.exec op).2 ↔ ¬e.Inverted op := by
  rcases verdict_of_run run carries with ⟨hsucceeded, _⟩ | hsettles
  · rw [rejected] at hsucceeded
    cases hsucceeded
  · rw [earliestStage_iff hsettles rejected]
    exact violations_ordered carries

end FabricEngine

def misplaced : Op := .publishSet (sampleContext "a1") (sampleId "elsewhere")

theorem rejection_order_sample :
    (sampleRun (sampleSteps.take 2)).EarliestStage misplaced ((sampleRun (sampleSteps.take 2)).exec misplaced).2 ↔
      ¬(sampleRun (sampleSteps.take 2)).Inverted misplaced :=
  FabricEngine.rejection_order (sampleRun_reachable _) rfl (by decide +kernel)

/-- The set is found missing before the attempt is looked at. -/
theorem rejection_order_fails :
    ¬∀ (config : FabricConfig) (e : FabricEngine) (op : Op), Reachable config e → op.context.isSome = true →
      (e.exec op).2.succeeded = false → e.EarliestStage op (e.exec op).2 := by
  intro h
  have hearliest := h sampleConfig _ misplaced (sampleRun_reachable (sampleSteps.take 2)) rfl (by decide +kernel)
  have hviolated : OutcomeCode.attemptConflict ∈ (sampleRun (sampleSteps.take 2)).violations misplaced := by
    decide +kernel
  exact absurd (hearliest.2 _ hviolated) (by decide +kernel)

end MultipathFabric
