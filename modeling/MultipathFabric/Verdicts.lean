import MultipathFabric.Checks
import MultipathFabric.Atomicity

namespace MultipathFabric

open OrderedMap Precedence

namespace FabricOutcome

def RejectsFor (outcome : FabricOutcome) (code : OutcomeCode) : Prop :=
  outcome.succeeded = false ∧ outcome.code = code ∧ outcome.stage = stageOf code

theorem RejectsFor.own {outcome : FabricOutcome} {code : OutcomeCode} (h : outcome.RejectsFor code) :
    outcome.RejectsFor outcome.code := by
  rw [h.2.1]
  exact h

def Settles (outcome : FabricOutcome) (faults : List OutcomeCode) : Prop :=
  (outcome.succeeded = true ∧ faults = []) ∨ ∃ fault, faults.head? = some fault ∧ outcome.RejectsFor fault

variable {outcome : FabricOutcome} {violated : Bool} {code : OutcomeCode} {later : List (List OutcomeCode)}

theorem Settles.fault (h : violated = true) (rejects : outcome.RejectsFor code) :
    outcome.Settles (faultIf violated code :: later).flatten := by
  rw [h]
  exact .inr ⟨code, rfl, rejects⟩

theorem Settles.skip (h : outcome.Settles later.flatten) : outcome.Settles (faultIf false code :: later).flatten := h

end FabricOutcome

theorem makeRejection_rejectsFor {code : OutcomeCode} {detail : Bytes} (h : outcomeIsSuccess code = false) :
    (makeRejection code detail).RejectsFor code := by
  refine ⟨h, rfl, ?_⟩
  change (if outcomeIsSuccess code then RejectionStage.none else stageOf code) = stageOf code
  rw [h]
  rfl

theorem lifecycleRejection_rejectsFor (lifecycle : SetLifecycle) (setId : MultipathSetId) :
    (lifecycleRejection lifecycle setId).RejectsFor (lifecycleRejection lifecycle setId).code := by
  cases lifecycle <;> exact ⟨rfl, rfl, rfl⟩

theorem currentnessRejection_rejectsFor (currentness : MemberCurrentness) (path : PathId) :
    (currentnessRejection currentness path).RejectsFor (currentnessRejection currentness path).code := by
  cases currentness <;> exact ⟨rfl, rfl, rfl⟩

namespace Checked

abbrev Clears {α : Type} (known : FabricOutcome → Prop) (x : Checked α) (faults : List OutcomeCode) : Prop :=
  Checks known FabricOutcome.RejectsFor x faults

abbrev Concludes {α : Type} (known : FabricOutcome → Prop) (outcome : α → FabricOutcome) (x : Checked α)
    (faults : List OutcomeCode) : Prop :=
  Judged known FabricOutcome.RejectsFor (fun result faults => (outcome result).Settles faults) x faults

variable {α : Type} {known : FabricOutcome → Prop} {code : OutcomeCode} {detail : Bytes}

theorem present_some (a : α) (rejection : FabricOutcome) : present (some a) rejection = .ok a := rfl

theorem blames_fault {rejection : FabricOutcome} {later : List OutcomeCode} (h : rejection.RejectsFor code) :
    Blames known FabricOutcome.RejectsFor rejection (code :: later) :=
  .inr ⟨code, rfl, h⟩

theorem clears_require {condition : Bool} {rejection : FabricOutcome} (h : rejection.RejectsFor code) :
    Clears known (require condition rejection) (faultIf (!condition) code) := by
  cases condition with
  | true => exact .ok rfl
  | false => exact .error (blames_fault h)

theorem clears_present {x : Option α} {rejection : FabricOutcome} (h : rejection.RejectsFor code) :
    Clears known (present x rejection) (faultIf x.isNone code) := by
  cases x with
  | none => exact .error (blames_fault h)
  | some a => exact .ok rfl

theorem clears_unlessSome {x : Option α} {rejection : α → FabricOutcome} (h : ∀ a, (rejection a).RejectsFor code) :
    Clears known (unlessAnswered (x.map rejection)) (faultIf x.isSome code) := by
  cases x with
  | none => exact .ok rfl
  | some a => exact .error (blames_fault (h a))

theorem clears_unlessAnswered {answer : Option FabricOutcome}
    (h : ∀ outcome, answer = some outcome → outcome.RejectsFor outcome.code) :
    Clears known (unlessAnswered answer) (answerFault answer) := by
  cases answer with
  | none => exact .ok rfl
  | some outcome => exact .error (blames_fault (h outcome rfl))

theorem clears_first {c : Prop} [Decidable c] {violated : Bool} {rejection : FabricOutcome}
    {answer : Option FabricOutcome} {later : List OutcomeCode} (same : violated = true ↔ c)
    (h : rejection.RejectsFor code) (rest : Clears known (unlessAnswered answer) later) :
    Clears known (unlessAnswered (if c then some rejection else answer)) (faultIf violated code ++ later) := by
  cases violated with
  | true =>
      rw [if_pos (same.mp rfl)]
      exact .error (blames_fault h)
  | false =>
      rw [if_neg fun hc => Bool.false_ne_true (same.mpr hc)]
      exact rest

theorem clears_differs {β : Type} [DecidableEq β] {a b : β} {rejection : FabricOutcome}
    (h : rejection.RejectsFor code) :
    Clears known (require (a != b) rejection) (faultIf (decide (some a = some b)) code) := by
  by_cases hab : a = b
  · rw [hab, bne_self_eq_false, decide_eq_true rfl]
    exact .error (blames_fault h)
  · rw [bne_iff_ne.mpr hab, decide_eq_false (by simpa using hab)]
    exact .ok rfl

theorem clears_unlessLive {x : Option α} {f : α → Bool} {rejection : α → FabricOutcome}
    (h : ∀ a, (rejection a).RejectsFor code) :
    Clears known (unlessAnswered ((x.filter f).map rejection)) (faultIf (x.any f) code) := by
  have hsome : (x.filter f).isSome = x.any f := by
    cases x with
    | none => rfl
    | some a => cases hf : f a <;> simp [Option.filter, hf]
  rw [← hsome]
  exact clears_unlessSome h

end Checked

open Checked

variable {known : FabricOutcome → Prop}

theorem SetRecord.transition_clears (r : SetRecord) (event : SetEvent) (setId : MultipathSetId) :
    Clears known (r.transition event setId) (r.lifecycleFault event setId) := by
  have hreject : Clears known (.error (lifecycleRejection r.lifecycle setId) : Checked SetRecord)
      [(lifecycleRejection r.lifecycle setId).code] :=
    .error (blames_fault (lifecycleRejection_rejectsFor _ _))
  unfold SetRecord.transition SetRecord.applyTransition SetRecord.lifecycleFault SetRecord.refuses transitionAllowed
  cases setTransition r.lifecycle event with
  | reject => exact hreject
  | _ => exact .ok rfl

theorem SetRecord.lifecycle_clears (r : SetRecord) (event : SetEvent) (setId : MultipathSetId) :
    Clears known (Checked.require (transitionAllowed r.lifecycle event) (lifecycleRejection r.lifecycle setId))
      (r.lifecycleFault event setId) :=
  clears_require (lifecycleRejection_rejectsFor _ _)

theorem SetRecord.transition_of_allowed {r : SetRecord} {event : SetEvent} (setId : MultipathSetId)
    (h : transitionAllowed r.lifecycle event = true) : ∃ x, r.transition event setId = .ok x := by
  have hclears : Clears (fun _ => False) (r.transition event setId) (r.lifecycleFault event setId) :=
    r.transition_clears event setId
  cases hmoved : r.transition event setId with
  | ok x => exact ⟨x, rfl⟩
  | error outcome =>
      obtain hfalse | ⟨fault, hfault, _⟩ := hclears.fails outcome hmoved
      · cases hfalse
      · rw [SetRecord.lifecycleFault, SetRecord.refuses, h] at hfault
        cases hfault

theorem expectedSetGenerationMatches_clears (context : MutationContext) (r : SetRecord) :
    Clears known (expectedSetGenerationMatches context r) (r.staleFault context) := by
  unfold expectedSetGenerationMatches SetRecord.staleFault SetRecord.staleSet
  cases context.expectedSetGeneration with
  | none => exact .ok rfl
  | some expected => exact clears_require (makeRejection_rejectsFor rfl)

theorem expectedMemberGenerationMatches_clears (context : MutationContext) (m : MemberRecord) :
    Clears known (expectedMemberGenerationMatches context m) (m.staleFault context) := by
  unfold expectedMemberGenerationMatches MemberRecord.staleFault MemberRecord.staleMember
  cases context.expectedMemberGeneration with
  | none => exact .ok rfl
  | some expected => exact clears_require (makeRejection_rejectsFor rfl)

theorem MemberRecord.live_clears (m : MemberRecord) {rejection : FabricOutcome}
    (h : rejection.RejectsFor .invalidLifecycleTransition) :
    Clears known (Checked.require (!memberIsTerminal m) rejection) m.terminalFault := by
  have hclears : Clears known (Checked.require (!memberIsTerminal m) rejection)
      (faultIf (!!memberIsTerminal m) .invalidLifecycleTransition) := clears_require h
  rw [Bool.not_not] at hclears
  exact hclears

theorem unsupportedRequest_clears (r : SetRecord) (requests : List (MemberRequest × Option PathAuthorityView)) :
    Clears known (Checked.unlessAnswered (unsupportedRequest r requests)) (answerFault (unsupportedRequest r requests)) := by
  refine clears_unlessAnswered fun outcome h => ?_
  obtain ⟨request, _, hrequest⟩ := List.exists_of_findSome?_eq_some h
  dsimp only at hrequest
  split at hrequest
  · cases hrequest
  · cases hrequest
    exact currentnessRejection_rejectsFor _ _

theorem duplicateRequest_rejectsFor {r : SetRecord} {setId : MultipathSetId} {requests : List MemberRequest}
    {seen : List PathId} {outcome : FabricOutcome} (h : duplicateRequest r setId seen requests = some outcome) :
    outcome.RejectsFor .duplicateMember := by
  induction requests generalizing seen with
  | nil => cases h
  | cons request rest ih =>
      unfold duplicateRequest at h
      split at h
      · cases h
        exact makeRejection_rejectsFor rfl
      · split at h
        · exact ih h
        · split at h
          · exact ih h
          · cases h
            exact makeRejection_rejectsFor rfl

theorem SetRecord.atMember_found {r : SetRecord} {memberId : MultipathMemberId} {path : PathId} {m : MemberRecord}
    {faults : MemberRecord → List OutcomeCode} (found : r.finds memberId path m) :
    r.atMember memberId faults = faults m := by
  unfold SetRecord.atMember
  rw [found.1]
  dsimp only
  rw [found.2]
  rfl

namespace FabricEngine

variable {e : FabricEngine} {setId : MultipathSetId} {context : MutationContext} {r : SetRecord}

theorem dependencyLimit_rejectsFor {requests : List MemberRequest} {outcome : FabricOutcome}
    (h : e.dependencyLimit r requests = some outcome) : outcome.RejectsFor .resourceLimit := by
  obtain ⟨request, _, hrequest⟩ := List.exists_of_findSome?_eq_some h
  split at hrequest
  · cases hrequest
  · split at hrequest
    · cases hrequest
      exact makeRejection_rejectsFor rfl
    · cases hrequest

theorem uncoveredDependent_rejectsFor {scope : AuthorityScope} {path : PathId} {outcome : FabricOutcome}
    (h : e.uncoveredDependent scope path = some outcome) : outcome.RejectsFor .unauthorizedScope := by
  unfold uncoveredDependent at h
  split at h
  · cases h
  · obtain ⟨dependent, _, hdependent⟩ := List.exists_of_findSome?_eq_some h
    split at hdependent
    · cases hdependent
    · split at hdependent
      · cases hdependent
      · cases hdependent
        exact makeRejection_rejectsFor rfl

theorem attemptCheck_rejectsFor {operation : Bytes} {fields : List Bytes} {outcome : FabricOutcome}
    (h : e.attemptCheck context operation fields = some outcome) (rejected : outcome.succeeded = false) :
    outcome.RejectsFor .attemptConflict := by
  unfold attemptCheck at h
  split at h
  · cases h
  · split at h
    · cases h
      exact makeRejection_rejectsFor rfl
    · split at h
      · cases h
        cases rejected
      · cases h
        exact makeRejection_rejectsFor rfl

def Replayed (e : FabricEngine) (op : Op) (outcome : FabricOutcome) : Prop :=
  outcome.succeeded = true ∧ ∃ q, op.request = some q ∧ e.attemptCheck q.context q.operation q.fields = some outcome

theorem attemptCheck_clears (e : FabricEngine) {op : Op} {operation : Bytes} {fields : List Bytes}
    (request : op.request = some ⟨context, operation, fields⟩) :
    Clears (e.Replayed op) (Checked.unlessAnswered (e.attemptCheck context operation fields)) (e.attemptFault op) := by
  unfold attemptFault conflicts
  rw [request]
  change Clears _ _ (faultIf (Option.any _ _) _)
  cases hknown : e.attemptCheck context operation fields with
  | none => exact .ok rfl
  | some outcome =>
      cases hrejected : outcome.succeeded with
      | true => exact .error (.inl ⟨hrejected, _, request, hknown⟩)
      | false =>
          rw [Option.any_some, hrejected]
          exact .error (blames_fault (attemptCheck_rejectsFor hknown hrejected))

theorem authorityCheck_clears (e : FabricEngine) (context : MutationContext) (setId : MultipathSetId) :
    Clears known (e.authorityCheck context none (some setId)) (e.authorityFaults context setId) := by
  unfold authorityCheck authorityFaults callerFaults outOfScope unknownSet coversSet
  simp only [List.flatten_cons, List.flatten_nil, List.append_assoc, List.append_nil]
  refine .bind_append (clears_require (makeRejection_rejectsFor rfl)) fun _ _ =>
    .bind_append (clears_require (makeRejection_rejectsFor rfl)) fun _ _ =>
    .bind_append (clears_unlessSome fun _ => makeRejection_rejectsFor rfl) fun _ _ =>
    .bind_append (clears_present (makeRejection_rejectsFor rfl)) fun registration hregistration => ?_
  rw [Checked.present_ok.mp hregistration]
  refine .bind_append (clears_require (makeRejection_rejectsFor rfl)) fun _ _ => ?_
  simp only [present_some, ok_bind]
  cases hfound : e.sets[setId]? with
  | none =>
      exact .bind_append (clears_require (makeRejection_rejectsFor rfl)) fun _ _ =>
        .error (blames_fault (makeRejection_rejectsFor rfl))
  | some r =>
      rw [show faultIf (some r).isNone OutcomeCode.setNotFound = [] from rfl, List.append_nil]
      exact clears_require (makeRejection_rejectsFor rfl)

theorem creation_clears (e : FabricEngine) (context : MutationContext) (key : SetKey) :
    Clears known (e.authorityCheck context (some key) none)
      (e.callerFaults context fun scope => scope.coversNamespace key.fabric key.nameSpace) := by
  unfold authorityCheck callerFaults outOfScope
  simp only [List.flatten_cons, List.flatten_nil, List.append_nil]
  refine .bind_append (clears_require (makeRejection_rejectsFor rfl)) fun _ _ =>
    .bind_append (clears_require (makeRejection_rejectsFor rfl)) fun _ _ =>
    .bind_append (clears_unlessSome fun _ => makeRejection_rejectsFor rfl) fun _ _ =>
    .bind_append (clears_present (makeRejection_rejectsFor rfl)) fun registration hregistration => ?_
  rw [Checked.present_ok.mp hregistration]
  exact .bind_append (clears_require (makeRejection_rejectsFor rfl)) fun _ _ =>
    clears_require (makeRejection_rejectsFor rfl)

theorem pathCallerCheck_clears (e : FabricEngine) (context : MutationContext) :
    Clears known (e.pathCallerCheck context) (e.pathCallerFaults context) := by
  unfold pathCallerCheck pathCallerFaults
  simp only [List.flatten_cons, List.flatten_nil, List.append_nil]
  refine .bind_append (clears_require (makeRejection_rejectsFor rfl)) fun _ _ =>
    .bind_append (clears_require (makeRejection_rejectsFor rfl)) fun _ _ =>
    .bind_append (clears_require (makeRejection_rejectsFor rfl)) fun _ _ => ?_
  have hpresent : ∀ (x : Option PublisherRegistration) (f : PublisherRegistration → Bool),
      (x.filter f).isNone = !x.any f := by
    intro x f
    cases x with
    | none => rfl
    | some a => cases h : f a <;> simp [Option.filter, h]
  rw [← hpresent]
  exact clears_present (makeRejection_rejectsFor rfl)

theorem authorityCheck_passed {u : Unit} (h : e.authorityCheck context none (some setId) = .ok u) :
    e.authorityFaults context setId = [] := by
  have hclears : Clears (fun _ => False) (e.authorityCheck context none (some setId)) (e.authorityFaults context setId) :=
    authorityCheck_clears e context setId
  exact hclears.passes u h

theorem authorityFaults_second {u : Unit} (h : e.authorityCheck context none (some setId) = .ok u)
    (other : MultipathSetId) :
    e.authorityFaults context other =
      [faultIf (e.outOfScope context (e.coversSet other)) .unauthorizedScope, e.unknownSet other].flatten := by
  have hfaults := authorityCheck_passed h
  simp only [authorityFaults, callerFaults, List.flatten_cons, List.append_eq_nil_iff] at hfaults
  obtain ⟨⟨hidentity, hepoch, hfence, hknown, hcurrent, _⟩, _⟩ := hfaults
  simp only [authorityFaults, callerFaults, List.flatten_cons, List.flatten_nil, hidentity, hepoch, hfence, hknown,
    hcurrent, List.nil_append, List.append_nil]

theorem authorityCheck_knows {u : Unit} (h : e.authorityCheck context none (some setId) = .ok u) :
    ∃ r, e.sets[setId]? = some r := by
  have hfaults := authorityCheck_passed h
  simp only [authorityFaults, List.flatten_cons, List.append_eq_nil_iff] at hfaults
  have hset := hfaults.2.1
  rw [unknownSet, faultIf_eq_nil] at hset
  cases hfound : e.sets[setId]? with
  | none =>
      rw [hfound] at hset
      cases hset
  | some r => exact ⟨r, rfl⟩

theorem requireSet_found (found : e.sets[setId]? = some r) : e.requireSet setId = .ok r := by
  unfold requireSet
  rw [found]
  rfl

theorem atSet_found {faults : SetRecord → List OutcomeCode} (found : e.sets[setId]? = some r) :
    e.atSet setId faults = faults r := by
  unfold atSet
  rw [found]
  rfl

theorem admission_concludes {α : Type} {answer : α → FabricOutcome} {f : SetRecord → Checked α}
    {faults : SetRecord → List OutcomeCode} {op : Op} {operation : Bytes} {fields : List Bytes}
    (request : op.request = some ⟨context, operation, fields⟩)
    (h : ∀ r, e.sets[setId]? = some r → Concludes (e.Replayed op) answer (f r) (faults r)) :
    Concludes (e.Replayed op) answer (e.admission context operation fields setId >>= f)
      [e.authorityFaults context setId, e.attemptFault op, e.atSet setId faults].flatten := by
  unfold admission
  simp only [bind_assoc]
  refine .bind (authorityCheck_clears e context setId) fun _ hcaller => .bind (attemptCheck_clears e request)
    fun _ _ => .last ?_
  obtain ⟨r, hfound⟩ := authorityCheck_knows hcaller
  rw [requireSet_found hfound, atSet_found hfound]
  exact h r hfound

theorem commit_settles (e : FabricEngine) {op : Op} {x : SetRecord} {base : FabricEngine} {operation : Bytes}
    {fields : List Bytes} {spec : CommitSpec} {outcome : FabricOutcome}
    (edit : RecordEdit e setId r op x spec.summary) (plain : op.views = false)
    (advances : spec.advanceSetGeneration = true) (next : r.generation.next.isSome = true)
    (membership : spec.advanceMembershipGeneration = true → r.membershipGeneration.next.isSome = true)
    (accepted : outcome.succeeded = true) :
    (base.commitLocked setId x context operation fields spec outcome).2.Settles [] :=
  .inl ⟨Answer.commitLocked_outcome (fun answer => answer.succeeded = true) ⟨context, operation, fields⟩ edit plain
    advances next membership fun _ => accepted, rfl⟩

theorem idle_concludes {α : Type} {answer : α → FabricOutcome} {a b c : α} {x : SetRecord} {idle : Prop}
    [Decidable idle] (generation : x.generation = r.generation) (idles : (answer a).succeeded = true)
    (exhausted : answer b = generationExhausted setId)
    (commits : ¬idle → r.generation.next.isSome = true → (answer c).Settles []) :
    Concludes known answer (if idle then pure a else if x.generation.next.isNone then pure b else pure c)
      [if idle then [] else r.exhaustedFault].flatten := by
  split
  · exact .ok (.inl ⟨idles, rfl⟩)
  · rename_i hchanges
    rw [generation, SetRecord.exhaustedFault]
    cases hnext : r.generation.next with
    | none =>
        refine .ok (.fault rfl ?_)
        rw [exhausted]
        exact makeRejection_rejectsFor rfl
    | some next => exact .ok (.skip (commits hchanges (by rw [hnext]; rfl)))

theorem conclude_blames {run : Checked (FabricEngine × FabricOutcome)} {faults : List OutcomeCode}
    (h : Concludes known Prod.snd run faults) :
    known (conclude e run).2 ∨ (conclude e run).2.Settles faults := by
  cases run with
  | ok result => exact .inr (h.passes result rfl)
  | error outcome => exact (h.fails outcome rfl).imp_right .inr

theorem concludeLocked_blames {run : Checked LockedResult} {faults : List OutcomeCode}
    (h : Concludes known LockedResult.outcome run faults) :
    known (concludeLocked e run).outcome ∨ (concludeLocked e run).outcome.Settles faults := by
  cases run with
  | ok result => exact .inr (h.passes result rfl)
  | error outcome => exact (h.fails outcome rfl).imp_right .inr

def Verdict (e : FabricEngine) (op : Op) (outcome : FabricOutcome) : Prop :=
  e.Replayed op outcome ∨ outcome.Settles (e.violations op)

theorem createSet_verdict (e : FabricEngine) (context : MutationContext) (key : SetKey) (options : SetOptions) :
    e.Verdict (.createSet context key options) (e.createSet context key options).2 := by
  refine conclude_blames ?_
  exact .bind (clears_require (makeRejection_rejectsFor rfl)) fun _ _ => .bind (creation_clears e context key) fun _ _ =>
    .bind (attemptCheck_clears e rfl) fun _ _ => .bind (clears_require (makeRejection_rejectsFor rfl)) fun _ _ =>
    .bind (clears_require (makeRejection_rejectsFor rfl)) fun _ _ =>
    .bind (clears_require (makeRejection_rejectsFor rfl)) fun _ _ => .ok (.inl ⟨rfl, rfl⟩)

theorem publishSet_verdict (e : FabricEngine) (context : MutationContext) (setId : MultipathSetId) :
    e.Verdict (.publishSet context setId) (e.publishSet context setId).2 := by
  refine conclude_blames ?_
  refine .bind (clears_require (makeRejection_rejectsFor rfl)) fun _ _ => admission_concludes rfl fun r found => ?_
  refine .bind (expectedSetGenerationMatches_clears context r) fun _ _ =>
    .bind (clears_require (makeRejection_rejectsFor rfl)) fun _ hnext =>
    .bind (r.transition_clears .publish setId) fun x hmoved => .ok ?_
  exact commit_settles e (.publish context (SetRecord.transition_ok hmoved)) rfl rfl (Checked.require_ok.mp hnext)
    (fun h => by cases h) rfl

theorem setMinimumUsableMembers_verdict (e : FabricEngine) (context : MutationContext) (setId : MultipathSetId)
    (minimum : UInt64) :
    e.Verdict (.setMinimumUsableMembers context setId minimum)
      (e.setMinimumUsableMembers context setId minimum).2 := by
  refine conclude_blames ?_
  refine .bind (clears_require (makeRejection_rejectsFor rfl)) fun _ _ => admission_concludes rfl fun r found => ?_
  refine .bind (expectedSetGenerationMatches_clears context r) fun _ _ =>
    .bind (r.transition_clears .minimumChanged setId) fun x hmoved => ?_
  have hmove := SetRecord.transition_ok hmoved
  obtain ⟨hminimum, _, _, hgeneration⟩ := transition_settings hmove
  rw [← hminimum]
  split
  · rename_i hbound
    exact .ok (.fault (decide_eq_true hbound) (makeRejection_rejectsFor rfl))
  · rename_i hbound
    rw [decide_eq_false hbound]
    exact idle_concludes hgeneration rfl rfl fun _ hnext =>
      commit_settles e (.minimumChanged context minimum hmove (UInt64.not_lt.mp hbound)) rfl rfl hnext (fun h => by cases h) rfl

theorem setConditionalAuthorityPolicy_verdict (e : FabricEngine) (context : MutationContext)
    (setId : MultipathSetId) (permitted : Bool) :
    e.Verdict (.setConditionalAuthorityPolicy context setId permitted)
      (e.setConditionalAuthorityPolicy context setId permitted).2 := by
  refine conclude_blames ?_
  refine .bind (clears_require (makeRejection_rejectsFor rfl)) fun _ _ => admission_concludes rfl fun r found => ?_
  refine .bind (expectedSetGenerationMatches_clears context r) fun _ _ =>
    .bind (r.transition_clears .policyChanged setId) fun x hmoved => ?_
  have hmove := SetRecord.transition_ok hmoved
  obtain ⟨_, hpermitted, _, hgeneration⟩ := transition_settings hmove
  rw [← hpermitted]
  exact idle_concludes hgeneration rfl rfl fun _ hnext =>
    commit_settles e (.policyChanged context permitted hmove) rfl rfl hnext (fun h => by cases h) rfl

theorem setAdminEnabled_verdict (e : FabricEngine) (context : MutationContext) (setId : MultipathSetId)
    (enabled : Bool) :
    e.Verdict (.setAdminEnabled context setId enabled) (e.setAdminEnabled context setId enabled).2 := by
  refine conclude_blames ?_
  refine .bind (clears_require (makeRejection_rejectsFor rfl)) fun _ _ => admission_concludes rfl fun r found => ?_
  refine .bind (expectedSetGenerationMatches_clears context r) fun _ _ =>
    .bind (r.transition_clears (if enabled then .adminEnabled else .adminDisabled) setId) fun x hmoved => ?_
  have hmove := SetRecord.transition_ok hmoved
  obtain ⟨_, _, henabled, hgeneration⟩ := transition_settings hmove
  rw [← henabled]
  exact idle_concludes hgeneration rfl rfl fun _ hnext =>
    commit_settles e (.adminChanged context enabled hmove) rfl rfl hnext (fun h => by cases h) rfl

theorem withdrawSet_verdict (e : FabricEngine) (context : MutationContext) (setId : MultipathSetId)
    (reason : Bytes) :
    e.Verdict (.withdrawSet context setId reason) (e.withdrawSet context setId reason).2 := by
  refine conclude_blames ?_
  refine .bind (clears_require (makeRejection_rejectsFor rfl)) fun _ _ =>
    .bind (clears_require (makeRejection_rejectsFor rfl)) fun _ hbound => admission_concludes rfl fun r found => ?_
  refine .bind (expectedSetGenerationMatches_clears context r) fun _ _ => .last ?_
  split
  · split
    · rename_i hsame
      rw [decide_eq_false (not_not.mpr hsame)]
      exact .ok (.inl ⟨rfl, rfl⟩)
    · rename_i hother
      rw [decide_eq_true hother]
      exact .error (blames_fault (makeRejection_rejectsFor rfl))
  · refine .bind_append (clears_require (makeRejection_rejectsFor rfl)) fun _ hnext => ?_
    rw [← List.append_nil (r.lifecycleFault _ _)]
    refine .bind_append (r.transition_clears .beginWithdraw setId) fun x hmoved => .ok ?_
    exact commit_settles e
      (.withdraw context reason (of_decide_eq_true (Checked.require_ok.mp hbound)) (SetRecord.transition_ok hmoved)) rfl
      rfl (Checked.require_ok.mp hnext) (fun h => by cases h) rfl

theorem completeWithdrawal_verdict (e : FabricEngine) (context : MutationContext) (setId : MultipathSetId) :
    e.Verdict (.completeWithdrawal context setId) (e.completeWithdrawal context setId).2 := by
  refine conclude_blames ?_
  refine .bind (clears_require (makeRejection_rejectsFor rfl)) fun _ _ => admission_concludes rfl fun r found => ?_
  refine .bind (clears_require (makeRejection_rejectsFor rfl)) fun _ hnext =>
    .bind (r.transition_clears .completeWithdraw setId) fun x hmoved => .ok ?_
  exact commit_settles e (.completeWithdrawal context (SetRecord.transition_ok hmoved)) rfl rfl
    (Checked.require_ok.mp hnext) (fun h => by cases h) rfl

theorem revokeSet_verdict (e : FabricEngine) (context : MutationContext) (setId : MultipathSetId)
    (reason : RevocationReason) (detail : Bytes) :
    e.Verdict (.revokeSet context setId reason detail) (e.revokeSet context setId reason detail).2 := by
  refine conclude_blames ?_
  refine .bind (clears_require (makeRejection_rejectsFor rfl)) fun _ _ =>
    .bind (clears_require (makeRejection_rejectsFor rfl)) fun _ hbound => admission_concludes rfl fun r found => ?_
  refine .bind (expectedSetGenerationMatches_clears context r) fun _ _ => .last ?_
  cases (if r.lifecycle = .revoked then r.revocation else none : Option RevocationRecord) with
  | some revocation =>
      dsimp only
      split
      · rename_i hsame
        rw [decide_eq_true hsame]
        exact .ok (.inl ⟨rfl, rfl⟩)
      · rename_i hother
        rw [decide_eq_false hother]
        exact .error (blames_fault (makeRejection_rejectsFor rfl))
  | none =>
      dsimp only
      rw [SetRecord.exhaustedFault, Option.not_isSome, ← List.append_nil (r.lifecycleFault _ _)]
      refine .bind_append (clears_present (makeRejection_rejectsFor rfl)) fun generation hnext =>
        .bind_append (r.transition_clears .revoke setId) fun x hmoved => .ok ?_
      rw [Checked.present_ok] at hnext
      refine commit_settles e
        (.revoke context reason detail (of_decide_eq_true (Checked.require_ok.mp hbound)) hnext
          (SetRecord.transition_ok hmoved)) rfl rfl ?_ (fun h => by cases h) rfl
      rw [hnext]
      rfl

theorem retireSet_verdict (e : FabricEngine) (context : MutationContext) (setId : MultipathSetId) (reason : Bytes) :
    e.Verdict (.retireSet context setId reason) (e.retireSet context setId reason).2 := by
  refine conclude_blames ?_
  refine .bind (clears_require (makeRejection_rejectsFor rfl)) fun _ _ =>
    .bind (clears_require (makeRejection_rejectsFor rfl)) fun _ hbound => admission_concludes rfl fun r found => ?_
  refine .bind (expectedSetGenerationMatches_clears context r) fun _ _ =>
    .bind (clears_require (makeRejection_rejectsFor rfl)) fun _ hnext =>
    .bind (r.transition_clears .retire setId) fun x hmoved => .ok ?_
  exact commit_settles e
    (.retire context reason (of_decide_eq_true (Checked.require_ok.mp hbound)) (SetRecord.transition_ok hmoved)) rfl rfl
    (Checked.require_ok.mp hnext) (fun h => by cases h) rfl

theorem supersedeSet_verdict (e : FabricEngine) (context : MutationContext) (predecessor successor : MultipathSetId) :
    e.Verdict (.supersedeSet context predecessor successor) (e.supersedeSet context predecessor successor).2 := by
  refine conclude_blames ?_
  refine .bind (clears_require (makeRejection_rejectsFor rfl)) fun _ hvalid =>
    .bind (clears_require (makeRejection_rejectsFor rfl)) fun _ _ =>
    .bind (authorityCheck_clears e context predecessor) fun _ hpredecessor => ?_
  have hsecond : ∀ later : List (List OutcomeCode),
      (faultIf (e.outOfScope context (e.coversSet successor)) .unauthorizedScope :: e.unknownSet successor ::
        later).flatten = (e.authorityFaults context successor :: later).flatten := by
    intro later
    simp only [authorityFaults_second hpredecessor, List.flatten_cons, List.flatten_nil, List.append_nil,
      List.append_assoc]
  rw [hsecond]
  refine .bind (authorityCheck_clears e context successor) fun _ hsuccessor =>
    .bind (attemptCheck_clears e rfl) fun _ _ => .last ?_
  obtain ⟨old, hold⟩ := authorityCheck_knows hpredecessor
  obtain ⟨new, hnew⟩ := authorityCheck_knows hsuccessor
  rw [requireSet_found hold, requireSet_found hnew, atSet_found hold, ok_bind, ok_bind]
  refine .bind (expectedSetGenerationMatches_clears context old) fun _ _ => .last ?_
  split
  · exact .ok (.inl ⟨rfl, rfl⟩)
  · refine .bind_append (clears_require (makeRejection_rejectsFor rfl)) fun _ hnext => ?_
    rw [← List.append_nil (old.lifecycleFault _ _)]
    refine .bind_append (old.transition_clears .supersede predecessor) fun x hmoved => .ok ?_
    rw [Checked.require_ok, Bool.and_eq_true] at hvalid
    have hedit : RecordEdit e predecessor old (.supersedeSet context predecessor successor) _ _ :=
      .superseded context successor hvalid.2 (SetRecord.transition_ok hmoved)
    split
    · exact commit_settles e hedit rfl rfl (Checked.require_ok.mp hnext) (fun h => by cases h) rfl
    · exact commit_settles e hedit rfl rfl (Checked.require_ok.mp hnext) (fun h => by cases h) rfl

theorem removeMember_verdict (indexed : ∀ r, e.sets[setId]? = some r → r.Found) (context : MutationContext)
    (memberId : MultipathMemberId) (reason : Bytes) :
    e.Verdict (.removeMember context setId memberId reason) (e.removeMember context setId memberId reason).2 := by
  refine conclude_blames ?_
  refine .bind (clears_require (makeRejection_rejectsFor rfl)) fun _ _ =>
    .bind (clears_require (makeRejection_rejectsFor rfl)) fun _ hbound => admission_concludes rfl fun r found => ?_
  refine .bind (clears_present (makeRejection_rejectsFor rfl)) fun path hpath =>
    .bind (r.lifecycle_clears .memberRemoved setId) fun _ hallowed => ?_
  rw [Checked.present_ok] at hpath
  obtain ⟨m, hm, _⟩ := indexed r found memberId path hpath
  rw [hm, SetRecord.atMember_found ⟨hpath, hm⟩, present_some, ok_bind]
  refine .bind (expectedSetGenerationMatches_clears context r) fun _ _ =>
    .bind (expectedMemberGenerationMatches_clears context m) fun _ _ =>
    .bind (clears_require (makeRejection_rejectsFor rfl)) fun _ hnext => ?_
  rw [Checked.require_ok] at hallowed hnext
  rw [Bool.and_eq_true] at hnext
  obtain ⟨x, hmoved⟩ := SetRecord.transition_of_allowed setId hallowed
  rw [hmoved, ok_bind]
  exact .ok (commit_settles e
    (.removed context memberId reason (of_decide_eq_true (Checked.require_ok.mp hbound)) ⟨hpath, hm⟩ hallowed
      (SetRecord.transition_ok hmoved)) rfl rfl hnext.1 (fun _ => hnext.2) rfl)

theorem withdrawMember_verdict (indexed : ∀ r, e.sets[setId]? = some r → r.Found) (context : MutationContext)
    (memberId : MultipathMemberId) (reason : Bytes) :
    e.Verdict (.withdrawMember context setId memberId reason)
      (e.withdrawMember context setId memberId reason).2 := by
  refine conclude_blames ?_
  refine .bind (clears_require (makeRejection_rejectsFor rfl)) fun _ _ =>
    .bind (clears_require (makeRejection_rejectsFor rfl)) fun _ hbound => admission_concludes rfl fun r found => ?_
  refine .bind (clears_present (makeRejection_rejectsFor rfl)) fun path hpath =>
    .bind (r.lifecycle_clears .memberRemoved setId) fun _ hallowed => .last ?_
  rw [Checked.present_ok] at hpath
  obtain ⟨m, hm, _⟩ := indexed r found memberId path hpath
  rw [hm, SetRecord.atMember_found ⟨hpath, hm⟩, present_some, ok_bind]
  split
  · exact .ok (.inl ⟨rfl, rfl⟩)
  · refine .bind (expectedMemberGenerationMatches_clears context m) fun _ _ =>
      .bind (clears_require (makeRejection_rejectsFor rfl)) fun _ hnext =>
      .bind (clears_present (makeRejection_rejectsFor rfl)) fun lifecycle hends => ?_
    rw [Checked.require_ok] at hallowed hnext
    rw [Bool.and_eq_true, Bool.and_eq_true] at hnext
    obtain ⟨x, hmoved⟩ := SetRecord.transition_of_allowed setId hallowed
    rw [hmoved, ok_bind]
    exact .ok (commit_settles e
      (.withdrewMember context memberId reason (of_decide_eq_true (Checked.require_ok.mp hbound)) ⟨hpath, hm⟩ hallowed
        (Checked.present_ok.mp hends) (SetRecord.transition_ok hmoved)) rfl rfl hnext.1.2 (fun _ => hnext.2) rfl)

theorem replaceMember_verdict (indexed : ∀ r, e.sets[setId]? = some r → r.Found) (context : MutationContext)
    (memberId : MultipathMemberId) (request : MemberRequest) (reason : Bytes) (view : Option PathAuthorityView) :
    e.Verdict (.replaceMember context setId memberId request reason view)
      (e.replaceMemberLocked context setId memberId request reason view).2 := by
  refine conclude_blames ?_
  refine .bind (clears_require (makeRejection_rejectsFor rfl)) fun _ hvalid =>
    .bind (clears_require (makeRejection_rejectsFor rfl)) fun _ hbound => admission_concludes rfl fun r found => ?_
  unfold replacementFaults
  refine .bind (r.lifecycle_clears .memberReplaced setId) fun _ hallowed =>
    .bind (clears_present (makeRejection_rejectsFor rfl)) fun path hpath => ?_
  rw [Checked.present_ok] at hpath
  obtain ⟨m, hm, _⟩ := indexed r found memberId path hpath
  simp only [SetRecord.atMember_found ⟨hpath, hm⟩]
  rw [hpath, hm]
  refine .bind (Checked.clears_differs (makeRejection_rejectsFor rfl)) fun _ hother =>
    .bind (expectedSetGenerationMatches_clears context r) fun _ _ => ?_
  rw [present_some, ok_bind]
  refine .bind (expectedMemberGenerationMatches_clears context m) fun _ _ =>
    .bind (unsupportedRequest_clears r [(request, view)]) fun _ hsupported =>
    .bind (clears_unlessLive fun _ => makeRejection_rejectsFor rfl) fun _ hfree => .last ?_
  rw [replacementRoomFaults, flatten_flatten_cons, List.cons_append, List.cons_append, List.cons_append]
  refine .bind (clears_require (makeRejection_rejectsFor rfl)) fun _ _ =>
    .bind (clears_require (makeRejection_rejectsFor rfl)) fun _ _ =>
    .bind (clears_require (makeRejection_rejectsFor rfl)) fun _ _ =>
    .bind (clears_require (makeRejection_rejectsFor rfl)) fun _ hnext => ?_
  simp only [Checked.require_ok, Bool.and_eq_true, bne_iff_ne, decide_eq_true_eq, Checked.unlessAnswered_ok,
    Option.map_eq_none_iff] at hvalid hbound hallowed hother hsupported hfree hnext
  obtain ⟨x, hmoved⟩ := SetRecord.transition_of_allowed setId hallowed
  rw [hmoved, ok_bind]
  exact .ok (commit_settles e
    (.replaced context memberId request reason view hvalid.1.1.2 ⟨hvalid.1.2, hvalid.2⟩ hbound ⟨hpath, hm⟩ hother hallowed
      hsupported hfree (SetRecord.transition_ok hmoved)) rfl rfl hnext.1.1 (fun _ => hnext.1.2) rfl)

theorem setMemberAdminEnabled_verdict (indexed : ∀ r, e.sets[setId]? = some r → r.Found)
    (context : MutationContext) (memberId : MultipathMemberId) (enabled : Bool) (view : Option PathAuthorityView) :
    e.Verdict (.setMemberAdminEnabled context setId memberId enabled view)
      (e.setMemberAdminEnabledLocked context setId memberId enabled view).2 := by
  refine conclude_blames ?_
  refine .bind (clears_require (makeRejection_rejectsFor rfl)) fun _ _ => admission_concludes rfl fun r found => ?_
  refine .bind (clears_present (makeRejection_rejectsFor rfl)) fun path hpath => .last ?_
  rw [Checked.present_ok] at hpath
  obtain ⟨m, hm, _⟩ := indexed r found memberId path hpath
  rw [hm, SetRecord.atMember_found ⟨hpath, hm⟩, present_some, ok_bind]
  refine .bind (m.live_clears (makeRejection_rejectsFor rfl)) fun _ hlive =>
    .bind (expectedMemberGenerationMatches_clears context m) fun _ _ => .last ?_
  rw [Checked.require_ok, Bool.not_eq_true'] at hlive
  split
  · exact .ok (.inl ⟨rfl, rfl⟩)
  · rename_i hchanges
    rw [← List.append_nil (faultIf _ _)]
    refine .bind_append (clears_require (makeRejection_rejectsFor rfl)) fun _ hnext => ?_
    rw [Checked.require_ok, Bool.and_eq_true] at hnext
    exact .ok (commit_settles e (.toggled context memberId enabled view ⟨hpath, hm⟩ hlive hchanges) rfl rfl hnext.2
      (fun h => by cases h) rfl)

theorem revalidateSet_verdict (e : FabricEngine) (context : MutationContext) (setId : MultipathSetId)
    (views : ViewTable) :
    e.Verdict (.revalidateSet context setId views) (e.revalidateSetLocked context setId views).outcome := by
  refine concludeLocked_blames ?_
  refine .bind (clears_require (makeRejection_rejectsFor rfl)) fun _ _ => admission_concludes rfl fun r found => ?_
  refine .bind (r.lifecycle_clears .revalidateSet setId) fun _ hallowed =>
    .bind (expectedSetGenerationMatches_clears context r) fun _ _ => ?_
  have hedit : RecordEdit e setId r (.revalidateSet context setId views) (e.revalidatedSet r views) _ :=
    .revalidatedSet context views (Checked.require_ok.mp hallowed)
  refine idle_concludes (hedit.generation rfl) rfl rfl fun _ hnext => commit_settles e hedit rfl rfl hnext (fun h => by cases h) ?_
  cases r.revalidationComplete views <;> rfl

theorem revalidateMember_verdict (indexed : ∀ r, e.sets[setId]? = some r → r.Found) (context : MutationContext)
    (memberId : MultipathMemberId) (looked : Option (Option PathAuthorityView)) :
    e.Verdict (.revalidateMember context setId memberId looked)
      (e.revalidateMemberLocked context setId memberId looked).outcome := by
  refine concludeLocked_blames ?_
  refine .bind (clears_require (makeRejection_rejectsFor rfl)) fun _ _ =>
    .bind (authorityCheck_clears e context setId) fun u hcaller =>
    .bind (clears_present (makeRejection_rejectsFor rfl)) fun view hlooked => ?_
  rw [admission, hcaller, ok_bind, bind_assoc]
  refine .bind (attemptCheck_clears e rfl) fun _ _ => .last ?_
  obtain ⟨r, hfound⟩ := authorityCheck_knows hcaller
  rw [requireSet_found hfound, atSet_found hfound, ok_bind]
  refine .bind (clears_present (makeRejection_rejectsFor rfl)) fun path hpath =>
    .bind (r.lifecycle_clears .membershipRecheck setId) fun _ hallowed => ?_
  rw [Checked.present_ok] at hpath hlooked
  obtain ⟨m, hm, _⟩ := indexed r hfound memberId path hpath
  simp only [SetRecord.atMember_found ⟨hpath, hm⟩]
  rw [hm, present_some, ok_bind]
  refine .bind (m.live_clears (makeRejection_rejectsFor rfl)) fun _ hlive =>
    .bind (expectedSetGenerationMatches_clears context r) fun _ _ => .last ?_
  refine .bind (expectedMemberGenerationMatches_clears context m) fun _ _ =>
    .bind (clears_require (makeRejection_rejectsFor rfl)) fun _ hnext => ?_
  simp only [Checked.require_ok, Bool.and_eq_true, Bool.not_eq_true'] at hallowed hlive hnext
  rw [hlooked]
  split
  · refine .ok (commit_settles e (.revalidatedMember context memberId view ⟨hpath, hm⟩ hallowed hlive) rfl rfl hnext.2
      (fun h => by cases h) ?_)
    cases memberInputsUsable (m.revalidated r.conditionalAuthorityPermitted view) <;> rfl
  · refine .ok (.inl ⟨?_, rfl⟩)
    cases memberInputsUsable (m.revalidated r.conditionalAuthorityPermitted view) <;> rfl

theorem begin_blames {run : Checked (FabricEngine × FabricOutcome × Option RevalidationTicket)}
    {faults : List OutcomeCode} (h : Concludes known (fun result => result.2.1) run faults) :
    known (match run with | .ok result => result | .error rejection => (e, rejection, none)).2.1 ∨
      (match run with | .ok result => result | .error rejection => (e, rejection, none)).2.1.Settles faults := by
  cases run with
  | ok result => exact .inr (h.passes result rfl)
  | error outcome => exact (h.fails outcome rfl).imp_right .inr

theorem beginMemberRevalidation_verdict (indexed : ∀ r, e.sets[setId]? = some r → r.Found)
    (context : MutationContext) (memberId : MultipathMemberId) (attempt : RevalidationAttemptId) :
    e.Verdict (.beginMemberRevalidation context setId memberId attempt)
      (e.beginMemberRevalidation context setId memberId attempt).2.1 := by
  refine begin_blames ?_
  refine .bind (clears_require (makeRejection_rejectsFor rfl)) fun _ _ =>
    .bind (authorityCheck_clears e context setId) fun _ hcaller => .last ?_
  obtain ⟨r, hfound⟩ := authorityCheck_knows hcaller
  rw [requireSet_found hfound, atSet_found hfound, ok_bind]
  refine .bind (clears_present (makeRejection_rejectsFor rfl)) fun path hpath => .last ?_
  rw [Checked.present_ok] at hpath
  obtain ⟨m, hm, _⟩ := indexed r hfound memberId path hpath
  rw [hm, SetRecord.atMember_found ⟨hpath, hm⟩, present_some, ok_bind]
  exact .bind (m.live_clears (makeRejection_rejectsFor rfl)) fun _ _ =>
    .bind (clears_require (makeRejection_rejectsFor rfl)) fun _ _ => .ok (.inl ⟨rfl, rfl⟩)

theorem staleCompletion_clears (e : FabricEngine) (context : MutationContext) (ticket : RevalidationTicket)
    (r : SetRecord) (m : MemberRecord) :
    Clears known (Checked.unlessAnswered (staleCompletion e context ticket r m))
      (e.completionFaults context ticket r m) := by
  unfold staleCompletion completionFaults ticketFault MemberRecord.terminalFault
  refine clears_first decide_eq_true_iff (makeRejection_rejectsFor rfl)
    (clears_first decide_eq_true_iff (makeRejection_rejectsFor rfl) ?_)
  rw [List.flatten_cons]
  have hexpected : Clears known (expectedMemberGenerationMatches context m) (m.staleFault context) :=
    expectedMemberGenerationMatches_clears context m
  cases hmember : expectedMemberGenerationMatches context m with
  | error rejection =>
      refine .error ?_
      rcases hexpected.fails rejection hmember with hknown | ⟨fault, hhead, hrejects⟩
      · exact .inl hknown
      · refine .inr ⟨fault, ?_, hrejects⟩
        rw [List.head?_append, hhead]
        rfl
  | ok =>
      rw [hexpected.passes _ hmember]
      exact clears_first Iff.rfl (makeRejection_rejectsFor rfl)
        (clears_first Iff.rfl (makeRejection_rejectsFor rfl) (.ok rfl))

theorem completionFaults_nil {ticket : RevalidationTicket} {m : MemberRecord}
    (h : e.completionFaults context ticket r m = []) :
    m.generation.next.isSome = true ∧ r.generation.next.isSome = true := by
  simp only [completionFaults, List.flatten_cons, List.append_eq_nil_iff, faultIf_eq_nil, Bool.or_eq_false_iff,
    Option.isNone_eq_false_iff] at h
  exact h.2.2.2.2.1

theorem completeMemberRevalidation_verdict (context : MutationContext) (ticket : RevalidationTicket)
    (indexed : ∀ r, e.sets[ticket.setId]? = some r → r.Found) (current : Option PathAuthorityView) :
    e.Verdict (.completeMemberRevalidation context ticket current)
      (e.completeMemberRevalidation context ticket current).2 := by
  refine conclude_blames ?_
  refine .bind (clears_require (makeRejection_rejectsFor rfl)) fun _ _ =>
    .bind (clears_require (makeRejection_rejectsFor rfl)) fun _ _ =>
    .bind (authorityCheck_clears e context ticket.setId) fun _ hcaller => .last ?_
  obtain ⟨r, hfound⟩ := authorityCheck_knows hcaller
  rw [requireSet_found hfound, ok_bind]
  simp only [hfound]
  cases hpath : r.memberIndex[ticket.memberId]? with
  | none => exact .error (blames_fault (makeRejection_rejectsFor rfl))
  | some path =>
      obtain ⟨m, hm, _⟩ := indexed r hfound ticket.memberId path hpath
      simp only [hm, present_some, ok_bind]
      refine .bind (clears_require (makeRejection_rejectsFor rfl)) fun _ hpending => .last ?_
      have hclears : Clears (fun _ => False) (Checked.unlessAnswered (staleCompletion e context ticket r m)) _ :=
        staleCompletion_clears e context ticket r m
      cases hstale : staleCompletion e context ticket r m with
      | some rejection =>
          rw [hstale] at hclears
          exact .ok (.inr ((hclears.fails rejection rfl).resolve_left id))
      | none =>
          rw [hstale] at hclears
          rw [hclears.passes _ rfl]
          rw [Checked.require_ok, bne_iff_ne] at hpending
          have hedit : RecordEdit e ticket.setId r (.completeMemberRevalidation context ticket current) _ _ :=
            .completed context ticket current rfl ⟨hpath, hm⟩ hpending hstale
          have hnext := (completionFaults_nil (hclears.passes _ rfl)).2
          dsimp only
          split
          · refine .ok (commit_settles e hedit rfl rfl hnext (fun h => by cases h) ?_)
            cases memberInputsUsable (m.revalidated r.conditionalAuthorityPermitted current).release <;> rfl
          · refine .ok (.inl ⟨?_, rfl⟩)
            cases memberInputsUsable (m.revalidated r.conditionalAuthorityPermitted current).release <;> rfl

theorem pathCallerCheck_registered {registration : PublisherRegistration}
    (h : e.pathCallerCheck context = .ok registration) :
    e.registrations[(⟨context.publisher, context.workerBoot⟩ : WorkerKey)]? = some registration := by
  unfold pathCallerCheck at h
  simp only [Checked.bind_ok, Checked.present_ok, Option.filter_eq_some_iff] at h
  obtain ⟨_, _, _, _, _, _, hfound, _⟩ := h
  exact hfound

theorem uncovered_clears {registration : PublisherRegistration} {path : PathId}
    (registered : e.pathCallerCheck context = .ok registration) :
    Clears known (Checked.unlessAnswered (e.uncoveredDependent registration.scope path))
      (faultIf (e.uncovers context path) .unauthorizedScope) := by
  unfold uncovers outOfScope
  rw [pathCallerCheck_registered registered, Option.all_some]
  dsimp only
  cases huncovered : e.uncoveredDependent registration.scope path with
  | none => exact .ok rfl
  | some outcome => exact .error (blames_fault (uncoveredDependent_rejectsFor huncovered))

theorem declarePathAuthority_verdict (e : FabricEngine) (context : MutationContext) (view : PathAuthorityView) :
    e.Verdict (.declarePathAuthority context view) (e.declarePathAuthority context view).2 := by
  refine conclude_blames ?_
  refine .bind (clears_require (makeRejection_rejectsFor rfl)) fun _ _ =>
    .bind (pathCallerCheck_clears e context) fun registration hregistered =>
    .bind (attemptCheck_clears e rfl) fun _ _ => .bind (clears_require (makeRejection_rejectsFor rfl)) fun _ _ =>
    .bind (uncovered_clears hregistered) fun _ _ => .ok (.inl ⟨?_, rfl⟩)
  change outcomeIsSuccess (ite _ _ _) = true
  split <;> rfl

theorem applyPathAuthority_concludes (op : Op) (e : FabricEngine) (context : MutationContext) (view : PathAuthorityView)
    (request : op.request = some (.view context (text "apply_path_authority") view)) :
    e.Replayed op (e.applyPathAuthority context view).2 ∨
      (e.applyPathAuthority context view).2.Settles
        [faultIf (!(view.path.valid && view.generation.valid)) .malformedRequest, e.pathCallerFaults context,
          e.attemptFault op, faultIf (e.uncovers context view.path) .unauthorizedScope].flatten := by
  refine conclude_blames ?_
  exact .bind (clears_require (makeRejection_rejectsFor rfl)) fun _ _ =>
    .bind (pathCallerCheck_clears e context) fun registration hregistered =>
    .bind (attemptCheck_clears e request) fun _ _ =>
    .bind (uncovered_clears hregistered) fun _ _ => .ok (.inl ⟨rfl, rfl⟩)

theorem refreshPath_verdict (e : FabricEngine) (context : MutationContext) (path : PathId)
    (view : Option PathAuthorityView) :
    e.Verdict (.refreshPath context path view) (e.refreshPathLocked context path view).2 := by
  unfold Verdict refreshPathLocked
  split
  · rename_i hinvalid
    cases view <;> exact .inr (.fault hinvalid (makeRejection_rejectsFor rfl))
  · rename_i hvalid
    rw [Bool.not_eq_true, Bool.not_eq_false'] at hvalid
    cases view with
    | none =>
        rw [violations, hvalid]
        exact .inr (.skip (.inr ⟨_, rfl, makeRejection_rejectsFor rfl⟩))
    | some view =>
        rw [violations, hvalid]
        exact applyPathAuthority_concludes (.refreshPath context path (some view)) e context view rfl

theorem addMembersLocked_verdict (e : FabricEngine) {op : Op} (context : MutationContext) (setId : MultipathSetId)
    (requests : List (MemberRequest × Option PathAuthorityView)) {operation : Bytes} {bulk : Bool}
    (request : op.request = some ⟨context, operation, bulkFields operation setId (requests.map Prod.fst)⟩)
    (publication : op.Publishes context setId requests bulk) (plain : op.views = false) :
    e.Replayed op (e.addMembersLocked context setId requests operation bulk).outcome ∨
      (e.addMembersLocked context setId requests operation bulk).outcome.Settles
        (e.publicationFaults op context setId requests bulk) := by
  refine concludeLocked_blames ?_
  refine .bind (clears_require (makeRejection_rejectsFor rfl)) fun _ _ =>
    .bind (clears_require (makeRejection_rejectsFor rfl)) fun _ _ =>
    .bind (clears_require (makeRejection_rejectsFor rfl)) fun _ _ =>
    .bind (clears_require (makeRejection_rejectsFor rfl)) fun _ hvalid => admission_concludes request fun r found => ?_
  refine .bind (r.lifecycle_clears .memberAdded setId) fun _ hallowed =>
    .bind (expectedSetGenerationMatches_clears context r) fun _ _ =>
    .bind (unsupportedRequest_clears r requests) fun _ hsupported =>
    .bind (clears_unlessAnswered fun outcome h => ?_) fun _ hdistinct => ?_
  · exact (duplicateRequest_rejectsFor h).own
  rw [roomFaults, flatten_flatten_cons, List.cons_append, List.cons_append, List.cons_append]
  refine .bind (clears_require (makeRejection_rejectsFor rfl)) fun _ _ =>
    .bind (clears_require (makeRejection_rejectsFor rfl)) fun _ _ =>
    .bind (clears_unlessAnswered fun outcome h => ?_) fun _ _ =>
    .bind (clears_require (makeRejection_rejectsFor rfl)) fun _ hnext => ?_
  · exact (dependencyLimit_rejectsFor h).own
  simp only [Checked.require_ok, Checked.unlessAnswered_ok, Bool.and_eq_true] at hvalid hallowed hsupported hdistinct hnext
  obtain ⟨x, hmoved⟩ := SetRecord.transition_of_allowed setId hallowed
  rw [hmoved, ok_bind]
  refine .ok (commit_settles e
    (.added context publication (fun request hrequest => ?_) hallowed hsupported hdistinct
      (SetRecord.transition_ok hmoved)) plain rfl hnext.1 (fun _ => hnext.2) rfl)
  have hwell := List.all_eq_true.mp hvalid request.1 (List.mem_map_of_mem hrequest)
  exact Bool.and_eq_true_iff.mp hwell

theorem exec_verdict {op : Op} (carries : op.context.isSome = true)
    (indexed : ∀ (setId : MultipathSetId) (r : SetRecord), e.sets[setId]? = some r → r.Found) : e.Verdict op (e.exec op).2 := by
  cases op with
  | createSet context key options => exact createSet_verdict e context key options
  | publishSet context setId => exact publishSet_verdict e context setId
  | setMinimumUsableMembers context setId minimum => exact setMinimumUsableMembers_verdict e context setId minimum
  | setConditionalAuthorityPolicy context setId permitted =>
      exact setConditionalAuthorityPolicy_verdict e context setId permitted
  | setAdminEnabled context setId enabled => exact setAdminEnabled_verdict e context setId enabled
  | withdrawSet context setId reason => exact withdrawSet_verdict e context setId reason
  | completeWithdrawal context setId => exact completeWithdrawal_verdict e context setId
  | revokeSet context setId reason detail => exact revokeSet_verdict e context setId reason detail
  | retireSet context setId reason => exact retireSet_verdict e context setId reason
  | supersedeSet context predecessor successor => exact supersedeSet_verdict e context predecessor successor
  | addMember context setId request view =>
      exact addMembersLocked_verdict e context setId [(request, view)] rfl (.one request view) rfl
  | addMembers context setId requests => exact addMembersLocked_verdict e context setId requests rfl (.many requests) rfl
  | removeMember context setId memberId reason => exact removeMember_verdict (indexed setId) context memberId reason
  | withdrawMember context setId memberId reason => exact withdrawMember_verdict (indexed setId) context memberId reason
  | replaceMember context setId memberId request reason view =>
      exact replaceMember_verdict (indexed setId) context memberId request reason view
  | setMemberAdminEnabled context setId memberId enabled view =>
      exact setMemberAdminEnabled_verdict (indexed setId) context memberId enabled view
  | revalidateSet context setId views => exact revalidateSet_verdict e context setId views
  | revalidateMember context setId memberId looked =>
      exact revalidateMember_verdict (indexed setId) context memberId looked
  | beginMemberRevalidation context setId memberId attempt =>
      exact beginMemberRevalidation_verdict (indexed setId) context memberId attempt
  | completeMemberRevalidation context ticket current =>
      exact completeMemberRevalidation_verdict context ticket (indexed ticket.setId) current
  | declarePathAuthority context view => exact declarePathAuthority_verdict e context view
  | applyPathAuthority context view =>
      exact applyPathAuthority_concludes (.applyPathAuthority context view) e context view rfl
  | refreshPath context path view => exact refreshPath_verdict e context path view
  | registerPublisher | unregisterPublisher | fenceWorker | advanceEpoch | abandonMemberRevalidation | reconcilePath |
    bindPathAuthority | loadStore => cases carries

theorem found_of_run {config : FabricConfig} (run : Reachable config e) (setId : MultipathSetId) (r : SetRecord)
    (found : e.sets[setId]? = some r) : r.Found := by
  refine ((found_rule _).run ?_ run setId r found).2
  intro x path files decoded fallback _ read stored hstored
  have hindexed := ((readAndDecode_within read).each stored hstored).indexed
  exact ⟨fun path m hm => (hindexed.placed path m hm).1, hindexed.found⟩

theorem verdict_of_run {config : FabricConfig} {op : Op} (run : Reachable config e)
    (carries : op.context.isSome = true) : e.Verdict op (e.exec op).2 :=
  exec_verdict carries (found_of_run run)

end FabricEngine

end MultipathFabric
