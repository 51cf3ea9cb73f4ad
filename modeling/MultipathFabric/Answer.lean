import MultipathFabric.OperationSpec
import MultipathFabric.RecordShape

/-!
How an operation with a mutation context answers. Every operation goes through its checks in the same way, so
what any of them leaves in the engine is one of a few shapes.
-/

namespace MultipathFabric

open OrderedMap

@[simp] theorem makeRejection_succeeded (code : OutcomeCode) (detail : Bytes) :
    (makeRejection code detail).succeeded = outcomeIsSuccess code := rfl

@[simp] theorem makeOutcome_succeeded (code : OutcomeCode) (detail : Bytes) :
    (makeOutcome code detail).succeeded = outcomeIsSuccess code := rfl

@[simp] theorem finalizeOutcome_succeeded (r : SetRecord) (outcome : FabricOutcome) :
    (finalizeOutcome r outcome).succeeded = outcome.succeeded := rfl

theorem lifecycleRejection_rejects (lifecycle : SetLifecycle) (setId : MultipathSetId) :
    (lifecycleRejection lifecycle setId).rejects = true := by
  cases lifecycle <;> rfl

theorem currentnessRejection_rejects (currentness : MemberCurrentness) (path : PathId) :
    (currentnessRejection currentness path).rejects = true := by
  cases currentness <;> rfl

namespace Checked

def Refuses {α : Type} (known : FabricOutcome → Prop) (x : Checked α) : Prop :=
  ∀ outcome, x = .error outcome → outcome.rejects = true ∨ known outcome

theorem require_true (rejection : FabricOutcome) : Checked.require true rejection = .ok () := rfl

theorem ok_bind {α β : Type} (a : α) (f : α → Checked β) : ((.ok a : Checked α) >>= f) = f a := rfl

variable {α β : Type} {known : FabricOutcome → Prop}

theorem Refuses.pure (a : α) : Refuses known (pure a) := by
  intro outcome h
  cases h

theorem Refuses.ok (a : α) : Refuses known (.ok a) := Refuses.pure a

theorem Refuses.error {outcome : FabricOutcome} (h : outcome.rejects = true) :
    Refuses known (.error outcome : Checked α) := by
  intro other hother
  cases hother
  exact .inl h

theorem Refuses.bind {x : Checked α} {f : α → Checked β} (hx : Refuses known x)
    (hf : ∀ a, x = .ok a → Refuses known (f a)) : Refuses known (x >>= f) := by
  intro outcome h
  cases x with
  | error rejection =>
      cases h
      exact hx _ rfl
  | ok a => exact hf a rfl outcome h

theorem Refuses.require {condition : Bool} {rejection : FabricOutcome} (h : rejection.rejects = true) :
    Refuses known (Checked.require condition rejection) := by
  cases condition with
  | true => exact .ok ()
  | false => exact .error h

theorem Refuses.present {x : Option α} {rejection : FabricOutcome} (h : rejection.rejects = true) :
    Refuses known (Checked.present x rejection) := by
  cases x with
  | none => exact .error h
  | some a => exact .ok a

theorem Refuses.unlessAnswered {answer : Option FabricOutcome}
    (h : ∀ outcome, answer = some outcome → outcome.rejects = true ∨ known outcome) :
    Refuses known (Checked.unlessAnswered answer) := by
  cases answer with
  | none => exact .ok ()
  | some outcome =>
      intro other hother
      cases hother
      exact h outcome rfl

theorem Refuses.ite {condition : Prop} [Decidable condition] {x y : Checked α} (hx : Refuses known x)
    (hy : Refuses known y) : Refuses known (if condition then x else y) := by
  split
  · exact hx
  · exact hy

end Checked

theorem conclude_elim {e : FabricEngine} {run : Checked (FabricEngine × FabricOutcome)}
    (p : FabricEngine × FabricOutcome → Prop) (refuses : Checked.Refuses (fun _ => False) run)
    (rejected : ∀ outcome, outcome.succeeded = false → outcome.usableMembers = none → p (e, outcome))
    (accepted : ∀ result, run = .ok result → p result) : p (conclude e run) := by
  cases run with
  | ok result => exact accepted result rfl
  | error outcome =>
      obtain ⟨hrejected, hsilent⟩ := FabricOutcome.rejects_iff.mp ((refuses outcome rfl).resolve_right fun h => h)
      exact rejected outcome hrejected hsilent

theorem conclude_accepted {e : FabricEngine} {run : Checked (FabricEngine × FabricOutcome)}
    {p : Prop} (known : FabricOutcome → Prop) (refuses : Checked.Refuses known run)
    (accepted : (conclude e run).2.succeeded = true) (own : ¬known (conclude e run).2)
    (runs : ∀ result, run = .ok result → result.2.succeeded = true → p) : p := by
  cases run with
  | ok result => exact runs result rfl accepted
  | error outcome =>
      rcases refuses outcome rfl with hrejected | hknown
      · rw [conclude, (FabricOutcome.rejects_iff.mp hrejected).1] at accepted
        cases accepted
      · exact absurd hknown own

theorem concludeLocked_refuses {e : FabricEngine} {known : FabricOutcome → Prop} {run : Checked LockedResult}
    (refuses : Checked.Refuses known run) :
    (∃ outcome, (outcome.rejects = true ∨ known outcome) ∧ concludeLocked e run = ⟨e, outcome, false⟩) ∨
      ∃ result, run = .ok result ∧ concludeLocked e run = result := by
  cases run with
  | ok result => exact .inr ⟨result, rfl, rfl⟩
  | error outcome => exact .inl ⟨outcome, refuses outcome rfl, rfl⟩

open Checked

theorem expectedSetGenerationMatches_refuses {known : FabricOutcome → Prop} (context : MutationContext)
    (r : SetRecord) : Refuses known (expectedSetGenerationMatches context r) := by
  unfold expectedSetGenerationMatches
  split
  · exact .ok ()
  · exact .require rfl

theorem expectedMemberGenerationMatches_refuses {known : FabricOutcome → Prop} (context : MutationContext)
    (m : MemberRecord) : Refuses known (expectedMemberGenerationMatches context m) := by
  unfold expectedMemberGenerationMatches
  split
  · exact .ok ()
  · exact .require rfl

theorem SetRecord.transition_of_ok {r x : SetRecord} {event : SetEvent} (setId : MultipathSetId)
    (h : r.applyTransition event = .ok x) : r.transition event setId = .ok x := by
  unfold SetRecord.transition
  rw [h]

theorem SetRecord.transition_refuses {known : FabricOutcome → Prop} (r : SetRecord) (event : SetEvent)
    (setId : MultipathSetId) : Refuses known (r.transition event setId) := by
  unfold SetRecord.transition
  split
  · exact .ok _
  · exact .error (lifecycleRejection_rejects _ _)

theorem unsupportedRequest_rejects {r : SetRecord} {requests : List (MemberRequest × Option PathAuthorityView)}
    {outcome : FabricOutcome} (h : unsupportedRequest r requests = some outcome) : outcome.rejects = true := by
  obtain ⟨request, _, hrequest⟩ := List.exists_of_findSome?_eq_some h
  dsimp only at hrequest
  split at hrequest
  · cases hrequest
  · cases hrequest
    exact currentnessRejection_rejects _ _

theorem duplicateRequest_rejects {r : SetRecord} {setId : MultipathSetId} {requests : List MemberRequest}
    {seen : List PathId} {outcome : FabricOutcome} (h : duplicateRequest r setId seen requests = some outcome) :
    outcome.rejects = true := by
  induction requests generalizing seen with
  | nil => cases h
  | cons request rest ih =>
      unfold duplicateRequest at h
      split at h
      · cases h
        rfl
      · split at h
        · exact ih h
        · split at h
          · exact ih h
          · cases h
            rfl

namespace FabricEngine

variable {e : FabricEngine} {op : Op} {q : Request} {setId : MultipathSetId} {r x : SetRecord}
  {context : MutationContext}

theorem dependencyLimit_rejects {requests : List MemberRequest} {outcome : FabricOutcome}
    (h : e.dependencyLimit r requests = some outcome) : outcome.rejects = true := by
  obtain ⟨request, _, hrequest⟩ := List.exists_of_findSome?_eq_some h
  split at hrequest
  · cases hrequest
  · split at hrequest
    · cases hrequest
      rfl
    · cases hrequest

theorem uncoveredDependent_rejects {scope : AuthorityScope} {path : PathId} {outcome : FabricOutcome}
    (h : e.uncoveredDependent scope path = some outcome) : outcome.rejects = true := by
  unfold uncoveredDependent at h
  split at h
  · cases h
  · obtain ⟨dependent, _, hdependent⟩ := List.exists_of_findSome?_eq_some h
    split at hdependent
    · cases hdependent
    · split at hdependent
      · cases hdependent
      · cases hdependent
        rfl

theorem authorityCheck_refuses {known : FabricOutcome → Prop} (e : FabricEngine) (context : MutationContext)
    (key : Option SetKey) (target : Option MultipathSetId) :
    Refuses known (e.authorityCheck context key target) := by
  unfold authorityCheck
  refine .bind (.require rfl) fun _ _ => .bind (.require rfl) fun _ _ => .bind (.unlessAnswered ?_) fun _ _ =>
    .bind (.present rfl) fun registration _ => .bind (.require rfl) fun _ _ => ?_
  · intro outcome h
    obtain ⟨fence, _, rfl⟩ := Option.map_eq_some_iff.mp h
    exact .inl rfl
  · split
    · exact .require rfl
    · refine .bind (.present rfl) fun setId _ => ?_
      split
      · exact .bind (.require rfl) fun _ _ => .error rfl
      · exact .require rfl

theorem pathCallerCheck_refuses {known : FabricOutcome → Prop} (e : FabricEngine) (context : MutationContext) :
    Refuses known (e.pathCallerCheck context) := by
  unfold pathCallerCheck
  exact .bind (.require rfl) fun _ _ => .bind (.require rfl) fun _ _ => .bind (.require rfl) fun _ _ =>
    .present rfl

theorem requireSet_refuses {known : FabricOutcome → Prop} (e : FabricEngine) (setId : MultipathSetId) :
    Refuses known (e.requireSet setId) :=
  .present rfl

def Replays (e : FabricEngine) (op : Op) (q : Request) (outcome : FabricOutcome) : Prop :=
  e.Authorizes op ∧ e.attemptCheck q.context q.operation q.fields = some outcome

theorem admission_refuses (hauthorized : e.authorityCheck q.context none (some setId) = .ok () → e.Authorizes op) :
    Refuses (Replays e op q) (e.admission q.context q.operation q.fields setId) := by
  unfold admission
  refine .bind (authorityCheck_refuses _ _ _ _) fun _ hcaller => .bind (.unlessAnswered ?_) fun _ _ =>
    requireSet_refuses _ _
  exact fun outcome hknown => .inr ⟨hauthorized hcaller, hknown⟩

structure HasRoomFor (e : FabricEngine) (r : SetRecord) (requests : List MemberRequest) : Prop where
  live : liveMemberCount r + (newLive r requests).length ≤ e.limits.maxMembersPerSet.toNat
  total : e.totalMembers + (newLive r requests).length ≤ e.limits.maxTotalMembers.toNat
  dependents : e.dependencyLimit r requests = none

def HasRoom (e : FabricEngine) (r : SetRecord) : Op → Prop
  | .addMember _ _ request _ => e.HasRoomFor r [request]
  | .addMembers _ _ requests => e.HasRoomFor r (requests.map Prod.fst)
  | .replaceMember _ _ memberId request _ _ =>
      (∀ path m, r.finds memberId path m →
        liveMemberCount r + 1 - (if memberIsTerminal m then 0 else 1) ≤ e.limits.maxMembersPerSet.toNat) ∧
      e.totalMembers < e.limits.maxTotalMembers.toNat ∧
      ∀ dependents, e.pathDependents[request.pathId]? = some dependents →
        dependents.size < e.limits.maxPathDependenciesPerPath.toNat
  | _ => True

def createdRecord (e : FabricEngine) (context : MutationContext) (key : SetKey) (options : SetOptions) : SetRecord :=
  e.appendHistory (e.sets[e.ids.nextSetId.1]?.getD (e.declaredRecord context e.ids.nextSetId.1 key options)) .declare
    .declared (some context) none none
    (text "declared set " ++ key.render ++ text " minimum=" ++ decimal options.minimumUsableMembers.toNat)

end FabricEngine

namespace SetRecord

def advanced (x : SetRecord) (generation : MultipathSetGeneration) (membershipGeneration : MembershipGeneration) :
    SetRecord :=
  { x with generation := generation, membershipGeneration := membershipGeneration }

end SetRecord

namespace FabricEngine

def sealedCommit (e : FabricEngine) (setId : MultipathSetId) (y : SetRecord) (q : Request) (spec : CommitSpec)
    (outcome : FabricOutcome) : FabricEngine :=
  (e.storeCommitted setId y (y.committed e q.context spec)).recordAttempt q.context q.operation q.fields outcome

end FabricEngine

/-- What a recorded operation starts with: an authorized caller, and an attempt that is not known. -/
structure Admitted (e : FabricEngine) (op : Op) (q : Request) : Prop where
  caller : e.Authorizes op
  fresh : op.unreplayed = true ∨ e.attemptCheck q.context q.operation q.fields = none

/-- A rejected operation that has stored a record found the set generation exhausted, or left its members as usable
as they were. -/
def SetRecord.Stalls (r x : SetRecord) : Prop :=
  r.generation.next = none ∨ ∀ (path : PathId) (m' : MemberRecord), x.members[path]? = some m' →
    ∃ m, r.members[path]? = some m ∧ m'.lifecycle = m.lifecycle ∧ m'.currentness = m.currentness

def FabricOutcome.Reports (outcome : FabricOutcome) (r : SetRecord) : Prop :=
  outcome.usableMembers = none ∨
    (outcome.setId = some r.id ∧ outcome.usableMembers = some (consumableMemberCount r))

def Op.Idles (e : FabricEngine) (r x : SetRecord) : Op → Prop
  | .setMinimumUsableMembers _ _ _ => r.applyTransition .minimumChanged = .ok x
  | .setConditionalAuthorityPolicy _ _ _ => r.applyTransition .policyChanged = .ok x
  | .setAdminEnabled _ _ enabled => r.applyTransition (if enabled then .adminEnabled else .adminDisabled) = .ok x
  | .revalidateSet _ _ views =>
      x = e.revalidatedSet r views ∧ r.lifecycle = x.lifecycle ∧ r.currentness = x.currentness
  | .revalidateMember _ _ memberId looked => ∃ view path m, looked = some view ∧ r.finds memberId path m ∧
      m.revalidationChanged (m.rebound r.conditionalAuthorityPermitted view) = false ∧
      x = (r.withMember path (m.revalidated r.conditionalAuthorityPermitted view)).recompute
  | .completeMemberRevalidation _ ticket current => ∃ path m, r.finds ticket.memberId path m ∧
      m.pendingRevalidations ≠ 0 ∧ m.revalidationChanged (m.rebound r.conditionalAuthorityPermitted current) = false ∧
      x = (r.withMember path (m.revalidated r.conditionalAuthorityPermitted current).release).recompute
  | _ => x = r

structure CommitSpec.Names (spec : CommitSpec) (r : SetRecord) : Prop where
  member : ∀ id, spec.memberId = some id → id.valid = true
  path : ∀ path, spec.pathId = some path → path.valid = true ∨
    ∃ (place : PathId) (m : MemberRecord), r.members[place]? = some m ∧ (path = place ∨ path = m.pathId)

theorem CommitSpec.Names.none {spec : CommitSpec} {r : SetRecord} (member : spec.memberId = none)
    (path : spec.pathId = none) : spec.Names r where
  member id h := by
    rw [member] at h
    cases h
  path id h := by
    rw [path] at h
    cases h

theorem CommitSpec.Names.one {spec : CommitSpec} {r : SetRecord} {id : MultipathMemberId} {path : PathId}
    (member : spec.memberId = some id) (valid : id.valid = true) (place : spec.pathId = some path)
    (known : path.valid = true ∨
      ∃ (place : PathId) (m : MemberRecord), r.members[place]? = some m ∧ (path = place ∨ path = m.pathId)) :
    spec.Names r where
  member other h := by
    rw [member] at h
    cases h
    exact valid
  path other h := by
    rw [place] at h
    cases h
    exact known

/-- How an operation answers its request, with the engine that it leaves. -/
inductive Answer (e : FabricEngine) (op : Op) (q : Request) : FabricEngine × FabricOutcome → Prop
  | refused {outcome : FabricOutcome} (rejects : outcome.succeeded = false) (silent : outcome.usableMembers = none) :
      Answer e op q (e, outcome)
  | replayed {outcome : FabricOutcome} (known : e.Replays op q outcome) : Answer e op q (e, outcome)
  | left {setId : MultipathSetId} {r x : SetRecord} {summary : Bytes} {outcome : FabricOutcome}
      (residual : op.residual = true) (admitted : Admitted e op q) (named : op.subject = some setId)
      (found : e.sets[setId]? = some r) (edit : RecordEdit e setId r op x summary)
      (rejects : outcome.succeeded = false) (stalls : r.Stalls x) (silent : outcome.usableMembers = none)
      (expects : op.unreplayed = true ∨ op.Expects q.context r) : Answer e op q (e.putSet setId x, outcome)
  | answered {setId : MultipathSetId} {r x : SetRecord} {outcome : FabricOutcome} (admitted : Admitted e op q)
      (named : op.subject = some setId) (found : e.sets[setId]? = some r)
      (edit : x = r ∨ op.reshapes = false ∧ ∃ summary, RecordEdit e setId r op x summary)
      (expects : op.Expects q.context r) (accepted : outcome.succeeded = true) (reports : outcome.Reports x)
      (code : op.rechecks = false → outcome.code = .idempotent) (idles : op.Idles e r x) :
      Answer e op q ((e.putSet setId x).recordAttempt q.context q.operation q.fields outcome, outcome)
  | committed {setId : MultipathSetId} {r x : SetRecord} {spec : CommitSpec} {outcome : FabricOutcome}
      {generation : MultipathSetGeneration} {membershipGeneration : MembershipGeneration}
      (admitted : Admitted e op q) (named : op.subject = some setId) (found : e.sets[setId]? = some r)
      (edit : RecordEdit e setId r op x spec.summary) (expects : op.Expects q.context r) (room : e.HasRoom r op)
      (next : r.generation.next = some generation)
      (follows : r.membershipGeneration.Follows membershipGeneration) (accepted : outcome.succeeded = true)
      (reports : outcome.Reports
        ((x.advanced generation membershipGeneration).committed (e.prepared r op) q.context spec))
      (code : outcome.code ≠ .idempotent)
      (moves : if op.changesMembership then r.membershipGeneration.next = some membershipGeneration
        else membershipGeneration = r.membershipGeneration) (names : spec.Names r) :
      Answer e op q
        ((e.prepared r op).sealedCommit setId (x.advanced generation membershipGeneration) q spec outcome, outcome)
  | superseded {predecessor successor : MultipathSetId} {old new x : SetRecord} {spec : CommitSpec}
      {outcome : FabricOutcome} {generation : MultipathSetGeneration}
      (supersedes : op = .supersedeSet q.context predecessor successor) (admitted : Admitted e op q)
      (distinct : predecessor ≠ successor) (known : predecessor.valid = true)
      (foundOld : e.sets[predecessor]? = some old) (foundNew : e.sets[successor]? = some new)
      (accepts : transitionAllowed old.lifecycle .supersede = true) (first : old.supersededBy ≠ some successor)
      (edit : RecordEdit e predecessor old op x spec.summary) (expects : op.Expects q.context old)
      (next : old.generation.next = some generation) (accepted : outcome.succeeded = true)
      (reports : outcome.Reports ((x.advanced generation old.membershipGeneration).committed
        (e.putSet successor { new with supersedes := some predecessor }) q.context spec))
      (code : outcome.code ≠ .idempotent) (names : spec.Names old) :
      Answer e op q
        (((e.putSet successor { new with supersedes := some predecessor }).sealedCommit predecessor
            (x.advanced generation old.membershipGeneration) q spec outcome).supersedeSuccessor q.context predecessor
              successor { new with supersedes := some predecessor }, outcome)
  | viewed {registration : PublisherRegistration} {directory : PathAuthorityDirectory} {path : PathId}
      {view : PathAuthorityView} {outcome : FabricOutcome} (admitted : Admitted e op q)
      (caller : e.pathCallerCheck q.context = .ok registration)
      (applied : op.Applies path (some view) (some q.context))
      (covered : e.uncoveredDependent registration.scope path = none)
      (declares : op = .declarePathAuthority q.context view ∨ directory = e.directory)
      (accepted : outcome.succeeded = true) (silent : outcome.usableMembers = none)
      (code : outcome.code ≠ .idempotent) :
      Answer e op q
        ((FabricEngine.applyView { e with directory := directory } path (some view) (some q.context)
          .pathInvalidated).1.recordAttempt q.context q.operation q.fields outcome, outcome)
  | created {key : SetKey} {options : SetOptions} {outcome : FabricOutcome}
      (creates : op = .createSet q.context key options) (admitted : Admitted e op q) (named : key.valid = true)
      (free : e.keyIndex[key]? = none) (room : e.sets.size < e.limits.maxSets.toNat)
      (bound : options.minimumUsableMembers ≤ e.limits.maxMembersPerSet) (accepted : outcome.succeeded = true)
      (reports : outcome.Reports (e.createdRecord q.context key options)) (code : outcome.code ≠ .idempotent) :
      Answer e op q
        (((FabricEngine.captureSnapshot
            { e with ids := e.ids.nextSetId.2, keyIndex := e.keyIndex.insert key e.ids.nextSetId.1 }
            (e.createdRecord q.context key options)).putSet e.ids.nextSetId.1
              (e.createdRecord q.context key options)).recordAttempt q.context q.operation q.fields outcome, outcome)

namespace FabricEngine

/-- The operation is accepted, and its answer is not one of the attempt log. -/
def Accepts (e : FabricEngine) (op : Op) (q : Request) : Prop :=
  op.request = some q ∧ (e.exec op).2.succeeded = true ∧
    e.attemptCheck q.context q.operation q.fields ≠ some (e.exec op).2

end FabricEngine

namespace Answer

variable {e : FabricEngine} {op : Op} {q : Request} {setId : MultipathSetId} {r x : SetRecord}

theorem conclude {run : Checked (FabricEngine × FabricOutcome)} (refuses : Refuses (e.Replays op q) run)
    (accepts : ∀ result, run = .ok result → Answer e op q result) : Answer e op q (conclude e run) := by
  cases run with
  | ok result => exact accepts result rfl
  | error outcome =>
      rcases refuses outcome rfl with hrejected | hknown
      · obtain ⟨hfailed, hsilent⟩ := FabricOutcome.rejects_iff.mp hrejected
        exact .refused hfailed hsilent
      · exact .replayed hknown

theorem concludeLocked {run : Checked LockedResult} (refuses : Refuses (e.Replays op q) run)
    (accepts : ∀ result, run = .ok result → Answer e op q result.answer) :
    Answer e op q (concludeLocked e run).answer := by
  cases run with
  | ok result => exact accepts result rfl
  | error outcome =>
      rcases refuses outcome rfl with hrejected | hknown
      · obtain ⟨hfailed, hsilent⟩ := FabricOutcome.rejects_iff.mp hrejected
        exact .refused hfailed hsilent
      · exact .replayed hknown

end Answer

namespace FabricEngine

variable {e : FabricEngine} {op : Op} {q : Request} {setId : MultipathSetId} {r x : SetRecord}

theorem authorizes_named {context : MutationContext} (hcontext : op.context = some context)
    (hnames : op.names = [setId]) (h : e.authorityCheck context none (some setId) = .ok ()) : e.Authorizes op := by
  have hall : ∀ other target, op.context = some other → target ∈ op.names →
      e.authorityCheck other none (some target) = .ok () := by
    intro other target hother htarget
    rw [hcontext] at hother
    rw [hnames, List.mem_singleton] at htarget
    cases hother
    rw [htarget]
    exact h
  cases op with
  | createSet | declarePathAuthority | applyPathAuthority | refreshPath => cases hnames
  | _ => exact hall

theorem admission_found {context : MutationContext} {operation : Bytes} {fields : List Bytes}
    (h : e.admission context operation fields setId = .ok r) : e.sets[setId]? = some r := by
  unfold admission at h
  simp only [Checked.bind_ok] at h
  obtain ⟨_, _, _, _, hset⟩ := h
  exact requireSet_ok hset

theorem admission_admitted (hcontext : op.context = some q.context) (hnames : op.names = [setId])
    (h : e.admission q.context q.operation q.fields setId = .ok r) : Admitted e op q := by
  unfold admission at h
  simp only [Checked.bind_ok, Checked.unlessAnswered_ok] at h
  obtain ⟨_, hauthority, _, hfresh, _⟩ := h
  exact ⟨authorizes_named hcontext hnames hauthority, .inr hfresh⟩

theorem admission_replays (hcontext : op.context = some q.context) (hnames : op.names = [setId]) :
    Refuses (e.Replays op q) (e.admission q.context q.operation q.fields setId) :=
  admission_refuses (authorizes_named hcontext hnames)

end FabricEngine

open FabricEngine

namespace Answer

variable {e : FabricEngine} {op : Op} {q : Request} {setId : MultipathSetId} {r x : SetRecord}

theorem commitLocked_sealed {spec : CommitSpec} (q : Request) (base : FabricEngine) (outcome : FabricOutcome)
    (edit : RecordEdit e setId r op x spec.summary) (plain : op.views = false)
    (advances : spec.advanceSetGeneration = true) (next : r.generation.next.isSome = true)
    (membership : spec.advanceMembershipGeneration = true → r.membershipGeneration.next.isSome = true) :
    ∃ generation membershipGeneration, r.generation.next = some generation ∧
      r.membershipGeneration.Follows membershipGeneration ∧
      (if spec.advanceMembershipGeneration then r.membershipGeneration.next = some membershipGeneration
        else membershipGeneration = r.membershipGeneration) ∧
      base.commitLocked setId x q.context q.operation q.fields spec outcome =
        (base.sealedCommit setId (x.advanced generation membershipGeneration) q spec
            (finalizeOutcome ((x.advanced generation membershipGeneration).committed base q.context spec) outcome),
          finalizeOutcome ((x.advanced generation membershipGeneration).committed base q.context spec) outcome) := by
  obtain ⟨generation, hnext⟩ := Option.isSome_iff_exists.mp next
  have hset : x.advanceGeneration = some { x with generation := generation } := by
    unfold SetRecord.advanceGeneration
    rw [edit.generation plain, hnext]
    rfl
  have hsame := edit.sameHead.membershipGeneration
  obtain ⟨membershipGeneration, hfollows, hkept, hmembership⟩ : ∃ membershipGeneration,
      r.membershipGeneration.Follows membershipGeneration ∧
        (if spec.advanceMembershipGeneration then r.membershipGeneration.next = some membershipGeneration
          else membershipGeneration = r.membershipGeneration) ∧
        (if spec.advanceMembershipGeneration then
          ({ x with generation := generation } : SetRecord).advanceMembershipGeneration
        else some { x with generation := generation }) = some (x.advanced generation membershipGeneration) := by
    cases hadvance : spec.advanceMembershipGeneration with
    | false =>
        refine ⟨r.membershipGeneration, .inl rfl, rfl, ?_⟩
        rw [← hsame]
        rfl
    | true =>
        obtain ⟨advanced, hadvanced⟩ := Option.isSome_iff_exists.mp (membership hadvance)
        refine ⟨advanced, .inr hadvanced, hadvanced, ?_⟩
        simp only [if_true, SetRecord.advanceMembershipGeneration, hsame, hadvanced, Option.map_some]
        rfl
  refine ⟨generation, membershipGeneration, hnext, hfollows, hkept, ?_⟩
  simp only [commitLocked, advances, if_true, hset, hmembership]
  rfl

theorem commitLocked_outcome {base : FabricEngine} {spec : CommitSpec} {outcome : FabricOutcome}
    (p : FabricOutcome → Prop) (q : Request) (edit : RecordEdit e setId r op x spec.summary) (plain : op.views = false)
    (advances : spec.advanceSetGeneration = true) (next : r.generation.next.isSome = true)
    (membership : spec.advanceMembershipGeneration = true → r.membershipGeneration.next.isSome = true)
    (h : ∀ y, p (finalizeOutcome y outcome)) :
    p (base.commitLocked setId x q.context q.operation q.fields spec outcome).2 := by
  obtain ⟨_, _, _, _, _, hcommit⟩ := commitLocked_sealed q base outcome edit plain advances next membership
  rw [hcommit]
  exact h _

theorem commit {base : FabricEngine} {spec : CommitSpec} {outcome : FabricOutcome} (admitted : Admitted e op q)
    (named : op.subject = some setId) (found : e.sets[setId]? = some r) (edit : RecordEdit e setId r op x spec.summary)
    (expects : op.Expects q.context r) (room : e.HasRoom r op) (ready : e.prepared r op = base)
    (plain : op.views = false) (advances : spec.advanceSetGeneration = true) (next : r.generation.next.isSome = true)
    (membership : spec.advanceMembershipGeneration = true → r.membershipGeneration.next.isSome = true)
    (changes : spec.advanceMembershipGeneration = op.changesMembership) (accepted : outcome.succeeded = true)
    (code : outcome.code ≠ .idempotent) (names : spec.Names r) :
    Answer e op q (base.commitLocked setId x q.context q.operation q.fields spec outcome) := by
  obtain ⟨generation, membershipGeneration, hnext, hfollows, hmoves, hcommit⟩ :=
    commitLocked_sealed q base outcome edit plain advances next membership
  rw [changes] at hmoves
  rw [hcommit, ← ready]
  exact .committed admitted named found edit expects room hnext hfollows accepted (.inr ⟨rfl, rfl⟩) code hmoves names

theorem supersede {predecessor successor : MultipathSetId} {old new : SetRecord} {spec : CommitSpec}
    {outcome : FabricOutcome} (supersedes : op = .supersedeSet q.context predecessor successor)
    (admitted : Admitted e op q) (distinct : predecessor ≠ successor) (known : predecessor.valid = true)
    (foundOld : e.sets[predecessor]? = some old) (foundNew : e.sets[successor]? = some new)
    (accepts : transitionAllowed old.lifecycle .supersede = true) (first : old.supersededBy ≠ some successor)
    (edit : RecordEdit e predecessor old op x spec.summary) (expects : op.Expects q.context old)
    (advances : spec.advanceSetGeneration = true) (keeps : spec.advanceMembershipGeneration = false)
    (next : old.generation.next.isSome = true) (accepted : outcome.succeeded = true)
    (code : outcome.code ≠ .idempotent) (names : spec.Names old) :
    Answer e op q
      (let newRecord := { new with supersedes := some predecessor }
      let committed := (e.putSet successor newRecord).commitLocked predecessor x q.context q.operation q.fields spec
        outcome
      if committed.2.succeeded then
        (committed.1.supersedeSuccessor q.context predecessor successor newRecord, committed.2)
      else committed) := by
  have hplain : op.views = false := by rw [supersedes]; rfl
  have hmembership : spec.advanceMembershipGeneration = true → old.membershipGeneration.next.isSome = true := by
    rw [keeps]
    exact fun h => by cases h
  obtain ⟨generation, membershipGeneration, hnext, _, hmoves, hcommit⟩ := commitLocked_sealed q
    (e.putSet successor { new with supersedes := some predecessor }) outcome edit hplain advances next hmembership
  have hkept : membershipGeneration = old.membershipGeneration := by
    rw [keeps] at hmoves
    exact hmoves
  dsimp only
  rw [hcommit, hkept, if_pos (by exact accepted)]
  exact .superseded supersedes admitted distinct known foundOld foundNew accepts first edit expects hnext accepted
    (.inr ⟨rfl, rfl⟩) code names

end Answer

end MultipathFabric
