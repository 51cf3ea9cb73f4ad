import MultipathFabric.Library.OrderedMap
import MultipathFabric.Limits
import MultipathFabric.Outcome
import MultipathFabric.Records

namespace MultipathFabric

structure AttemptRecord where
  attempt : MutationAttemptId
  fingerprint : Digest128
  outcome : FabricOutcome

/-- The state guarded by the engine mutex, together with the built-in directory.
`externalPathAuthority` records whether another source has replaced the directory. -/
structure FabricEngine where
  limits : Limits
  currentEpoch : CoordinatorEpoch
  currentAuthorityGeneration : MultipathAuthorityGeneration
  sets : Std.ExtTreeMap MultipathSetId SetRecord
  keyIndex : Std.ExtTreeMap SetKey MultipathSetId
  pathDependents : Std.ExtTreeMap PathId (Std.ExtTreeSet MultipathSetId)
  registrations : Std.ExtTreeMap WorkerKey PublisherRegistration
  fences : Std.ExtTreeMap WorkerKey FenceRecord
  attempts : List AttemptRecord
  attemptIndex : Std.ExtTreeMap MutationAttemptId Digest128
  snapshotHistory : Std.ExtTreeMap MultipathSetId (List SetSnapshot)
  directory : PathAuthorityDirectory
  externalPathAuthority : Bool
  ids : IdFactory
  totalMembers : Nat

structure FabricConfig where
  limits : Limits
  initialEpoch : CoordinatorEpoch
  initialAuthorityGeneration : MultipathAuthorityGeneration

def FabricEngine.init (config : FabricConfig) (ids : IdFactory) : FabricEngine where
  limits := config.limits
  currentEpoch := if config.initialEpoch.valid then config.initialEpoch else .first
  currentAuthorityGeneration :=
    if config.initialAuthorityGeneration.valid then config.initialAuthorityGeneration else .first
  sets := ∅
  keyIndex := ∅
  pathDependents := ∅
  registrations := ∅
  fences := ∅
  attempts := []
  attemptIndex := ∅
  snapshotHistory := ∅
  directory := ∅
  externalPathAuthority := false
  ids := ids
  totalMembers := 0

/-- A check either lets the operation continue or ends it with an outcome and no state change. -/
abbrev Checked := Except FabricOutcome

namespace Checked

def require (condition : Bool) (rejection : FabricOutcome) : Checked Unit :=
  if condition then .ok () else .error rejection

def present {α : Type} (x : Option α) (rejection : FabricOutcome) : Checked α :=
  match x with
  | some a => .ok a
  | none => .error rejection

def unlessAnswered (answer : Option FabricOutcome) : Checked Unit :=
  match answer with
  | some outcome => .error outcome
  | none => .ok ()

@[simp] theorem require_ok {condition : Bool} {rejection : FabricOutcome} {u : Unit} :
    require condition rejection = .ok u ↔ condition = true := by
  cases condition <;> simp [require]

@[simp] theorem present_ok {α : Type} {x : Option α} {rejection : FabricOutcome} {a : α} :
    present x rejection = .ok a ↔ x = some a := by
  cases x <;> simp [present]

@[simp] theorem unlessAnswered_ok {answer : Option FabricOutcome} {u : Unit} :
    unlessAnswered answer = .ok u ↔ answer = none := by
  cases answer <;> simp [unlessAnswered]

@[simp] theorem bind_ok {α β : Type} {x : Checked α} {f : α → Checked β} {b : β} :
    (x >>= f) = .ok b ↔ ∃ a, x = .ok a ∧ f a = .ok b := by
  cases x <;> simp [bind, Except.bind]

theorem require_error {condition : Bool} {rejection outcome : FabricOutcome}
    (h : require condition rejection = .error outcome) : outcome = rejection := by
  unfold require at h
  split at h
  · cases h
  · exact (Except.error.inj h).symm

theorem bind_error {α β : Type} {x : Checked α} {f : α → Checked β} {outcome : FabricOutcome}
    (h : (x >>= f) = .error outcome) : x = .error outcome ∨ ∃ a, f a = .error outcome := by
  cases x with
  | error failure =>
      cases h
      exact .inl rfl
  | ok a => exact .inr ⟨a, h⟩

@[simp] theorem pure_ok {α : Type} {a b : α} : (pure a : Checked α) = .ok b ↔ a = b := by
  simp [pure, Except.pure]

theorem of_isOk {α : Type} {x : Checked α} (h : x.isOk = true) : ∃ a, x = .ok a := by
  cases x with
  | ok a => exact ⟨a, rfl⟩
  | error outcome => cases h

end Checked

def conclude (e : FabricEngine) (run : Checked (FabricEngine × FabricOutcome)) :
    FabricEngine × FabricOutcome :=
  match run with
  | .ok result => result
  | .error outcome => (e, outcome)

structure LockedResult where
  engine : FabricEngine
  outcome : FabricOutcome
  reconciles : Bool

def LockedResult.answer (result : LockedResult) : FabricEngine × FabricOutcome := (result.engine, result.outcome)

def concludeLocked (e : FabricEngine) (run : Checked LockedResult) : LockedResult :=
  match run with
  | .ok result => result
  | .error outcome => ⟨e, outcome, false⟩

def LockedResult.committed (result : FabricEngine × FabricOutcome) : LockedResult := ⟨result.1, result.2, true⟩

def LockedResult.answered (result : FabricEngine × FabricOutcome) : LockedResult := ⟨result.1, result.2, false⟩

theorem conclude_cases {e : FabricEngine} {run : Checked (FabricEngine × FabricOutcome)}
    {result : FabricEngine × FabricOutcome} (h : conclude e run = result) :
    result.1 = e ∨ run = .ok result := by
  cases run with
  | error outcome => exact .inl (by rw [← h]; rfl)
  | ok value => exact .inr (by rw [← h]; rfl)

theorem concludeLocked_cases {e : FabricEngine} {run : Checked LockedResult} {result : LockedResult}
    (h : concludeLocked e run = result) : (result.engine = e ∧ result.reconciles = false) ∨ run = .ok result := by
  cases run with
  | error outcome => exact .inl (by rw [← h]; exact ⟨rfl, rfl⟩)
  | ok value => exact .inr (by rw [← h]; rfl)

namespace FabricEngine

def authorityCheck (e : FabricEngine) (context : MutationContext) (key : Option SetKey)
    (setId : Option MultipathSetId) : Checked Unit := do
  Checked.require context.hasCallerIdentity
    (makeRejection .unauthorizedCaller
      (text "mutation context is missing a required caller identity element: " ++ context.render))
  Checked.require (context.epoch == e.currentEpoch)
    (makeRejection .staleEpoch
      (text "request epoch " ++ decimal context.epoch.value.toNat ++ text " is not the governing epoch " ++
        decimal e.currentEpoch.value.toNat))
  let worker : WorkerKey := ⟨context.publisher, context.workerBoot⟩
  Checked.unlessAnswered (e.fences[worker]?.map fun fence =>
    makeRejection .staleWorker (text "worker boot is fenced: " ++ fence.render))
  let registration ← Checked.present e.registrations[worker]?
    (makeRejection .unknownPublisher
      (text "publisher/boot is not registered at the governing epoch: " ++ context.publisher.view ++
        text "/" ++ context.workerBoot.view))
  Checked.require (registration.epoch == e.currentEpoch)
    (makeRejection .staleWorker
      (text "registration for " ++ context.publisher.view ++ text "/" ++ context.workerBoot.view ++
        text " belongs to epoch " ++ decimal registration.epoch.value.toNat ++
        text ", not the governing epoch " ++ decimal e.currentEpoch.value.toNat))
  let scope := registration.scope
  match key with
  | some key =>
      -- Creating a set: only a scope without set restriction can authorize an unidentified set.
      Checked.require (scope.coversNamespace key.fabric key.nameSpace)
        (makeRejection .unauthorizedScope
          (text "scope " ++ scope.render ++ text " does not cover namespace " ++ key.render))
  | none =>
      let setId ← Checked.present setId
        (makeRejection .unauthorizedScope
          (text "operation requires a set identity to evaluate authority scope"))
      match e.sets[setId]? with
      | none =>
          Checked.require (scope.coversAllInScope || scope.setIds.contains setId)
            (makeRejection .unauthorizedScope
              (text "set " ++ setId.view ++ text " is outside scope " ++ scope.render))
          .error (makeRejection .setNotFound (text "no such set: " ++ setId.view))
      | some record =>
          Checked.require (scope.covers record.key.fabric record.key.nameSpace record.id)
            (makeRejection .unauthorizedScope
              (text "scope " ++ scope.render ++ text " does not cover set " ++ record.key.render))

def attemptCheck (e : FabricEngine) (context : MutationContext) (operation : Bytes) (fields : List Bytes) :
    Option FabricOutcome :=
  match e.attemptIndex[context.attempt]? with
  | none => none
  | some known =>
      if known ≠ fingerprintRequest operation fields then
        some (makeRejection .attemptConflict
          (text "attempt " ++ context.attempt.view ++
            text " was already used for a different semantic request"))
      else
        match e.attempts.find? fun record => record.attempt == context.attempt with
        | some record =>
            some { record.outcome with
              code := .idempotent
              stage := .none
              detail := text "exact replay of an already-committed attempt; original outcome " ++
                record.outcome.code.toString }
        | none =>
            some (makeRejection .attemptConflict
              (text "attempt index and attempt log disagree for " ++ context.attempt.view))

def trimAttempts (limit : Nat) : List AttemptRecord → Std.ExtTreeMap MutationAttemptId Digest128 →
    List AttemptRecord × Std.ExtTreeMap MutationAttemptId Digest128
  | [], index => ([], index)
  | front :: rest, index =>
      if rest.length + 1 ≤ limit then (front :: rest, index)
      else
        trimAttempts limit rest
          (if index[front.attempt]? = some front.fingerprint then index.erase front.attempt else index)

def recordAttempt (e : FabricEngine) (context : MutationContext) (operation : Bytes) (fields : List Bytes)
    (outcome : FabricOutcome) : FabricEngine :=
  let fingerprint := fingerprintRequest operation fields
  let trimmed := trimAttempts e.limits.maxAttempts.toNat
    (e.attempts ++ [⟨context.attempt, fingerprint, outcome⟩])
    (e.attemptIndex.insert context.attempt fingerprint)
  { e with attempts := trimmed.1, attemptIndex := trimmed.2 }

def requireSet (e : FabricEngine) (setId : MultipathSetId) : Checked SetRecord :=
  Checked.present e.sets[setId]? (makeRejection .setNotFound (text "no such set: " ++ setId.view))

/-- Stores the record that the operation has been working on. -/
def putSet (e : FabricEngine) (setId : MultipathSetId) (record : SetRecord) : FabricEngine :=
  { e with sets := e.sets.insert setId record }

end FabricEngine

def lifecycleRejection (lifecycle : SetLifecycle) (setId : MultipathSetId) : FabricOutcome :=
  let subject := text "set " ++ setId.view
  match lifecycle with
  | .retired => makeRejection .retired (subject ++ text " is retired")
  | .revoked => makeRejection .revoked (subject ++ text " is revoked")
  | .withdrawn => makeRejection .withdrawn (subject ++ text " is withdrawn")
  | .withdrawing => makeRejection .withdrawn (subject ++ text " is withdrawing")
  | .superseded => makeRejection .superseded (subject ++ text " is superseded")
  | lifecycle =>
      makeRejection .invalidLifecycleTransition
        (subject ++ text " does not accept this event in lifecycle " ++ lifecycle.toString)

def currentnessRejection (currentness : MemberCurrentness) (path : PathId) : FabricOutcome :=
  match currentness with
  | .stalePathAuthority =>
      makeRejection .stalePathAuthority
        (text "path " ++ path.view ++
          text " is bound at a Path Authority generation that is no longer current; explicit revalidation is required")
  | .pathAuthorityUnknown =>
      makeRejection .pathAuthorityUnknown (text "Path Authority has no record for path " ++ path.view)
  | currentness =>
      makeRejection .pathNotUsable
        (text "path " ++ path.view ++ text " is not usable: " ++ currentness.toString)

def currentnessIsRevalidationRecoverable : MemberCurrentness → Bool
  | .stalePathAuthority | .pathRevalidationRequired | .pathStale | .pathAuthorityUnknown
  | .epochStale | .pendingEvaluation => true
  | _ => false

namespace MemberRecord

/-- An exhausted watermark stays where it is. -/
def bumpWatermark (m : MemberRecord) : MemberRecord :=
  { m with invalidationWatermark := m.invalidationWatermark.next.getD m.invalidationWatermark }

def observationOf (m : MemberRecord) : Option PathAuthorityView :=
  match m.observedAuthorityGeneration, m.observedAuthorityState with
  | some generation, some state => some ⟨m.pathId, generation, state⟩
  | _, _ => none

def applyEvent (m : MemberRecord) (event : MemberEvent) : MemberRecord :=
  match memberTransition m.lifecycle event with
  | none => m
  | some next => { (if next ≠ m.lifecycle then m.bumpWatermark else m) with lifecycle := next }

def observe (m : MemberRecord) (permitted : Bool) (view : Option PathAuthorityView) : MemberCurrentness :=
  if !m.adminEnabled then .adminDisabled
  else classifyPathAuthority view m.boundAuthorityGeneration permitted

def evaluationEvent (observed : MemberCurrentness) (explicitRevalidation : Bool) : MemberEvent :=
  if observed = .current then if explicitRevalidation then .revalidatedOk else .inputsUsable
  else if currentnessIsRevalidationRecoverable observed then
    if explicitRevalidation then .revalidatedStale else .inputsStaleAuthority
  else .inputsNotUsable

def evaluate (m : MemberRecord) (permitted : Bool) (view : Option PathAuthorityView)
    (explicitRevalidation : Bool) : MemberRecord :=
  if memberIsTerminal m then
    -- Terminal relations are frozen, but their currentness is refreshed for explanation purposes.
    { m with currentness := m.observe permitted view }
  else
    let observed := m.observe permitted view
    let m :=
      { m with
        observedAuthorityGeneration := view.map PathAuthorityView.generation
        observedAuthorityState := view.map PathAuthorityView.state }
    let m := if m.currentness ≠ observed then m.bumpWatermark else m
    ({ m with currentness := observed }).applyEvent (evaluationEvent observed explicitRevalidation)

end MemberRecord

namespace SetRecord

def recompute (r : SetRecord) : SetRecord :=
  let usable := r.recomputeUsableMembers
  { r with
    usableMemberCount := usable
    lifecycle :=
      match r.lifecycle with
      | .active | .degraded | .exhausted | .adminDisabled =>
          derivePublishedLifecycle usable r.minimumUsableMembers r.adminEnabled
      | lifecycle => lifecycle }

def terminate (r : SetRecord) (lifecycle : SetLifecycle) : SetRecord :=
  { r with lifecycle := lifecycle, currentness := .revalidationRequired }

def applyTransition (r : SetRecord) (event : SetEvent) : Except OutcomeCode SetRecord :=
  match setTransition r.lifecycle event with
  | .reject => .error (lifecycleRejection r.lifecycle r.id).code
  | .stay => .ok r
  | .recompute => .ok r.recompute
  | .becomePublished =>
      .ok { r with
        usableMemberCount := r.recomputeUsableMembers
        lifecycle := derivePublishedLifecycle r.recomputeUsableMembers r.minimumUsableMembers r.adminEnabled }
  | .becomeAdminDisabled => .ok { r with lifecycle := .adminDisabled }
  | .becomeWithdrawing => .ok { r with lifecycle := .withdrawing }
  | .becomeWithdrawn => .ok (r.terminate .withdrawn)
  | .becomeSuperseded => .ok (r.terminate .superseded)
  | .becomeRevoked => .ok (r.terminate .revoked)
  | .becomeRetired => .ok (r.terminate .retired)

def bumpWatermarkOnly (r : SetRecord) : SetRecord :=
  { r with invalidationWatermark := r.invalidationWatermark.next.getD r.invalidationWatermark }

def bumpWatermark (r : SetRecord) : SetRecord :=
  { r.bumpWatermarkOnly with members := r.members.map fun _ m => m.bumpWatermark }

def reevaluateMembersFromObservations (r : SetRecord) : SetRecord :=
  let r :=
    { r with
      members := r.members.map fun _ m =>
        if memberIsTerminal m then m
        else m.evaluate r.conditionalAuthorityPermitted m.observationOf true }
  r.recompute

end SetRecord

def dropOldest {α : Type} (limit : Nat) (l : List α) : List α := l.drop (l.length - limit)

namespace FabricEngine

def appendHistory (e : FabricEngine) (r : SetRecord) (event : SetEvent) (cause : MembershipCause)
    (context : Option MutationContext) (memberId : Option MultipathMemberId) (pathId : Option PathId)
    (summary : Bytes) : SetRecord :=
  { r with
    history := dropOldest e.limits.maxHistoryPerSet.toNat (r.history ++
      [{ setGeneration := r.generation
         event := event
         cause := cause
         publisher := (context.map MutationContext.publisher).getD .unset
         epoch := (context.map MutationContext.epoch).getD e.currentEpoch
         memberId := memberId
         pathId := pathId
         summary := summary }]) }

def indexPath (e : FabricEngine) (setId : MultipathSetId) (path : PathId) : FabricEngine :=
  { e with
    pathDependents := e.pathDependents.insert path ((e.pathDependents[path]?.getD ∅).insert setId) }

def unindexPath (e : FabricEngine) (setId : MultipathSetId) (path : PathId) : FabricEngine :=
  match e.pathDependents[path]? with
  | none => e
  | some dependents =>
      let dependents := dependents.erase setId
      { e with
        pathDependents :=
          if dependents.isEmpty then e.pathDependents.erase path
          else e.pathDependents.insert path dependents }

def captureSnapshot (e : FabricEngine) (r : SetRecord) : FabricEngine :=
  let snapshot := makeSnapshot r
  let history := e.snapshotHistory[r.id]?.getD []
  if history.getLast?.map SetSnapshot.snapshotId = some snapshot.snapshotId then e
  else
    { e with
      snapshotHistory := e.snapshotHistory.insert r.id
        (dropOldest e.limits.maxSnapshotHistory.toNat (history ++ [snapshot])) }

end FabricEngine

def archivedPaths (r : SetRecord) : List PathId :=
  (r.members.toList.filter fun entry => memberIsTerminal entry.2).map Prod.fst

def pruneVictims (limits : Limits) (r : SetRecord) : List PathId :=
  (archivedPaths r).take ((archivedPaths r).length - limits.maxArchivedMembersPerSet.toNat)

def victimIds (r : SetRecord) (victims : List PathId) : List MultipathMemberId :=
  victims.filterMap fun path => r.members[path]?.map MemberRecord.id

def MemberRecord.clearLineage (m : MemberRecord) (pruned : List MultipathMemberId) : MemberRecord :=
  { m with
    predecessor := m.predecessor.filter fun id => !pruned.contains id
    successor := m.successor.filter fun id => !pruned.contains id }

def SetRecord.pruneArchive (limits : Limits) (r : SetRecord) : SetRecord :=
  let victims := pruneVictims limits r
  let pruned := victimIds r victims
  if pruned.isEmpty then r
  else
    { r with
      memberIndex := pruned.foldl (fun index id => index.erase id) r.memberIndex
      members := (victims.foldl (fun members path => members.erase path) r.members).map fun _ m =>
        m.clearLineage pruned }

namespace FabricEngine

def unindexVictims (e : FabricEngine) (r : SetRecord) : FabricEngine :=
  let victims := pruneVictims e.limits r
  let e := victims.foldl (fun e path => e.unindexPath r.id path) e
  { e with totalMembers := e.totalMembers - victims.length }

end FabricEngine

structure CommitSpec where
  advanceSetGeneration : Bool
  advanceMembershipGeneration : Bool
  event : SetEvent
  cause : MembershipCause
  memberId : Option MultipathMemberId
  pathId : Option PathId
  summary : Bytes

def finalizeOutcome (r : SetRecord) (outcome : FabricOutcome) : FabricOutcome :=
  { outcome with
    setId := some r.id
    setGeneration := some r.generation
    membershipGeneration := some r.membershipGeneration
    authorityGeneration := some r.authorityGeneration
    lifecycle := some r.lifecycle
    currentness := some r.currentness
    usableMembers := some (consumableMemberCount r)
    minimumUsableMembers := some r.minimumUsableMembers
    digest := some (computeSetDigest r) }

def makeProvenance (context : MutationContext) (cause : MembershipCause) (r : SetRecord) :
    MembershipProvenance where
  publisher := context.publisher
  workerBoot := context.workerBoot
  epoch := context.epoch
  attempt := context.attempt
  setGeneration := r.generation
  cause := cause

namespace SetRecord

def advanceGeneration (r : SetRecord) : Option SetRecord :=
  r.generation.next.map fun generation => { r with generation := generation }

def advanceMembershipGeneration (r : SetRecord) : Option SetRecord :=
  r.membershipGeneration.next.map fun generation => { r with membershipGeneration := generation }

def committed (e : FabricEngine) (r : SetRecord) (context : MutationContext) (spec : CommitSpec) : SetRecord :=
  let r := { r with provenance := makeProvenance context spec.cause r }
  e.appendHistory (r.pruneArchive e.limits) spec.event spec.cause (some context) spec.memberId spec.pathId
    spec.summary

end SetRecord

namespace FabricEngine

def storeCommitted (e : FabricEngine) (setId : MultipathSetId) (r committed : SetRecord) : FabricEngine :=
  ((e.unindexVictims r).captureSnapshot committed).putSet setId committed

/-- Completes an accepted mutation. An exhausted counter rejects, with the record kept as the operation left it. -/
def commitLocked (e : FabricEngine) (setId : MultipathSetId) (r : SetRecord) (context : MutationContext)
    (operation : Bytes) (fields : List Bytes) (spec : CommitSpec) (outcome : FabricOutcome) :
    FabricEngine × FabricOutcome :=
  match (if spec.advanceSetGeneration then r.advanceGeneration else some r) with
  | none =>
      (e.putSet setId r,
        makeRejection .generationOverflow (text "multipath set generation is exhausted for " ++ r.id.view))
  | some r =>
      match (if spec.advanceMembershipGeneration then r.advanceMembershipGeneration else some r) with
      | none =>
          (e.putSet setId r,
            makeRejection .generationOverflow (text "membership generation is exhausted for " ++ r.id.view))
      | some r =>
          let committed := r.committed e context spec
          let outcome := finalizeOutcome committed outcome
          ((e.storeCommitted setId r committed).recordAttempt context operation fields outcome, outcome)

end FabricEngine

def applyMemberEvent (r : SetRecord) (event : MemberEvent) : SetRecord :=
  let r := { r with members := r.members.map fun _ (m : MemberRecord) => m.applyEvent event }
  let r := r.bumpWatermark
  { r with usableMemberCount := r.recomputeUsableMembers }

def markSetNotUsable (m : MemberRecord) : MemberRecord :=
  if m.currentness ≠ .setNotUsable then { m.bumpWatermark with currentness := .setNotUsable } else m

/-- The member-side consequence of a set lifecycle transition: it reaches the members only when the set
leaves an authoritative lifecycle. -/
def applyMemberConsequences (e : FabricEngine) (r : SetRecord) (source target : SetLifecycle)
    (context : Option MutationContext) : SetRecord :=
  if source = target then r
  else if source = .active ∨ source = .degraded ∨ source = .exhausted then
    match target with
    | .withdrawing => applyMemberEvent r .withdraw
    | .withdrawn => applyMemberEvent r .withdraw
    | .superseded => applyMemberEvent r .supersede
    | .retired => applyMemberEvent r .retire
    | .revoked =>
        let r := { r with members := r.members.map fun _ m => markSetNotUsable m }
        let r := r.bumpWatermark
        let r := { r with usableMemberCount := r.recomputeUsableMembers }
        e.appendHistory r .revoke .setRevoked context none none
          (text "members marked SET_NOT_USABLE by revocation")
    | _ => r
  else r

def setIsFrozen (r : SetRecord) : Bool :=
  r.lifecycle == .withdrawn || r.lifecycle == .superseded || r.lifecycle == .revoked || r.lifecycle == .retired

namespace FabricEngine

def dependencyInvalidated (e : FabricEngine) (r : SetRecord) (path : PathId) (m : MemberRecord)
    (context : Option MutationContext) (cause : MembershipCause) : SetRecord :=
  let before := r.lifecycle
  let r := { r with members := r.members.insert path m }
  let r := r.recompute
  let r := if r.lifecycle ≠ before then { r with generation := r.generation.next.getD r.generation } else r
  e.appendHistory r.bumpWatermarkOnly .dependencyInvalidated cause context none (some path)
    (text "dependency invalidation for path " ++ path.view ++ text " -> " ++ r.lifecycle.toString)

def applyViewToSet (e : FabricEngine) (setId : MultipathSetId) (path : PathId)
    (view : Option PathAuthorityView) (context : Option MutationContext) (cause : MembershipCause) :
    FabricEngine × Bool :=
  match e.sets[setId]? with
  | none => (e, false)
  | some r =>
      if setIsFrozen r then (e, false)
      else
        match r.members[path]? with
        | none => (e, false)
        | some m =>
            let evaluated := m.evaluate r.conditionalAuthorityPermitted view false
            if evaluated.lifecycle = m.lifecycle ∧ evaluated.currentness = m.currentness then
              (e.putSet setId { r with members := r.members.insert path evaluated }, false)
            else
              let r := e.dependencyInvalidated r path evaluated context cause
              ((e.captureSnapshot r).putSet setId r, true)

def applyViewToSets (path : PathId) (view : Option PathAuthorityView) (context : Option MutationContext)
    (cause : MembershipCause) : FabricEngine → List MultipathSetId → FabricEngine × Nat
  | e, [] => (e, 0)
  | e, setId :: rest =>
      let applied := e.applyViewToSet setId path view context cause
      let others := applyViewToSets path view context cause applied.1 rest
      (others.1, (if applied.2 then 1 else 0) + others.2)

def applyView (e : FabricEngine) (path : PathId) (view : Option PathAuthorityView)
    (context : Option MutationContext) (cause : MembershipCause) : FabricEngine × Nat :=
  match e.pathDependents[path]? with
  | none => (e, 0)
  | some dependents => applyViewToSets path view context cause e dependents.toList

end FabricEngine

end MultipathFabric
