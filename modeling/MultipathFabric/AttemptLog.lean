import MultipathFabric.AuthoritySpec
import MultipathFabric.Library.BoundedLog

namespace MultipathFabric

open BoundedLog

namespace FabricEngine

def attemptLog (e : FabricEngine) : List AttemptRecord × Std.ExtTreeMap MutationAttemptId Digest128 :=
  (e.attempts, e.attemptIndex)

theorem trimAttempts_eq (limit : ℕ) (log : List AttemptRecord)
    (index : Std.ExtTreeMap MutationAttemptId Digest128) :
    trimAttempts limit log index = trim AttemptRecord.attempt AttemptRecord.fingerprint limit log index := by
  induction log generalizing index with
  | nil => rfl
  | cons front rest ih =>
      unfold trimAttempts trim
      rw [ih]

theorem recordAttempt_attemptLog (e : FabricEngine) (context : MutationContext) (operation : Bytes)
    (fields : List Bytes) (outcome : FabricOutcome) :
    (e.recordAttempt context operation fields outcome).attemptLog =
      record AttemptRecord.attempt AttemptRecord.fingerprint e.limits.maxAttempts.toNat e.attempts e.attemptIndex
        ⟨context.attempt, fingerprintRequest operation fields, outcome⟩ := by
  unfold attemptLog recordAttempt
  simp only [trimAttempts_eq]
  rfl

@[simp] theorem putSet_attemptLog (e : FabricEngine) (setId : MultipathSetId) (r : SetRecord) :
    (e.putSet setId r).attemptLog = e.attemptLog := rfl

@[simp] theorem indexPath_attemptLog (e : FabricEngine) (setId : MultipathSetId) (path : PathId) :
    (e.indexPath setId path).attemptLog = e.attemptLog := rfl

@[simp] theorem unindexPath_attemptLog (e : FabricEngine) (setId : MultipathSetId) (path : PathId) :
    (e.unindexPath setId path).attemptLog = e.attemptLog := by
  unfold unindexPath
  split <;> rfl

@[simp] theorem captureSnapshot_attemptLog (e : FabricEngine) (r : SetRecord) :
    (e.captureSnapshot r).attemptLog = e.attemptLog := by
  unfold captureSnapshot
  dsimp only
  split <;> rfl

theorem foldl_attemptLog {α : Type} {f : FabricEngine → α → FabricEngine}
    (h : ∀ e a, (f e a).attemptLog = e.attemptLog) (l : List α) (e : FabricEngine) :
    (l.foldl f e).attemptLog = e.attemptLog := by
  induction l generalizing e with
  | nil => rfl
  | cons a rest ih =>
      rw [List.foldl_cons, ih, h]

@[simp] theorem storeCommitted_attemptLog (e : FabricEngine) (setId : MultipathSetId) (r committed : SetRecord) :
    (e.storeCommitted setId r committed).attemptLog = e.attemptLog := by
  unfold storeCommitted
  rw [putSet_attemptLog, captureSnapshot_attemptLog]
  exact foldl_attemptLog (fun e path => unindexPath_attemptLog e r.id path) (pruneVictims e.limits r) e

theorem admitPaths_attemptLog (e : FabricEngine) (setId : MultipathSetId) (requests : List MemberRequest) :
    (e.admitPaths setId requests).attemptLog = e.attemptLog :=
  foldl_attemptLog (f := fun e (request : MemberRequest) => e.admitPath setId request.pathId) (fun _ _ => rfl)
    requests e

@[simp] theorem prepared_attemptLog (e : FabricEngine) (r : SetRecord) (op : Op) :
    (e.prepared r op).attemptLog = e.attemptLog := by
  cases op with
  | addMember _ setId request _ => exact admitPaths_attemptLog e setId [request]
  | addMembers _ setId requests => exact admitPaths_attemptLog e setId (requests.map Prod.fst)
  | removeMember _ setId memberId _ =>
      unfold prepared
      dsimp only
      split
      · rfl
      · exact unindexPath_attemptLog e setId _
  | _ => rfl

@[simp] theorem supersedeSuccessor_attemptLog (e : FabricEngine) (context : MutationContext)
    (predecessor successor : MultipathSetId) (r : SetRecord) :
    (e.supersedeSuccessor context predecessor successor r).attemptLog = e.attemptLog := by
  unfold supersedeSuccessor
  rw [putSet_attemptLog, captureSnapshot_attemptLog]

theorem applyViewToSet_attemptLog (e : FabricEngine) (setId : MultipathSetId) (path : PathId)
    (view : Option PathAuthorityView) (context : Option MutationContext) (cause : MembershipCause) :
    (e.applyViewToSet setId path view context cause).1.attemptLog = e.attemptLog := by
  unfold applyViewToSet
  split
  · rfl
  · split
    · rfl
    · split
      · rfl
      · dsimp only
        split
        · rfl
        · rw [putSet_attemptLog, captureSnapshot_attemptLog]

@[simp] theorem applyView_attemptLog (e : FabricEngine) (path : PathId) (view : Option PathAuthorityView)
    (context : Option MutationContext) (cause : MembershipCause) :
    (e.applyView path view context cause).1.attemptLog = e.attemptLog := by
  have happly : ∀ (dependents : List MultipathSetId) (e : FabricEngine),
      (applyViewToSets path view context cause e dependents).1.attemptLog = e.attemptLog := by
    intro dependents
    induction dependents with
    | nil => exact fun _ => rfl
    | cons setId rest ih =>
        intro e
        exact (ih _).trans (applyViewToSet_attemptLog e setId path view context cause)
  unfold applyView
  split
  · rfl
  · exact happly _ e

@[simp] theorem rewriteSets_attemptLog (f : FabricEngine → SetRecord → Option SetRecord) (e : FabricEngine)
    (entries : List (MultipathSetId × SetRecord)) : (rewriteSets f e entries).attemptLog = e.attemptLog := by
  induction entries generalizing e with
  | nil => rfl
  | cons entry rest ih =>
      unfold rewriteSets
      split
      · exact ih e
      · rw [ih, putSet_attemptLog, captureSnapshot_attemptLog]

theorem installSets_attemptLog (e : FabricEngine) (stored : List SetRecord) :
    (e.installSets stored).1.attemptLog = e.attemptLog := by
  induction stored generalizing e with
  | nil => rfl
  | cons r rest ih =>
      unfold installSets
      split
      · rfl
      · split
        · rfl
        · refine (ih _).trans ((captureSnapshot_attemptLog _ _).trans ?_)
          exact foldl_attemptLog (fun e path => indexPath_attemptLog e (e.recoveredSet r).id path)
            (e.recoveredSet r).members.keys { e.putSet (e.recoveredSet r).id (e.recoveredSet r) with
              keyIndex := e.keyIndex.insert (e.recoveredSet r).key (e.recoveredSet r).id }

theorem recordAttempt_logs {e x : FabricEngine} (limits : x.limits = e.limits) (same : x.attemptLog = e.attemptLog)
    (q : Request) (outcome : FabricOutcome) :
    (x.recordAttempt q.context q.operation q.fields outcome).attemptLog =
      record AttemptRecord.attempt AttemptRecord.fingerprint e.limits.maxAttempts.toNat e.attempts e.attemptIndex
        ⟨q.context.attempt, q.fingerprint, outcome⟩ := by
  obtain ⟨hlog, hindex⟩ := Prod.mk.inj same
  rw [recordAttempt_attemptLog, limits, hlog, hindex]
  rfl

theorem sealedCommit_logs {e x : FabricEngine} (limits : x.limits = e.limits) (same : x.attemptLog = e.attemptLog)
    (setId : MultipathSetId) (y : SetRecord) (q : Request) (spec : CommitSpec) (outcome : FabricOutcome) :
    (x.sealedCommit setId y q spec outcome).attemptLog =
      record AttemptRecord.attempt AttemptRecord.fingerprint e.limits.maxAttempts.toNat e.attempts e.attemptIndex
        ⟨q.context.attempt, q.fingerprint, outcome⟩ := by
  refine recordAttempt_logs ?_ ?_ q outcome
  · exact (storeCommitted_keeps _ _ _ _).limits.trans limits
  · rw [storeCommitted_attemptLog, same]

end FabricEngine

open FabricEngine

theorem Answer.attemptLog {e : FabricEngine} {op : Op} {q : Request} {result : FabricEngine × FabricOutcome}
    (h : Answer e op q result) :
    result.1.attemptLog = e.attemptLog ∧ (result.2.succeeded = false ∨ e.Replays op q result.2) ∨
    Admitted e op q ∧ result.2.succeeded = true ∧ result.1.attemptLog =
      record AttemptRecord.attempt AttemptRecord.fingerprint e.limits.maxAttempts.toNat e.attempts e.attemptIndex
        ⟨q.context.attempt, q.fingerprint, result.2⟩ := by
  cases h with
  | refused rejects => exact .inl ⟨rfl, .inl rejects⟩
  | replayed known => exact .inl ⟨rfl, .inr known⟩
  | left _ _ _ _ _ rejects => exact .inl ⟨rfl, .inl rejects⟩
  | answered admitted _ _ _ _ accepted => exact .inr ⟨admitted, accepted, recordAttempt_logs rfl rfl q _⟩
  | committed admitted _ _ _ _ _ _ _ accepted =>
      refine .inr ⟨admitted, accepted, sealedCommit_logs ?_ ?_ _ _ q _ _⟩
      · exact (prepared_keeps _ _ _).limits
      · exact prepared_attemptLog _ _ _
  | superseded _ admitted _ _ _ _ _ _ _ _ _ accepted =>
      refine .inr ⟨admitted, accepted, ?_⟩
      rw [supersedeSuccessor_attemptLog]
      exact sealedCommit_logs rfl rfl _ _ q _ _
  | viewed admitted _ _ _ _ accepted =>
      refine .inr ⟨admitted, accepted, recordAttempt_logs ?_ ?_ q _⟩
      · exact (applyView_keeps _ _).limits
      · rw [applyView_attemptLog]
        rfl
  | created _ admitted _ _ _ _ accepted =>
      refine .inr ⟨admitted, accepted, recordAttempt_logs ?_ ?_ q _⟩
      · exact (captureSnapshot_keeps _ _).limits
      · rw [putSet_attemptLog, captureSnapshot_attemptLog]
        rfl

namespace FabricEngine

theorem after_attemptLog {e : FabricEngine} {op : Op} (request : op.request = none) (kept : op.loads = false) :
    (e.after op).attemptLog = e.attemptLog := by
  cases op with
  | registerPublisher publisher workerBoot scope session =>
      change (e.registerPublisher publisher workerBoot scope session).1.attemptLog = _
      rcases registerPublisher_cases e publisher workerBoot scope session with h | ⟨_, _, _, h | ⟨_, _, h⟩⟩
      · rw [h]
      · rw [h]
        rfl
      · rw [h]
        rfl
  | unregisterPublisher publisher workerBoot =>
      change (e.unregisterPublisher publisher workerBoot).1.attemptLog = _
      rcases unregisterPublisher_cases e publisher workerBoot with h | h
      · rw [h]
      · rw [h]
        rfl
  | fenceWorker publisher workerBoot cause =>
      change (e.fenceWorker publisher workerBoot cause).1.attemptLog = _
      rcases fenceWorker_cases e publisher workerBoot cause with h | ⟨_, _, _, _, _, h⟩
      · rw [h]
      · rw [h, fenceSets, rewriteSets_attemptLog]
        rfl
  | advanceEpoch publisher workerBoot session expected attempt =>
      change (e.advanceEpoch publisher workerBoot session expected attempt).1.attemptLog = _
      rcases advanceEpoch_cases e publisher workerBoot session expected attempt with h | ⟨_, _, _, _, h⟩
      · rw [h]
      · rw [h, rewriteSets_attemptLog]
        rfl
  | beginMemberRevalidation context setId memberId attempt =>
      change (e.beginMemberRevalidation context setId memberId attempt).1.attemptLog = _
      rcases beginMemberRevalidation_cases e context setId memberId attempt with ⟨h, _⟩ | ⟨_, _, _, _, _, h, _⟩
      · rw [h]
      · rw [h, putSet_attemptLog]
  | abandonMemberRevalidation ticket =>
      change (e.abandonMemberRevalidation ticket).1.attemptLog = _
      rcases abandonMemberRevalidation_cases e ticket with ⟨h, _⟩ | ⟨_, _, _, _, h, _⟩
      · rw [h]
      · rw [h, putSet_attemptLog]
  | refreshPath context path view =>
      cases view with
      | none =>
          change (e.refreshPathLocked context path none).1.attemptLog = _
          rw [(refreshPathLocked_unknown e context path).1]
      | some view => cases request
  | reconcilePath path used observed =>
      change (e.reconcilePath path used observed).attemptLog = _
      unfold reconcilePath
      split
      · rfl
      · exact applyView_attemptLog e path observed none .pathInvalidated
  | bindPathAuthority external => rfl
  | loadStore path files => cases kept
  | _ => cases request

end FabricEngine

end MultipathFabric
