import MultipathFabric.FabricAuthority
import MultipathFabric.FabricQuery
import MultipathFabric.Persistence

namespace MultipathFabric

/-- One step on the engine: a locked section, with the views its caller looked up before the lock, or a
reconciliation after one. -/
inductive Op
  | registerPublisher (publisher : PublisherId) (workerBoot : WorkerBootId) (scope : AuthorityScope)
      (session : SessionId)
  | unregisterPublisher (publisher : PublisherId) (workerBoot : WorkerBootId)
  | fenceWorker (publisher : PublisherId) (workerBoot : WorkerBootId) (cause : Bytes)
  | advanceEpoch (publisher : PublisherId) (workerBoot : WorkerBootId) (session : SessionId)
      (expectedEpoch : CoordinatorEpoch) (attempt : MutationAttemptId)
  | createSet (context : MutationContext) (key : SetKey) (options : SetOptions)
  | publishSet (context : MutationContext) (setId : MultipathSetId)
  | setMinimumUsableMembers (context : MutationContext) (setId : MultipathSetId) (minimum : UInt64)
  | setConditionalAuthorityPolicy (context : MutationContext) (setId : MultipathSetId) (permitted : Bool)
  | setAdminEnabled (context : MutationContext) (setId : MultipathSetId) (enabled : Bool)
  | withdrawSet (context : MutationContext) (setId : MultipathSetId) (reason : Bytes)
  | completeWithdrawal (context : MutationContext) (setId : MultipathSetId)
  | revokeSet (context : MutationContext) (setId : MultipathSetId) (reason : RevocationReason) (detail : Bytes)
  | retireSet (context : MutationContext) (setId : MultipathSetId) (reason : Bytes)
  | supersedeSet (context : MutationContext) (predecessor successor : MultipathSetId)
  | addMember (context : MutationContext) (setId : MultipathSetId) (request : MemberRequest)
      (view : Option PathAuthorityView)
  | addMembers (context : MutationContext) (setId : MultipathSetId)
      (requests : List (MemberRequest × Option PathAuthorityView))
  | removeMember (context : MutationContext) (setId : MultipathSetId) (memberId : MultipathMemberId)
      (reason : Bytes)
  | withdrawMember (context : MutationContext) (setId : MultipathSetId) (memberId : MultipathMemberId)
      (reason : Bytes)
  | replaceMember (context : MutationContext) (setId : MultipathSetId) (memberId : MultipathMemberId)
      (request : MemberRequest) (reason : Bytes) (view : Option PathAuthorityView)
  | setMemberAdminEnabled (context : MutationContext) (setId : MultipathSetId) (memberId : MultipathMemberId)
      (enabled : Bool) (view : Option PathAuthorityView)
  | revalidateSet (context : MutationContext) (setId : MultipathSetId) (views : ViewTable)
  | revalidateMember (context : MutationContext) (setId : MultipathSetId) (memberId : MultipathMemberId)
      (looked : Option (Option PathAuthorityView))
  | beginMemberRevalidation (context : MutationContext) (setId : MultipathSetId) (memberId : MultipathMemberId)
      (attempt : RevalidationAttemptId)
  | completeMemberRevalidation (context : MutationContext) (ticket : RevalidationTicket)
      (current : Option PathAuthorityView)
  | abandonMemberRevalidation (ticket : RevalidationTicket)
  | declarePathAuthority (context : MutationContext) (view : PathAuthorityView)
  | applyPathAuthority (context : MutationContext) (view : PathAuthorityView)
  | refreshPath (context : MutationContext) (path : PathId) (view : Option PathAuthorityView)
  | reconcilePath (path : PathId) (used observed : Option PathAuthorityView)
  | bindPathAuthority (external : Bool)
  | loadStore (path : Bytes) (files : StoreFiles)

namespace FabricEngine

def locked (e : FabricEngine) : Op → LockedResult
  | .registerPublisher publisher workerBoot scope session =>
      .answered (e.registerPublisher publisher workerBoot scope session)
  | .unregisterPublisher publisher workerBoot => .answered (e.unregisterPublisher publisher workerBoot)
  | .fenceWorker publisher workerBoot cause => .answered (e.fenceWorker publisher workerBoot cause)
  | .advanceEpoch publisher workerBoot session expectedEpoch attempt =>
      .answered (e.advanceEpoch publisher workerBoot session expectedEpoch attempt)
  | .createSet context key options => .answered (e.createSet context key options)
  | .publishSet context setId => .answered (e.publishSet context setId)
  | .setMinimumUsableMembers context setId minimum => .answered (e.setMinimumUsableMembers context setId minimum)
  | .setConditionalAuthorityPolicy context setId permitted =>
      .answered (e.setConditionalAuthorityPolicy context setId permitted)
  | .setAdminEnabled context setId enabled => .answered (e.setAdminEnabled context setId enabled)
  | .withdrawSet context setId reason => .answered (e.withdrawSet context setId reason)
  | .completeWithdrawal context setId => .answered (e.completeWithdrawal context setId)
  | .revokeSet context setId reason detail => .answered (e.revokeSet context setId reason detail)
  | .retireSet context setId reason => .answered (e.retireSet context setId reason)
  | .supersedeSet context predecessor successor => .answered (e.supersedeSet context predecessor successor)
  | .addMember context setId request view =>
      e.addMembersLocked context setId [(request, view)] (text "add_member") false
  | .addMembers context setId requests => e.addMembersLocked context setId requests (text "add_members") true
  | .removeMember context setId memberId reason => .answered (e.removeMember context setId memberId reason)
  | .withdrawMember context setId memberId reason => .answered (e.withdrawMember context setId memberId reason)
  | .replaceMember context setId memberId request reason view =>
      .answered (e.replaceMemberLocked context setId memberId request reason view)
  | .setMemberAdminEnabled context setId memberId enabled view =>
      .answered (e.setMemberAdminEnabledLocked context setId memberId enabled view)
  | .revalidateSet context setId views => e.revalidateSetLocked context setId views
  | .revalidateMember context setId memberId looked => e.revalidateMemberLocked context setId memberId looked
  | .beginMemberRevalidation context setId memberId attempt =>
      let begun := e.beginMemberRevalidation context setId memberId attempt
      .answered (begun.1, begun.2.1)
  | .completeMemberRevalidation context ticket current =>
      .answered (e.completeMemberRevalidation context ticket current)
  | .abandonMemberRevalidation ticket => .answered (e.abandonMemberRevalidation ticket)
  | .declarePathAuthority context view => .answered (e.declarePathAuthority context view)
  | .applyPathAuthority context view => .answered (e.applyPathAuthority context view)
  | .refreshPath context path view => .answered (e.refreshPathLocked context path view)
  | .reconcilePath path used observed => .answered (e.reconcilePath path used observed, makeOutcome .ok [])
  | .bindPathAuthority external => .answered ({ e with externalPathAuthority := external }, makeOutcome .ok [])
  | .loadStore path files => .answered (e.loadStore path files)

def exec (e : FabricEngine) (op : Op) : FabricEngine × FabricOutcome := (e.locked op).answer

def after (e : FabricEngine) (op : Op) : FabricEngine := (e.locked op).engine

end FabricEngine

inductive Run (allowed : FabricEngine → Op → Prop) (config : FabricConfig) : FabricEngine → Prop
  | init (ids : IdFactory) : Run allowed config (.init config ids)
  | step {e : FabricEngine} (run : Run allowed config e) (op : Op) (h : allowed e op) :
      Run allowed config (e.after op)

abbrev Reachable (config : FabricConfig) : FabricEngine → Prop := Run (fun _ _ => True) config

def FabricEngine.afterAll (e : FabricEngine) (ops : List Op) : FabricEngine := ops.foldl FabricEngine.after e

theorem Run.afterAll {allowed : FabricEngine → Op → Prop} {config : FabricConfig} {ops : List Op}
    (hall : ∀ op ∈ ops, ∀ e, allowed e op) {e : FabricEngine} (h : Run allowed config e) :
    Run allowed config (e.afterAll ops) := by
  induction ops generalizing e with
  | nil => exact h
  | cons op rest ih =>
      exact ih (fun op hop => hall op (List.mem_cons_of_mem _ hop)) (.step h op (hall op List.mem_cons_self e))

theorem Reachable.afterAll {config : FabricConfig} {e : FabricEngine} (h : Reachable config e) (ops : List Op) :
    Reachable config (e.afterAll ops) :=
  Run.afterAll (fun _ _ _ => trivial) h

def sampleId {d : IdDomain} (t : String) : StrongId d := (StrongId.parse (text t)).getD .unset

def sampleIds : IdFactory := ⟨text "7f", 0, by decide, by decide +kernel⟩

def sampleConfig : FabricConfig := ⟨.default, .first, .first⟩

def sampleContext (attempt : String) : MutationContext where
  epoch := .first
  publisher := sampleId "pub"
  workerBoot := sampleId "boot"
  session := sampleId "sess"
  attempt := sampleId attempt
  expectedSetGeneration := none
  expectedMemberGeneration := none

def sampleScope : AuthorityScope := ⟨sampleId "fab", sampleId "ns", []⟩

def sampleKey (name : String) : SetKey := ⟨sampleId "fab", sampleId "ns", sampleId name⟩

def sampleSet : MultipathSetId := sampleId "mpf-set-7f-1"

def sampleMember : MultipathMemberId := sampleId "mpf-mem-7f-2"

def samplePath : PathId := sampleId "pathA"

def sampleView : PathAuthorityView := ⟨samplePath, .first, .authorized⟩

def sampleRequest : MemberRequest := ⟨samplePath, .first⟩

def sampleSteps : List Op :=
  [.registerPublisher (sampleId "pub") (sampleId "boot") sampleScope (sampleId "sess"),
    .createSet (sampleContext "a1") (sampleKey "set") ⟨1, true, false⟩,
    .declarePathAuthority (sampleContext "a2") sampleView,
    .addMember (sampleContext "a3") sampleSet sampleRequest (some sampleView)]

def sampleRun (ops : List Op) : FabricEngine := (FabricEngine.init sampleConfig sampleIds).afterAll ops

theorem sampleRun_reachable (ops : List Op) : Reachable sampleConfig (sampleRun ops) :=
  Reachable.afterAll (.init sampleIds) ops

end MultipathFabric
