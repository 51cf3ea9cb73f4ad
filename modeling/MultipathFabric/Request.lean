import MultipathFabric.RecordStep

namespace MultipathFabric

structure Request where
  context : MutationContext
  operation : Bytes
  fields : List Bytes

namespace Request

def fingerprint (q : Request) : Digest128 := fingerprintRequest q.operation q.fields

def onSet (context : MutationContext) (operation : Bytes) (setId : MultipathSetId) (fields : List Bytes) : Request :=
  ⟨context, operation, [operation, setId.view] ++ fields⟩

def view (context : MutationContext) (operation : Bytes) (view : PathAuthorityView) : Request :=
  ⟨context, operation, FabricEngine.viewFields operation view⟩

end Request

namespace Op

/-- The request of an operation that records its attempts; a refresh is recorded as the application of the view
that it has looked up. -/
def request : Op → Option Request
  | .createSet context key options =>
      some ⟨context, text "create_set",
        [text "create_set", key.render, decimal options.minimumUsableMembers.toNat,
          flagText options.adminEnabled, flagText options.conditionalAuthorityPermitted]⟩
  | .publishSet context setId => some (.onSet context (text "publish_set") setId [])
  | .setMinimumUsableMembers context setId minimum =>
      some (.onSet context (text "set_minimum_usable_members") setId [decimal minimum.toNat])
  | .setConditionalAuthorityPolicy context setId permitted =>
      some (.onSet context (text "set_conditional_authority_policy") setId [flagText permitted])
  | .setAdminEnabled context setId enabled =>
      some (.onSet context (text "set_admin_enabled") setId [flagText enabled])
  | .withdrawSet context setId reason => some (.onSet context (text "withdraw_set") setId [reason])
  | .completeWithdrawal context setId => some (.onSet context (text "complete_withdrawal") setId [])
  | .revokeSet context setId reason detail =>
      some (.onSet context (text "revoke_set") setId [reason.toString, detail])
  | .retireSet context setId reason => some (.onSet context (text "retire_set") setId [reason])
  | .supersedeSet context predecessor successor =>
      some (.onSet context (text "supersede_set") predecessor [successor.view])
  | .addMember context setId request _ =>
      some ⟨context, text "add_member", bulkFields (text "add_member") setId [request]⟩
  | .addMembers context setId requests =>
      some ⟨context, text "add_members", bulkFields (text "add_members") setId (requests.map Prod.fst)⟩
  | .removeMember context setId memberId reason =>
      some (.onSet context (text "remove_member") setId [memberId.view, reason])
  | .withdrawMember context setId memberId reason =>
      some (.onSet context (text "withdraw_member") setId [memberId.view, reason])
  | .replaceMember context setId memberId request reason _ =>
      some (.onSet context (text "replace_member") setId
        [memberId.view, request.pathId.view, decimal request.authorityGeneration.value.toNat, reason])
  | .setMemberAdminEnabled context setId memberId enabled _ =>
      some (.onSet context (text "set_member_admin_enabled") setId [memberId.view, flagText enabled])
  | .revalidateSet context setId _ => some (.onSet context (text "revalidate_set") setId [])
  | .revalidateMember context setId memberId _ =>
      some (.onSet context (text "revalidate_member") setId [memberId.view])
  | .completeMemberRevalidation context ticket _ =>
      some (.onSet context (text "complete_member_revalidation") ticket.setId
        [ticket.memberId.view, ticket.attempt.view])
  | .declarePathAuthority context view => some (.view context (text "declare_path_authority") view)
  | .applyPathAuthority context view => some (.view context (text "apply_path_authority") view)
  | .refreshPath context _ (some view) => some (.view context (text "apply_path_authority") view)
  | _ => none

def context : Op → Option MutationContext
  | .beginMemberRevalidation context _ _ _ => some context
  | .refreshPath context _ _ => some context
  | op => op.request.map Request.context

def names : Op → List MultipathSetId
  | .publishSet _ setId | .setMinimumUsableMembers _ setId _ | .setConditionalAuthorityPolicy _ setId _
  | .setAdminEnabled _ setId _ | .withdrawSet _ setId _ | .completeWithdrawal _ setId | .revokeSet _ setId _ _
  | .retireSet _ setId _ | .addMember _ setId _ _ | .addMembers _ setId _ | .removeMember _ setId _ _
  | .withdrawMember _ setId _ _ | .replaceMember _ setId _ _ _ _ | .setMemberAdminEnabled _ setId _ _ _
  | .revalidateSet _ setId _ | .revalidateMember _ setId _ _ | .beginMemberRevalidation _ setId _ _ => [setId]
  | .supersedeSet _ predecessor successor => [predecessor, successor]
  | .completeMemberRevalidation _ ticket _ => [ticket.setId]
  | _ => []

def subject (op : Op) : Option MultipathSetId := op.names.head?

theorem subject_named {op : Op} {setId : MultipathSetId} (h : op.subject = some setId) : setId ∈ op.names :=
  List.mem_of_head? h

def views : Op → Bool
  | .declarePathAuthority _ _ | .applyPathAuthority _ _ | .refreshPath _ _ _ | .reconcilePath _ _ _ => true
  | _ => false

def residual : Op → Bool
  | .setMinimumUsableMembers _ _ _ | .setConditionalAuthorityPolicy _ _ _ | .setAdminEnabled _ _ _
  | .revalidateSet _ _ _ | .completeMemberRevalidation _ _ _ => true
  | _ => false

/-- The one operation that records its attempts and never looks for them. -/
def unreplayed : Op → Bool
  | .completeMemberRevalidation _ _ _ => true
  | _ => false

def comparesSet : Op → Bool
  | .createSet _ _ _ | .completeWithdrawal _ _ | .withdrawMember _ _ _ _ | .setMemberAdminEnabled _ _ _ _ _
  | .completeMemberRevalidation _ _ _ => false
  | _ => true

def loads : Op → Bool
  | .loadStore _ _ => true
  | _ => false

def member : Op → Option MultipathMemberId
  | .removeMember _ _ memberId _ | .withdrawMember _ _ memberId _ | .replaceMember _ _ memberId _ _ _
  | .setMemberAdminEnabled _ _ memberId _ _ | .revalidateMember _ _ memberId _ => some memberId
  | .completeMemberRevalidation _ ticket _ => some ticket.memberId
  | _ => none

def comparesMember : Op → Bool
  | .withdrawMember _ _ _ _ => false
  | _ => true

def changesMembership : Op → Bool
  | .addMember _ _ _ _ | .addMembers _ _ _ | .removeMember _ _ _ _ | .withdrawMember _ _ _ _
  | .replaceMember _ _ _ _ _ _ => true
  | _ => false

def rechecks : Op → Bool
  | .revalidateMember _ _ _ _ | .completeMemberRevalidation _ _ _ => true
  | _ => false

end Op

namespace FabricEngine

/-- The checks that an operation makes on its caller before it looks for a recorded attempt. -/
def Authorizes (e : FabricEngine) : Op → Prop
  | .createSet context key _ => e.authorityCheck context (some key) none = .ok ()
  | .declarePathAuthority context _ | .applyPathAuthority context _ | .refreshPath context _ _ =>
      ∃ registration, e.pathCallerCheck context = .ok registration
  | op => ∀ context setId, op.context = some context → setId ∈ op.names →
      e.authorityCheck context none (some setId) = .ok ()

end FabricEngine

structure Op.Expects (op : Op) (context : MutationContext) (r : SetRecord) : Prop where
  set : op.comparesSet = true → expectedSetGenerationMatches context r = .ok ()
  member : ∀ memberId, op.member = some memberId → ∃ path m, r.finds memberId path m ∧
    (op.comparesMember = true → expectedMemberGenerationMatches context m = .ok ())

namespace FabricEngine

def admitPaths (e : FabricEngine) (setId : MultipathSetId) (requests : List MemberRequest) : FabricEngine :=
  requests.foldl (fun e request => e.admitPath setId request.pathId) e

def prepared (e : FabricEngine) (r : SetRecord) : Op → FabricEngine
  | .addMember _ setId request _ =>
      { e.admitPaths setId [request] with totalMembers := e.totalMembers + (newLive r [request]).length }
  | .addMembers _ setId requests =>
      { e.admitPaths setId (requests.map Prod.fst) with
        totalMembers := e.totalMembers + (newLive r (requests.map Prod.fst)).length }
  | .removeMember _ setId memberId _ =>
      match r.memberIndex[memberId]? with
      | none => e
      | some path => { e.unindexPath setId path with totalMembers := e.totalMembers - 1 }
  | .replaceMember _ setId _ request _ _ =>
      { e.admitPath setId request.pathId with totalMembers := e.totalMembers + 1 }
  | _ => e

end FabricEngine

end MultipathFabric
