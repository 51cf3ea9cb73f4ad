import MultipathFabric.Engine

namespace MultipathFabric

def deltaDetail (heading : Bytes) (before after : SetLifecycle) : Bytes :=
  heading ++ text "; lifecycle " ++ before.toString ++ text " -> " ++ after.toString

def flagText (flag : Bool) : Bytes := if flag then text "1" else text "0"

def boolText (flag : Bool) : Bytes := if flag then text "true" else text "false"

def permissionText (permitted : Bool) : Bytes := if permitted then text "permitted" else text "denied"

def generationExhausted (setId : MultipathSetId) : FabricOutcome :=
  makeRejection .generationOverflow (text "multipath set generation is exhausted for " ++ setId.view)

def expectedSetGenerationMatches (context : MutationContext) (r : SetRecord) : Checked Unit :=
  match context.expectedSetGeneration with
  | none => .ok ()
  | some expected =>
      Checked.require (r.generation == expected)
        (makeRejection .staleSetGeneration
          (text "expected set generation " ++ decimal expected.value.toNat ++ text " but the set is at " ++
            decimal r.generation.value.toNat))

def SetRecord.transition (r : SetRecord) (event : SetEvent) (setId : MultipathSetId) : Checked SetRecord :=
  match r.applyTransition event with
  | .ok r => .ok r
  | .error _ => .error (lifecycleRejection r.lifecycle setId)

namespace FabricEngine

def admission (e : FabricEngine) (context : MutationContext) (operation : Bytes) (fields : List Bytes)
    (setId : MultipathSetId) : Checked SetRecord := do
  e.authorityCheck context none (some setId)
  Checked.unlessAnswered (e.attemptCheck context operation fields)
  e.requireSet setId

def answerIdempotent (e : FabricEngine) (setId : MultipathSetId) (r : SetRecord) (context : MutationContext)
    (operation : Bytes) (fields : List Bytes) (detail : Bytes) : FabricEngine × FabricOutcome :=
  let outcome := finalizeOutcome r (makeOutcome .idempotent detail)
  ((e.putSet setId r).recordAttempt context operation fields outcome, outcome)

end FabricEngine

structure SetOptions where
  minimumUsableMembers : UInt64
  adminEnabled : Bool
  conditionalAuthorityPermitted : Bool
  deriving DecidableEq

def FabricEngine.declaredRecord (e : FabricEngine) (context : MutationContext) (id : MultipathSetId)
    (key : SetKey) (options : SetOptions) : SetRecord where
  id := id
  key := key
  generation := .first
  membershipGeneration := .first
  authorityGeneration := e.currentAuthorityGeneration
  lifecycle := .declared
  currentness := .current
  adminEnabled := options.adminEnabled
  minimumUsableMembers := options.minimumUsableMembers
  conditionalAuthorityPermitted := options.conditionalAuthorityPermitted
  governingEpoch := e.currentEpoch
  provenance :=
    { publisher := context.publisher
      workerBoot := context.workerBoot
      epoch := context.epoch
      attempt := context.attempt
      setGeneration := .first
      cause := .declared }
  supersededBy := none
  supersedes := none
  revocation := none
  withdrawalReason := []
  history := []
  invalidationWatermark := ⟨0⟩
  members := ∅
  memberIndex := ∅
  usableMemberCount := 0

namespace FabricEngine

def invalidThreshold (e : FabricEngine) (minimumUsableMembers : UInt64) : FabricOutcome :=
  makeRejection .invalidThreshold
    (text "minimum usable members " ++ decimal minimumUsableMembers.toNat ++
      text " exceeds max_members_per_set " ++ decimal e.limits.maxMembersPerSet.toNat)

def createSet (e : FabricEngine) (context : MutationContext) (key : SetKey) (options : SetOptions) :
    FabricEngine × FabricOutcome :=
  conclude e do
    Checked.require key.valid
      (makeRejection .malformedRequest
        (text "set key requires a valid fabric, namespace and set name; received " ++ key.render))
    let fields :=
      [text "create_set", key.render, decimal options.minimumUsableMembers.toNat,
        flagText options.adminEnabled, flagText options.conditionalAuthorityPermitted]
    e.authorityCheck context (some key) none
    Checked.unlessAnswered (e.attemptCheck context (text "create_set") fields)
    Checked.require e.keyIndex[key]?.isNone
      (makeRejection .setKeyConflict (text "a set already exists for key " ++ key.render))
    Checked.require (decide (e.sets.size < e.limits.maxSets.toNat))
      (makeRejection .resourceLimit (text "max_sets limit reached: " ++ decimal e.limits.maxSets.toNat))
    Checked.require (decide (options.minimumUsableMembers ≤ e.limits.maxMembersPerSet))
      (e.invalidThreshold options.minimumUsableMembers)
    let minted := e.ids.nextSetId
    -- `emplace` keeps a set that already carries the minted identity.
    let stored := e.sets[minted.1]?.getD (e.declaredRecord context minted.1 key options)
    let stored := e.appendHistory stored .declare .declared (some context) none none
      (text "declared set " ++ key.render ++ text " minimum=" ++
        decimal options.minimumUsableMembers.toNat)
    let created := { e with ids := minted.2, keyIndex := e.keyIndex.insert key minted.1 }
    let outcome := finalizeOutcome stored (makeOutcome .created (text "created set " ++ key.render))
    pure
      (((created.captureSnapshot stored).putSet minted.1 stored).recordAttempt context (text "create_set")
        fields outcome, outcome)

def publishSet (e : FabricEngine) (context : MutationContext) (setId : MultipathSetId) :
    FabricEngine × FabricOutcome :=
  conclude e do
    Checked.require setId.valid
      (makeRejection .malformedRequest (text "publish_set requires a set identity"))
    let fields := [text "publish_set", setId.view]
    let r ← e.admission context (text "publish_set") fields setId
    expectedSetGenerationMatches context r
    Checked.require r.generation.next.isSome (generationExhausted setId)
    let published ← r.transition .publish setId
    let summary := deltaDetail (text "published set") r.lifecycle published.lifecycle
    pure (e.commitLocked setId published context (text "publish_set") fields
      { advanceSetGeneration := true
        advanceMembershipGeneration := false
        event := .publish
        cause := .setPublished
        memberId := none
        pathId := none
        summary := summary }
      (makeOutcome .setPublished summary))

def setMinimumUsableMembers (e : FabricEngine) (context : MutationContext) (setId : MultipathSetId)
    (minimumUsableMembers : UInt64) : FabricEngine × FabricOutcome :=
  conclude e do
    Checked.require setId.valid
      (makeRejection .malformedRequest (text "set_minimum_usable_members requires a set identity"))
    let fields := [text "set_minimum_usable_members", setId.view, decimal minimumUsableMembers.toNat]
    let r ← e.admission context (text "set_minimum_usable_members") fields setId
    expectedSetGenerationMatches context r
    let checked ← r.transition .minimumChanged setId
    if e.limits.maxMembersPerSet < minimumUsableMembers then
      -- The transition has already recomputed the record when the threshold is rejected.
      pure (e.putSet setId checked, e.invalidThreshold minimumUsableMembers)
    else if checked.minimumUsableMembers = minimumUsableMembers then
      pure (e.answerIdempotent setId checked context (text "set_minimum_usable_members") fields
        (text "minimum usable members already " ++ decimal minimumUsableMembers.toNat))
    else if checked.generation.next.isNone then
      pure (e.putSet setId checked, generationExhausted setId)
    else
      let changed := { checked with minimumUsableMembers := minimumUsableMembers }
      let changed := changed.recompute
      let summary := text "minimum usable members " ++ decimal checked.minimumUsableMembers.toNat ++
        text " -> " ++ decimal minimumUsableMembers.toNat ++ text " lifecycle=" ++ changed.lifecycle.toString
      pure (e.commitLocked setId changed context (text "set_minimum_usable_members") fields
        { advanceSetGeneration := true
          advanceMembershipGeneration := false
          event := .minimumChanged
          cause := .minimumChanged
          memberId := none
          pathId := none
          summary := summary }
        (makeOutcome .updated summary))

def setConditionalAuthorityPolicy (e : FabricEngine) (context : MutationContext) (setId : MultipathSetId)
    (permitted : Bool) : FabricEngine × FabricOutcome :=
  conclude e do
    Checked.require setId.valid
      (makeRejection .malformedRequest (text "set_conditional_authority_policy requires a set identity"))
    let fields := [text "set_conditional_authority_policy", setId.view, flagText permitted]
    let r ← e.admission context (text "set_conditional_authority_policy") fields setId
    expectedSetGenerationMatches context r
    let checked ← r.transition .policyChanged setId
    if checked.conditionalAuthorityPermitted = permitted then
      pure (e.answerIdempotent setId checked context (text "set_conditional_authority_policy") fields
        (text "conditional Path Authority policy already " ++ permissionText permitted))
    else if checked.generation.next.isNone then
      pure (e.putSet setId checked, generationExhausted setId)
    else
      let changed := { checked with conditionalAuthorityPermitted := permitted }
      let summary := text "conditional Path Authority policy -> " ++ permissionText permitted
      pure (e.commitLocked setId changed.reevaluateMembersFromObservations context
        (text "set_conditional_authority_policy") fields
        { advanceSetGeneration := true
          advanceMembershipGeneration := false
          event := .policyChanged
          cause := .policyChanged
          memberId := none
          pathId := none
          summary := summary }
        (makeOutcome .updated summary))

def setAdminEnabled (e : FabricEngine) (context : MutationContext) (setId : MultipathSetId)
    (enabled : Bool) : FabricEngine × FabricOutcome :=
  conclude e do
    Checked.require setId.valid
      (makeRejection .malformedRequest (text "set_admin_enabled requires a set identity"))
    let fields := [text "set_admin_enabled", setId.view, flagText enabled]
    let r ← e.admission context (text "set_admin_enabled") fields setId
    expectedSetGenerationMatches context r
    let event : SetEvent := if enabled then .adminEnabled else .adminDisabled
    let checked ← r.transition event setId
    if checked.adminEnabled = enabled then
      pure (e.answerIdempotent setId checked context (text "set_admin_enabled") fields
        (text "administrative enablement already " ++ boolText enabled))
    else if checked.generation.next.isNone then
      pure (e.putSet setId checked, generationExhausted setId)
    else
      let changed := { checked with adminEnabled := enabled }
      let changed := changed.recompute
      let summary := text "administrative enablement -> " ++ boolText enabled ++ text " lifecycle=" ++
        changed.lifecycle.toString
      pure (e.commitLocked setId changed context (text "set_admin_enabled") fields
        { advanceSetGeneration := true
          advanceMembershipGeneration := false
          event := event
          cause := if enabled then .adminEnabled else .adminDisabled
          memberId := none
          pathId := none
          summary := summary }
        (makeOutcome .updated summary))

def withdrawSet (e : FabricEngine) (context : MutationContext) (setId : MultipathSetId) (reason : Bytes) :
    FabricEngine × FabricOutcome :=
  conclude e do
    Checked.require setId.valid
      (makeRejection .malformedRequest (text "withdraw_set requires a set identity"))
    Checked.require (decide (reason.length ≤ 256))
      (makeRejection .malformedRequest (text "withdrawal reason exceeds the 256 character bound"))
    let fields := [text "withdraw_set", setId.view, reason]
    let r ← e.admission context (text "withdraw_set") fields setId
    expectedSetGenerationMatches context r
    if r.lifecycle = .withdrawing then
      if r.withdrawalReason = reason then
        pure (e.answerIdempotent setId r context (text "withdraw_set") fields
          (text "set is already withdrawing for the same reason"))
      else
        .error (makeRejection .invalidLifecycleTransition
          (text "set is already withdrawing for a different reason"))
    else
      Checked.require r.generation.next.isSome (generationExhausted setId)
      let moved ← r.transition .beginWithdraw setId
      let moved := { moved with withdrawalReason := reason }
      let moved := moved.recompute
      let withdrawn := applyMemberConsequences e moved r.lifecycle moved.lifecycle (some context)
      let summary := text "withdrawal begun: " ++ reason
      pure (e.commitLocked setId withdrawn context (text "withdraw_set") fields
        { advanceSetGeneration := true
          advanceMembershipGeneration := false
          event := .beginWithdraw
          cause := .setWithdrawn
          memberId := none
          pathId := none
          summary := summary }
        (makeOutcome .setWithdrawing summary))

def completeWithdrawal (e : FabricEngine) (context : MutationContext) (setId : MultipathSetId) :
    FabricEngine × FabricOutcome :=
  conclude e do
    Checked.require setId.valid
      (makeRejection .malformedRequest (text "complete_withdrawal requires a set identity"))
    let fields := [text "complete_withdrawal", setId.view]
    let r ← e.admission context (text "complete_withdrawal") fields setId
    Checked.require r.generation.next.isSome (generationExhausted setId)
    let withdrawn ← r.transition .completeWithdraw setId
    let summary := text "withdrawal completed"
    pure (e.commitLocked setId withdrawn context (text "complete_withdrawal") fields
      { advanceSetGeneration := true
        advanceMembershipGeneration := false
        event := .completeWithdraw
        cause := .setWithdrawn
        memberId := none
        pathId := none
        summary := summary }
      (makeOutcome .setWithdrawn summary))

end FabricEngine

def RevocationRecord.render (revocation : RevocationRecord) : Bytes :=
  text "set=" ++ revocation.setId.view ++ text " generation=" ++ decimal revocation.generation.value.toNat ++
    text " authority_gen=" ++ decimal revocation.authorityGeneration.value.toNat ++ text " epoch=" ++
    decimal revocation.epoch.value.toNat ++ text " publisher=" ++ revocation.publisher.view ++
    text " reason=" ++ revocation.reason.toString ++
    if revocation.detail.isEmpty then [] else text " detail=\"" ++ revocation.detail ++ text "\""

namespace FabricEngine

def revokeSet (e : FabricEngine) (context : MutationContext) (setId : MultipathSetId)
    (reason : RevocationReason) (detail : Bytes) : FabricEngine × FabricOutcome :=
  conclude e do
    Checked.require setId.valid
      (makeRejection .malformedRequest (text "revoke_set requires a set identity"))
    Checked.require (decide (detail.length ≤ 512))
      (makeRejection .malformedRequest (text "revocation detail exceeds the 512 character bound"))
    let fields := [text "revoke_set", setId.view, reason.toString, detail]
    let r ← e.admission context (text "revoke_set") fields setId
    expectedSetGenerationMatches context r
    match (if r.lifecycle = .revoked then r.revocation else none) with
    | some revocation =>
        if revocation.reason = reason ∧ revocation.detail = detail then
          pure (e.answerIdempotent setId r context (text "revoke_set") fields
            (text "set is already revoked with the same reason code"))
        else
          .error (makeRejection .revoked
            (text "set is already revoked with a different reason code: " ++ revocation.render))
    | none =>
        let nextGeneration ← Checked.present r.generation.next (generationExhausted setId)
        let moved ← r.transition .revoke setId
        -- The revocation records the generation produced by the commit that makes it durable.
        let revocation : RevocationRecord :=
          { setId := setId
            generation := nextGeneration
            authorityGeneration := e.currentAuthorityGeneration
            epoch := context.epoch
            publisher := context.publisher
            reason := reason
            detail := detail }
        let moved := { moved with revocation := some revocation }
        let revoked := applyMemberConsequences e moved r.lifecycle moved.lifecycle (some context)
        let summary := text "revoked: " ++ reason.toString ++
          if detail.isEmpty then [] else text " (" ++ detail ++ text ")"
        pure (e.commitLocked setId revoked context (text "revoke_set") fields
          { advanceSetGeneration := true
            advanceMembershipGeneration := false
            event := .revoke
            cause := .setRevoked
            memberId := none
            pathId := none
            summary := summary }
          (makeOutcome .setRevoked summary))

def retireSet (e : FabricEngine) (context : MutationContext) (setId : MultipathSetId) (reason : Bytes) :
    FabricEngine × FabricOutcome :=
  conclude e do
    Checked.require setId.valid
      (makeRejection .malformedRequest (text "retire_set requires a set identity"))
    Checked.require (decide (reason.length ≤ 256))
      (makeRejection .malformedRequest (text "retirement reason exceeds the 256 character bound"))
    let fields := [text "retire_set", setId.view, reason]
    let r ← e.admission context (text "retire_set") fields setId
    expectedSetGenerationMatches context r
    Checked.require r.generation.next.isSome (generationExhausted setId)
    let moved ← r.transition .retire setId
    let retired := applyMemberConsequences e moved r.lifecycle moved.lifecycle (some context)
    let summary := text "retired: " ++ reason
    pure (e.commitLocked setId retired context (text "retire_set") fields
      { advanceSetGeneration := true
        advanceMembershipGeneration := false
        event := .retire
        cause := .setRetired
        memberId := none
        pathId := none
        summary := summary }
      (makeOutcome .setRetired summary))

def supersedeSuccessor (e : FabricEngine) (context : MutationContext) (predecessor successor : MultipathSetId)
    (newRecord : SetRecord) : FabricEngine :=
  let newRecord := e.appendHistory newRecord .supersede .setSuperseded (some context) none none
    (text "supersedes " ++ predecessor.view)
  (e.captureSnapshot newRecord).putSet successor newRecord

def supersedeSet (e : FabricEngine) (context : MutationContext) (predecessor successor : MultipathSetId) :
    FabricEngine × FabricOutcome :=
  conclude e do
    Checked.require (predecessor.valid && successor.valid)
      (makeRejection .malformedRequest (text "supersede_set requires two valid set identities"))
    Checked.require (predecessor != successor)
      (makeRejection .malformedRequest (text "a set cannot supersede itself: " ++ predecessor.view))
    let fields := [text "supersede_set", predecessor.view, successor.view]
    e.authorityCheck context none (some predecessor)
    e.authorityCheck context none (some successor)
    Checked.unlessAnswered (e.attemptCheck context (text "supersede_set") fields)
    let oldRecord ← e.requireSet predecessor
    let newRecord ← e.requireSet successor
    expectedSetGenerationMatches context oldRecord
    if oldRecord.supersededBy = some successor then
      pure (e.answerIdempotent predecessor oldRecord context (text "supersede_set") fields
        (text "set is already superseded by the same successor"))
    else
      Checked.require oldRecord.generation.next.isSome (generationExhausted predecessor)
      let moved ← oldRecord.transition .supersede predecessor
      let moved := { moved with supersededBy := some successor }
      let newRecord := { newRecord with supersedes := some predecessor }
      let superseded := applyMemberConsequences e moved oldRecord.lifecycle moved.lifecycle (some context)
      let summary := text "superseded by " ++ successor.view
      let committed := (e.putSet successor newRecord).commitLocked predecessor superseded context
        (text "supersede_set") fields
        { advanceSetGeneration := true
          advanceMembershipGeneration := false
          event := .supersede
          cause := .setSuperseded
          memberId := none
          pathId := none
          summary := summary }
        (makeOutcome .setSuperseded summary)
      pure (if committed.2.succeeded then
          (committed.1.supersedeSuccessor context predecessor successor newRecord, committed.2)
        else committed)

end FabricEngine

end MultipathFabric
