import MultipathFabric.Authority
import MultipathFabric.Digest
import MultipathFabric.PathAuthority

namespace MultipathFabric

structure SetKey where
  fabric : FabricId
  nameSpace : MultipathNamespace
  name : MultipathSetName
  deriving DecidableEq

namespace SetKey

def valid (k : SetKey) : Bool := k.fabric.valid && k.nameSpace.valid && k.name.valid

def render (k : SetKey) : Bytes :=
  orUnset k.fabric.view ++ text "/" ++ orUnset k.nameSpace.view ++ text "/" ++ orUnset k.name.view

instance : Ord SetKey :=
  ⟨compareLex (compareOn fabric) (compareLex (compareOn nameSpace) (compareOn name))⟩

instance : Std.TransOrd SetKey :=
  inferInstanceAs (Std.TransCmp (compareLex (compareOn fabric) (compareLex (compareOn nameSpace) (compareOn name))))

instance : Std.LawfulEqOrd SetKey where
  eq_of_compare {a b} h := by
    change compareLex (compareOn fabric) (compareLex (compareOn nameSpace) (compareOn name)) a b = .eq at h
    simp only [compareLex_eq_eq, compareOn, Std.compare_eq_iff_eq] at h
    obtain ⟨hfabric, hspace, hname⟩ := h
    cases a
    cases b
    simp_all

end SetKey

structure WorkerKey where
  publisher : PublisherId
  workerBoot : WorkerBootId
  deriving DecidableEq

namespace WorkerKey

instance : Ord WorkerKey := ⟨compareLex (compareOn publisher) (compareOn workerBoot)⟩

instance : Std.TransOrd WorkerKey :=
  inferInstanceAs (Std.TransCmp (compareLex (compareOn publisher) (compareOn workerBoot)))

instance : Std.LawfulEqOrd WorkerKey where
  eq_of_compare {a b} h := by
    change compareLex (compareOn publisher) (compareOn workerBoot) a b = .eq at h
    simp only [compareLex_eq_eq, compareOn, Std.compare_eq_iff_eq] at h
    obtain ⟨hpublisher, hboot⟩ := h
    cases a
    cases b
    simp_all

end WorkerKey

structure MemberRecord where
  id : MultipathMemberId
  pathId : PathId
  boundAuthorityGeneration : PathAuthorityGeneration
  generation : MultipathMemberGeneration
  lifecycle : MemberLifecycle
  currentness : MemberCurrentness
  adminEnabled : Bool
  invalidationWatermark : Watermark
  pendingRevalidations : UInt32
  provenance : MembershipProvenance
  predecessor : Option MultipathMemberId
  successor : Option MultipathMemberId
  observedAuthorityGeneration : Option PathAuthorityGeneration
  observedAuthorityState : Option PathAuthorityState
  deriving DecidableEq

namespace MemberRecord

def fresh : MemberRecord where
  id := .unset
  pathId := .unset
  boundAuthorityGeneration := .unset
  generation := .unset
  lifecycle := .pending
  currentness := .pendingEvaluation
  adminEnabled := true
  invalidationWatermark := ⟨0⟩
  pendingRevalidations := 0
  provenance := .unset
  predecessor := none
  successor := none
  observedAuthorityGeneration := none
  observedAuthorityState := none

def usable (m : MemberRecord) : Bool := memberIsUsable m.lifecycle m.currentness

end MemberRecord

def memberInputsUsable (m : MemberRecord) : Bool := memberIsUsable m.lifecycle m.currentness && m.adminEnabled

def memberIsTerminal (m : MemberRecord) : Bool :=
  m.lifecycle == .withdrawn || m.lifecycle == .superseded || m.lifecycle == .retired

structure HistoryEntry where
  setGeneration : MultipathSetGeneration
  event : SetEvent
  cause : MembershipCause
  publisher : PublisherId
  epoch : CoordinatorEpoch
  memberId : Option MultipathMemberId
  pathId : Option PathId
  summary : Bytes
  deriving DecidableEq

abbrev MemberMap := Std.ExtTreeMap PathId MemberRecord

structure SetRecord where
  id : MultipathSetId
  key : SetKey
  generation : MultipathSetGeneration
  membershipGeneration : MembershipGeneration
  authorityGeneration : MultipathAuthorityGeneration
  lifecycle : SetLifecycle
  currentness : SetCurrentness
  adminEnabled : Bool
  minimumUsableMembers : UInt64
  conditionalAuthorityPermitted : Bool
  governingEpoch : CoordinatorEpoch
  provenance : MembershipProvenance
  supersededBy : Option MultipathSetId
  supersedes : Option MultipathSetId
  revocation : Option RevocationRecord
  withdrawalReason : Bytes
  history : List HistoryEntry
  invalidationWatermark : Watermark
  members : MemberMap
  memberIndex : Std.ExtTreeMap MultipathMemberId PathId
  usableMemberCount : Nat

def usableCount (members : MemberMap) : Nat := (members.filter fun _ m => m.usable).size

def liveCount (members : MemberMap) : Nat := (members.filter fun _ m => !memberIsTerminal m).size

namespace SetRecord

def published (r : SetRecord) : Bool := r.lifecycle != .declared

def recomputeUsableMembers (r : SetRecord) : Nat := usableCount r.members

end SetRecord

def liveMemberCount (r : SetRecord) : Nat := liveCount r.members

def setIsConsumable (r : SetRecord) : Bool :=
  if !r.published || !r.adminEnabled then false
  else if r.currentness != .current then false
  else r.lifecycle == .active || r.lifecycle == .degraded

def consumableMemberCount (r : SetRecord) : Nat := if setIsConsumable r then r.usableMemberCount else 0

def absorbMember (b : DigestBuilder) (m : MemberRecord) : DigestBuilder :=
  let b := b.absorbTagged (text "member") m.id.view
  let b := b.absorbTagged (text "member_path") m.pathId.view
  let b := b.absorbTagged (text "member_path_authority_generation")
    (decimal m.boundAuthorityGeneration.value.toNat)
  let b := b.absorbTagged (text "member_generation") (decimal m.generation.value.toNat)
  let b := b.absorbByte m.lifecycle.raw
  let b := b.absorbByte m.currentness.raw
  b.absorbBool m.adminEnabled

def viewOrDash {d : IdDomain} (id : Option (StrongId d)) : Bytes :=
  match id with
  | some id => id.view
  | none => text "-"

/-- The semantic digest: a canonical byte stream, independent of insertion order. -/
def computeSetDigest (r : SetRecord) : Digest128 :=
  let b := DigestBuilder.start.absorbTagged (text "domain") (text "multipath-fabric.set.v1")
  let b := b.absorbTagged (text "set_id") r.id.view
  let b := b.absorbTagged (text "fabric") r.key.fabric.view
  let b := b.absorbTagged (text "namespace") r.key.nameSpace.view
  let b := b.absorbTagged (text "name") r.key.name.view
  let b := b.absorbTagged (text "set_generation") (decimal r.generation.value.toNat)
  let b := b.absorbTagged (text "membership_generation") (decimal r.membershipGeneration.value.toNat)
  let b := b.absorbTagged (text "authority_generation") (decimal r.authorityGeneration.value.toNat)
  let b := b.absorbByte r.lifecycle.raw
  let b := b.absorbByte r.currentness.raw
  let b := b.absorbBool r.adminEnabled
  let b := b.absorbTagged (text "minimum_usable_members") (decimal r.minimumUsableMembers.toNat)
  let b := b.absorbBool r.conditionalAuthorityPermitted
  let b := b.absorbTagged (text "governing_epoch") (decimal r.governingEpoch.value.toNat)
  let b := b.absorbTagged (text "superseded_by") (viewOrDash r.supersededBy)
  let b := b.absorbTagged (text "supersedes") (viewOrDash r.supersedes)
  let b :=
    match r.revocation with
    | some revocation =>
        ((((b.absorbBool true).absorbByte revocation.reason.raw).absorbTagged (text "revocation_detail")
          revocation.detail).absorbTagged (text "revocation_generation")
            (decimal revocation.generation.value.toNat))
    | none => b.absorbBool false
  let b := b.absorbTagged (text "member_count") (decimal r.members.size)
  (r.members.toList.foldl (fun b entry => absorbMember b entry.2) b).finish

structure MemberSnapshot where
  id : MultipathMemberId
  pathId : PathId
  boundAuthorityGeneration : PathAuthorityGeneration
  generation : MultipathMemberGeneration
  lifecycle : MemberLifecycle
  currentness : MemberCurrentness
  adminEnabled : Bool
  usable : Bool
  invalidationWatermark : Watermark
  pendingRevalidations : UInt32
  predecessor : Option MultipathMemberId
  successor : Option MultipathMemberId
  provenance : MembershipProvenance
  deriving DecidableEq

structure SetSnapshot where
  snapshotId : SnapshotId
  setId : MultipathSetId
  key : SetKey
  generation : MultipathSetGeneration
  membershipGeneration : MembershipGeneration
  authorityGeneration : MultipathAuthorityGeneration
  lifecycle : SetLifecycle
  currentness : SetCurrentness
  readiness : RouteReadiness
  adminEnabled : Bool
  minimumUsableMembers : UInt64
  conditionalAuthorityPermitted : Bool
  usableMemberCount : Nat
  memberCount : Nat
  governingEpoch : CoordinatorEpoch
  provenance : MembershipProvenance
  supersededBy : Option MultipathSetId
  supersedes : Option MultipathSetId
  revocation : Option RevocationRecord
  withdrawalReason : Bytes
  members : List MemberSnapshot
  history : List HistoryEntry
  digest : Digest128
  deriving DecidableEq

def makeMemberSnapshot (m : MemberRecord) : MemberSnapshot where
  id := m.id
  pathId := m.pathId
  boundAuthorityGeneration := m.boundAuthorityGeneration
  generation := m.generation
  lifecycle := m.lifecycle
  currentness := m.currentness
  adminEnabled := m.adminEnabled
  usable := memberInputsUsable m
  invalidationWatermark := m.invalidationWatermark
  pendingRevalidations := m.pendingRevalidations
  predecessor := m.predecessor
  successor := m.successor
  provenance := m.provenance

theorem hexDigit_allowed (n : Nat) (h : n < 16) :
    idCharAllowed (Digest128.hexDigit n) = true ∧ idEdgeCharAllowed (Digest128.hexDigit n) = true := by
  interval_cases n <;> decide +kernel

theorem laneHex_allowed (lane : UInt64) :
    ∀ c ∈ Digest128.laneHex lane, idCharAllowed c = true ∧ idEdgeCharAllowed c = true := by
  intro c hc
  obtain ⟨i, _, rfl⟩ := List.mem_map.mp hc
  exact hexDigit_allowed _ (Nat.mod_lt _ (by decide))

theorem snapshotId_allowed (digest : Digest128) :
    idTextAllowed .snapshot (text "snap-" ++ digest.toHex) = true := by
  have hlow : ∀ c ∈ digest.toHex, idCharAllowed c = true ∧ idEdgeCharAllowed c = true := by
    intro c hc
    rcases List.mem_append.mp hc with hc | hc
    · exact laneHex_allowed _ c hc
    · exact laneHex_allowed _ c hc
  have hne : digest.toHex ≠ [] := by
    intro hnil
    have hlen := digest.toHex_length
    rw [hnil] at hlen
    cases hlen
  have hlast : (text "snap-" ++ digest.toHex).getLast?.all idEdgeCharAllowed = true := by
    rw [List.getLast?_append, List.getLast?_eq_some_getLast hne]
    exact (hlow _ (List.getLast_mem hne)).2
  have hall : (text "snap-" ++ digest.toHex).all idCharAllowed = true := by
    rw [List.all_append, Bool.and_eq_true]
    exact ⟨by decide +kernel, List.all_eq_true.mpr fun c hc => (hlow c hc).1⟩
  have hlen : (text "snap-" ++ digest.toHex).length ≤ IdDomain.snapshot.maxLength := by
    rw [List.length_append, digest.toHex_length]
    decide
  have hempty : (text "snap-" ++ digest.toHex).isEmpty = false := rfl
  have hhead : (text "snap-" ++ digest.toHex).head?.all idEdgeCharAllowed = true := rfl
  simp only [idTextAllowed, hempty, hlen, hall, hhead, hlast, decide_true, Bool.not_false, Bool.and_self]

def snapshotIdFor (digest : Digest128) : SnapshotId :=
  ⟨text "snap-" ++ digest.toHex, .inr (snapshotId_allowed digest)⟩

def makeSnapshot (r : SetRecord) : SetSnapshot where
  snapshotId := snapshotIdFor (computeSetDigest r)
  setId := r.id
  key := r.key
  generation := r.generation
  membershipGeneration := r.membershipGeneration
  authorityGeneration := r.authorityGeneration
  lifecycle := r.lifecycle
  currentness := r.currentness
  readiness := routeReadiness r.lifecycle r.currentness
  adminEnabled := r.adminEnabled
  minimumUsableMembers := r.minimumUsableMembers
  conditionalAuthorityPermitted := r.conditionalAuthorityPermitted
  usableMemberCount := r.usableMemberCount
  memberCount := r.members.size
  governingEpoch := r.governingEpoch
  provenance := r.provenance
  supersededBy := r.supersededBy
  supersedes := r.supersedes
  revocation := r.revocation
  withdrawalReason := r.withdrawalReason
  members := r.members.toList.map fun entry => makeMemberSnapshot entry.2
  history := r.history
  digest := computeSetDigest r

end MultipathFabric
