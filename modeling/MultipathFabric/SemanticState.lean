import MultipathFabric.Records

namespace MultipathFabric

structure CoveredMember where
  id : MultipathMemberId
  pathId : PathId
  boundAuthorityGeneration : PathAuthorityGeneration
  generation : MultipathMemberGeneration
  lifecycle : MemberLifecycle
  currentness : MemberCurrentness
  adminEnabled : Bool
  deriving DecidableEq

structure CoveredRevocation where
  reason : RevocationReason
  detail : Bytes
  generation : MultipathSetGeneration
  deriving DecidableEq

structure CoveredState where
  id : MultipathSetId
  key : SetKey
  generation : MultipathSetGeneration
  membershipGeneration : MembershipGeneration
  authorityGeneration : MultipathAuthorityGeneration
  lifecycle : SetLifecycle
  currentness : SetCurrentness
  adminEnabled : Bool
  minimumUsableMembers : UInt64
  conditionalAuthorityPermitted : Bool
  governingEpoch : CoordinatorEpoch
  supersededBy : Option MultipathSetId
  supersedes : Option MultipathSetId
  revocation : Option CoveredRevocation
  members : List CoveredMember
  deriving DecidableEq

def MemberRecord.covered (m : MemberRecord) : CoveredMember :=
  ⟨m.id, m.pathId, m.boundAuthorityGeneration, m.generation, m.lifecycle, m.currentness, m.adminEnabled⟩

def MemberSnapshot.covered (m : MemberSnapshot) : CoveredMember :=
  ⟨m.id, m.pathId, m.boundAuthorityGeneration, m.generation, m.lifecycle, m.currentness, m.adminEnabled⟩

def RevocationRecord.covered (revocation : RevocationRecord) : CoveredRevocation :=
  ⟨revocation.reason, revocation.detail, revocation.generation⟩

def coveredMembers (members : MemberMap) : List CoveredMember :=
  members.toList.map fun entry => entry.2.covered

def SetRecord.covered (r : SetRecord) : CoveredState where
  id := r.id
  key := r.key
  generation := r.generation
  membershipGeneration := r.membershipGeneration
  authorityGeneration := r.authorityGeneration
  lifecycle := r.lifecycle
  currentness := r.currentness
  adminEnabled := r.adminEnabled
  minimumUsableMembers := r.minimumUsableMembers
  conditionalAuthorityPermitted := r.conditionalAuthorityPermitted
  governingEpoch := r.governingEpoch
  supersededBy := r.supersededBy
  supersedes := r.supersedes
  revocation := r.revocation.map RevocationRecord.covered
  members := coveredMembers r.members

def SetSnapshot.covered (s : SetSnapshot) : CoveredState where
  id := s.setId
  key := s.key
  generation := s.generation
  membershipGeneration := s.membershipGeneration
  authorityGeneration := s.authorityGeneration
  lifecycle := s.lifecycle
  currentness := s.currentness
  adminEnabled := s.adminEnabled
  minimumUsableMembers := s.minimumUsableMembers
  conditionalAuthorityPermitted := s.conditionalAuthorityPermitted
  governingEpoch := s.governingEpoch
  supersededBy := s.supersededBy
  supersedes := s.supersedes
  revocation := s.revocation.map RevocationRecord.covered
  members := s.members.map MemberSnapshot.covered

@[simp] theorem makeSnapshot_covered (r : SetRecord) : (makeSnapshot r).covered = r.covered := by
  have hmembers : (makeSnapshot r).members.map MemberSnapshot.covered = coveredMembers r.members := by
    change (r.members.toList.map fun entry => makeMemberSnapshot entry.2).map MemberSnapshot.covered = _
    rw [List.map_map]
    rfl
  unfold SetSnapshot.covered
  rw [hmembers]
  rfl

def absorbCovered (b : DigestBuilder) (m : CoveredMember) : DigestBuilder :=
  absorbMember b
    { MemberRecord.fresh with
      id := m.id
      pathId := m.pathId
      boundAuthorityGeneration := m.boundAuthorityGeneration
      generation := m.generation
      lifecycle := m.lifecycle
      currentness := m.currentness
      adminEnabled := m.adminEnabled }

theorem absorb_members (b : DigestBuilder) (members : MemberMap) :
    members.toList.foldl (fun b entry => absorbMember b entry.2) b = (coveredMembers members).foldl absorbCovered b := by
  unfold coveredMembers
  rw [List.foldl_map]
  rfl

theorem size_of_covered (members : MemberMap) : members.size = (coveredMembers members).length := by
  rw [coveredMembers, List.length_map, Std.ExtTreeMap.length_toList]

theorem digest_of_covered {r x : SetRecord} (h : x.covered = r.covered) : computeSetDigest x = computeSetDigest r := by
  have hrevocation := congrArg CoveredState.revocation h
  have hmembers : coveredMembers x.members = coveredMembers r.members := congrArg CoveredState.members h
  have hid : x.id = r.id := congrArg CoveredState.id h
  have hkey : x.key = r.key := congrArg CoveredState.key h
  have hgeneration : x.generation = r.generation := congrArg CoveredState.generation h
  have hmembership : x.membershipGeneration = r.membershipGeneration := congrArg CoveredState.membershipGeneration h
  have hauthority : x.authorityGeneration = r.authorityGeneration := congrArg CoveredState.authorityGeneration h
  have hlifecycle : x.lifecycle = r.lifecycle := congrArg CoveredState.lifecycle h
  have hcurrentness : x.currentness = r.currentness := congrArg CoveredState.currentness h
  have henabled : x.adminEnabled = r.adminEnabled := congrArg CoveredState.adminEnabled h
  have hminimum : x.minimumUsableMembers = r.minimumUsableMembers := congrArg CoveredState.minimumUsableMembers h
  have hpermitted : x.conditionalAuthorityPermitted = r.conditionalAuthorityPermitted :=
    congrArg CoveredState.conditionalAuthorityPermitted h
  have hepoch : x.governingEpoch = r.governingEpoch := congrArg CoveredState.governingEpoch h
  have hsupersededBy : x.supersededBy = r.supersededBy := congrArg CoveredState.supersededBy h
  have hsupersedes : x.supersedes = r.supersedes := congrArg CoveredState.supersedes h
  unfold computeSetDigest
  simp only [absorb_members, size_of_covered, hmembers, hid, hkey, hgeneration, hmembership, hauthority, hlifecycle,
    hcurrentness, henabled, hminimum, hpermitted, hepoch, hsupersededBy, hsupersedes]
  change x.revocation.map RevocationRecord.covered = r.revocation.map RevocationRecord.covered at hrevocation
  cases hx : x.revocation with
  | none =>
      rw [hx, Option.map_none, eq_comm, Option.map_eq_none_iff] at hrevocation
      rw [hrevocation]
  | some revocation =>
      rw [hx, Option.map_some, eq_comm, Option.map_eq_some_iff] at hrevocation
      obtain ⟨other, hother, hsame⟩ := hrevocation
      have hreason : other.reason = revocation.reason := congrArg CoveredRevocation.reason hsame
      have hdetail : other.detail = revocation.detail := congrArg CoveredRevocation.detail hsame
      have hrevoked : other.generation = revocation.generation := congrArg CoveredRevocation.generation hsame
      rw [hother]
      dsimp only
      rw [hreason, hdetail, hrevoked]

section SnapshotIds

theorem hexDigit_inj : ∀ a b : Fin 16, Digest128.hexDigit a = Digest128.hexDigit b → a = b := by decide

theorem laneHex_inj {a b : UInt64} (h : Digest128.laneHex a = Digest128.laneHex b) : a = b := by
  have hnibble : ∀ i < 16, a.toNat >>> (60 - 4 * i) % 2 ^ 4 = b.toNat >>> (60 - 4 * i) % 2 ^ 4 := by
    intro i hi
    have hdigit := List.map_inj_left.mp h i (List.mem_range.mpr hi)
    have hfin := hexDigit_inj ⟨_, Nat.mod_lt _ (by decide)⟩ ⟨_, Nat.mod_lt _ (by decide)⟩ hdigit
    exact congrArg Fin.val hfin
  have hbit (n j : Nat) (hj : j < 64) : n.testBit j = (n >>> (60 - 4 * (15 - j / 4)) % 2 ^ 4).testBit (j % 4) := by
    have hlow : j % 4 < 4 := Nat.mod_lt _ (by decide)
    rw [Nat.testBit_mod_two_pow, decide_eq_true hlow, Bool.true_and, Nat.testBit_shiftRight]
    congr 1
    omega
  apply UInt64.toNat_inj.mp
  apply Nat.eq_of_testBit_eq
  intro j
  by_cases hj : j < 64
  · rw [hbit a.toNat j hj, hbit b.toNat j hj, hnibble (15 - j / 4) (by omega)]
  · have hpow : 2 ^ 64 ≤ 2 ^ j := Nat.pow_le_pow_right (by decide) (Nat.le_of_not_lt hj)
    rw [Nat.testBit_lt_two_pow (lt_of_lt_of_le a.toNat_lt hpow), Nat.testBit_lt_two_pow (lt_of_lt_of_le b.toNat_lt hpow)]

theorem snapshotIdFor_inj {a b : Digest128} : snapshotIdFor a = snapshotIdFor b ↔ a = b := by
  constructor
  · intro h
    have hview : text "snap-" ++ a.toHex = text "snap-" ++ b.toHex := congrArg StrongId.view h
    have hlanes := List.append_inj (List.append_cancel_left hview) (by simp [Digest128.laneHex])
    cases a
    cases b
    rw [Digest128.mk.injEq]
    exact ⟨laneHex_inj hlanes.1, laneHex_inj hlanes.2⟩
  · exact fun h => congrArg snapshotIdFor h

end SnapshotIds

end MultipathFabric
