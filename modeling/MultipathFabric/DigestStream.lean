import MultipathFabric.Fingerprints

namespace MultipathFabric

open ByteCodec

def tagged (tag value : Bytes) : Bytes := chunk tag ++ chunk value

def flagByte (flag : Bool) : UInt8 := if flag then 1 else 0

namespace CoveredMember

def marks (m : CoveredMember) : Bytes := [m.lifecycle.raw, m.currentness.raw, flagByte m.adminEnabled]

def stream (m : CoveredMember) : Bytes :=
  tagged (text "member") m.id.view ++ (tagged (text "member_path") m.pathId.view ++
    (tagged (text "member_path_authority_generation") (decimal m.boundAuthorityGeneration.value.toNat) ++
      (tagged (text "member_generation") (decimal m.generation.value.toNat) ++ m.marks)))

end CoveredMember

def revocationStream (revocation : Option CoveredRevocation) : Bytes :=
  match revocation with
  | some r =>
      1 :: r.reason.raw :: (tagged (text "revocation_detail") r.detail ++
        tagged (text "revocation_generation") (decimal r.generation.value.toNat))
  | none => [0]

/-- The bytes that the lanes are fed for a set, from the front. -/
def CoveredState.stream (c : CoveredState) : Bytes :=
  tagged (text "domain") (text "multipath-fabric.set.v1") ++ (tagged (text "set_id") c.id.view ++
  (tagged (text "fabric") c.key.fabric.view ++ (tagged (text "namespace") c.key.nameSpace.view ++
  (tagged (text "name") c.key.name.view ++
  (tagged (text "set_generation") (decimal c.generation.value.toNat) ++
  (tagged (text "membership_generation") (decimal c.membershipGeneration.value.toNat) ++
  (tagged (text "authority_generation") (decimal c.authorityGeneration.value.toNat) ++
  (c.lifecycle.raw :: c.currentness.raw :: flagByte c.adminEnabled ::
  (tagged (text "minimum_usable_members") (decimal c.minimumUsableMembers.toNat) ++
  (flagByte c.conditionalAuthorityPermitted ::
  (tagged (text "governing_epoch") (decimal c.governingEpoch.value.toNat) ++
  (tagged (text "superseded_by") (viewOrDash c.supersededBy) ++
  (tagged (text "supersedes") (viewOrDash c.supersedes) ++
  (revocationStream c.revocation ++ (tagged (text "member_count") (decimal c.members.length) ++
  c.members.flatMap CoveredMember.stream)))))))))))))))

def SetRecord.stream (r : SetRecord) : Bytes := r.covered.stream

section Absorbed

variable (d : DigestBuilder)

theorem absorbTagged_eq (tag value : Bytes) :
    d.absorbTagged tag value = (tagged tag value).foldl DigestBuilder.absorbByte d := by
  rw [tagged, List.foldl_append, ← absorbBytes_eq, ← absorbBytes_eq]
  rfl

theorem absorbBool_eq (flag : Bool) : d.absorbBool flag = d.absorbByte (flagByte flag) := rfl

theorem absorbCovered_eq (m : CoveredMember) : absorbCovered d m = m.stream.foldl DigestBuilder.absorbByte d := by
  simp only [absorbCovered, absorbMember, absorbTagged_eq, absorbBool_eq, CoveredMember.stream, CoveredMember.marks,
    List.foldl_append, List.foldl_cons, List.foldl_nil]

theorem absorbCovered_members (members : List CoveredMember) :
    members.foldl absorbCovered d = (members.flatMap CoveredMember.stream).foldl DigestBuilder.absorbByte d := by
  induction members generalizing d with
  | nil => rfl
  | cons m rest ih => rw [List.foldl_cons, List.flatMap_cons, List.foldl_append, ih, absorbCovered_eq]

end Absorbed

theorem computeSetDigest_eq (r : SetRecord) : computeSetDigest r = Request.digestOf r.stream := by
  have hsize := size_of_covered r.members
  unfold computeSetDigest Request.digestOf SetRecord.stream CoveredState.stream
  simp only [absorb_members, absorbCovered_members, absorbTagged_eq, absorbBool_eq, List.foldl_append, List.foldl_cons,
    hsize]
  cases hrevocation : r.revocation with
  | none => simp [SetRecord.covered, hrevocation, revocationStream, flagByte]
  | some revocation =>
      simp [SetRecord.covered, hrevocation, revocationStream, flagByte, RevocationRecord.covered, List.foldl_append]

section Parts

variable {α : Type} {a b s t tag : Bytes}

theorem tagged_inj (ha : a.length < 2 ^ 64) (hb : b.length < 2 ^ 64) (h : tagged tag a ++ s = tagged tag b ++ t) :
    a = b ∧ s = t := by
  simp only [tagged, List.append_assoc] at h
  exact chunk_inj ha hb (List.append_cancel_left h)

theorem view_length_lt {d : IdDomain} (id : StrongId d) : id.view.length < 2 ^ 64 := by
  have hbound := id.length_le_maxId
  have hmax : maxIdLength = 128 := rfl
  omega

theorem decimal_length_lt (n : UInt64) : (decimal n.toNat).length < 2 ^ 64 := by
  have hdigits := decimal_length_of_u64 n
  omega

theorem viewOrDash_length_lt {d : IdDomain} (id : Option (StrongId d)) : (viewOrDash id).length < 2 ^ 64 := by
  cases id with
  | none =>
      change (text "-").length < 2 ^ 64
      decide
  | some id => exact view_length_lt id

theorem flagByte_injective : Function.Injective flagByte := by
  intro a b h
  cases a <;> cases b
  all_goals first
    | rfl
    | exact absurd h (by decide)

theorem tagged_id_inj {d : IdDomain} {x y : StrongId d} (h : tagged tag x.view ++ s = tagged tag y.view ++ t) :
    x = y ∧ s = t := by
  obtain ⟨hview, hrest⟩ := tagged_inj (view_length_lt x) (view_length_lt y) h
  exact ⟨StrongId.ext hview, hrest⟩

theorem tagged_number_inj {m n : UInt64} (h : tagged tag (decimal m.toNat) ++ s = tagged tag (decimal n.toNat) ++ t) :
    m = n ∧ s = t := by
  obtain ⟨hdigits, hrest⟩ := tagged_inj (decimal_length_lt m) (decimal_length_lt n) h
  exact ⟨decimal_u64_inj hdigits, hrest⟩

theorem tagged_generation_inj {d : GenerationDomain} {m n : Generation d}
    (h : tagged tag (decimal m.value.toNat) ++ s = tagged tag (decimal n.value.toNat) ++ t) : m = n ∧ s = t := by
  obtain ⟨hvalue, hrest⟩ := tagged_number_inj h
  exact ⟨Generation.ext hvalue, hrest⟩

theorem tagged_link_inj {d : IdDomain} {x y : Option (StrongId d)}
    (h : tagged tag (viewOrDash x) ++ s = tagged tag (viewOrDash y) ++ t) : x = y ∧ s = t := by
  obtain ⟨htext, hrest⟩ := tagged_inj (viewOrDash_length_lt x) (viewOrDash_length_lt y) h
  exact ⟨viewOrDash_injective htext, hrest⟩

theorem raw_inj {raw : α → UInt8} {fromRaw : UInt8 → Option α} (back : ∀ x, fromRaw (raw x) = some x) {x y : α}
    (h : raw x = raw y) : x = y := by
  have hx := back x
  rw [h, back y] at hx
  exact (Option.some.inj hx).symm

theorem CoveredMember.stream_inj {m n : CoveredMember} (h : m.stream ++ s = n.stream ++ t) : m = n ∧ s = t := by
  simp only [stream, marks, List.append_assoc, List.cons_append, List.nil_append] at h
  obtain ⟨hid, h⟩ := tagged_id_inj h
  obtain ⟨hpath, h⟩ := tagged_id_inj h
  obtain ⟨hbound, h⟩ := tagged_generation_inj h
  obtain ⟨hgeneration, h⟩ := tagged_generation_inj h
  obtain ⟨hlifecycle, h⟩ := List.cons.inj h
  obtain ⟨hcurrentness, h⟩ := List.cons.inj h
  obtain ⟨hadmin, hrest⟩ := List.cons.inj h
  have hlife := raw_inj MemberLifecycle.fromRaw_raw hlifecycle
  have hcurrent := raw_inj MemberCurrentness.fromRaw_raw hcurrentness
  have henabled := flagByte_injective hadmin
  cases m
  cases n
  dsimp only at *
  subst hid hpath hbound hgeneration hlife hcurrent henabled
  exact ⟨rfl, hrest⟩

theorem CoveredMember.streams_inj {ms ns : List CoveredMember} (hlength : ms.length = ns.length)
    (h : ms.flatMap stream = ns.flatMap stream) : ms = ns := by
  induction ms generalizing ns with
  | nil => exact (List.length_eq_zero_iff.mp hlength.symm).symm
  | cons m ms ih =>
      cases ns with
      | nil => cases hlength
      | cons n ns =>
          obtain ⟨hfirst, hrest⟩ := stream_inj h
          rw [hfirst, ih (Nat.succ.inj hlength) hrest]

structure CoveredState.Fits (c : CoveredState) : Prop where
  members : c.members.length < 2 ^ 64
  detail : ∀ r, c.revocation = some r → r.detail.length < 2 ^ 64

theorem revocationStream_inj {x y : Option CoveredRevocation} (hx : ∀ r, x = some r → r.detail.length < 2 ^ 64)
    (hy : ∀ r, y = some r → r.detail.length < 2 ^ 64) (h : revocationStream x ++ s = revocationStream y ++ t) :
    x = y ∧ s = t := by
  have hflags : (1 : UInt8) ≠ 0 := by decide
  cases x with
  | none =>
      cases y with
      | none => exact ⟨rfl, (List.cons.inj h).2⟩
      | some r => exact absurd (List.cons.inj h).1.symm hflags
  | some r =>
      cases y with
      | none => exact absurd (List.cons.inj h).1 hflags
      | some r' =>
          simp only [revocationStream, List.cons_append, List.append_assoc, List.cons.injEq, true_and] at h
          obtain ⟨hreason, h⟩ := h
          obtain ⟨hdetail, h⟩ := tagged_inj (hx r rfl) (hy r' rfl) h
          obtain ⟨hgeneration, hrest⟩ := tagged_generation_inj h
          have hsame := raw_inj RevocationReason.fromRaw_raw hreason
          cases r
          cases r'
          dsimp only at *
          subst hsame hdetail hgeneration
          exact ⟨rfl, hrest⟩

theorem length_of_decimal {m n : ℕ} (hm : m < 2 ^ 64) (hn : n < 2 ^ 64) (h : decimal m = decimal n) : m = n := by
  have hparsed := Wire.parseU64Digits_decimal m hm
  rw [h, Wire.parseU64Digits_decimal n hn] at hparsed
  exact (Option.some.inj hparsed).symm

theorem CoveredState.stream_inj {c x : CoveredState} (hc : c.Fits) (hx : x.Fits) (h : c.stream = x.stream) : c = x := by
  have hdigits : ∀ {n : ℕ}, n < 2 ^ 64 → (decimal n).length < 2 ^ 64 := by
    intro n hn
    have hbound := decimal_length_lt (UInt64.ofNat n)
    rwa [UInt64.toNat_ofNat', Nat.mod_eq_of_lt hn] at hbound
  unfold stream at h
  have h := List.append_cancel_left h
  obtain ⟨hid, h⟩ := tagged_id_inj h
  obtain ⟨hfabric, h⟩ := tagged_id_inj h
  obtain ⟨hspace, h⟩ := tagged_id_inj h
  obtain ⟨hname, h⟩ := tagged_id_inj h
  obtain ⟨hgeneration, h⟩ := tagged_generation_inj h
  obtain ⟨hmembership, h⟩ := tagged_generation_inj h
  obtain ⟨hauthority, h⟩ := tagged_generation_inj h
  simp only [List.cons.injEq] at h
  obtain ⟨hlifecycle, hcurrentness, hadmin, h⟩ := h
  obtain ⟨hminimum, h⟩ := tagged_number_inj h
  obtain ⟨hpermitted, h⟩ := List.cons.inj h
  obtain ⟨hepoch, h⟩ := tagged_generation_inj h
  obtain ⟨hby, h⟩ := tagged_link_inj h
  obtain ⟨hsupersedes, h⟩ := tagged_link_inj h
  obtain ⟨hrevocation, h⟩ := revocationStream_inj hc.detail hx.detail h
  obtain ⟨hcount, hmembers⟩ := tagged_inj (hdigits hc.members) (hdigits hx.members) h
  have hlength := length_of_decimal hc.members hx.members hcount
  have hall := CoveredMember.streams_inj hlength hmembers
  have hlife := raw_inj SetLifecycle.fromRaw_raw hlifecycle
  have hcurrent := raw_inj SetCurrentness.fromRaw_raw hcurrentness
  have henabled := flagByte_injective hadmin
  have hconditional := flagByte_injective hpermitted
  obtain ⟨_, ⟨_, _, _⟩, _, _, _, _, _, _, _, _, _, _, _, _, _⟩ := c
  obtain ⟨_, ⟨_, _, _⟩, _, _, _, _, _, _, _, _, _, _, _, _, _⟩ := x
  dsimp only at *
  subst hid hfabric hspace hname hgeneration hmembership hauthority hlife hcurrent henabled hminimum hconditional hepoch
    hby hsupersedes hrevocation hall
  rfl

end Parts

def Keyed (members : MemberMap) : Prop := ∀ (path : PathId) (m : MemberRecord), members[path]? = some m → m.pathId = path

theorem lookup_of_coveredMembers {ms ns : MemberMap} (keyed : Keyed ms) (keyed' : Keyed ns)
    (h : coveredMembers ms = coveredMembers ns) {path : PathId} {m : MemberRecord} (hm : ms[path]? = some m) :
    (ns[path]?).map MemberRecord.covered = some m.covered := by
  have hmem : m.covered ∈ coveredMembers ns := by
    rw [← h]
    exact List.mem_map.mpr ⟨(path, m), Std.ExtTreeMap.mem_toList_iff_getElem?_eq_some.mpr hm, rfl⟩
  obtain ⟨⟨other, n⟩, hn, hsame⟩ := List.mem_map.mp hmem
  have hlookup := Std.ExtTreeMap.mem_toList_iff_getElem?_eq_some.mp hn
  have hpath : n.pathId = m.pathId := congrArg CoveredMember.pathId hsame
  rw [keyed' other n hlookup, keyed path m hm] at hpath
  rw [← hpath, hlookup, Option.map_some]
  exact congrArg some hsame

theorem coveredMembers_eq_iff {ms ns : MemberMap} (keyed : Keyed ms) (keyed' : Keyed ns) :
    coveredMembers ms = coveredMembers ns ↔
      ∀ path : PathId, (ms[path]?).map MemberRecord.covered = (ns[path]?).map MemberRecord.covered := by
  constructor
  · intro h path
    cases hm : ms[path]? with
    | some m => exact (lookup_of_coveredMembers keyed keyed' h hm).symm
    | none =>
        cases hn : ns[path]? with
        | none => rfl
        | some n =>
            have hback := lookup_of_coveredMembers keyed' keyed h.symm hn
            rw [hm] at hback
            cases hback
  · intro h
    have hmaps : (ms.map fun _ m => m.covered) = ns.map fun _ m => m.covered := by
      apply Std.ExtTreeMap.ext_getElem?
      intro path
      rw [Std.ExtTreeMap.getElem?_map, Std.ExtTreeMap.getElem?_map]
      exact h path
    have hlists := congrArg (fun t : Std.ExtTreeMap PathId CoveredMember => t.toList.map Prod.snd) hmaps
    simp only [Std.ExtTreeMap.toList_map, List.map_map] at hlists
    exact hlists

theorem ofList_perm {entries others : List (PathId × MemberRecord)} (perm : entries.Perm others)
    (distinct : (entries.map Prod.fst).Nodup) :
    (Std.ExtTreeMap.ofList entries : MemberMap) = Std.ExtTreeMap.ofList others := by
  have happart : ∀ l : List (PathId × MemberRecord), (l.map Prod.fst).Nodup →
      l.Pairwise fun a b => ¬compare a.1 b.1 = .eq := by
    intro l hl
    refine (List.pairwise_map.mp hl).imp fun {a b} hne hsame => ?_
    exact hne (Std.LawfulEqOrd.eq_of_compare hsame)
  have hothers := (perm.map Prod.fst).nodup_iff.mp distinct
  apply Std.ExtTreeMap.ext_getElem?
  intro path
  by_cases hpath : path ∈ entries.map Prod.fst
  · obtain ⟨⟨k, m⟩, hm, rfl⟩ := List.mem_map.mp hpath
    rw [Std.ExtTreeMap.getElem?_ofList_of_mem Std.ReflOrd.compare_self (happart _ distinct) hm,
      Std.ExtTreeMap.getElem?_ofList_of_mem Std.ReflOrd.compare_self (happart _ hothers) (perm.mem_iff.mp hm)]
  · have hleft : (entries.map Prod.fst).contains path = false := by simpa using hpath
    have hright : (others.map Prod.fst).contains path = false := by
      rw [(perm.map Prod.fst).mem_iff] at hpath
      simpa using hpath
    rw [Std.ExtTreeMap.getElem?_ofList_of_contains_eq_false hleft,
      Std.ExtTreeMap.getElem?_ofList_of_contains_eq_false hright]

theorem SetRecord.stream_canonical (r x : SetRecord) (fits : r.covered.Fits) (fits' : x.covered.Fits) :
    (computeSetDigest r = Request.digestOf r.stream ∧ computeSetDigest x = Request.digestOf x.stream) ∧
    (r.stream = x.stream ↔ r.covered = x.covered) ∧
    (Keyed r.members → Keyed x.members → (r.covered.members = x.covered.members ↔
      ∀ path : PathId, (r.members[path]?).map MemberRecord.covered = (x.members[path]?).map MemberRecord.covered)) ∧
    (∀ entries others : List (PathId × MemberRecord), entries.Perm others → (entries.map Prod.fst).Nodup →
      { r with members := Std.ExtTreeMap.ofList entries }.stream =
        { r with members := Std.ExtTreeMap.ofList others }.stream) := by
  refine ⟨⟨computeSetDigest_eq r, computeSetDigest_eq x⟩, ⟨CoveredState.stream_inj fits fits', ?_⟩,
    fun keyed keyed' => coveredMembers_eq_iff keyed keyed', fun entries others perm distinct => ?_⟩
  · intro hsame
    exact congrArg CoveredState.stream hsame
  · rw [ofList_perm perm distinct]

theorem SetRecord.stream_canonical_sample :
    ∃ r x : SetRecord, (sampleRun sampleSteps).sets[sampleSet]? = some r ∧
      (sampleRun (sampleSteps ++ [.withdrawSet (sampleContext "a4") sampleSet []])).sets[sampleSet]? = some x ∧
        (r.stream = x.stream ↔ r.covered = x.covered) := by
  have hsome : ((sampleRun sampleSteps).sets[sampleSet]?).isSome = true ∧
      ((sampleRun (sampleSteps ++ [.withdrawSet (sampleContext "a4") sampleSet []])).sets[sampleSet]?).isSome = true ∧
      (∀ r ∈ (sampleRun sampleSteps).sets[sampleSet]?, r.covered.members.length = 1 ∧ r.covered.revocation = none) ∧
      ∀ r ∈ (sampleRun (sampleSteps ++ [.withdrawSet (sampleContext "a4") sampleSet []])).sets[sampleSet]?,
        r.covered.members.length = 1 ∧ r.covered.revocation = none := by
    decide +kernel
  obtain ⟨hr, hx, hfirst, hsecond⟩ := hsome
  obtain ⟨r, hr⟩ := Option.isSome_iff_exists.mp hr
  obtain ⟨x, hx⟩ := Option.isSome_iff_exists.mp hx
  have hfits : ∀ y : SetRecord, y.covered.members.length = 1 ∧ y.covered.revocation = none → y.covered.Fits := by
    rintro y ⟨hcount, hnone⟩
    constructor
    · rw [hcount]
      decide
    · intro revocation hsome
      rw [hnone] at hsome
      cases hsome
  exact ⟨r, x, hr, hx,
    (SetRecord.stream_canonical r x (hfits r (hfirst r hr)) (hfits x (hsecond x hx))).2.1⟩

end MultipathFabric
