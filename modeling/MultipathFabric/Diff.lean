import MultipathFabric.MemberIndex
import MultipathFabric.Rendering
import MultipathFabric.SnapshotHistory

namespace MultipathFabric

open OrderedMap

inductive DiffKind
  | setGenerationChanged | membershipGenerationChanged | authorityGenerationChanged | setLifecycleChanged
  | setCurrentnessChanged | readinessChanged | setAdminChanged | minimumChanged | conditionalPolicyChanged
  | governingEpochChanged | usableCountChanged | supersededByChanged | revocationChanged
  | withdrawalReasonChanged | memberAdded | memberRemoved | memberPathAuthorityGenerationChanged
  | memberLifecycleChanged | memberCurrentnessChanged | memberAdminChanged | memberGenerationChanged
  | memberPendingRevalidationsChanged
  deriving DecidableEq

def DiffKind.raw : DiffKind → UInt8
  | .setGenerationChanged => 1
  | .membershipGenerationChanged => 2
  | .authorityGenerationChanged => 3
  | .setLifecycleChanged => 4
  | .setCurrentnessChanged => 5
  | .readinessChanged => 6
  | .setAdminChanged => 7
  | .minimumChanged => 8
  | .conditionalPolicyChanged => 9
  | .governingEpochChanged => 10
  | .usableCountChanged => 11
  | .supersededByChanged => 12
  | .revocationChanged => 13
  | .withdrawalReasonChanged => 14
  | .memberAdded => 15
  | .memberRemoved => 16
  | .memberPathAuthorityGenerationChanged => 17
  | .memberLifecycleChanged => 18
  | .memberCurrentnessChanged => 19
  | .memberAdminChanged => 20
  | .memberGenerationChanged => 21
  | .memberPendingRevalidationsChanged => 22

structure DiffEntry where
  kind : DiffKind
  subject : Bytes
  before : Bytes
  after : Bytes
  deriving DecidableEq

instance : Ord DiffEntry :=
  ⟨compareLex (compareOn fun entry => entry.kind.raw) (compareLex (compareOn DiffEntry.subject)
    (compareLex (compareOn DiffEntry.before) (compareOn DiffEntry.after)))⟩

instance : Std.TransOrd DiffEntry :=
  inferInstanceAs (Std.TransCmp (compareLex (compareOn fun entry : DiffEntry => entry.kind.raw)
    (compareLex (compareOn DiffEntry.subject) (compareLex (compareOn DiffEntry.before) (compareOn DiffEntry.after)))))

structure SnapshotDiff where
  setId : MultipathSetId
  beforeSnapshot : SnapshotId
  afterSnapshot : SnapshotId
  beforeGeneration : MultipathSetGeneration
  afterGeneration : MultipathSetGeneration
  beforeDigest : Digest128
  afterDigest : Digest128
  identical : Bool
  entries : List DiffEntry
  deriving DecidableEq

def addEntry (kind : DiffKind) (subject before after : Bytes) : List DiffEntry :=
  if before = after then [] else [⟨kind, subject, before, after⟩]

def SetSnapshot.shown (s : SetSnapshot) : DiffKind → Bytes
  | .setGenerationChanged => decimal s.generation.value.toNat
  | .membershipGenerationChanged => decimal s.membershipGeneration.value.toNat
  | .authorityGenerationChanged => decimal s.authorityGeneration.value.toNat
  | .setLifecycleChanged => s.lifecycle.toString
  | .setCurrentnessChanged => s.currentness.toString
  | .readinessChanged => s.readiness.toString
  | .setAdminChanged => boolText s.adminEnabled
  | .minimumChanged => decimal s.minimumUsableMembers.toNat
  | .conditionalPolicyChanged => boolText s.conditionalAuthorityPermitted
  | .governingEpochChanged => decimal s.governingEpoch.value.toNat
  | .usableCountChanged => decimal s.usableMemberCount
  | .supersededByChanged => viewOrDash s.supersededBy
  | .revocationChanged => (s.revocation.map RevocationRecord.render).getD (text "-")
  | .withdrawalReasonChanged => s.withdrawalReason
  | _ => []

def setKinds : List DiffKind :=
  [.setGenerationChanged, .membershipGenerationChanged, .authorityGenerationChanged, .setLifecycleChanged,
    .setCurrentnessChanged, .readinessChanged, .setAdminChanged, .minimumChanged, .conditionalPolicyChanged,
    .governingEpochChanged, .usableCountChanged, .supersededByChanged, .revocationChanged, .withdrawalReasonChanged]

def MemberSnapshot.shown (m : MemberSnapshot) : DiffKind → Bytes
  | .memberPathAuthorityGenerationChanged => decimal m.boundAuthorityGeneration.value.toNat
  | .memberLifecycleChanged => m.lifecycle.toString
  | .memberCurrentnessChanged => m.currentness.toString
  | .memberAdminChanged => boolText m.adminEnabled
  | .memberGenerationChanged => decimal m.generation.value.toNat
  | .memberPendingRevalidationsChanged => decimal m.pendingRevalidations.toNat
  | _ => []

def memberKinds : List DiffKind :=
  [.memberPathAuthorityGenerationChanged, .memberLifecycleChanged, .memberCurrentnessChanged, .memberAdminChanged,
    .memberGenerationChanged, .memberPendingRevalidationsChanged]

abbrev MemberTable := Std.ExtTreeMap PathId MemberSnapshot

def memberTable (members : List MemberSnapshot) : MemberTable :=
  members.foldl (fun table m => table.insert m.pathId m) ∅

def allPaths (before after : MemberTable) : List PathId :=
  ((before.keys ++ after.keys.filter fun path => !before.contains path).mergeSort
    fun a b => (compare a b).isLE).eraseDups

def setEntries (before after : SetSnapshot) : List DiffEntry :=
  setKinds.flatMap fun kind => addEntry kind (text "-") (before.shown kind) (after.shown kind)

def memberEntries (before after : MemberTable) (path : PathId) : List DiffEntry :=
  match before[path]?, after[path]? with
  | some left, none => addEntry .memberRemoved path.view left.id.view (text "-")
  | none, some right => addEntry .memberAdded path.view (text "-") right.id.view
  | some left, some right =>
      (if left.id = right.id then []
        else addEntry .memberRemoved path.view left.id.view (text "-") ++
          addEntry .memberAdded path.view (text "-") right.id.view) ++
      memberKinds.flatMap fun kind => addEntry kind path.view (left.shown kind) (right.shown kind)
  -- The paths are those of the two tables.
  | none, none => []

def foundEntries (before after : SetSnapshot) : List DiffEntry :=
  setEntries before after ++
    (allPaths (memberTable before.members) (memberTable after.members)).flatMap
      (memberEntries (memberTable before.members) (memberTable after.members))

def diffSnapshots (before after : SetSnapshot) : Option SnapshotDiff :=
  if before.setId = after.setId then
    some
      { setId := before.setId
        beforeSnapshot := before.snapshotId
        afterSnapshot := after.snapshotId
        beforeGeneration := before.generation
        afterGeneration := after.generation
        beforeDigest := before.digest
        afterDigest := after.digest
        identical := (foundEntries before after).isEmpty
        entries := (foundEntries before after).mergeSort fun a b => (compare a b).isLE }
  else none

section Tables

variable {members : List MemberSnapshot} {before after : MemberTable} {path : PathId} {m : MemberSnapshot}

theorem memberTable_concat (members : List MemberSnapshot) (m : MemberSnapshot) :
    memberTable (members ++ [m]) = (memberTable members).insert m.pathId m := by
  unfold memberTable
  rw [List.foldl_append]
  rfl

theorem memberTable_mem (distinct : (members.map MemberSnapshot.pathId).Nodup) :
    (memberTable members)[path]? = some m ↔ m ∈ members ∧ m.pathId = path := by
  induction members using List.reverseRecOn with
  | nil =>
      change (∅ : MemberTable)[path]? = some m ↔ m ∈ [] ∧ m.pathId = path
      rw [Std.ExtTreeMap.getElem?_empty]
      exact ⟨fun h => (by cases h), fun h => (by cases h.1)⟩
  | append_singleton members last ih =>
      rw [List.map_append, List.map_singleton, List.nodup_append] at distinct
      rw [memberTable_concat, getElem?_insert_eq, List.mem_append, List.mem_singleton]
      split
      · rename_i hpath
        constructor
        · intro h
          cases h
          exact ⟨.inr rfl, hpath⟩
        · rintro ⟨hm | hm, hm'⟩
          · refine absurd (hm'.trans hpath.symm) (distinct.2.2 _ (List.mem_map_of_mem hm) _ List.mem_cons_self)
          · rw [hm]
      · rename_i hpath
        rw [ih distinct.1]
        constructor
        · exact fun h => ⟨.inl h.1, h.2⟩
        · rintro ⟨hm | hm, hm'⟩
          · exact ⟨hm, hm'⟩
          · exact absurd (hm ▸ hm') hpath

theorem memberTable_find (distinct : (members.map MemberSnapshot.pathId).Nodup) (path : PathId) :
    (memberTable members)[path]? = members.find? fun m => m.pathId == path := by
  cases hfind : members.find? fun m => m.pathId == path with
  | none =>
      rw [List.find?_eq_none] at hfind
      by_contra hsome
      obtain ⟨m, hm⟩ := Option.ne_none_iff_exists'.mp hsome
      obtain ⟨hmem, hpath⟩ := (memberTable_mem distinct).mp hm
      exact hfind m hmem (beq_iff_eq.mpr hpath)
  | some m =>
      rw [memberTable_mem distinct]
      have hpath := @List.find?_some _ (fun m : MemberSnapshot => m.pathId == path) _ _ hfind
      exact ⟨List.mem_of_find?_eq_some hfind, beq_iff_eq.mp hpath⟩

theorem memberTable_perm {left : List MemberSnapshot} (distinct : (members.map MemberSnapshot.pathId).Nodup)
    (perm : left.Perm members) : memberTable left = memberTable members := by
  refine Std.ExtTreeMap.ext_getElem? fun path => Option.ext fun m => ?_
  rw [memberTable_mem distinct, memberTable_mem ((perm.map _).nodup_iff.mpr distinct), perm.mem_iff]

theorem mem_allPaths : path ∈ allPaths before after ↔ path ∈ before ∨ path ∈ after := by
  unfold allPaths
  rw [List.mem_eraseDups, List.mem_mergeSort, List.mem_append, List.mem_filter, Std.ExtTreeMap.mem_keys,
    Std.ExtTreeMap.mem_keys]
  constructor
  · exact Or.imp_right And.left
  · intro h
    by_cases hbefore : path ∈ before
    · exact .inl hbefore
    · refine .inr ⟨h.resolve_left hbefore, ?_⟩
      rw [Bool.not_eq_true', ← Bool.not_eq_true, Std.ExtTreeMap.contains_iff_mem]
      exact hbefore

end Tables

section Entries

variable {kind : DiffKind} {subject left right : Bytes} {entry : DiffEntry} {before after : SetSnapshot}

theorem mem_addEntry : entry ∈ addEntry kind subject left right ↔ left ≠ right ∧ entry = ⟨kind, subject, left, right⟩ := by
  unfold addEntry
  split
  · rename_i h
    exact ⟨fun hentry => (by cases hentry), fun hentry => absurd h hentry.1⟩
  · rename_i h
    rw [List.mem_singleton]
    exact ⟨fun hentry => ⟨h, hentry⟩, And.right⟩

theorem setEntries_mem (listed : kind ∈ setKinds) (h : before.shown kind ≠ after.shown kind) :
    ⟨kind, text "-", before.shown kind, after.shown kind⟩ ∈ foundEntries before after := by
  refine List.mem_append_left _ (List.mem_flatMap.mpr ⟨kind, listed, ?_⟩)
  exact mem_addEntry.mpr ⟨h, rfl⟩

theorem memberEntries_mem {path : PathId}
    (h : entry ∈ memberEntries (memberTable before.members) (memberTable after.members) path) :
    entry ∈ foundEntries before after := by
  refine List.mem_append_right _ (List.mem_flatMap.mpr ⟨path, mem_allPaths.mpr ?_, h⟩)
  by_contra hneither
  rw [not_or] at hneither
  unfold memberEntries at h
  rw [Std.ExtTreeMap.getElem?_eq_none hneither.1, Std.ExtTreeMap.getElem?_eq_none hneither.2] at h
  cases h

end Entries

inductive SetField
  | key | generation | membershipGeneration | authorityGeneration | lifecycle | currentness | adminEnabled
  | minimumUsableMembers | conditionalAuthorityPermitted | governingEpoch | supersededBy | supersedes | revocation
  deriving DecidableEq

inductive MemberField
  | boundAuthorityGeneration | generation | lifecycle | currentness | adminEnabled
  deriving DecidableEq

inductive CoveredField
  | ofSet (field : SetField)
  | relation (path : PathId)
  | ofMember (path : PathId) (field : MemberField)
  deriving DecidableEq

def SetField.Agrees (a b : CoveredState) : SetField → Prop
  | .key => a.key = b.key
  | .generation => a.generation = b.generation
  | .membershipGeneration => a.membershipGeneration = b.membershipGeneration
  | .authorityGeneration => a.authorityGeneration = b.authorityGeneration
  | .lifecycle => a.lifecycle = b.lifecycle
  | .currentness => a.currentness = b.currentness
  | .adminEnabled => a.adminEnabled = b.adminEnabled
  | .minimumUsableMembers => a.minimumUsableMembers = b.minimumUsableMembers
  | .conditionalAuthorityPermitted => a.conditionalAuthorityPermitted = b.conditionalAuthorityPermitted
  | .governingEpoch => a.governingEpoch = b.governingEpoch
  | .supersededBy => a.supersededBy = b.supersededBy
  | .supersedes => a.supersedes = b.supersedes
  | .revocation => a.revocation = b.revocation

def MemberField.Agrees (m n : CoveredMember) : MemberField → Prop
  | .boundAuthorityGeneration => m.boundAuthorityGeneration = n.boundAuthorityGeneration
  | .generation => m.generation = n.generation
  | .lifecycle => m.lifecycle = n.lifecycle
  | .currentness => m.currentness = n.currentness
  | .adminEnabled => m.adminEnabled = n.adminEnabled

def CoveredState.memberAt (a : CoveredState) (path : PathId) : Option CoveredMember :=
  a.members.find? fun m => m.pathId == path

def CoveredField.Differs (a b : CoveredState) : CoveredField → Prop
  | .ofSet field => ¬field.Agrees a b
  | .relation path => (a.memberAt path).map CoveredMember.id ≠ (b.memberAt path).map CoveredMember.id
  | .ofMember path field => ∃ m n, a.memberAt path = some m ∧ b.memberAt path = some n ∧ ¬field.Agrees m n

def SetField.kind : SetField → Option DiffKind
  | .key => none
  | .generation => some .setGenerationChanged
  | .membershipGeneration => some .membershipGenerationChanged
  | .authorityGeneration => some .authorityGenerationChanged
  | .lifecycle => some .setLifecycleChanged
  | .currentness => some .setCurrentnessChanged
  | .adminEnabled => some .setAdminChanged
  | .minimumUsableMembers => some .minimumChanged
  | .conditionalAuthorityPermitted => some .conditionalPolicyChanged
  | .governingEpoch => some .governingEpochChanged
  | .supersededBy => some .supersededByChanged
  | .supersedes => none
  | .revocation => some .revocationChanged

def MemberField.kind : MemberField → DiffKind
  | .boundAuthorityGeneration => .memberPathAuthorityGenerationChanged
  | .generation => .memberGenerationChanged
  | .lifecycle => .memberLifecycleChanged
  | .currentness => .memberCurrentnessChanged
  | .adminEnabled => .memberAdminChanged

def DiffEntry.Reports (entry : DiffEntry) : CoveredField → Prop
  | .ofSet field => field.kind = some entry.kind ∧ entry.subject = text "-"
  | .relation path => (entry.kind = .memberAdded ∨ entry.kind = .memberRemoved) ∧ entry.subject = path.view
  | .ofMember path field => entry.kind = field.kind ∧ entry.subject = path.view

section Coverage

variable {before after : SetSnapshot} {kind : DiffKind}

theorem SetField.kind_listed {field : SetField} (h : field.kind = some kind) : kind ∈ setKinds := by
  cases field <;> cases h <;> decide

theorem MemberField.kind_listed (field : MemberField) : field.kind ∈ memberKinds := by
  cases field <;> decide

theorem revocation_of_shown {left right : Option RevocationRecord}
    (h : (left.map RevocationRecord.render).getD (text "-") = (right.map RevocationRecord.render).getD (text "-")) :
    left.map RevocationRecord.covered = right.map RevocationRecord.covered := by
  have hdash (revocation : RevocationRecord) : revocation.render ≠ text "-" := by
    intro h
    have hhead := congrArg List.head? h
    unfold RevocationRecord.render at hhead
    simp only [List.append_assoc] at hhead
    cases hhead
  cases left with
  | none =>
      cases right with
      | none => rfl
      | some right => exact absurd h.symm (hdash right)
  | some left =>
      cases right with
      | none => exact absurd h (hdash left)
      | some right => exact congrArg some (RevocationRecord.covered_of_render h)

theorem SetField.agrees_of_shown {field : SetField} (h : field.kind = some kind)
    (same : before.shown kind = after.shown kind) : field.Agrees before.covered after.covered := by
  cases field <;> cases h
  case lifecycle => exact SetLifecycle.toString_injective same
  case currentness => exact SetCurrentness.toString_injective same
  case adminEnabled => exact boolText_injective same
  case conditionalAuthorityPermitted => exact boolText_injective same
  case minimumUsableMembers => exact decimal_u64_inj same
  case supersededBy => exact viewOrDash_injective same
  case revocation => exact revocation_of_shown same
  all_goals exact Generation.decimal_inj same

theorem MemberField.agrees_of_shown {field : MemberField} {m n : MemberSnapshot}
    (same : m.shown field.kind = n.shown field.kind) : field.Agrees m.covered n.covered := by
  cases field
  case lifecycle => exact MemberLifecycle.toString_injective same
  case currentness => exact MemberCurrentness.toString_injective same
  case adminEnabled => exact boolText_injective same
  all_goals exact Generation.decimal_inj same

theorem SetSnapshot.memberAt_covered {s : SetSnapshot} (distinct : (s.members.map MemberSnapshot.pathId).Nodup)
    (path : PathId) : s.covered.memberAt path = (memberTable s.members)[path]?.map MemberSnapshot.covered := by
  change (s.members.map MemberSnapshot.covered).find? _ = _
  rw [List.find?_map, memberTable_find distinct]
  rfl

theorem entry_of_differs (distinctBefore : (before.members.map MemberSnapshot.pathId).Nodup)
    (distinctAfter : (after.members.map MemberSnapshot.pathId).Nodup) (field : CoveredField)
    (shown : ∀ setField, field = .ofSet setField → setField.kind ≠ none)
    (h : field.Differs before.covered after.covered) : ∃ entry ∈ foundEntries before after, entry.Reports field := by
  cases field with
  | ofSet field =>
      obtain ⟨kind, hkind⟩ := Option.ne_none_iff_exists'.mp (shown field rfl)
      have hdiffers : before.shown kind ≠ after.shown kind := fun same => h (SetField.agrees_of_shown hkind same)
      exact ⟨_, setEntries_mem (SetField.kind_listed hkind) hdiffers, hkind, rfl⟩
  | relation path =>
      change (before.covered.memberAt path).map _ ≠ (after.covered.memberAt path).map _ at h
      rw [SetSnapshot.memberAt_covered distinctBefore, SetSnapshot.memberAt_covered distinctAfter] at h
      cases hleft : (memberTable before.members)[path]? with
      | none =>
          cases hright : (memberTable after.members)[path]? with
          | none =>
              rw [hleft, hright] at h
              exact absurd rfl h
          | some right =>
              refine ⟨⟨.memberAdded, path.view, text "-", right.id.view⟩, @memberEntries_mem _ before after path ?_, .inl rfl, rfl⟩
              unfold memberEntries
              rw [hleft, hright]
              exact mem_addEntry.mpr ⟨right.id.view_ne_dash.symm, rfl⟩
      | some left =>
          refine ⟨⟨.memberRemoved, path.view, left.id.view, text "-"⟩, @memberEntries_mem _ before after path ?_, .inr rfl, rfl⟩
          have hremoved := mem_addEntry.mpr ⟨left.id.view_ne_dash,
            (rfl : (⟨.memberRemoved, path.view, left.id.view, text "-"⟩ : DiffEntry) = _)⟩
          unfold memberEntries
          cases hright : (memberTable after.members)[path]? with
          | none =>
              rw [hleft]
              exact hremoved
          | some right =>
              have hid : left.id ≠ right.id := by
                rw [hleft, hright] at h
                exact fun same => h (congrArg some same)
              rw [hleft]
              change _ ∈ (if left.id = right.id then [] else _) ++ _
              rw [if_neg hid]
              exact List.mem_append_left _ (List.mem_append_left _ hremoved)
  | ofMember path field =>
      obtain ⟨m, n, hm, hn, hdiffers⟩ := h
      rw [SetSnapshot.memberAt_covered distinctBefore, Option.map_eq_some_iff] at hm
      rw [SetSnapshot.memberAt_covered distinctAfter, Option.map_eq_some_iff] at hn
      obtain ⟨left, hleft, rfl⟩ := hm
      obtain ⟨right, hright, rfl⟩ := hn
      refine ⟨⟨field.kind, path.view, left.shown field.kind, right.shown field.kind⟩,
        @memberEntries_mem _ before after path ?_, rfl, rfl⟩
      unfold memberEntries
      rw [hleft, hright]
      refine List.mem_append_right _ (List.mem_flatMap.mpr ⟨field.kind, field.kind_listed, mem_addEntry.mpr ⟨?_, rfl⟩⟩)
      exact fun same => hdiffers (MemberField.agrees_of_shown same)

theorem diffSnapshots_perm {left right : List MemberSnapshot}
    (distinctBefore : (before.members.map MemberSnapshot.pathId).Nodup)
    (distinctAfter : (after.members.map MemberSnapshot.pathId).Nodup) (permBefore : left.Perm before.members)
    (permAfter : right.Perm after.members) :
    diffSnapshots { before with members := left } { after with members := right } = diffSnapshots before after := by
  have hfound : foundEntries { before with members := left } { after with members := right } =
      foundEntries before after := by
    unfold foundEntries
    rw [memberTable_perm distinctBefore permBefore, memberTable_perm distinctAfter permAfter]
    rfl
  unfold diffSnapshots
  rw [hfound]

end Coverage

section Records

variable {r x : SetRecord} {path : PathId}

theorem makeSnapshot_distinct (placed : r.Placed) : ((makeSnapshot r).members.map MemberSnapshot.pathId).Nodup := by
  have hpaths : (makeSnapshot r).members.map MemberSnapshot.pathId = r.members.toList.map Prod.fst := by
    change (r.members.toList.map fun entry => makeMemberSnapshot entry.2).map _ = _
    rw [List.map_map]
    refine List.map_congr_left fun entry hentry => ?_
    exact placed entry.1 entry.2 (Std.ExtTreeMap.mem_toList_iff_getElem?_eq_some.mp hentry)
  rw [hpaths]
  exact nodup_keys r.members

theorem makeSnapshot_table (placed : r.Placed) (path : PathId) :
    (memberTable (makeSnapshot r).members)[path]? = r.members[path]?.map makeMemberSnapshot := by
  refine Option.ext fun m => ?_
  rw [memberTable_mem (makeSnapshot_distinct placed), Option.map_eq_some_iff]
  constructor
  · rintro ⟨hm, hpath⟩
    obtain ⟨entry, hentry, rfl⟩ := List.mem_map.mp hm
    have hfound := Std.ExtTreeMap.mem_toList_iff_getElem?_eq_some.mp hentry
    have hkey : entry.1 = path := (placed entry.1 entry.2 hfound).symm.trans hpath
    exact ⟨entry.2, hkey ▸ hfound, rfl⟩
  · rintro ⟨m, hfound, rfl⟩
    have hentry : (path, m) ∈ r.members.toList := Std.ExtTreeMap.mem_toList_iff_getElem?_eq_some.mpr hfound
    exact ⟨List.mem_map.mpr ⟨_, hentry, rfl⟩, placed path m hfound⟩

theorem memberAt_of_record (placed : r.Placed) (path : PathId) :
    r.covered.memberAt path = r.members[path]?.map MemberRecord.covered := by
  rw [← makeSnapshot_covered, SetSnapshot.memberAt_covered (makeSnapshot_distinct placed), makeSnapshot_table placed,
    Option.map_map]
  rfl

theorem CoveredMember.eq_of_agrees {m n : CoveredMember} (sameId : m.id = n.id) (samePath : m.pathId = n.pathId)
    (agrees : ∀ field : MemberField, field.Agrees m n) : m = n := by
  have hbound := agrees .boundAuthorityGeneration
  have hgeneration := agrees .generation
  have hlifecycle := agrees .lifecycle
  have hcurrentness := agrees .currentness
  have henabled := agrees .adminEnabled
  cases m
  cases n
  rw [CoveredMember.mk.injEq]
  exact ⟨sameId, samePath, hbound, hgeneration, hlifecycle, hcurrentness, henabled⟩

theorem covered_of_agrees (placedLeft : r.Placed) (placedRight : x.Placed) (sameId : r.id = x.id)
    (agrees : ∀ field : CoveredField, ¬field.Differs r.covered x.covered) : r.covered = x.covered := by
  have hset (field : SetField) : field.Agrees r.covered x.covered := not_not.mp (agrees (.ofSet field))
  have hmembers : coveredMembers r.members = coveredMembers x.members := by
    apply coveredMembers_congr
    intro path
    have hrelation := not_not.mp (agrees (.relation path))
    rw [memberAt_of_record placedLeft, memberAt_of_record placedRight] at hrelation
    cases hleft : r.members[path]? with
    | none =>
        cases hright : x.members[path]? with
        | none => rfl
        | some right =>
            rw [hleft, hright] at hrelation
            cases hrelation
    | some left =>
        cases hright : x.members[path]? with
        | none =>
            rw [hleft, hright] at hrelation
            cases hrelation
        | some right =>
            rw [hleft, hright] at hrelation
            have hpath : left.pathId = right.pathId := (placedLeft path left hleft).trans (placedRight path right hright).symm
            refine congrArg some (CoveredMember.eq_of_agrees (Option.some.inj hrelation) hpath fun field => ?_)
            by_contra hdiffers
            refine agrees (.ofMember path field) ⟨_, _, ?_, ?_, hdiffers⟩
            · rw [memberAt_of_record placedLeft, hleft]
              rfl
            · rw [memberAt_of_record placedRight, hright]
              rfl
  unfold SetRecord.covered
  rw [CoveredState.mk.injEq]
  exact ⟨sameId, hset .key, hset .generation, hset .membershipGeneration, hset .authorityGeneration, hset .lifecycle,
    hset .currentness, hset .adminEnabled, hset .minimumUsableMembers, hset .conditionalAuthorityPermitted,
    hset .governingEpoch, hset .supersededBy, hset .supersedes, hset .revocation, hmembers⟩

end Records

/-- The diff of two snapshots is identical only if their covered states and digests are, has an entry for each covered
field in which they differ, is sorted, and does not depend on the order of their members. -/
def MissesNothing (before after : SetSnapshot) : Prop :=
  ∃ diff, diffSnapshots before after = some diff ∧
    (diff.identical = true → before.covered = after.covered ∧ before.digest = after.digest) ∧
    (∀ field : CoveredField, field.Differs before.covered after.covered → ∃ entry ∈ diff.entries, entry.Reports field) ∧
    diff.entries.Pairwise (fun a b => (compare a b).isLE = true) ∧
    ∀ left right, left.Perm before.members → right.Perm after.members →
      diffSnapshots { before with members := left } { after with members := right } = some diff

namespace FabricEngine

variable {config : FabricConfig} {s before after : SetSnapshot}

def Produces (config : FabricConfig) (s : SetSnapshot) : Prop :=
  ∃ e setId, Reachable config e ∧
    (e.snapshot setId = some s ∨ ∃ snapshotId, e.historicalSnapshot setId snapshotId = some s)

theorem placed_of_run {e : FabricEngine} (run : Reachable config e) {setId : MultipathSetId} {r : SetRecord}
    (found : e.sets[setId]? = some r) : r.Placed := by
  refine ((found_rule fun _ _ => True).run ?_ run setId r found).1
  intro e path files decoded fallback _ read stored hstored
  have hindexed := ((readAndDecode_within read).each stored hstored).indexed
  exact ⟨fun path m hm => (hindexed.placed path m hm).1, hindexed.found⟩

theorem Produces.record (h : Produces config s) : ∃ r, s = makeSnapshot r ∧ r.Placed := by
  obtain ⟨e, setId, run, hs | ⟨snapshotId, hs⟩⟩ := h
  · obtain ⟨r, hr, rfl⟩ := Option.map_eq_some_iff.mp hs
    exact ⟨r, rfl, placed_of_run run hr⟩
  · unfold historicalSnapshot at hs
    have hmem := List.mem_of_find?_eq_some hs
    cases hlog : e.snapshotHistory[setId]? with
    | none =>
        rw [hlog] at hmem
        cases hmem
    | some log =>
        rw [hlog] at hmem
        obtain ⟨e₀, r₀, run₀, hr₀, rfl⟩ := retained_of_run run setId hlog hmem
        exact ⟨r₀, rfl, placed_of_run run₀ hr₀⟩

/-- The diff of two snapshots of a set misses nothing if and only if they have the same key and predecessor. -/
theorem diff_misses_nothing (hbefore : Produces config before) (hafter : Produces config after)
    (same : before.setId = after.setId) :
    MissesNothing before after ↔ before.key = after.key ∧ before.supersedes = after.supersedes := by
  have hdiff : ∃ diff, diffSnapshots before after = some diff ∧ diff.identical = (foundEntries before after).isEmpty ∧
      diff.entries = (foundEntries before after).mergeSort fun a b => (compare a b).isLE := by
    unfold diffSnapshots
    rw [if_pos same]
    exact ⟨_, rfl, rfl, rfl⟩
  obtain ⟨diff, hdiff, hidentical, hentries⟩ := hdiff
  constructor
  · rintro ⟨diff', hdiff', _, hreports, _⟩
    constructor
    · by_contra hkey
      obtain ⟨entry, _, hkind, _⟩ := hreports (.ofSet .key) hkey
      cases hkind
    · by_contra hsupersedes
      obtain ⟨entry, _, hkind, _⟩ := hreports (.ofSet .supersedes) hsupersedes
      cases hkind
  · rintro ⟨hkey, hsupersedes⟩
    obtain ⟨r, rfl, hr⟩ := hbefore.record
    obtain ⟨x, rfl, hx⟩ := hafter.record
    have hreports (field : CoveredField) (h : field.Differs (makeSnapshot r).covered (makeSnapshot x).covered) :
        ∃ entry ∈ foundEntries (makeSnapshot r) (makeSnapshot x), entry.Reports field := by
      refine entry_of_differs (makeSnapshot_distinct hr) (makeSnapshot_distinct hx) field ?_ h
      rintro setField rfl hkind
      cases setField
      case key => exact h hkey
      case supersedes => exact h hsupersedes
      all_goals cases hkind
    refine ⟨diff, hdiff, fun hempty => ?_, fun field h => ?_, ?_, fun left right hleft hright => ?_⟩
    · rw [hidentical, List.isEmpty_iff] at hempty
      have hcovered : r.covered = x.covered := by
        refine covered_of_agrees hr hx same fun field hdiffers => ?_
        rw [← makeSnapshot_covered r, ← makeSnapshot_covered x] at hdiffers
        obtain ⟨entry, hentry, _⟩ := hreports field hdiffers
        rw [hempty] at hentry
        cases hentry
      rw [makeSnapshot_covered, makeSnapshot_covered]
      exact ⟨hcovered, digest_of_covered hcovered⟩
    · obtain ⟨entry, hentry, hreport⟩ := hreports field h
      exact ⟨entry, hentries ▸ List.mem_mergeSort.mpr hentry, hreport⟩
    · rw [hentries]
      refine List.pairwise_mergeSort (fun a b c => Std.TransCmp.isLE_trans) (fun a b => ?_) _
      have hswap : compare b a = (compare a b).swap := Std.OrientedCmp.eq_swap
      rw [hswap]
      cases compare a b <;> rfl
    · rw [diffSnapshots_perm (makeSnapshot_distinct hr) (makeSnapshot_distinct hx) hleft hright, hdiff]

theorem diff_misses_nothing_sample : ∃ before after, (sampleRun (sampleSteps.take 3)).snapshot sampleSet = some before ∧
    (sampleRun sampleSteps).snapshot sampleSet = some after ∧ before.digest ≠ after.digest ∧
    MissesNothing before after := by
  have hshown : ((sampleRun (sampleSteps.take 3)).snapshot sampleSet).any (fun before =>
      ((sampleRun sampleSteps).snapshot sampleSet).any fun after =>
        decide (before.digest ≠ after.digest ∧ before.setId = after.setId ∧ before.key = after.key ∧
          before.supersedes = after.supersedes)) = true := by
    decide +kernel
  obtain ⟨before, hbefore, hshown⟩ := (Option.any_eq_true _ _).mp hshown
  obtain ⟨after, hafter, hshown⟩ := (Option.any_eq_true _ _).mp hshown
  obtain ⟨hdigest, hid, hkept⟩ := of_decide_eq_true hshown
  exact ⟨before, after, hbefore, hafter, hdigest,
    (diff_misses_nothing ⟨_, sampleSet, sampleRun_reachable _, .inl hbefore⟩
      ⟨_, sampleSet, sampleRun_reachable _, .inl hafter⟩ hid).mpr hkept⟩

def successionSteps : List Op := sampleSteps ++ [.createSet (sampleContext "a5") (sampleKey "old") ⟨1, true, false⟩]

def succession : Op := .supersedeSet (sampleContext "a6") (sampleId "mpf-set-7f-3") sampleSet

/-- The successor has a new predecessor and a new digest, of which the diff reports nothing. -/
theorem diff_misses_predecessor : ¬∀ (config : FabricConfig) (before after : SetSnapshot), Produces config before →
    Produces config after → before.setId = after.setId → MissesNothing before after := by
  intro h
  have hdiff : ((sampleRun successionSteps).snapshot sampleSet).bind (fun before =>
      ((sampleRun (successionSteps ++ [succession])).snapshot sampleSet).bind fun after =>
        (diffSnapshots before after).map fun diff => (diff.identical, decide (before.digest = after.digest))) =
      some (true, false) := by
    decide +kernel
  obtain ⟨before, hbefore, hdiff⟩ := Option.bind_eq_some_iff.mp hdiff
  obtain ⟨after, hafter, hdiff⟩ := Option.bind_eq_some_iff.mp hdiff
  obtain ⟨diff, hdiffers, hdiff⟩ := Option.map_eq_some_iff.mp hdiff
  obtain ⟨hidentical, hdigest⟩ := Prod.mk.inj hdiff
  have hsame : before.setId = after.setId := by
    by_contra hne
    unfold diffSnapshots at hdiffers
    rw [if_neg hne] at hdiffers
    cases hdiffers
  obtain ⟨diff', hdiff', hagrees, _⟩ := h sampleConfig before after
    ⟨_, sampleSet, sampleRun_reachable _, .inl hbefore⟩ ⟨_, sampleSet, sampleRun_reachable _, .inl hafter⟩ hsame
  rw [hdiffers, Option.some.injEq] at hdiff'
  exact of_decide_eq_false hdigest (hagrees (hdiff' ▸ hidentical)).2

end FabricEngine

end MultipathFabric
