import MultipathFabric.RecordStep

namespace MultipathFabric

open OrderedMap

def SetLifecycle.isOpen : SetLifecycle → Bool
  | .declared | .active | .degraded | .exhausted | .adminDisabled => true
  | _ => false

theorem derivePublishedLifecycle_open (usable : Nat) (minimum : UInt64) (enabled : Bool) :
    (derivePublishedLifecycle usable minimum enabled).isOpen = true := by
  unfold derivePublishedLifecycle
  split
  · rfl
  · split
    · rfl
    · split <;> rfl

namespace SetRecord

@[simp] theorem recompute_members (r : SetRecord) : r.recompute.members = r.members := rfl

@[simp] theorem recompute_usableMemberCount (r : SetRecord) :
    r.recompute.usableMemberCount = usableCount r.members := rfl

theorem recompute_open {r : SetRecord} (h : r.lifecycle.isOpen = true) : r.recompute.lifecycle.isOpen = true := by
  unfold recompute
  dsimp only
  split
  all_goals first | exact derivePublishedLifecycle_open _ _ _ | exact h

theorem recompute_closed {r : SetRecord} (h : r.lifecycle.isOpen = false) : r.recompute.lifecycle = r.lifecycle := by
  unfold recompute
  dsimp only
  split
  all_goals first | rfl | simp_all [SetLifecycle.isOpen]

theorem recompute_declared {r : SetRecord} (h : r.lifecycle = .declared) : r.recompute.lifecycle = .declared := by
  unfold recompute
  simp only [h]

theorem applyTransition_members {r x : SetRecord} {event : SetEvent} (h : r.applyTransition event = .ok x) :
    x.members = r.members := by
  unfold applyTransition at h
  split at h
  all_goals
    cases h
    try rfl

end SetRecord

def SetEvent.isPlain : SetEvent → Bool
  | .beginWithdraw | .completeWithdraw | .supersede | .revoke | .retire => false
  | _ => true

theorem setTransition_plain (lifecycle : SetLifecycle) {event : SetEvent} (h : event.isPlain = true) :
    setTransition lifecycle event = .reject ∨ setTransition lifecycle event = .stay ∨
      (lifecycle.isOpen = true ∧
        (setTransition lifecycle event = .recompute ∨ setTransition lifecycle event = .becomePublished ∨
          setTransition lifecycle event = .becomeAdminDisabled)) := by
  cases event
  all_goals first | (cases h; done) | (cases lifecycle <;> decide)

namespace SetRecord

theorem applyTransition_plain {r x : SetRecord} {event : SetEvent} (hplain : event.isPlain = true)
    (h : r.applyTransition event = .ok x) :
    x = r ∨ (r.lifecycle.isOpen = true ∧ x.lifecycle.isOpen = true) := by
  unfold applyTransition at h
  rcases setTransition_plain r.lifecycle hplain with ht | ht | ⟨hopen, ht | ht | ht⟩
  all_goals
    rw [ht] at h
    cases h
  · exact .inl rfl
  · exact .inr ⟨hopen, recompute_open hopen⟩
  · exact .inr ⟨hopen, derivePublishedLifecycle_open _ _ _⟩
  · exact .inr ⟨hopen, rfl⟩

theorem applyTransition_beginWithdraw {r x : SetRecord} (h : r.applyTransition .beginWithdraw = .ok x) :
    (r.lifecycle = .declared ∧ x = r.recompute) ∨
      (r.lifecycle ≠ .declared ∧ r.lifecycle.isOpen = true ∧ x = { r with lifecycle := .withdrawing }) := by
  unfold applyTransition at h
  cases hl : r.lifecycle
  all_goals
    rw [hl] at h
    cases h
  · exact .inl ⟨rfl, rfl⟩
  all_goals exact .inr ⟨by decide, rfl, rfl⟩

theorem applyTransition_completeWithdraw {r x : SetRecord} (h : r.applyTransition .completeWithdraw = .ok x) :
    r.lifecycle = .withdrawing ∧ x = r.terminate .withdrawn := by
  unfold applyTransition at h
  cases hl : r.lifecycle
  all_goals
    rw [hl] at h
    cases h
  exact ⟨rfl, rfl⟩

theorem applyTransition_supersede {r x : SetRecord} (h : r.applyTransition .supersede = .ok x) :
    (r.lifecycle.isOpen = true ∨ r.lifecycle = .withdrawing) ∧ x = r.terminate .superseded := by
  unfold applyTransition at h
  cases hl : r.lifecycle
  all_goals
    rw [hl] at h
    cases h
  all_goals first | exact ⟨.inl rfl, rfl⟩ | exact ⟨.inr rfl, rfl⟩

theorem applyTransition_revoke {r x : SetRecord} (h : r.applyTransition .revoke = .ok x) :
    (r.lifecycle.isOpen = true ∨ r.lifecycle = .withdrawing ∨ r.lifecycle = .withdrawn) ∧
      x = r.terminate .revoked := by
  unfold applyTransition at h
  cases hl : r.lifecycle
  all_goals
    rw [hl] at h
    cases h
  all_goals first | exact ⟨.inl rfl, rfl⟩ | exact ⟨.inr (.inl rfl), rfl⟩ | exact ⟨.inr (.inr rfl), rfl⟩

theorem applyTransition_retire {r x : SetRecord} (h : r.applyTransition .retire = .ok x) :
    r.lifecycle ≠ .retired ∧ x = r.terminate .retired := by
  unfold applyTransition at h
  cases hl : r.lifecycle
  all_goals
    rw [hl] at h
    cases h
  all_goals exact ⟨by decide, rfl⟩

end SetRecord

def SetEvent.needsOpen : SetEvent → Bool
  | .publish | .memberAdded | .memberReplaced | .minimumChanged | .policyChanged | .adminDisabled
  | .adminEnabled | .revalidateSet => true
  | _ => false

theorem transitionAllowed_open {lifecycle : SetLifecycle} {event : SetEvent} (hneeds : event.needsOpen = true)
    (h : transitionAllowed lifecycle event = true) : lifecycle.isOpen = true := by
  revert h
  cases event
  all_goals first | (cases hneeds; done) | (cases lifecycle <;> decide)

def SetEvent.trimsMembers : SetEvent → Bool
  | .memberRemoved | .membershipRecheck => true
  | _ => false

theorem transitionAllowed_trims {lifecycle : SetLifecycle} {event : SetEvent} (htrims : event.trimsMembers = true)
    (h : transitionAllowed lifecycle event = true) : lifecycle.isOpen = true ∨ lifecycle = .withdrawing := by
  revert h
  cases event
  all_goals first | (cases htrims; done) | (cases lifecycle <;> decide)

namespace SetRecord

theorem consequences_cases (e : FabricEngine) (r : SetRecord) (source target : SetLifecycle)
    (context : Option MutationContext) :
    (applyMemberConsequences e r source target context).lifecycle = r.lifecycle ∧
      ((source = .active ∨ source = .degraded ∨ source = .exhausted) ∨
        applyMemberConsequences e r source target context = r) := by
  unfold applyMemberConsequences
  split
  · exact ⟨rfl, .inr rfl⟩
  · split
    · rename_i h
      refine ⟨?_, .inl h⟩
      split <;> rfl
    · exact ⟨rfl, .inr rfl⟩

end SetRecord

theorem setIsFrozen_false {r : SetRecord} (h : setIsFrozen r = false) :
    r.lifecycle.isOpen = true ∨ r.lifecycle = .withdrawing := by
  unfold setIsFrozen at h
  cases hl : r.lifecycle
  all_goals simp_all [SetLifecycle.isOpen]

theorem dependencyInvalidated_fields (e : FabricEngine) (r : SetRecord) (path : PathId) (m : MemberRecord)
    (context : Option MutationContext) (cause : MembershipCause) :
    (e.dependencyInvalidated r path m context cause).lifecycle = (r.withMember path m).recompute.lifecycle ∧
      (e.dependencyInvalidated r path m context cause).members = r.members.insert path m ∧
      (e.dependencyInvalidated r path m context cause).usableMemberCount =
        usableCount (r.members.insert path m) := by
  unfold FabricEngine.dependencyInvalidated
  dsimp only
  split <;> exact ⟨rfl, rfl, rfl⟩

theorem member_map {members : MemberMap} {f : MemberRecord → MemberRecord} {path : PathId} {m' : MemberRecord}
    (h : (members.map fun _ m => f m)[path]? = some m') : ∃ m, members[path]? = some m ∧ f m = m' := by
  rw [getElem?_mapValues] at h
  exact Option.map_eq_some_iff.mp h

theorem member_insert {members : MemberMap} {path other : PathId} {m m' : MemberRecord}
    (h : (members.insert path m)[other]? = some m') :
    (path = other ∧ m = m') ∨ (path ≠ other ∧ members[other]? = some m') := by
  rw [getElem?_insert_eq] at h
  split at h
  · rename_i heq
    exact .inl ⟨heq, Option.some.inj h⟩
  · rename_i hne
    exact .inr ⟨hne, h⟩

theorem member_erase {members : MemberMap} {path other : PathId} {m : MemberRecord}
    (h : (members.erase path)[other]? = some m) : path ≠ other ∧ members[other]? = some m := by
  rw [getElem?_erase_eq] at h
  split at h
  · cases h
  · rename_i hne
    exact ⟨hne, h⟩

theorem member_eraseAll {paths : List PathId} {members : MemberMap} {other : PathId} {m : MemberRecord}
    (h : (paths.foldl (fun members path => members.erase path) members)[other]? = some m) :
    other ∉ paths ∧ members[other]? = some m := by
  induction paths generalizing members with
  | nil => exact ⟨List.not_mem_nil, h⟩
  | cons path rest ih =>
      obtain ⟨hnot, hrest⟩ := ih h
      obtain ⟨hne, hfound⟩ := member_erase hrest
      refine ⟨?_, hfound⟩
      rw [List.mem_cons, not_or]
      exact ⟨fun h => hne h.symm, hnot⟩

theorem pruneArchive_member {limits : Limits} {r : SetRecord} {path : PathId} {m' : MemberRecord}
    (h : (r.pruneArchive limits).members[path]? = some m') :
    ∃ m, r.members[path]? = some m ∧ (m' = m ∨ ∃ pruned, m' = m.clearLineage pruned) := by
  unfold SetRecord.pruneArchive at h
  dsimp only at h
  split at h
  · exact ⟨m', h, .inl rfl⟩
  · obtain ⟨m, hm, rfl⟩ := member_map h
    exact ⟨m, (member_eraseAll hm).2, .inr ⟨_, rfl⟩⟩

@[simp] theorem pruneArchive_lifecycle (limits : Limits) (r : SetRecord) :
    (r.pruneArchive limits).lifecycle = r.lifecycle := by
  unfold SetRecord.pruneArchive
  dsimp only
  split <;> rfl

theorem sealed_member {limits : Limits} {x r' : SetRecord} {summary : Bytes} (h : Sealed limits x summary r')
    {path : PathId} {m' : MemberRecord} (hm : r'.members[path]? = some m') :
    ∃ m, x.members[path]? = some m ∧ (m' = m ∨ ∃ pruned, m' = m.clearLineage pruned) := by
  cases h with
  | kept _ => exact ⟨m', hm, .inl rfl⟩
  | committed _ _ _ _ _ =>
      obtain ⟨m, hfound, hkept⟩ := pruneArchive_member hm
      exact ⟨m, hfound, hkept⟩

theorem sealed_lifecycle {limits : Limits} {x r' : SetRecord} {summary : Bytes}
    (h : Sealed limits x summary r') : r'.lifecycle = x.lifecycle := by
  cases h with
  | kept _ => rfl
  | committed _ _ _ _ _ => exact pruneArchive_lifecycle _ _

theorem mem_archivedPaths {r : SetRecord} {path : PathId} (h : path ∈ archivedPaths r) :
    ∃ m, r.members[path]? = some m ∧ memberIsTerminal m = true := by
  obtain ⟨⟨p, m⟩, hentry, rfl⟩ := List.mem_map.mp h
  obtain ⟨hmem, hterminal⟩ := List.mem_filter.mp hentry
  exact ⟨m, Std.ExtTreeMap.mem_toList_iff_getElem?_eq_some.mp hmem, hterminal⟩

theorem mem_pruneVictims {limits : Limits} {r : SetRecord} {path : PathId} (h : path ∈ pruneVictims limits r) :
    ∃ m, r.members[path]? = some m ∧ memberIsTerminal m = true :=
  mem_archivedPaths (List.mem_of_mem_take h)

@[simp] theorem pruneArchive_usableMemberCount (limits : Limits) (r : SetRecord) :
    (r.pruneArchive limits).usableMemberCount = r.usableMemberCount := by
  unfold SetRecord.pruneArchive
  dsimp only
  split <;> rfl

theorem usable_of_terminal {m : MemberRecord} (h : memberIsTerminal m = true) : m.usable = false := by
  cases hl : m.lifecycle
  all_goals simp_all [memberIsTerminal, MemberRecord.usable, memberIsUsable]

theorem usableCount_insert_same {members : MemberMap} {path : PathId} {m m' : MemberRecord}
    (hfound : members[path]? = some m) (hsame : m'.usable = m.usable) :
    usableCount (members.insert path m') = usableCount members := by
  have h := count_insert MemberRecord.usable members path m'
  rw [hfound, hsame] at h
  change count MemberRecord.usable (members.insert path m') = count MemberRecord.usable members
  cases hu : m.usable
  · simpa [Option.filter, hu] using h
  · simpa [Option.filter, hu] using h

theorem pruneArchive_usable (limits : Limits) (r : SetRecord) :
    usableCount (r.pruneArchive limits).members = usableCount r.members := by
  unfold SetRecord.pruneArchive
  dsimp only
  split
  · rfl
  · have hclear : ∀ (members : MemberMap) (pruned : List MultipathMemberId),
        usableCount (members.map fun _ m => m.clearLineage pruned) = usableCount members :=
      fun members pruned => count_map_eq members fun _ => rfl
    rw [hclear]
    refine count_eraseAll_eq fun path hpath m hm => ?_
    obtain ⟨m', hm', hterminal⟩ := mem_pruneVictims hpath
    rw [hm] at hm'
    cases hm'
    exact usable_of_terminal hterminal

end MultipathFabric
