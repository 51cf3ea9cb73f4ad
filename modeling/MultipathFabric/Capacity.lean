import MultipathFabric.MemberTally
import MultipathFabric.AttemptLog
import Mathlib.Data.List.Nodup

namespace MultipathFabric

open OrderedMap SetRecord

structure Joins (r : SetRecord) (setId : MultipathSetId) (requests : List (MemberRequest × Option PathAuthorityView)) :
    Prop where
  allowed : transitionAllowed r.lifecycle .memberAdded = true
  supported : unsupportedRequest r requests = none
  distinct : duplicateRequest r setId [] (requests.map Prod.fst) = none

def Op.Checks (r : SetRecord) : Op → Prop
  | .addMember _ setId request view => Joins r setId [(request, view)]
  | .addMembers _ setId requests => Joins r setId requests
  | .replaceMember _ _ memberId request _ view =>
      (∃ path m, r.finds memberId path m ∧ path ≠ request.pathId) ∧
      transitionAllowed r.lifecycle .memberReplaced = true ∧ unsupportedRequest r [(request, view)] = none ∧
      (r.members[request.pathId]?.filter fun m => !memberIsTerminal m) = none
  | _ => True

theorem RecordEdit.checks {e : FabricEngine} {setId : MultipathSetId} {r x : SetRecord} {op : Op} {summary : Bytes}
    (edit : RecordEdit e setId r op x summary) : op.Checks r := by
  cases edit with
  | added context publication _ allowed supported distinct =>
      cases publication <;> exact ⟨allowed, supported, distinct⟩
  | replaced _ _ _ _ _ _ _ _ found other allowed supported free => exact ⟨⟨_, _, found, other⟩, allowed, supported, free⟩
  | observed applied | invalidated applied => cases applied <;> exact trivial
  | _ => exact trivial

namespace FabricEngine

/-- The operation reaches its commit on the record `r`. -/
structure Passes (e : FabricEngine) (op : Op) (q : Request) (setId : MultipathSetId) (r : SetRecord) : Prop where
  request : op.request = some q
  admitted : Admitted e op q
  subject : op.subject = some setId
  found : e.sets[setId]? = some r
  checks : op.Checks r
  expects : op.Expects q.context r
  room : e.HasRoom r op
  next : r.generation.next.isSome = true

def holders (sets : List SetRecord) (path : PathId) : ℕ := sets.countP fun r => r.members.contains path

/-- The step has room for what it adds beyond what the code checks: for relations that a publication puts in the
place of archived ones, for the first dependent of a path, and for the dependents of the paths of a store. -/
structure LeavesRoom (e : FabricEngine) (op : Op) : Prop where
  live : ∀ (q : Request) (setId : MultipathSetId) (r : SetRecord), e.Passes op q setId r → op.requests ≠ [] →
    liveMemberCount r + op.requests.length ≤ e.limits.maxMembersPerSet.toNat
  first : ∀ (q : Request) (setId : MultipathSetId) (r : SetRecord) (path : PathId), e.Passes op q setId r →
    path ∈ op.admits → e.pathDependents[path]? = none → 0 < e.limits.maxPathDependenciesPerPath.toNat
  stored : ∀ (path : Bytes) (files : StoreFiles) (decoded : DecodedStore) (fallback : Bool),
    op = .loadStore path files → readAndDecode path e.limits files = .ok (decoded, fallback) →
    decoded.epoch.next.isSome = true → decoded.authorityGeneration.next.isSome = true →
    ∀ sets : List SetRecord, sets <+: decoded.sets → (sets.map SetRecord.key).Nodup → (sets.map SetRecord.id).Nodup →
    ∀ path, holders sets path ≤ e.limits.maxPathDependenciesPerPath.toNat

end FabricEngine

open FabricEngine

theorem RecordEdit.fits {e : FabricEngine} {setId : MultipathSetId} {r x : SetRecord} {op : Op} {summary : Bytes}
    (edit : RecordEdit e setId r op x summary) (h : r.Fits e.limits) (room : e.HasRoom r op)
    (leaves : op.requests ≠ [] → liveMemberCount r + op.requests.length ≤ e.limits.maxMembersPerSet.toNat) :
    x.Fits e.limits := by
  constructor
  · rcases edit.live with hle | ⟨-, hequal⟩ | ⟨context, memberId, request, reason, view, path, m, rfl, found, hequal⟩
    · exact hle.trans h.live
    · rw [hequal]
      by_cases hnone : op.requests = []
      · rw [hnone]
        exact h.live
      · exact leaves hnone
    · have hroom := room.1 path m found
      have hlive := h.live
      by_cases hm : memberIsTerminal m = true
      · rw [if_pos hm] at hroom hequal
        omega
      · rw [if_neg hm] at hroom hequal
        omega
  · exact edit.logs h.history

theorem RecordEdit.fits_plain {e : FabricEngine} {setId : MultipathSetId} {r x : SetRecord} {op : Op} {summary : Bytes}
    (edit : RecordEdit e setId r op x summary) (h : r.Fits e.limits) (shape : op.admits = []) : x.Fits e.limits :=
  ⟨(edit.liveFrom shape).le.trans h.live, edit.logs h.history⟩

theorem reshapes_admits {op : Op} (h : op.reshapes = false) : op.admits = [] := by
  cases op <;> first | rfl | cases h

theorem Answer.recordsFit {e : FabricEngine} {op : Op} {q : Request} {result : FabricEngine × FabricOutcome}
    (answer : Answer e op q result) (request : op.request = some q) (leaves : e.LeavesRoom op) (h : e.RecordsFit) :
    result.1.RecordsFit := by
  cases answer with
  | refused | replayed => exact h
  | @left setId r x summary outcome residual _ _ found edit =>
      exact h.put (edit.fits_plain (h.records setId r found) (reshapes_admits (residual_reshapes residual)))
  | @answered setId r x outcome _ _ found edit =>
      apply RecordsFit.recordAttempt
      apply h.put
      have hfits := h.records setId r found
      rcases edit with rfl | ⟨shape, summary, edit⟩
      · exact hfits
      · exact edit.fits_plain hfits (reshapes_admits shape)
  | @committed setId r x spec outcome generation membershipGeneration admitted named found edit expects room next =>
      have hfits : x.Fits e.limits := by
        refine edit.fits (h.records setId r found) room fun hrequests => ?_
        have hnext : r.generation.next.isSome = true := by
          rw [next]
          rfl
        exact leaves.live q setId r ⟨request, admitted, named, found, edit.checks, expects, room, hnext⟩ hrequests
      obtain ⟨ids, index, total, hprepared⟩ := prepared_frame e r op
      rw [hprepared]
      have hbase : RecordsFit { e with ids := ids, pathDependents := index, totalMembers := total } :=
        h.congr rfl rfl rfl
      exact hbase.sealedCommit ⟨hfits.live, hfits.history⟩
  | @superseded predecessor successor old new x spec outcome generation supersedes _ _ _ foundOld foundNew _ _ edit =>
      have hplain : op.admits = [] := by rw [supersedes]; rfl
      have hnew : SetRecord.Fits e.limits { new with supersedes := some predecessor } :=
        ⟨(h.records successor new foundNew).live, (h.records successor new foundNew).history⟩
      have hold := edit.fits_plain (h.records predecessor old foundOld) hplain
      have hput : (e.putSet successor { new with supersedes := some predecessor }).RecordsFit := h.put hnew
      have hadvanced : (x.advanced generation old.membershipGeneration).Fits
          (e.putSet successor { new with supersedes := some predecessor }).limits := ⟨hold.live, hold.history⟩
      have hcommit : ((e.putSet successor { new with supersedes := some predecessor }).sealedCommit predecessor
          (x.advanced generation old.membershipGeneration) q spec outcome).RecordsFit := hput.sealedCommit hadvanced
      obtain ⟨committed, hcommitted⟩ : ∃ committed, committed = (e.putSet successor
          { new with supersedes := some predecessor }).sealedCommit predecessor
            (x.advanced generation old.membershipGeneration) q spec outcome := ⟨_, rfl⟩
      have hlimits : committed.limits = e.limits := by
        rw [hcommitted]
        exact (sealedCommit_keeps _ _ _ _ _ _).limits
      rw [← hcommitted] at hcommit ⊢
      apply (hcommit.captureSnapshot _).put
      rw [(captureSnapshot_keeps _ _).limits]
      constructor
      · rw [hlimits]
        exact hnew.live
      · exact dropOldest_length _ _
  | viewed =>
      apply RecordsFit.recordAttempt
      apply RecordsFit.applyView
      exact h.congr rfl rfl rfl
  | @created key options outcome =>
      apply RecordsFit.recordAttempt
      obtain ⟨minted, hminted⟩ : ∃ minted : FabricEngine, minted =
          { e with ids := e.ids.nextSetId.2, keyIndex := e.keyIndex.insert key e.ids.nextSetId.1 } := ⟨_, rfl⟩
      have hlimits : minted.limits = e.limits := by rw [hminted]
      have hbase : minted.RecordsFit := by
        rw [hminted]
        exact h.congr rfl rfl rfl
      rw [← hminted]
      apply (hbase.captureSnapshot _).put
      rw [(captureSnapshot_keeps _ _).limits, hlimits]
      constructor
      · have hmembers : (e.createdRecord q.context key options).members =
            (e.sets[e.ids.nextSetId.1]?.getD (e.declaredRecord q.context e.ids.nextSetId.1 key options)).members := rfl
        unfold liveMemberCount
        rw [hmembers]
        cases hfound : e.sets[e.ids.nextSetId.1]? with
        | none => exact (Nat.le_of_eq (count_empty _)).trans (Nat.zero_le _)
        | some r => exact (h.records _ r hfound).live
      · exact dropOldest_length _ _

theorem EngineStep.recordsFit {e e' : FabricEngine} {op : Op} (step : EngineStep e op e') (leaves : e.LeavesRoom op)
    (h : e.RecordsFit) : e'.RecordsFit := by
  cases step with
  | unchanged => exact h
  | answered request answer => exact answer.recordsFit request leaves h
  | @worked setId r x request found edit =>
      have hshape : op.admits = [] := by cases op <;> first | rfl | cases request
      exact h.put (edit.fits_plain (h.records setId r found) hshape)
  | viewed => exact h.applyView _ _ _ _
  | released | registered | unregistered | bound => exact h.congr rfl rfl rfl
  | fenced =>
      refine RecordsFit.rewritten (fun e r x hx hfits => ?_) (h.congr rfl rfl rfl)
      split at hx
      · cases hx
        constructor
        · have hlive := (LiveFrom.bumped r).le
          exact hlive.trans hfits.live
        · exact hfits.history
      · cases hx
  | epochAdvanced =>
      have hrewritten : ∀ base : FabricEngine, base.sets = e.sets → base.RecordsFit →
          (rewriteSets (fun e r => some (e.epochAdvanced r)) base e.sets.toList).RecordsFit := by
        intro base hsets hbase
        rw [← hsets]
        refine hbase.rewritten fun e r x hx hfits => ?_
        cases hx
        constructor
        · have hlive := (LiveFrom.bumped r).le
          exact hlive.trans hfits.live
        · exact dropOldest_length _ _
      exact hrewritten _ rfl (h.congr rfl rfl rfl)
  | @loaded path files decoded fallback epoch authority loads read =>
      have hstored := (readAndDecode_within read).each
      have hloaded : ∀ base : FabricEngine, base.limits = e.limits → base.RecordsFit →
          (base.installSets decoded.sets).1.RecordsFit ∧ (base.installSets decoded.sets).1.limits = e.limits := by
        intro base hlimits hbase
        apply installSets_preserves (p := fun e' => e'.RecordsFit ∧ e'.limits = e.limits)
        · rintro e r hr ⟨h, hlimits⟩ _ _
          refine ⟨h.installSet (hstored r hr) hlimits, ?_⟩
          obtain ⟨index, hindex⟩ := installSet_frame e r
          rw [hindex, (captureSnapshot_keeps _ _).limits]
          exact hlimits
        · exact ⟨hbase, hlimits⟩
      refine (hloaded (e.clearedForLoad decoded.fences epoch authority) rfl ?_).1
      constructor
      · intro setId r hr
        cases (Std.ExtTreeMap.getElem?_empty.symm.trans hr : none = some r)
      · intro setId l hl
        cases (Std.ExtTreeMap.getElem?_empty.symm.trans hl : none = some l)

namespace FabricEngine

variable {e e' : FabricEngine} {setId : MultipathSetId} {op : Op} {r x : SetRecord}

def DependentsFit (e : FabricEngine) : Prop :=
  ∀ path, (e.dependents path).size ≤ e.limits.maxPathDependenciesPerPath.toNat

def NoMoreDependents (e e' : FabricEngine) : Prop := ∀ path, (e'.dependents path).size ≤ (e.dependents path).size

theorem NoMoreDependents.congr (h : e'.pathDependents = e.pathDependents) : NoMoreDependents e e' := by
  intro path
  unfold dependents
  rw [h]

theorem NoMoreDependents.trans {a b c : FabricEngine} (h : NoMoreDependents a b) (h' : NoMoreDependents b c) :
    NoMoreDependents a c := fun path => (h' path).trans (h path)

theorem DependentsFit.mono (h : e.DependentsFit) (fewer : NoMoreDependents e e') (limits : e'.limits = e.limits) :
    e'.DependentsFit := by
  intro path
  rw [limits]
  exact (fewer path).trans (h path)

theorem sealedCommit_noMore (e : FabricEngine) (setId : MultipathSetId) (y : SetRecord) (q : Request)
    (spec : CommitSpec) (outcome : FabricOutcome) : NoMoreDependents e (e.sealedCommit setId y q spec outcome) := by
  refine NoMoreDependents.trans (b := e.unindexVictims y) (fun path => ?_) (.congr ?_)
  · rw [unindexVictims_dependents]
    split
    · exact Std.ExtTreeSet.size_erase_le
    · exact Nat.le_refl _
  · exact captureSnapshot_pathDependents _ _

theorem applyView_pathDependents (e : FabricEngine) (path : PathId) (view : Option PathAuthorityView)
    (context : Option MutationContext) (cause : MembershipCause) :
    (e.applyView path view context cause).1.pathDependents = e.pathDependents := by
  apply applyView_preserves (p := fun e' => e'.pathDependents = e.pathDependents)
  · intro e' setId r x h _ _
    exact h
  · intro e' r h
    rw [captureSnapshot_pathDependents]
    exact h
  · rfl

theorem rewriteSets_pathDependents (f : FabricEngine → SetRecord → Option SetRecord) (e : FabricEngine)
    (entries : List (MultipathSetId × SetRecord)) : (rewriteSets f e entries).pathDependents = e.pathDependents := by
  induction entries generalizing e with
  | nil => rfl
  | cons entry rest ih =>
      unfold rewriteSets
      split
      · exact ih e
      · rw [ih]
        exact captureSnapshot_pathDependents _ _

theorem room_admits (linked : e.Linked) (found : e.sets[setId]? = some r) (room : e.HasRoom r op) {path : PathId}
    (first : e.pathDependents[path]? = none → 0 < e.limits.maxPathDependenciesPerPath.toNat)
    (admitted : path ∈ op.admits) (new : setId ∉ e.dependents path) :
    (e.dependents path).size < e.limits.maxPathDependenciesPerPath.toNat := by
  have habsent : path ∉ r.members := fun h => new ((linked.own found path).mpr h)
  cases hdependents : e.pathDependents[path]? with
  | none =>
      have hempty : e.dependents path = ∅ := by
        unfold dependents InvertedIndex.owners
        rw [hdependents]
        rfl
      rw [hempty]
      exact first hdependents
  | some dependents =>
      have hsize : e.dependents path = dependents := by
        unfold FabricEngine.dependents InvertedIndex.owners
        rw [hdependents]
        rfl
      have hpublished : ∀ requests : List MemberRequest, e.HasRoomFor r requests →
          path ∈ requests.map MemberRequest.pathId → dependents.size < e.limits.maxPathDependenciesPerPath.toNat := by
        intro requests hroom hpath
        obtain ⟨request, hrequest, rfl⟩ := List.mem_map.mp hpath
        have hnew : request ∈ newLive r requests := by
          apply List.mem_filter.mpr
          refine ⟨hrequest, ?_⟩
          cases hm : r.members[request.pathId]? with
          | none => rfl
          | some m => exact absurd (mem_of_getElem? hm) habsent
        have hnone := List.findSome?_eq_none_iff.mp hroom.dependents request hnew
        rw [hdependents] at hnone
        dsimp only at hnone
        split at hnone
        · cases hnone
        · omega
      rw [hsize]
      cases op with
      | addMember context target request view =>
          apply hpublished [request] room
          simpa [Op.admits] using admitted
      | addMembers context target requests =>
          apply hpublished (requests.map Prod.fst) room
          simpa [Op.admits] using admitted
      | replaceMember context target memberId request reason view =>
          have hpath : path = request.pathId := by simpa [Op.admits] using admitted
          rw [hpath] at hdependents
          exact room.2.2 dependents hdependents
      | _ => exact absurd admitted List.not_mem_nil

theorem prepared_dependentsFit (h : e.DependentsFit) (linked : e.Linked) (subject : op.subject = some setId)
    (found : e.sets[setId]? = some r) (room : e.HasRoom r op)
    (first : ∀ path ∈ op.admits, e.pathDependents[path]? = none → 0 < e.limits.maxPathDependenciesPerPath.toNat) :
    (e.prepared r op).DependentsFit := by
  intro path
  rw [prepared_dependents subject, (prepared_keeps e r op).limits]
  split
  · rename_i hadmits
    by_cases hmem : setId ∈ e.dependents path
    · rw [InvertedIndex.insert_present hmem]
      exact h path
    · have hroom := room_admits linked found room (first path hadmits) hadmits hmem
      exact Std.ExtTreeSet.size_insert_le.trans hroom
  · split
    · exact Std.ExtTreeSet.size_erase_le.trans (h path)
    · exact h path

end FabricEngine

theorem Answer.dependentsFit {e : FabricEngine} {op : Op} {q : Request} {result : FabricEngine × FabricOutcome}
    (answer : Answer e op q result) (request : op.request = some q) (leaves : e.LeavesRoom op) (linked : e.Linked)
    (h : e.DependentsFit) : result.1.DependentsFit := by
  cases answer with
  | refused | replayed | left | answered => exact h.mono (.congr rfl) rfl
  | @committed setId r x spec outcome generation membershipGeneration admitted named found edit expects room next =>
      have hnext : r.generation.next.isSome = true := by
        rw [next]
        rfl
      have hprepared := prepared_dependentsFit h linked named found room fun path hadmits hfirst =>
        leaves.first q setId r path ⟨request, admitted, named, found, edit.checks, expects, room, hnext⟩ hadmits hfirst
      exact hprepared.mono (sealedCommit_noMore _ _ _ _ _ _) (sealedCommit_keeps _ _ _ _ _ _).limits
  | @superseded predecessor successor old new x spec outcome generation =>
      have hput : (e.putSet successor { new with supersedes := some predecessor }).DependentsFit :=
        h.mono (.congr rfl) rfl
      have hcommit := hput.mono (sealedCommit_noMore _ predecessor (x.advanced generation old.membershipGeneration) q
        spec outcome) (sealedCommit_keeps _ _ _ _ _ _).limits
      refine hcommit.mono (.congr ?_) (supersedeSuccessor_keeps _ _ _ _ _).limits
      exact captureSnapshot_pathDependents _ _
  | viewed =>
      refine h.mono (.congr ?_) ?_
      · exact applyView_pathDependents _ _ _ _ _
      · exact (applyView_keeps _ _).limits
  | created =>
      refine h.mono (.congr ?_) ?_
      · exact captureSnapshot_pathDependents _ _
      · exact (captureSnapshot_keeps _ _).limits

structure Installed (e : FabricEngine) (installed : List SetRecord) : Prop where
  keys : ∀ r ∈ installed, e.keyIndex[r.key]?.isSome = true
  ids : ∀ r ∈ installed, e.sets[r.id]?.isSome = true
  distinctKeys : (installed.map SetRecord.key).Nodup
  distinctIds : (installed.map SetRecord.id).Nodup
  dependents : ∀ path, (e.dependents path).size ≤ holders installed path

theorem Installed.install {e : FabricEngine} {installed : List SetRecord} {r : SetRecord} (h : Installed e installed)
    (key : e.keyIndex[r.key]? = none) (id : e.sets[r.id]? = none) :
    Installed (e.installSet r) (installed ++ [r]) := by
  have hkeys : (e.installSet r).keyIndex = e.keyIndex.insert r.key r.id := by
    obtain ⟨index, hindex⟩ := installSet_frame e r
    rw [hindex, (captureSnapshot_keeps _ _).keyIndex]
    rfl
  have hmem : ∀ path, path ∈ (e.recoveredSet r).members ↔ path ∈ r.members := fun path =>
    Std.ExtTreeMap.mem_map.trans Std.ExtTreeMap.mem_map
  constructor
  · intro s hs
    rw [hkeys, getElem?_insert_eq]
    split
    · rfl
    · rename_i hne
      rcases List.mem_append.mp hs with hs | hs
      · exact h.keys s hs
      · rw [List.mem_singleton.mp hs] at hne
        exact absurd rfl hne
  · intro s hs
    rw [installSet_sets, getElem?_insert_eq]
    split
    · rfl
    · rename_i hne
      rcases List.mem_append.mp hs with hs | hs
      · exact h.ids s hs
      · rw [List.mem_singleton.mp hs] at hne
        exact absurd rfl hne
  · rw [List.map_append, List.map_singleton, ← List.concat_eq_append]
    refine List.Nodup.concat (fun hmem => ?_) h.distinctKeys
    obtain ⟨s, hs, hkey⟩ := List.mem_map.mp hmem
    have hsome := h.keys s hs
    rw [hkey, key] at hsome
    cases hsome
  · rw [List.map_append, List.map_singleton, ← List.concat_eq_append]
    refine List.Nodup.concat (fun hmem => ?_) h.distinctIds
    obtain ⟨s, hs, hid⟩ := List.mem_map.mp hmem
    have hsome := h.ids s hs
    rw [hid, id] at hsome
    cases hsome
  · intro path
    have hold := h.dependents path
    rw [installSet_dependents]
    unfold holders at hold ⊢
    rw [List.countP_append, List.countP_singleton]
    split
    · rename_i hpath
      have hcontains : r.members.contains path = true := Std.ExtTreeMap.contains_iff_mem.mpr ((hmem path).mp hpath)
      rw [if_pos hcontains]
      exact Std.ExtTreeSet.size_insert_le.trans (Nat.add_le_add_right hold 1)
    · exact hold.trans (Nat.le_add_right _ _)

theorem Installed.all {e : FabricEngine} {installed stored : List SetRecord} (h : Installed e installed) :
    ∃ sets, sets <+: stored ∧ Installed (e.installSets stored).1 (installed ++ sets) := by
  induction stored generalizing e installed with
  | nil => exact ⟨[], List.prefix_rfl, by rw [List.append_nil]; exact h⟩
  | cons r rest ih =>
      have hstopped : ∃ sets, sets <+: r :: rest ∧ Installed e (installed ++ sets) :=
        ⟨[], List.nil_prefix, by rw [List.append_nil]; exact h⟩
      unfold installSets
      split
      · exact hstopped
      · rename_i hkey
        split
        · exact hstopped
        · rename_i hid
          rw [Option.not_isSome_iff_eq_none] at hkey hid
          obtain ⟨sets, hprefix, hinstalled⟩ := ih (h.install hkey hid)
          refine ⟨r :: sets, List.cons_prefix_cons.mpr ⟨rfl, hprefix⟩, ?_⟩
          rw [List.append_assoc] at hinstalled
          exact hinstalled

theorem installSets_limits (e : FabricEngine) (stored : List SetRecord) : (e.installSets stored).1.limits = e.limits := by
  apply installSets_preserves (p := fun e' => e'.limits = e.limits)
  · intro e' r _ h _ _
    exact (installSet_stamp e' r).limits.trans h
  · rfl

theorem EngineStep.dependentsFit {e e' : FabricEngine} {op : Op} (step : EngineStep e op e') (leaves : e.LeavesRoom op)
    (linked : e.Linked) (h : e.DependentsFit) : e'.DependentsFit := by
  cases step with
  | unchanged => exact h
  | answered request answer => exact answer.dependentsFit request leaves linked h
  | worked | released | registered | unregistered | bound => exact h.mono (.congr rfl) rfl
  | viewed =>
      refine h.mono (.congr ?_) ?_
      · exact applyView_pathDependents _ _ _ _ _
      · exact (applyView_keeps _ _).limits
  | fenced | epochAdvanced =>
      refine h.mono (.congr ?_) ?_
      · exact rewriteSets_pathDependents _ _ _
      · exact (rewriteSets_keeps _ _ _).limits
  | @loaded path files decoded fallback epoch authority loads read nextEpoch nextAuthority =>
      have hcleared : Installed (e.clearedForLoad decoded.fences epoch authority) [] := by
        refine ⟨fun _ h => absurd h List.not_mem_nil, fun _ h => absurd h List.not_mem_nil, List.nodup_nil,
          List.nodup_nil, fun path => ?_⟩
        have hempty : (e.clearedForLoad decoded.fences epoch authority).dependents path = ∅ := by
          unfold dependents
          exact InvertedIndex.owners_empty
        rw [hempty]
        exact Nat.le_refl 0
      obtain ⟨sets, hprefix, hinstalled⟩ := @Installed.all _ _ decoded.sets hcleared
      rw [List.nil_append] at hinstalled
      intro path
      rw [installSets_limits]
      refine (hinstalled.dependents path).trans ?_
      refine leaves.stored _ _ _ _ loads read ?_ ?_ sets hprefix hinstalled.distinctKeys hinstalled.distinctIds path
      · rw [nextEpoch]
        rfl
      · rw [nextAuthority]
        rfl

theorem installSets_registrations (e : FabricEngine) (stored : List SetRecord) :
    (e.installSets stored).1.registrations = e.registrations := by
  apply installSets_preserves (p := fun e' => e'.registrations = e.registrations)
  · intro e' r _ h _ _
    obtain ⟨index, hindex⟩ := installSet_frame e' r
    rw [hindex, (captureSnapshot_keeps _ _).registrations]
    exact h
  · rfl

theorem Answer.registrations {e : FabricEngine} {op : Op} {q : Request} {result : FabricEngine × FabricOutcome}
    (answer : Answer e op q result) : result.1.registrations = e.registrations := by
  cases answer with
  | refused | replayed | left | answered => rfl
  | committed => exact (sealedCommit_keeps _ _ _ _ _ _).registrations.trans (prepared_keeps _ _ _).registrations
  | superseded =>
      exact (supersedeSuccessor_keeps _ _ _ _ _).registrations.trans (sealedCommit_keeps _ _ _ _ _ _).registrations
  | viewed => exact (applyView_keeps _ _).registrations
  | created => exact (captureSnapshot_keeps _ _).registrations

theorem Answer.limits {e : FabricEngine} {op : Op} {q : Request} {result : FabricEngine × FabricOutcome}
    (answer : Answer e op q result) : result.1.limits = e.limits := by
  cases answer with
  | refused | replayed | left | answered => rfl
  | committed => exact (sealedCommit_keeps _ _ _ _ _ _).limits.trans (prepared_keeps _ _ _).limits
  | superseded => exact (supersedeSuccessor_keeps _ _ _ _ _).limits.trans (sealedCommit_keeps _ _ _ _ _ _).limits
  | viewed => exact (applyView_keeps _ _).limits
  | created => exact (captureSnapshot_keeps _ _).limits

theorem EngineStep.registrations {e e' : FabricEngine} {op : Op} (step : EngineStep e op e')
    (h : e.registrations.size ≤ e.limits.maxPublishers.toNat) :
    e'.registrations.size ≤ e'.limits.maxPublishers.toNat := by
  have hreleased : ∀ (key : WorkerKey) (session : SessionId), (e.releaseSession key session).size ≤
      e.registrations.size := fun _ _ => Std.ExtTreeMap.size_filter_le_size
  cases step with
  | unchanged => exact h
  | answered request answer =>
      rw [answer.registrations, answer.limits]
      exact h
  | worked | bound => exact h
  | viewed =>
      rw [(applyView_keeps _ _).registrations, (applyView_keeps _ _).limits]
      exact h
  | released => exact (hreleased _ _).trans h
  | @registered key scope session authority registration _ check =>
      change ((e.releaseSession key session).insert key registration).size ≤ e.limits.maxPublishers.toNat
      have hsize := hreleased key session
      cases hknown : e.registrations[key]? with
      | some current =>
          have hkept : (e.releaseSession key session)[key]? = some current := by
            unfold releaseSession
            simp [hknown]
          rw [size_insert_present hkept]
          exact hsize.trans h
      | none =>
          unfold registrationCheck at check
          rw [hknown] at check
          simp only [Checked.require_ok, decide_eq_true_eq] at check
          have hinsert : ((e.releaseSession key session).insert key registration).size ≤
              (e.releaseSession key session).size + 1 := Std.ExtTreeMap.size_insert_le
          omega
  | unregistered => exact Std.ExtTreeMap.size_erase_le.trans h
  | fenced =>
      rw [fenceSets, (rewriteSets_keeps _ _ _).registrations, (rewriteSets_keeps _ _ _).limits]
      exact Std.ExtTreeMap.size_erase_le.trans h
  | epochAdvanced =>
      rw [(rewriteSets_keeps _ _ _).registrations]
      exact (Nat.le_of_eq Std.ExtTreeMap.size_empty).trans (Nat.zero_le _)
  | loaded =>
      rw [installSets_registrations]
      exact (Nat.le_of_eq Std.ExtTreeMap.size_empty).trans (Nat.zero_le _)

theorem attempts_of_after {e : FabricEngine} (op : Op) (h : e.attempts.length ≤ e.limits.maxAttempts.toNat) :
    (e.after op).attempts.length ≤ (e.after op).limits.maxAttempts.toNat := by
  rw [after_limits]
  cases hrequest : op.request with
  | some q =>
      rcases (exec_answer e hrequest).attemptLog with ⟨hlog, -⟩ | ⟨-, -, hlog⟩
      · rw [show (e.after op).attempts = e.attempts from congrArg Prod.fst hlog]
        exact h
      · rw [show (e.after op).attempts = _ from congrArg Prod.fst hlog]
        exact BoundedLog.record_length _ _ _ _
  | none =>
      cases hloads : op.loads with
      | false =>
          rw [show (e.after op).attempts = e.attempts from congrArg Prod.fst (after_attemptLog hrequest hloads)]
          exact h
      | true =>
          cases op with
          | loadStore path files =>
              change (e.loadStore path files).1.attempts.length ≤ _
              rcases loadStore_cases e path files with hkept | ⟨decoded, _, epoch, authority, _, _, _, hloaded⟩
              · rw [hkept]
                exact h
              · rw [hloaded, show FabricEngine.attempts _ = [] from congrArg Prod.fst (installSets_attemptLog
                  (e.clearedForLoad decoded.fences epoch authority) decoded.sets)]
                exact Nat.zero_le _
          | _ => cases hloads

theorem archivedPaths_length (r : SetRecord) : (archivedPaths r).length = count memberIsTerminal r.members := by
  unfold archivedPaths
  rw [List.length_map]
  exact length_filter_toList memberIsTerminal r.members

theorem pruneArchive_archived (limits : Limits) (r : SetRecord) :
    (archivedPaths (r.pruneArchive limits)).length ≤ limits.maxArchivedMembersPerSet.toNat := by
  have hvictims : (pruneVictims limits r).length =
      (archivedPaths r).length - limits.maxArchivedMembersPerSet.toNat := by
    unfold pruneVictims
    rw [List.length_take]
    omega
  have herased : count memberIsTerminal ((pruneVictims limits r).foldl (fun members path => members.erase path) r.members) +
      (pruneVictims limits r).length = count memberIsTerminal r.members :=
    count_eraseAll (pruneVictims_nodup limits r) fun path hpath => mem_pruneVictims hpath
  have hcount := archivedPaths_length r
  rw [archivedPaths_length]
  unfold SetRecord.pruneArchive
  dsimp only
  split
  · rename_i hempty
    rw [pruneVictims_nil hempty, List.length_nil] at hvictims
    omega
  · have hcleared : count memberIsTerminal
        (((pruneVictims limits r).foldl (fun members path => members.erase path) r.members).map fun _ m =>
          m.clearLineage (victimIds r (pruneVictims limits r))) = _ := count_map_eq _ fun _ => rfl
    refine (Nat.le_of_eq (hcleared.trans (Nat.eq_sub_of_add_eq herased))).trans ?_
    omega

namespace FabricEngine

def Commits (e : FabricEngine) (op : Op) (setId : MultipathSetId) (r : SetRecord) : Prop :=
  op.request.isSome = true ∧ op.views = false ∧ (e.after op).sets[setId]? = some r ∧
    ∃ before : SetRecord, e.sets[setId]? = some before ∧ before.generation ≠ r.generation

theorem committed_archived (e : FabricEngine) (r : SetRecord) (context : MutationContext) (spec : CommitSpec) :
    (archivedPaths (r.committed e context spec)).length ≤ e.limits.maxArchivedMembersPerSet.toNat := by
  have hpruned := pruneArchive_archived e.limits { r with provenance := makeProvenance context spec.cause r }
  exact hpruned

theorem Commits.archived {e : FabricEngine} {op : Op} {setId : MultipathSetId} {r : SetRecord}
    (h : e.Commits op setId r) : (archivedPaths r).length ≤ e.limits.maxArchivedMembersPerSet.toNat := by
  obtain ⟨hrequest, hplain, hafter, before, hbefore, hmoves⟩ := h
  obtain ⟨q, hq⟩ := Option.isSome_iff_exists.mp hrequest
  have hkept : (e.after op).sets[setId]? ≠ e.sets[setId]? := by
    rw [hafter, hbefore]
    intro heq
    cases heq
    exact hmoves rfl
  have hput : ∀ {target : MultipathSetId} {old x : SetRecord}, e.sets[target]? = some old → x.generation = old.generation →
      (e.sets.insert target x)[setId]? ≠ some r := by
    intro target old x hold hsame hfound
    rw [getElem?_insert_eq] at hfound
    split at hfound
    · rename_i heq
      rw [← heq, hold] at hbefore
      cases hbefore
      cases hfound
      exact hmoves hsame.symm
    · rw [hbefore] at hfound
      cases hfound
      exact hmoves rfl
  have answer := exec_answer e hq
  change (e.exec op).1.sets[setId]? = some r at hafter
  change (e.exec op).1.sets[setId]? ≠ _ at hkept
  generalize e.exec op = result at *
  cases answer with
  | refused | replayed => exact absurd rfl hkept
  | left _ _ _ found edit => exact absurd hafter (hput found (edit.generation hplain))
  | answered _ _ found edit =>
      refine absurd hafter (hput found ?_)
      rcases edit with rfl | ⟨_, _, edit⟩
      · rfl
      · exact edit.generation hplain
  | committed _ _ found =>
      dsimp only at hafter
      rw [sealedCommit_sets, prepared_sets, getElem?_insert_eq] at hafter
      split at hafter
      · cases hafter
        rw [← (prepared_keeps e _ op).limits]
        exact committed_archived _ _ _ _
      · rw [hbefore] at hafter
        cases hafter
        exact absurd rfl hmoves
  | @superseded predecessor successor old new x spec outcome generation supersedes _ distinct _ foundOld foundNew =>
      dsimp only at hafter
      rw [supersedeSuccessor_sets, getElem?_insert_eq] at hafter
      split at hafter
      · rename_i heq
        cases hafter
        rw [← heq, foundNew] at hbefore
        cases hbefore
        exact absurd rfl hmoves
      · rename_i hother
        rw [sealedCommit_sets, getElem?_insert_eq] at hafter
        split at hafter
        · cases hafter
          exact committed_archived _ _ _ _
        · rw [putSet, getElem?_insert_eq, if_neg hother, hbefore] at hafter
          cases hafter
          exact absurd rfl hmoves
  | viewed _ _ applied => cases applied <;> cases hplain
  | @created key options outcome =>
      change ((FabricEngine.captureSnapshot _ _).sets.insert _ _)[setId]? = some r at hafter
      rw [captureSnapshot_sets] at hafter
      cases hfound : e.sets[e.ids.nextSetId.1]? with
      | some old =>
          refine absurd hafter (hput hfound ?_)
          simp only [createdRecord, hfound]
          rfl
      | none =>
          rw [getElem?_insert_eq] at hafter
          split at hafter
          · rename_i heq
            rw [heq, hbefore] at hfound
            cases hfound
          · change e.sets[setId]? = some r at hafter
            rw [hbefore] at hafter
            cases hafter
            exact absurd rfl hmoves

structure WithinLimits (e : FabricEngine) : Prop where
  live : ∀ (setId : MultipathSetId) (r : SetRecord), e.sets[setId]? = some r →
    liveMemberCount r ≤ e.limits.maxMembersPerSet.toNat
  history : ∀ (setId : MultipathSetId) (r : SetRecord), e.sets[setId]? = some r →
    r.history.length ≤ e.limits.maxHistoryPerSet.toNat
  snapshots : ∀ (setId : MultipathSetId) (l : List SetSnapshot), e.snapshotHistory[setId]? = some l →
    l.length ≤ e.limits.maxSnapshotHistory.toNat
  sets : e.sets.size ≤ e.limits.maxSets.toNat
  members : memberRecords e.sets ≤ e.limits.maxTotalMembers.toNat
  dependencies : ∀ path : PathId,
    count (fun r : SetRecord => r.members.contains path) e.sets ≤ e.limits.maxPathDependenciesPerPath.toNat
  attempts : e.attempts.length ≤ e.limits.maxAttempts.toNat
  registrations : e.registrations.size ≤ e.limits.maxPublishers.toNat

structure Bounded (e : FabricEngine) : Prop where
  records : e.RecordsFit
  counted : e.Counted
  linked : e.Linked
  dependents : e.DependentsFit
  attempts : e.attempts.length ≤ e.limits.maxAttempts.toNat
  registrations : e.registrations.size ≤ e.limits.maxPublishers.toNat

theorem bounded_init (config : FabricConfig) (ids : IdFactory) : (init config ids).Bounded := by
  refine ⟨⟨?_, ?_⟩, ⟨?_, ?_, ?_⟩, linked_empty rfl rfl, ?_, Nat.zero_le _, ?_⟩
  · intro setId r hr
    cases (Std.ExtTreeMap.getElem?_empty.symm.trans hr : none = some r)
  · intro setId l hl
    cases (Std.ExtTreeMap.getElem?_empty.symm.trans hl : none = some l)
  · exact (Nat.le_of_eq Std.ExtTreeMap.size_empty).trans (Nat.zero_le _)
  · exact Nat.le_of_eq (total_empty _)
  · exact Nat.zero_le _
  · intro path
    have hempty : (init config ids).dependents path = ∅ := by
      unfold dependents
      exact InvertedIndex.owners_empty
    rw [hempty]
    exact Nat.zero_le _
  · exact (Nat.le_of_eq Std.ExtTreeMap.size_empty).trans (Nat.zero_le _)

theorem Bounded.after {e : FabricEngine} {op : Op} (h : e.Bounded) (leaves : e.LeavesRoom op) : (e.after op).Bounded := by
  have hstep := after_engineStep e op
  exact ⟨hstep.recordsFit leaves h.records, (hstep.counted h.counted).1, hstep.linked h.linked,
    hstep.dependentsFit leaves h.linked h.dependents, attempts_of_after op h.attempts, hstep.registrations h.registrations⟩

theorem bounded_of_run {config : FabricConfig} {e : FabricEngine} (run : Run LeavesRoom config e) : e.Bounded := by
  induction run with
  | init ids => exact bounded_init config ids
  | step run op leaves ih => exact ih.after leaves

theorem Bounded.withinLimits {e : FabricEngine} (h : e.Bounded) : e.WithinLimits where
  live setId r found := (h.records.records setId r found).live
  history setId r found := (h.records.records setId r found).history
  snapshots := h.records.snapshots
  sets := h.counted.sets
  members := h.counted.members.trans h.counted.within
  dependencies path := by
    refine Nat.le_trans ?_ (h.dependents path)
    rw [← Std.ExtTreeSet.length_toList]
    apply size_le_length
    intro setId hmem
    obtain ⟨r, hr⟩ := exists_of_mem hmem
    rw [getElem?_filterValues, Option.filter_eq_some_iff] at hr
    rw [Std.ExtTreeSet.mem_toList, h.linked.depends]
    exact ⟨r, hr.1, Std.ExtTreeMap.contains_iff_mem.mp hr.2⟩
  attempts := h.attempts
  registrations := h.registrations

/-- In a run whose steps all leave room, every state keeps to the limits, and so does what the next step commits. -/
theorem withinLimits_of_run {config : FabricConfig} {e : FabricEngine} (run : Run LeavesRoom config e) :
    e.WithinLimits ∧ ∀ (op : Op) (setId : MultipathSetId) (r : SetRecord), e.Commits op setId r →
      (archivedPaths r).length ≤ e.limits.maxArchivedMembersPerSet.toNat :=
  ⟨(bounded_of_run run).withinLimits, fun _ _ _ h => h.archived⟩

theorem leavesRoom_plain {e : FabricEngine} {op : Op} (admits : op.admits = []) (kept : op.loads = false) :
    e.LeavesRoom op := by
  constructor
  · intro q setId r _ hrequests
    cases op with
    | addMember | replaceMember => cases admits
    | addMembers context target requests =>
        rw [Op.admits, List.map_eq_nil_iff] at admits
        subst admits
        exact absurd rfl hrequests
    | _ => exact absurd rfl hrequests
  · intro q setId r path _ hpath
    rw [admits] at hpath
    exact absurd hpath List.not_mem_nil
  · intro path files decoded fallback hloads
    rw [hloads] at kept
    cases kept

theorem withinLimits_of_run_sample :
    (sampleRun sampleSteps).WithinLimits ∧
      ∀ (op : Op) (setId : MultipathSetId) (r : SetRecord), (sampleRun sampleSteps).Commits op setId r →
        (archivedPaths r).length ≤ (sampleRun sampleSteps).limits.maxArchivedMembersPerSet.toNat := by
  have hdeclared : Run LeavesRoom sampleConfig (sampleRun (sampleSteps.take 3)) := by
    refine Run.afterAll (fun op hop e => ?_) (.init sampleIds)
    have hplain : op.admits = [] ∧ op.loads = false := by
      simp only [sampleSteps, List.take, List.mem_cons, List.not_mem_nil, or_false] at hop
      rcases hop with rfl | rfl | rfl <;> exact ⟨rfl, rfl⟩
    exact leavesRoom_plain hplain.1 hplain.2
  have hroom : ((sampleRun (sampleSteps.take 3)).sets[sampleSet]?.all fun r =>
      liveMemberCount r + 1 ≤ (sampleRun (sampleSteps.take 3)).limits.maxMembersPerSet.toNat) = true := by
    decide +kernel
  have hbound : 0 < (sampleRun (sampleSteps.take 3)).limits.maxPathDependenciesPerPath.toNat := by decide +kernel
  have hsteps : sampleRun sampleSteps = (sampleRun (sampleSteps.take 3)).after
      (.addMember (sampleContext "a3") sampleSet sampleRequest (some sampleView)) := rfl
  rw [hsteps]
  generalize sampleRun (sampleSteps.take 3) = e at *
  refine withinLimits_of_run (.step hdeclared _ ⟨?_, fun _ _ _ _ _ _ _ => hbound, fun _ _ _ _ hloads => by cases hloads⟩)
  intro q setId r hpasses _
  have hfound := hpasses.found
  have hsubject : some sampleSet = some setId := hpasses.subject
  rw [← Option.some.inj hsubject] at hfound
  rw [hfound, Option.all_some, decide_eq_true_eq] at hroom
  exact hroom

def singleConfig : FabricConfig := ⟨{ Limits.default with maxMembersPerSet := 1 }, .first, .first⟩

def readmissionSteps : List Op :=
  sampleSteps ++
    [.withdrawMember (sampleContext "a4") sampleSet sampleMember [],
    .addMember (sampleContext "a5") sampleSet ⟨sampleId "pathB", .first⟩ (some ⟨sampleId "pathB", .first, .authorized⟩),
    .addMember (sampleContext "a6") sampleSet sampleRequest (some sampleView)]

/-- A relation that takes the place of an archived one is not counted against the bound. -/
theorem withinLimits_fails :
    ¬∀ config e, Reachable config e → e.WithinLimits ∧
      ∀ (op : Op) (setId : MultipathSetId) (r : SetRecord), e.Commits op setId r →
        (archivedPaths r).length ≤ e.limits.maxArchivedMembersPerSet.toNat := by
  intro h
  have hrun : Reachable singleConfig ((init singleConfig sampleIds).afterAll readmissionSteps) :=
    Reachable.afterAll (.init sampleIds) readmissionSteps
  have hlive : (((init singleConfig sampleIds).afterAll readmissionSteps).sets[sampleSet]?.any fun r =>
      ((init singleConfig sampleIds).afterAll readmissionSteps).limits.maxMembersPerSet.toNat < liveMemberCount r) =
        true := by
    decide +kernel
  generalize (init singleConfig sampleIds).afterAll readmissionSteps = e at *
  rw [Option.any_eq_true] at hlive
  obtain ⟨r, hr, hlarge⟩ := hlive
  rw [decide_eq_true_eq] at hlarge
  have hbound := (h singleConfig e hrun).1.live sampleSet r hr
  omega

end FabricEngine

end MultipathFabric
