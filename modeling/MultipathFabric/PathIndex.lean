import MultipathFabric.EngineStep
import MultipathFabric.Library.InvertedIndex

namespace MultipathFabric

open OrderedMap InvertedIndex

def Op.admits : Op → List PathId
  | .addMember _ _ request _ | .replaceMember _ _ _ request _ _ => [request.pathId]
  | .addMembers _ _ requests => requests.map fun request => request.1.pathId
  | _ => []

def Op.drops (r : SetRecord) : Op → Option PathId
  | .removeMember _ _ memberId _ => r.memberIndex[memberId]?
  | _ => none

namespace SetRecord

def SamePaths (r x : SetRecord) : Prop := ∀ path, path ∈ x.members ↔ path ∈ r.members

theorem SamePaths.trans {a b c : SetRecord} (h : SamePaths a b) (h' : SamePaths b c) : SamePaths a c :=
  fun path => (h' path).trans (h path)

theorem SamePaths.of_eq {r x : SetRecord} (h : x.members = r.members) : SamePaths r x := by
  intro path
  rw [h]

theorem SamePaths.mapped {r x : SetRecord} {f : MemberRecord → MemberRecord}
    (h : x.members = r.members.map fun _ m => f m) : SamePaths r x := by
  intro path
  rw [h]
  exact Std.ExtTreeMap.mem_map

theorem SamePaths.withMember {r : SetRecord} {path : PathId} {m m' : MemberRecord} (h : r.members[path]? = some m) :
    SamePaths r (r.withMember path m') := by
  intro other
  unfold SetRecord.withMember
  rw [mem_insert_iff]
  constructor
  · rintro (heq | hmem)
    · rw [← heq]
      exact mem_of_getElem? h
    · exact hmem
  · exact .inr

theorem SamePaths.transition {r x : SetRecord} {event : SetEvent} (h : r.applyTransition event = .ok x) :
    SamePaths r x := .of_eq (applyTransition_members h)

theorem SamePaths.bumped (r : SetRecord) : SamePaths r r.bumpWatermark := .mapped rfl

theorem SamePaths.consequences (e : FabricEngine) (r : SetRecord) (source target : SetLifecycle)
    (context : Option MutationContext) : SamePaths r (applyMemberConsequences e r source target context) := by
  have hevent : ∀ event, SamePaths r (applyMemberEvent r event) := fun event path =>
    Std.ExtTreeMap.mem_map.trans Std.ExtTreeMap.mem_map
  unfold applyMemberConsequences
  split
  · exact .of_eq rfl
  · split
    · cases target with
      | withdrawing | withdrawn | superseded | retired => exact hevent _
      | revoked => exact fun path => Std.ExtTreeMap.mem_map.trans Std.ExtTreeMap.mem_map
      | _ => exact .of_eq rfl
    · exact .of_eq rfl

theorem newMember_pathId (e : FabricEngine) (context : MutationContext) (r : SetRecord) (cause : MembershipCause)
    (request : MemberRequest) (view : Option PathAuthorityView) (predecessor : Option MultipathMemberId) :
    (e.newMember context r cause request view predecessor).pathId = request.pathId := by
  unfold FabricEngine.newMember MemberRecord.evaluate MemberRecord.applyEvent
  dsimp only
  split
  · rfl
  · split <;> split <;> (try split) <;> rfl

theorem mem_installMember {r : SetRecord} {m : MemberRecord} {path : PathId} :
    path ∈ (r.installMember m).members ↔ m.pathId = path ∨ path ∈ r.members := mem_insert_iff

theorem mem_published (context : MutationContext) (setId : MultipathSetId) (e : FabricEngine) (r : SetRecord)
    (requests : List (MemberRequest × Option PathAuthorityView)) (path : PathId) :
    path ∈ (FabricEngine.publishMembers context setId e r requests).2.1.members ↔
      path ∈ (requests.map fun request => request.1.pathId) ∨ path ∈ r.members := by
  induction requests generalizing e r with
  | nil => simp [FabricEngine.publishMembers]
  | cons request rest ih =>
      unfold FabricEngine.publishMembers
      dsimp only
      rw [ih, mem_installMember, newMember_pathId, List.map_cons, List.mem_cons]
      tauto

end SetRecord

open SetRecord

theorem publication_admits {op : Op} {context : MutationContext} {setId : MultipathSetId}
    {requests : List (MemberRequest × Option PathAuthorityView)} {bulk : Bool}
    (publication : op.Publishes context setId requests bulk) :
    op.admits = requests.map fun request => request.1.pathId := by
  cases publication <;> rfl

theorem RecordEdit.mem {e : FabricEngine} {setId : MultipathSetId} {r x : SetRecord} {op : Op} {summary : Bytes}
    (edit : RecordEdit e setId r op x summary) (path : PathId) :
    path ∈ x.members ↔ path ∈ op.admits ∨ path ∈ r.members ∧ op.drops r ≠ some path := by
  have hsame : r.SamePaths x → op.admits = [] → op.drops r = none →
      (path ∈ x.members ↔ path ∈ op.admits ∨ path ∈ r.members ∧ op.drops r ≠ some path) := by
    intro h hadmits hdrops
    rw [h, hadmits, hdrops]
    simp
  cases edit with
  | collided | supersedes | supersedesRecorded => exact hsame (.of_eq rfl) rfl rfl
  | publish _ moved | minimumChecked _ _ moved | policyChecked _ _ moved | completeWithdrawal _ moved =>
      exact hsame (.transition moved) rfl rfl
  | adminChecked _ _ moved => exact hsame (.transition moved) rfl rfl
  | minimumChanged _ _ moved | adminChanged _ _ moved => exact hsame (.trans (.transition moved) (.of_eq rfl)) rfl rfl
  | policyChanged _ _ moved => exact hsame (.trans (.transition moved) (.mapped rfl)) rfl rfl
  | withdraw _ _ _ moved | revoke _ _ _ _ _ moved | retire _ _ _ moved | superseded _ _ _ moved =>
      refine hsame (.trans (.transition moved) (.trans ?_ (.consequences _ _ _ _ _))) rfl rfl
      exact .of_eq rfl
  | added _ publication _ _ _ _ moved =>
      have hdrops : op.drops r = none := by cases publication <;> rfl
      have hmembers := applyTransition_members moved
      change path ∈ (FabricEngine.publishMembers _ _ _ _ _).2.1.members ↔ _
      rw [mem_published, publication_admits publication, hdrops, hmembers]
      simp
  | removed context memberId reason _ found _ moved =>
      have hmembers := applyTransition_members moved
      have hdrops : Op.drops r (.removeMember context setId memberId reason) = _ := found.1
      change path ∈ (SetRecord.members _).erase _ ↔ _
      rw [mem_erase_iff, hmembers, hdrops]
      simp [Op.admits, and_comm]
  | withdrewMember _ _ _ _ found _ _ moved =>
      have hfound := found.2
      rw [← applyTransition_members moved] at hfound
      exact hsame (.trans (.transition moved) (.trans (.withMember hfound) (.of_eq rfl))) rfl rfl
  | replaced _ _ _ _ _ _ _ _ found _ _ _ _ moved =>
      have hfound := found.2
      rw [← applyTransition_members moved] at hfound
      unfold SetRecord.replaced
      change path ∈ (SetRecord.installMember _ _).members ↔ _
      rw [mem_installMember, newMember_pathId, SamePaths.withMember hfound path, applyTransition_members moved]
      simp [Op.admits, Op.drops, eq_comm]
  | toggled _ _ _ _ found => exact hsame (.withMember found.2) rfl rfl
  | revalidatedSet => exact hsame (.mapped rfl) rfl rfl
  | revalidatedMember _ _ _ found | begun _ _ _ found => exact hsame (.withMember found.2) rfl rfl
  | released _ _ _ _ found | completed _ _ _ _ found => exact hsame (.withMember found.2) rfl rfl
  | abandoned _ _ found => exact hsame (.withMember found.2) rfl rfl
  | observed applied _ found =>
      have hplain : op.admits = [] ∧ op.drops r = none := by cases applied <;> exact ⟨rfl, rfl⟩
      exact hsame (.withMember found) hplain.1 hplain.2
  | invalidated applied _ found =>
      have hplain : op.admits = [] ∧ op.drops r = none := by cases applied <;> exact ⟨rfl, rfl⟩
      refine hsame ?_ hplain.1 hplain.2
      exact .trans (.withMember found) (.of_eq (dependencyInvalidated_fields _ _ _ _ _ _).2.1)

theorem pruneArchive_mem {limits : Limits} {r : SetRecord} {path : PathId} :
    path ∈ (r.pruneArchive limits).members ↔ path ∉ pruneVictims limits r ∧ path ∈ r.members := by
  unfold SetRecord.pruneArchive
  dsimp only
  split
  · rename_i hempty
    rw [pruneVictims_nil hempty]
    simp
  · exact Std.ExtTreeMap.mem_map.trans mem_eraseAll_iff

theorem SetRecord.pruneArchive_id (limits : Limits) (r : SetRecord) : (r.pruneArchive limits).id = r.id := by
  unfold SetRecord.pruneArchive
  dsimp only
  split <;> rfl

theorem SetRecord.committed_id (e : FabricEngine) (r : SetRecord) (context : MutationContext) (spec : CommitSpec) :
    (r.committed e context spec).id = r.id := by
  have hpruned := pruneArchive_id e.limits { r with provenance := makeProvenance context spec.cause r }
  exact hpruned

theorem SetRecord.committed_mem {e : FabricEngine} {r : SetRecord} {context : MutationContext} {spec : CommitSpec}
    {path : PathId} :
    path ∈ (r.committed e context spec).members ↔ path ∉ pruneVictims e.limits r ∧ path ∈ r.members := by
  have hpruned : path ∈ (SetRecord.pruneArchive e.limits
      { r with provenance := makeProvenance context spec.cause r }).members ↔ _ := pruneArchive_mem
  exact hpruned

namespace FabricEngine

def dependents (e : FabricEngine) (path : PathId) : Std.ExtTreeSet MultipathSetId := owners e.pathDependents path

variable {e e' : FabricEngine} {setId other : MultipathSetId} {path path' : PathId} {op : Op} {r r' x : SetRecord}

theorem indexPath_dependents :
    (e.indexPath setId path).dependents path' =
      if path = path' then (e.dependents path').insert setId else e.dependents path' := owners_add

theorem unindexPath_pathDependents (e : FabricEngine) (setId : MultipathSetId) (path : PathId) :
    (e.unindexPath setId path).pathDependents = remove e.pathDependents path setId := by
  unfold unindexPath remove
  cases e.pathDependents[path]? with
  | none => rfl
  | some dependents => rfl

theorem unindexPath_dependents :
    (e.unindexPath setId path).dependents path' =
      if path = path' then (e.dependents path').erase setId else e.dependents path' := by
  unfold dependents
  rw [unindexPath_pathDependents, owners_remove]

theorem unindexVictims_dependents (e : FabricEngine) (r : SetRecord) :
    (e.unindexVictims r).dependents path =
      if path ∈ pruneVictims e.limits r then (e.dependents path).erase r.id else e.dependents path := by
  have hfold : ∀ (paths : List PathId) (e : FabricEngine),
      (paths.foldl (fun e path => e.unindexPath r.id path) e).pathDependents =
        paths.foldl (fun t path => remove t path r.id) e.pathDependents := by
    intro paths
    induction paths with
    | nil => exact fun _ => rfl
    | cons path rest ih =>
        intro e
        rw [List.foldl_cons, ih, unindexPath_pathDependents]
        rfl
  change owners (List.foldl _ e _).pathDependents path = _
  rw [hfold, owners_removeAll]
  rfl

theorem captureSnapshot_pathDependents (e : FabricEngine) (r : SetRecord) :
    (e.captureSnapshot r).pathDependents = e.pathDependents := by
  unfold captureSnapshot
  dsimp only
  split <;> rfl

theorem captureSnapshot_totalMembers (e : FabricEngine) (r : SetRecord) :
    (e.captureSnapshot r).totalMembers = e.totalMembers := by
  unfold captureSnapshot
  dsimp only
  split <;> rfl

theorem admitPaths_dependents (e : FabricEngine) (setId : MultipathSetId) (requests : List MemberRequest) :
    (e.admitPaths setId requests).dependents path =
      if path ∈ requests.map MemberRequest.pathId then (e.dependents path).insert setId else e.dependents path := by
  have hfold : ∀ (requests : List MemberRequest) (e : FabricEngine),
      (e.admitPaths setId requests).pathDependents =
        (requests.map MemberRequest.pathId).foldl (fun t path => add t path setId) e.pathDependents := by
    intro requests
    induction requests with
    | nil => exact fun _ => rfl
    | cons request rest ih => exact fun e => ih _
  unfold dependents
  rw [hfold, owners_addAll]

theorem prepared_dependents (subject : op.subject = some setId) :
    (e.prepared r op).dependents path =
      if path ∈ op.admits then (e.dependents path).insert setId
      else if op.drops r = some path then (e.dependents path).erase setId else e.dependents path := by
  cases op with
  | addMember context target request view =>
      cases subject
      exact admitPaths_dependents e setId [request]
  | addMembers context target requests =>
      cases subject
      refine (admitPaths_dependents e setId (requests.map Prod.fst)).trans ?_
      rw [List.map_map]
      rfl
  | replaceMember context target memberId request reason view =>
      cases subject
      refine indexPath_dependents.trans ?_
      simp [Op.admits, Op.drops, eq_comm]
      rfl
  | removeMember context target memberId reason =>
      cases subject
      have hdrops : Op.drops r (.removeMember context setId memberId reason) = r.memberIndex[memberId]? := rfl
      have hadmits : path ∉ Op.admits (.removeMember context setId memberId reason) := List.not_mem_nil
      rw [hdrops, if_neg hadmits]
      unfold prepared
      dsimp only
      cases r.memberIndex[memberId]? with
      | none => rfl
      | some dropped =>
          refine unindexPath_dependents.trans ?_
          simp
  | _ => rfl

structure Linked (e : FabricEngine) : Prop where
  keyed : ∀ (setId : MultipathSetId) (r : SetRecord), e.sets[setId]? = some r → r.id = setId
  depends : ∀ (path : PathId) (setId : MultipathSetId),
    setId ∈ e.dependents path ↔ ∃ r, e.sets[setId]? = some r ∧ path ∈ r.members

theorem Linked.store (h : e.Linked) (sets : e'.sets = e.sets.insert setId r') (named : r'.id = setId)
    (own : ∀ path, setId ∈ e'.dependents path ↔ path ∈ r'.members)
    (others : ∀ path other, setId ≠ other → (other ∈ e'.dependents path ↔ other ∈ e.dependents path)) :
    e'.Linked := by
  constructor
  · intro other found hfound
    rw [sets, getElem?_insert_eq] at hfound
    split at hfound
    · rename_i heq
      cases hfound
      exact named.trans heq
    · exact h.keyed other found hfound
  · intro path other
    rw [sets, getElem?_insert_eq]
    split
    · rename_i heq
      rw [← heq, own]
      simp
    · rename_i hne
      rw [others path other hne, h.depends]

theorem Linked.put (h : e.Linked) (found : e.sets[setId]? = some r) (same : r.SamePaths x) (named : x.id = r.id) :
    (e.putSet setId x).Linked := by
  refine h.store rfl (named.trans (h.keyed setId r found)) (fun path => ?_) fun _ _ _ => Iff.rfl
  rw [same path]
  change setId ∈ e.dependents path ↔ _
  rw [h.depends, found]
  simp

theorem Linked.congr (h : e.Linked) (sets : e'.sets = e.sets) (index : e'.pathDependents = e.pathDependents) :
    e'.Linked := by
  constructor
  · rw [sets]
    exact h.keyed
  · intro path setId
    rw [sets, ← h.depends]
    unfold dependents
    rw [index]

theorem Linked.captureSnapshot (h : e.Linked) (r : SetRecord) : (e.captureSnapshot r).Linked :=
  h.congr (captureSnapshot_sets e r) (captureSnapshot_pathDependents e r)

theorem Linked.recordAttempt (h : e.Linked) (context : MutationContext) (operation : Bytes) (fields : List Bytes)
    (outcome : FabricOutcome) : (e.recordAttempt context operation fields outcome).Linked :=
  h.congr rfl rfl

theorem Observes.samePaths {view : Option PathAuthorityView} {context : Option MutationContext}
    {cause : MembershipCause} (h : Observes e path view context cause r x) : r.SamePaths x ∧ x.id = r.id := by
  cases h with
  | observed found => exact ⟨.withMember found, rfl⟩
  | @invalidated stamp m bounds found =>
      refine ⟨.trans (.withMember found) (.of_eq (dependencyInvalidated_fields _ _ _ _ _ _).2.1), ?_⟩
      unfold dependencyInvalidated
      dsimp only
      split <;> rfl

theorem Linked.applyView (h : e.Linked) (path : PathId) (view : Option PathAuthorityView)
    (context : Option MutationContext) (cause : MembershipCause) : (e.applyView path view context cause).1.Linked := by
  apply applyView_preserves (p := Linked)
  · intro e setId r x h found observes
    exact h.put found observes.samePaths.1 observes.samePaths.2
  · intro e r h
    exact h.captureSnapshot r
  · exact h

theorem Linked.sealedCommit (h : e.Linked) {base : FabricEngine} {q : Request} {spec : CommitSpec}
    {outcome : FabricOutcome} (found : e.sets[setId]? = some r) (named : x.id = r.id) (sets : base.sets = e.sets)
    (own : ∀ path, setId ∈ base.dependents path ↔ path ∈ x.members)
    (others : ∀ path other, setId ≠ other → (other ∈ base.dependents path ↔ other ∈ e.dependents path)) :
    (base.sealedCommit setId x q spec outcome).Linked := by
  have hid : x.id = setId := named.trans (h.keyed setId r found)
  have hdependents : ∀ path, (base.sealedCommit setId x q spec outcome).dependents path =
      if path ∈ pruneVictims base.limits x then (base.dependents path).erase setId else base.dependents path := by
    intro path
    rw [← hid, ← unindexVictims_dependents]
    change owners (FabricEngine.captureSnapshot _ _).pathDependents path = _
    rw [captureSnapshot_pathDependents]
    rfl
  have hsets : (base.sealedCommit setId x q spec outcome).sets =
      e.sets.insert setId (x.committed base q.context spec) := by
    change (base.storeCommitted setId x (x.committed base q.context spec)).sets = _
    rw [storeCommitted_sets, sets]
  refine h.store hsets ((committed_id base x q.context spec).trans hid) (fun path => ?_) fun path other hne => ?_
  · rw [hdependents, committed_mem]
    split
    · rename_i hvictim
      simp [hvictim]
    · rename_i hkept
      rw [own]
      simp [hkept]
  · rw [hdependents, ← others path other hne]
    split
    · simp [hne]
    · rfl

theorem Linked.own (h : e.Linked) (found : e.sets[setId]? = some r) (path : PathId) :
    setId ∈ e.dependents path ↔ path ∈ r.members := by
  rw [h.depends, found]
  simp

theorem Linked.prepared (h : e.Linked) {summary : Bytes} (found : e.sets[setId]? = some r)
    (edit : RecordEdit e setId r op x summary) (subject : op.subject = some setId) (path : PathId) :
    (setId ∈ (e.prepared r op).dependents path ↔ path ∈ x.members) ∧
      ∀ other, setId ≠ other → (other ∈ (e.prepared r op).dependents path ↔ other ∈ e.dependents path) := by
  rw [prepared_dependents subject, edit.mem]
  have hown := h.own found path
  constructor
  · split
    · rename_i hadmits
      simp [hadmits]
    · rename_i hadmits
      split
      · rename_i hdrops
        simp [hadmits, hdrops]
      · rename_i hdrops
        rw [hown]
        simp [hadmits, hdrops]
  · intro other hne
    split
    · simp [hne]
    · split
      · simp [hne]
      · rfl

end FabricEngine

theorem RecordEdit.samePaths {e : FabricEngine} {setId : MultipathSetId} {r x : SetRecord} {op : Op} {summary : Bytes}
    (edit : RecordEdit e setId r op x summary) (shape : op.reshapes = false) : r.SamePaths x := by
  intro path
  have hplain : op.admits = [] ∧ op.drops r = none := by
    cases op <;> first | exact ⟨rfl, rfl⟩ | cases shape
  rw [edit.mem, hplain.1, hplain.2]
  simp

open FabricEngine

theorem residual_reshapes {op : Op} (h : op.residual = true) : op.reshapes = false := by
  cases op <;> first | rfl | cases h

theorem sealedCommit_successor (e : FabricEngine) {predecessor successor : MultipathSetId}
    (distinct : predecessor ≠ successor) (new x : SetRecord) (q : Request) (spec : CommitSpec) (outcome : FabricOutcome) :
    ((e.putSet successor new).sealedCommit predecessor x q spec outcome).sets[successor]? = some new := by
  rw [sealedCommit_sets, getElem?_insert_eq, if_neg distinct, putSet, getElem?_insert_eq, if_pos rfl]

theorem Answer.linked {e : FabricEngine} {op : Op} {q : Request} {result : FabricEngine × FabricOutcome}
    (answer : Answer e op q result) (h : e.Linked) : result.1.Linked := by
  cases answer with
  | refused => exact h
  | replayed => exact h
  | left residual _ _ found edit => exact h.put found (edit.samePaths (residual_reshapes residual)) edit.sameHead.id
  | answered _ _ found edit =>
      apply Linked.recordAttempt
      rcases edit with rfl | ⟨shape, _, edit⟩
      · exact h.put found (.of_eq rfl) rfl
      · exact h.put found (edit.samePaths shape) edit.sameHead.id
  | committed _ named found edit =>
      have hprepared := h.prepared found edit named
      exact h.sealedCommit found edit.sameHead.id (prepared_sets e _ op) (fun path => (hprepared path).1)
        fun path => (hprepared path).2
  | @superseded predecessor successor old new x spec outcome generation supersedes _ distinct _ foundOld foundNew _ _
      edit =>
      have hplain : op.reshapes = false := by rw [supersedes]; rfl
      obtain ⟨base, hbase⟩ : ∃ base, base = e.putSet successor { new with supersedes := some predecessor } := ⟨_, rfl⟩
      have hlinked : base.Linked := by
        rw [hbase]
        exact h.put foundNew (.of_eq rfl) rfl
      have hfound : base.sets[predecessor]? = some old := by
        rw [hbase, putSet, getElem?_insert_eq, if_neg distinct.symm]
        exact foundOld
      rw [← hbase]
      have hcommit : (base.sealedCommit predecessor (x.advanced generation old.membershipGeneration) q spec outcome).Linked :=
        hlinked.sealedCommit hfound edit.sameHead.id rfl
          (fun path => (hlinked.own hfound path).trans (edit.samePaths hplain path).symm) fun _ _ _ => Iff.rfl
      have hsuccessor : (base.sealedCommit predecessor (x.advanced generation old.membershipGeneration) q spec
          outcome).sets[successor]? = some { new with supersedes := some predecessor } := by
        rw [hbase]
        exact sealedCommit_successor e distinct _ _ q spec outcome
      refine (hcommit.captureSnapshot _).put (r := { new with supersedes := some predecessor }) ?_ (.of_eq rfl) rfl
      rw [captureSnapshot_sets]
      exact hsuccessor
  | viewed =>
      apply Linked.recordAttempt
      apply Linked.applyView
      exact h.congr rfl rfl
  | @created key options outcome =>
      apply Linked.recordAttempt
      obtain ⟨minted, hminted⟩ : ∃ minted : FabricEngine, minted =
          { e with ids := e.ids.nextSetId.2, keyIndex := e.keyIndex.insert key e.ids.nextSetId.1 } := ⟨_, rfl⟩
      have hlinked : minted.Linked := by
        rw [hminted]
        exact h.congr rfl rfl
      have hsets : minted.sets = e.sets := by rw [hminted]
      rw [← hminted]
      cases hfound : e.sets[e.ids.nextSetId.1]? with
      | some r =>
          refine (hlinked.captureSnapshot _).put (r := r) ?_ ?_ ?_
          · rw [captureSnapshot_sets, hsets, hfound]
          · refine .of_eq ?_
            simp only [createdRecord, hfound]
            rfl
          · simp only [createdRecord, hfound]
            rfl
      | none =>
          have hnone : ∀ path, e.ids.nextSetId.1 ∉ (minted.captureSnapshot (e.createdRecord q.context key options)).dependents
              path := by
            intro path hmem
            obtain ⟨r, hr, _⟩ := ((hlinked.captureSnapshot _).depends path _).mp hmem
            rw [captureSnapshot_sets, hsets, hfound] at hr
            cases hr
          have hcreated : e.createdRecord q.context key options = e.appendHistory
              (e.declaredRecord q.context e.ids.nextSetId.1 key options) .declare .declared (some q.context) none none
              (text "declared set " ++ key.render ++ text " minimum=" ++
                decimal options.minimumUsableMembers.toNat) := by
            rw [createdRecord, hfound]
            rfl
          refine (hlinked.captureSnapshot _).store rfl ?_ (fun path => iff_of_false (hnone path) ?_) fun _ _ _ => Iff.rfl
          · rw [hcreated]
            rfl
          · rw [hcreated]
            exact Std.ExtTreeMap.not_mem_empty

namespace FabricEngine

variable {e : FabricEngine}

theorem Linked.rewritten {f : FabricEngine → SetRecord → Option SetRecord}
    (same : ∀ e r x, f e r = some x → r.SamePaths x ∧ x.id = r.id) (h : e.Linked) :
    (rewriteSets f e e.sets.toList).Linked := by
  apply rewriteAll_preserves (p := Linked)
  · intro e setId r x h found rewrites
    refine (h.captureSnapshot x).put (r := r) ?_ (same e r x rewrites).1 (same e r x rewrites).2
    rw [captureSnapshot_sets]
    exact found
  · exact h

theorem linked_empty (h : e.sets = ∅) (h' : e.pathDependents = ∅) : e.Linked := by
  constructor
  · intro setId r hr
    rw [h, Std.ExtTreeMap.getElem?_empty] at hr
    cases hr
  · intro path setId
    unfold dependents
    rw [h, h', owners_empty, Std.ExtTreeMap.getElem?_empty]
    simp

theorem indexPaths_dependents (setId : MultipathSetId) (paths : List PathId) (e : FabricEngine) (path : PathId) :
    (paths.foldl (fun e path => e.indexPath setId path) e).dependents path =
      if path ∈ paths then (e.dependents path).insert setId else e.dependents path := by
  have hfold : ∀ (paths : List PathId) (e : FabricEngine),
      (paths.foldl (fun e path => e.indexPath setId path) e).pathDependents =
        paths.foldl (fun t path => add t path setId) e.pathDependents := by
    intro paths
    induction paths with
    | nil => exact fun _ => rfl
    | cons path rest ih => exact fun e => ih _
  unfold dependents
  rw [hfold, owners_addAll]

theorem installSet_dependents (e : FabricEngine) (r : SetRecord) (path : PathId) :
    (e.installSet r).dependents path =
      if path ∈ (e.recoveredSet r).members then (e.dependents path).insert r.id else e.dependents path := by
  unfold installSet
  dsimp only
  rw [dependents, captureSnapshot_pathDependents]
  have hindexed := indexPaths_dependents (e.recoveredSet r).id (e.recoveredSet r).members.keys
    { e.putSet (e.recoveredSet r).id (e.recoveredSet r) with
      keyIndex := e.keyIndex.insert (e.recoveredSet r).key (e.recoveredSet r).id } path
  simp only [Std.ExtTreeMap.mem_keys] at hindexed
  exact hindexed

theorem Linked.installSet (h : e.Linked) {r : SetRecord} (fresh : e.sets[r.id]? = none) : (e.installSet r).Linked := by
  have hnone : ∀ path, r.id ∉ e.dependents path := by
    intro path hmem
    obtain ⟨s, hs, _⟩ := (h.depends path _).mp hmem
    rw [fresh] at hs
    cases hs
  refine h.store (installSet_sets e r) rfl (fun path => ?_) fun path other hne => ?_
  · rw [installSet_dependents]
    split
    · rename_i hmem
      simp [hmem]
    · rename_i hmem
      exact iff_of_false (hnone path) hmem
  · rw [installSet_dependents]
    split
    · simp [hne]
    · rfl

end FabricEngine

theorem EngineStep.linked {e e' : FabricEngine} {op : Op} (step : EngineStep e op e') (h : e.Linked) : e'.Linked := by
  cases step with
  | unchanged => exact h
  | answered _ answer => exact answer.linked h
  | worked request found edit =>
      have hshape : op.reshapes = false := by cases op <;> first | rfl | cases request
      exact h.put found (edit.samePaths hshape) edit.sameHead.id
  | viewed => exact h.applyView _ _ _ _
  | released | registered | unregistered | bound => exact h.congr rfl rfl
  | fenced =>
      refine Linked.rewritten (fun e r x hx => ?_) (h.congr rfl rfl)
      split at hx
      · cases hx
        exact ⟨.bumped _, rfl⟩
      · cases hx
  | epochAdvanced =>
      have hempty : ∀ base : FabricEngine, base.sets = e.sets → base.Linked →
          (rewriteSets (fun e r => some (e.epochAdvanced r)) base e.sets.toList).Linked := by
        intro base hsets hbase
        rw [← hsets]
        refine hbase.rewritten fun e r x hx => ?_
        cases hx
        exact ⟨.bumped _, rfl⟩
      exact hempty _ rfl (h.congr rfl rfl)
  | loaded =>
      apply installSets_preserves (p := Linked)
      · intro e r _ h _ fresh
        exact h.installSet fresh
      · exact linked_empty rfl rfl

theorem FabricEngine.linked_of_run {config : FabricConfig} {e : FabricEngine} (run : Reachable config e) : e.Linked := by
  induction run with
  | init ids => exact linked_empty rfl rfl
  | step run op _ ih => exact (after_engineStep _ op).linked ih

end MultipathFabric
