import MultipathFabric.MemberCount

namespace MultipathFabric

open OrderedMap SetRecord

theorem dropOldest_length {α : Type} (limit : ℕ) (l : List α) : (dropOldest limit l).length ≤ limit := by
  unfold dropOldest
  rw [List.length_drop]
  omega

structure SetRecord.Fits (limits : Limits) (r : SetRecord) : Prop where
  live : liveMemberCount r ≤ limits.maxMembersPerSet.toNat
  history : r.history.length ≤ limits.maxHistoryPerSet.toNat

def SetRecord.Logs (limits : Limits) (r x : SetRecord) : Prop :=
  r.history.length ≤ limits.maxHistoryPerSet.toNat → x.history.length ≤ limits.maxHistoryPerSet.toNat

namespace SetRecord.Logs

variable {limits : Limits} {a b c : SetRecord}

theorem of_eq (h : b.history = a.history) : Logs limits a b := by
  intro hlength
  rw [h]
  exact hlength

theorem trans (h : Logs limits a b) (h' : Logs limits b c) : Logs limits a c := fun hlength => h' (h hlength)

theorem transition {event : SetEvent} (h : a.applyTransition event = .ok b) : Logs limits a b := by
  apply of_eq
  rw [applyTransition_frame h]

theorem appended {e : FabricEngine} (bounds : e.limits = limits) (y : SetRecord) (event : SetEvent)
    (cause : MembershipCause) (context : Option MutationContext) (memberId : Option MultipathMemberId)
    (path : Option PathId) (summary : Bytes) :
    Logs limits a (e.appendHistory y event cause context memberId path summary) := by
  intro _
  rw [← bounds]
  exact dropOldest_length _ _

theorem consequences {e : FabricEngine} (bounds : e.limits = limits) (r : SetRecord) (source target : SetLifecycle)
    (context : Option MutationContext) : Logs limits r (applyMemberConsequences e r source target context) := by
  unfold applyMemberConsequences
  split
  · exact of_eq rfl
  · split
    · cases target with
      | revoked => exact appended bounds _ _ _ _ _ _ _
      | _ => exact of_eq rfl
    · exact of_eq rfl

theorem published (context : MutationContext) (setId : MultipathSetId) (e : FabricEngine) (r : SetRecord)
    (requests : List (MemberRequest × Option PathAuthorityView)) :
    Logs limits r (FabricEngine.publishMembers context setId e r requests).2.1 := by
  induction requests generalizing e r with
  | nil => exact of_eq rfl
  | cons request rest ih =>
      have hinstalled : Logs limits r (r.installMember (e.newMember context r .memberAdded request.1 request.2
          (r.members[request.1.pathId]?.map MemberRecord.id))) := of_eq rfl
      exact hinstalled.trans (ih _ _)

end SetRecord.Logs

theorem RecordEdit.logs {e : FabricEngine} {setId : MultipathSetId} {r x : SetRecord} {op : Op} {summary : Bytes}
    (edit : RecordEdit e setId r op x summary) : Logs e.limits r x := by
  cases edit with
  | collided | supersedesRecorded => exact .appended rfl _ _ _ _ _ _ _
  | supersedes | toggled | revalidatedSet | revalidatedMember | begun | released | completed | abandoned | observed =>
      exact .of_eq rfl
  | publish _ moved | minimumChecked _ _ moved | policyChecked _ _ moved | adminChecked _ _ moved
  | completeWithdrawal _ moved => exact .transition moved
  | minimumChanged _ _ moved | adminChanged _ _ moved | policyChanged _ _ moved | removed _ _ _ _ _ _ moved
  | withdrewMember _ _ _ _ _ _ _ moved | replaced _ _ _ _ _ _ _ _ _ _ _ _ _ moved =>
      exact .trans (.transition moved) (.of_eq rfl)
  | withdraw _ _ _ moved | revoke _ _ _ _ _ moved | retire _ _ _ moved | superseded _ _ _ moved =>
      refine .trans (.transition moved) (.trans ?_ (.consequences rfl _ _ _ _))
      exact .of_eq rfl
  | added _ _ _ _ _ _ moved => exact .trans (.transition moved) (.trans (.published _ _ _ _ _) (.of_eq rfl))
  | invalidated => exact .appended rfl _ _ _ _ _ _ _

theorem SetRecord.committed_liveFrom (e : FabricEngine) (r : SetRecord) (context : MutationContext) (spec : CommitSpec) :
    r.LiveFrom (r.committed e context spec) := by
  intro path m hm hlive
  obtain ⟨m', hm', rfl | ⟨pruned, rfl⟩⟩ := pruneArchive_member hm
  · exact ⟨m, hm', hlive⟩
  · exact ⟨m', hm', hlive⟩

namespace FabricEngine

structure RecordsFit (e : FabricEngine) : Prop where
  records : ∀ (setId : MultipathSetId) (r : SetRecord), e.sets[setId]? = some r → r.Fits e.limits
  snapshots : ∀ (setId : MultipathSetId) (l : List SetSnapshot), e.snapshotHistory[setId]? = some l →
    l.length ≤ e.limits.maxSnapshotHistory.toNat

variable {e e' : FabricEngine} {setId : MultipathSetId} {path : PathId} {op : Op} {r x : SetRecord}

theorem indexPaths_frame (setId : MultipathSetId) (paths : List PathId) (e : FabricEngine) :
    ∃ index, paths.foldl (fun e path => e.indexPath setId path) e = { e with pathDependents := index } := by
  induction paths generalizing e with
  | nil => exact ⟨e.pathDependents, rfl⟩
  | cons path rest ih => exact ih _

theorem unindexPath_frame (e : FabricEngine) (setId : MultipathSetId) (path : PathId) :
    ∃ index, e.unindexPath setId path = { e with pathDependents := index } := by
  unfold unindexPath
  split
  · exact ⟨e.pathDependents, rfl⟩
  · exact ⟨_, rfl⟩

theorem unindexVictims_frame (e : FabricEngine) (r : SetRecord) :
    ∃ index, e.unindexVictims r = { e with
      pathDependents := index
      totalMembers := e.totalMembers - (pruneVictims e.limits r).length } := by
  have hfold : ∀ (paths : List PathId) (e : FabricEngine),
      ∃ index, paths.foldl (fun e path => e.unindexPath r.id path) e = { e with pathDependents := index } := by
    intro paths
    induction paths with
    | nil => exact fun e => ⟨e.pathDependents, rfl⟩
    | cons path rest ih =>
        intro e
        obtain ⟨index, hindex⟩ := unindexPath_frame e r.id path
        rw [List.foldl_cons, hindex]
        exact ih _
  obtain ⟨index, hindex⟩ := hfold (pruneVictims e.limits r) e
  refine ⟨index, ?_⟩
  unfold unindexVictims
  dsimp only
  rw [hindex]

theorem prepared_frame (e : FabricEngine) (r : SetRecord) (op : Op) :
    ∃ ids index total, e.prepared r op = { e with ids := ids, pathDependents := index, totalMembers := total } := by
  have hadmitted : ∀ (setId : MultipathSetId) (requests : List MemberRequest) (e : FabricEngine),
      ∃ ids index, e.admitPaths setId requests = { e with ids := ids, pathDependents := index } := by
    intro setId requests
    induction requests with
    | nil => exact fun e => ⟨e.ids, e.pathDependents, rfl⟩
    | cons request rest ih => exact fun e => ih _
  cases op with
  | addMember context setId request view =>
      obtain ⟨ids, index, h⟩ := hadmitted setId [request] e
      refine ⟨ids, index, e.totalMembers + (newLive r [request]).length, ?_⟩
      unfold prepared
      dsimp only
      rw [h]
  | addMembers context setId requests =>
      obtain ⟨ids, index, h⟩ := hadmitted setId (requests.map Prod.fst) e
      refine ⟨ids, index, e.totalMembers + (newLive r (requests.map Prod.fst)).length, ?_⟩
      unfold prepared
      dsimp only
      rw [h]
  | removeMember context setId memberId reason =>
      unfold prepared
      dsimp only
      split
      · exact ⟨e.ids, e.pathDependents, e.totalMembers, rfl⟩
      · rename_i path _
        obtain ⟨index, h⟩ := unindexPath_frame e setId path
        rw [h]
        exact ⟨e.ids, index, e.totalMembers - 1, rfl⟩
  | replaceMember => exact ⟨_, _, _, rfl⟩
  | _ => exact ⟨e.ids, e.pathDependents, e.totalMembers, rfl⟩

theorem installSet_frame (e : FabricEngine) (r : SetRecord) :
    ∃ index, e.installSet r = FabricEngine.captureSnapshot
      { e with
        sets := e.sets.insert (e.recoveredSet r).id (e.recoveredSet r)
        keyIndex := e.keyIndex.insert (e.recoveredSet r).key (e.recoveredSet r).id
        pathDependents := index
        totalMembers := e.totalMembers + (e.recoveredSet r).members.size } (e.recoveredSet r) := by
  unfold installSet
  generalize e.recoveredSet r = recovered
  obtain ⟨index, hindex⟩ := indexPaths_frame recovered.id recovered.members.keys
    { e.putSet recovered.id recovered with keyIndex := e.keyIndex.insert recovered.key recovered.id }
  refine ⟨index, ?_⟩
  dsimp only [putSet] at hindex ⊢
  rw [hindex]

namespace RecordsFit

theorem congr (h : e.RecordsFit) (sets : e'.sets = e.sets) (snapshots : e'.snapshotHistory = e.snapshotHistory)
    (limits : e'.limits = e.limits) : e'.RecordsFit := by
  constructor
  · rw [sets, limits]
    exact h.records
  · rw [snapshots, limits]
    exact h.snapshots

theorem put (h : e.RecordsFit) (fits : x.Fits e.limits) : (e.putSet setId x).RecordsFit := by
  constructor
  · intro other found hfound
    rw [putSet, getElem?_insert_eq] at hfound
    split at hfound
    · cases hfound
      exact fits
    · exact h.records other found hfound
  · exact h.snapshots

theorem captureSnapshot (h : e.RecordsFit) (r : SetRecord) : (e.captureSnapshot r).RecordsFit := by
  unfold FabricEngine.captureSnapshot
  dsimp only
  split
  · exact h
  · constructor
    · exact h.records
    · intro other l hl
      dsimp only at hl
      rw [getElem?_insert_eq] at hl
      split at hl
      · cases hl
        exact dropOldest_length _ _
      · exact h.snapshots other l hl

theorem recordAttempt (h : e.RecordsFit) (context : MutationContext) (operation : Bytes) (fields : List Bytes)
    (outcome : FabricOutcome) : (e.recordAttempt context operation fields outcome).RecordsFit :=
  h.congr rfl rfl rfl

theorem applyView (h : e.RecordsFit) (path : PathId) (view : Option PathAuthorityView)
    (context : Option MutationContext) (cause : MembershipCause) :
    (e.applyView path view context cause).1.RecordsFit := by
  apply applyView_preserves (p := RecordsFit)
  · intro e setId r x h found observes
    apply h.put
    have hfits := h.records setId r found
    cases observes with
    | observed hm =>
        constructor
        · exact (LiveFrom.withMember hm (MemberRecord.evaluate_ends _ _ _)).le.trans hfits.live
        · exact hfits.history
    | @invalidated stamp m bounds hm =>
        constructor
        · have hlive : r.LiveFrom (stamp.dependencyInvalidated r path
              (m.evaluate r.conditionalAuthorityPermitted view false) context cause) :=
            .trans (.withMember hm (MemberRecord.evaluate_ends _ _ _))
              (.of_eq (dependencyInvalidated_fields _ _ _ _ _ _).2.1)
          exact hlive.le.trans hfits.live
        · rw [← bounds]
          exact dropOldest_length _ _
  · intro e r h
    exact h.captureSnapshot r
  · exact h

theorem rewritten {f : FabricEngine → SetRecord → Option SetRecord}
    (fits : ∀ e r x, f e r = some x → r.Fits e.limits → x.Fits e.limits) (h : e.RecordsFit) :
    (rewriteSets f e e.sets.toList).RecordsFit := by
  apply rewriteAll_preserves (p := RecordsFit)
  · intro e setId r x h found rewrites
    apply (h.captureSnapshot x).put
    rw [(captureSnapshot_keeps e x).limits]
    exact fits e r x rewrites (h.records setId r found)
  · exact h

theorem installSet (h : e.RecordsFit) {limits : Limits} {total : ℕ} (stored : StoredSet limits total r)
    (bounds : e.limits = limits) : (e.installSet r).RecordsFit := by
  have hfits : (e.recoveredSet r).Fits e.limits := by
    constructor
    · have hlive : r.LiveFrom (e.recoveredSet r) := by
        have hbumped : r.LiveFrom { r with members := r.members.map fun _ (m : MemberRecord) => m.bumpWatermark } :=
          LiveFrom.mapped (f := MemberRecord.bumpWatermark) rfl fun _ h => h
        exact hbumped.trans (.trans (.bumped _) (.of_eq rfl))
      rw [bounds]
      exact hlive.le.trans stored.live
    · exact dropOldest_length _ _
  obtain ⟨index, hindex⟩ := installSet_frame e r
  rw [hindex]
  apply captureSnapshot
  have hput : (e.putSet r.id (e.recoveredSet r)).RecordsFit := h.put hfits
  exact hput.congr rfl rfl rfl

theorem sealedCommit (h : e.RecordsFit) {q : Request} {spec : CommitSpec} {outcome : FabricOutcome}
    (fits : x.Fits e.limits) : (e.sealedCommit setId x q spec outcome).RecordsFit := by
  apply recordAttempt
  apply put
  · apply captureSnapshot
    obtain ⟨index, hindex⟩ := unindexVictims_frame e x
    rw [hindex]
    exact h.congr rfl rfl rfl
  · rw [(captureSnapshot_keeps _ _).limits, (unindexVictims_keeps e x).limits]
    constructor
    · exact (committed_liveFrom _ _ _ _).le.trans fits.live
    · exact dropOldest_length _ _

end RecordsFit

end FabricEngine

end MultipathFabric
