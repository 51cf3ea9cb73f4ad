import MultipathFabric.EngineStep
import MultipathFabric.IdleChanges
import MultipathFabric.LivedRuns
import MultipathFabric.PathIndex
import MultipathFabric.RecordBounds
import MultipathFabric.Recovery
import Mathlib.Data.List.Chain

namespace MultipathFabric

open OrderedMap

def retain (limits : Limits) (log : List SetSnapshot) (r : SetRecord) : List SetSnapshot :=
  if log.getLast?.map SetSnapshot.snapshotId = some (makeSnapshot r).snapshotId then log
  else dropOldest limits.maxSnapshotHistory.toNat (log ++ [makeSnapshot r])

inductive SnapshotStep (abreast : Prop) (limits : Limits) (entry : Option SetRecord) (log : Option (List SetSnapshot)) :
    Option SetRecord → Option (List SetSnapshot) → Prop
  | kept : SnapshotStep abreast limits entry log entry log
  | silent {r x : SetRecord} (found : entry = some r) (same : abreast → x.covered = r.covered) :
      SnapshotStep abreast limits entry log (some x) log
  | captured (x : SetRecord) : SnapshotStep abreast limits entry log (some x) (some (retain limits (log.getD []) x))
  | reloaded (x : SetRecord) : SnapshotStep abreast limits entry log (some x) (some (retain limits [] x))
  | cleared : SnapshotStep abreast limits entry log none none

namespace FabricEngine

variable {abreast : Prop} {e e' base : FabricEngine} {setId other : MultipathSetId} {r x : SetRecord}

def SnapshotsFollow (abreast : Prop) (e e' : FabricEngine) (setId : MultipathSetId) : Prop :=
  SnapshotStep abreast e.limits e.sets[setId]? e.snapshotHistory[setId]? e'.sets[setId]? e'.snapshotHistory[setId]?

theorem captureSnapshot_history (e : FabricEngine) (r : SetRecord) (setId : MultipathSetId) :
    (e.captureSnapshot r).snapshotHistory[setId]? =
      if r.id = setId then some (retain e.limits (e.snapshotHistory[setId]?.getD []) r)
      else e.snapshotHistory[setId]? := by
  unfold captureSnapshot retain
  dsimp only
  by_cases hid : r.id = setId
  · rw [hid, if_pos rfl]
    split
    · rename_i hlast
      cases hlog : e.snapshotHistory[setId]? with
      | none =>
          rw [hlog] at hlast
          cases hlast
      | some log => rfl
    · rw [Std.ExtTreeMap.getElem?_insert_self]
  · rw [if_neg hid]
    split
    · rfl
    · rw [getElem?_insert_eq, if_neg hid]

theorem SnapshotsFollow.of_same (sets : e'.sets[setId]? = e.sets[setId]?)
    (history : e'.snapshotHistory[setId]? = e.snapshotHistory[setId]?) : SnapshotsFollow abreast e e' setId := by
  unfold SnapshotsFollow
  rw [sets, history]
  exact .kept

theorem SnapshotsFollow.put (found : e.sets[setId]? = some r) (same : abreast → x.covered = r.covered)
    (other : MultipathSetId) : SnapshotsFollow abreast e (e.putSet setId x) other := by
  unfold SnapshotsFollow
  rw [putSet, getElem?_insert_eq]
  split
  · rename_i h
    subst h
    exact .silent found same
  · exact .kept

theorem SnapshotsFollow.store (limits : base.limits = e.limits)
    (sets : ∀ other : MultipathSetId, setId ≠ other → base.sets[other]? = e.sets[other]?)
    (history : base.snapshotHistory = e.snapshotHistory) (named : x.id = setId)
    (other : MultipathSetId) : SnapshotsFollow abreast e ((base.captureSnapshot x).putSet setId x) other := by
  unfold SnapshotsFollow
  rw [putSet, captureSnapshot_sets, captureSnapshot_history, getElem?_insert_eq, named, history, limits]
  by_cases h : setId = other
  · rw [if_pos h, if_pos h]
    exact .captured x
  · rw [if_neg h, if_neg h, sets other h]
    exact .kept

theorem SnapshotsFollow.congr {e₁ : FabricEngine} (h : SnapshotsFollow abreast e e₁ setId)
    (sets : e'.sets[setId]? = e₁.sets[setId]?) (history : e'.snapshotHistory[setId]? = e₁.snapshotHistory[setId]?) :
    SnapshotsFollow abreast e e' setId := by
  unfold SnapshotsFollow
  rw [sets, history]
  exact h

section Views

variable {path : PathId} {view : Option PathAuthorityView} {context : Option MutationContext} {cause : MembershipCause}

theorem dependencyInvalidated_id (e : FabricEngine) (r : SetRecord) (path : PathId) (m : MemberRecord)
    (context : Option MutationContext) (cause : MembershipCause) :
    (e.dependencyInvalidated r path m context cause).id = r.id := by
  unfold dependencyInvalidated
  dsimp only
  split <;> rfl

theorem applyViewToSet_snapshots_follow (keyed : ∀ r, e.sets[setId]? = some r → r.id = setId) (other : MultipathSetId) :
    SnapshotsFollow abreast e (e.applyViewToSet setId path view context cause).1 other ∧
      (setId ≠ other → (e.applyViewToSet setId path view context cause).1.sets[other]? = e.sets[other]? ∧
        (e.applyViewToSet setId path view context cause).1.snapshotHistory[other]? = e.snapshotHistory[other]?) := by
  have hsame : SnapshotsFollow abreast e e other ∧ (setId ≠ other → e.sets[other]? = e.sets[other]? ∧
      e.snapshotHistory[other]? = e.snapshotHistory[other]?) :=
    ⟨.of_same rfl rfl, fun _ => ⟨rfl, rfl⟩⟩
  unfold applyViewToSet
  split
  · exact hsame
  · rename_i r hr
    split
    · exact hsame
    · split
      · exact hsame
      · rename_i m hm
        dsimp only
        split
        · rename_i hquiet
          have hcovered := SetRecord.withMember_covered hm (MemberRecord.evaluate_covered hquiet)
          refine ⟨.put hr (fun _ => hcovered) other, fun h => ?_⟩
          rw [putSet, getElem?_insert_eq, if_neg h]
          exact ⟨rfl, rfl⟩
        · have hid := (e.dependencyInvalidated_id r path
            (m.evaluate r.conditionalAuthorityPermitted view false) context cause).trans (keyed r hr)
          refine ⟨.store rfl (fun _ _ => rfl) rfl hid other, fun h => ?_⟩
          rw [putSet, captureSnapshot_sets, captureSnapshot_history, getElem?_insert_eq, if_neg h, hid, if_neg h]
          exact ⟨rfl, rfl⟩

theorem applyViewToSets_snapshots_follow {dependents : List MultipathSetId} (distinct : dependents.Nodup)
    (keyed : ∀ setId ∈ dependents, ∀ r, e.sets[setId]? = some r → r.id = setId) (other : MultipathSetId) :
    SnapshotsFollow abreast e (applyViewToSets path view context cause e dependents).1 other ∧
      (other ∉ dependents →
        (applyViewToSets path view context cause e dependents).1.sets[other]? = e.sets[other]? ∧
        (applyViewToSets path view context cause e dependents).1.snapshotHistory[other]? =
          e.snapshotHistory[other]?) := by
  induction dependents generalizing e with
  | nil => exact ⟨.of_same rfl rfl, fun _ => ⟨rfl, rfl⟩⟩
  | cons setId rest ih =>
      rw [List.nodup_cons] at distinct
      have hhead := @applyViewToSet_snapshots_follow abreast e setId path view context cause (keyed setId List.mem_cons_self)
      have hkeyed : ∀ later ∈ rest, ∀ r,
          (e.applyViewToSet setId path view context cause).1.sets[later]? = some r → r.id = later := by
        intro later hlater r hr
        have hne : setId ≠ later := fun h => distinct.1 (h ▸ hlater)
        rw [((hhead later).2 hne).1] at hr
        exact keyed later (List.mem_cons_of_mem _ hlater) r hr
      obtain ⟨hfollows, hrest⟩ := ih distinct.2 hkeyed
      rw [applyViewToSets]
      dsimp only
      by_cases h : setId = other
      · subst h
        obtain ⟨hsets, hhistory⟩ := hrest distinct.1
        exact ⟨(hhead setId).1.congr hsets hhistory, fun hnot => absurd List.mem_cons_self hnot⟩
      · obtain ⟨hsets, hhistory⟩ := (hhead other).2 h
        constructor
        · unfold SnapshotsFollow at hfollows
          rw [hsets, hhistory, (e.applyViewToSet_keeps setId path view context cause).limits] at hfollows
          exact hfollows
        · intro hnot
          rw [List.mem_cons, not_or] at hnot
          obtain ⟨hlaterSets, hlaterHistory⟩ := hrest hnot.2
          exact ⟨hlaterSets.trans hsets, hlaterHistory.trans hhistory⟩

theorem applyView_snapshots_follow (linked : e.Linked) (other : MultipathSetId) :
    SnapshotsFollow abreast e (e.applyView path view context cause).1 other := by
  unfold applyView
  split
  · exact .of_same rfl rfl
  · rename_i dependents _
    have hdistinct : dependents.toList.Nodup := by
      refine Std.ExtTreeSet.distinct_toList.imp fun {a b} h heq => h ?_
      rw [heq, Std.compare_self]
    exact (applyViewToSets_snapshots_follow hdistinct (fun setId _ r hr => linked.keyed setId r hr) other).1

end Views

theorem rewriteSets_snapshots_follow {f : FabricEngine → SetRecord → Option SetRecord}
    (same : ∀ e r x, f e r = some x → x.id = r.id) {entries : List (MultipathSetId × SetRecord)}
    (distinct : (entries.map Prod.fst).Nodup) (keyed : ∀ entry ∈ entries, entry.2.id = entry.1)
    (other : MultipathSetId) :
    SnapshotsFollow abreast e (rewriteSets f e entries) other ∧
      (other ∉ entries.map Prod.fst → (rewriteSets f e entries).sets[other]? = e.sets[other]? ∧
        (rewriteSets f e entries).snapshotHistory[other]? = e.snapshotHistory[other]?) := by
  induction entries generalizing e with
  | nil => exact ⟨.of_same rfl rfl, fun _ => ⟨rfl, rfl⟩⟩
  | cons entry rest ih =>
      obtain ⟨setId, r⟩ := entry
      rw [List.map_cons, List.nodup_cons] at distinct
      have hlater := fun entry hentry => keyed entry (List.mem_cons_of_mem _ hentry)
      unfold rewriteSets
      split
      · obtain ⟨hfollows, hrest⟩ := ih (e := e) distinct.2 hlater
        refine ⟨hfollows, fun hnot => hrest fun hmem => hnot ?_⟩
        rw [List.map_cons]
        exact List.mem_cons_of_mem _ hmem
      · rename_i x hx
        have hid : x.id = setId := (same e r x hx).trans (keyed _ List.mem_cons_self)
        obtain ⟨hfollows, hrest⟩ := ih (e := (e.captureSnapshot x).putSet setId x) distinct.2 hlater
        have hhead : SnapshotsFollow abreast e ((e.captureSnapshot x).putSet setId x) other :=
          .store rfl (fun _ _ => rfl) rfl hid other
        by_cases h : setId = other
        · subst h
          obtain ⟨hsets, hhistory⟩ := hrest distinct.1
          exact ⟨hhead.congr hsets hhistory, fun hnot => absurd (List.mem_map_of_mem List.mem_cons_self) hnot⟩
        · have hkept : ((e.captureSnapshot x).putSet setId x).sets[other]? = e.sets[other]? ∧
              ((e.captureSnapshot x).putSet setId x).snapshotHistory[other]? = e.snapshotHistory[other]? := by
            rw [putSet, captureSnapshot_sets, captureSnapshot_history, getElem?_insert_eq, if_neg h, hid, if_neg h]
            exact ⟨rfl, rfl⟩
          constructor
          · unfold SnapshotsFollow at hfollows
            rw [hkept.1, hkept.2] at hfollows
            have hlimits : ((e.captureSnapshot x).putSet setId x).limits = e.limits := (captureSnapshot_keeps e x).limits
            rw [hlimits] at hfollows
            exact hfollows
          · intro hnot
            obtain ⟨hsets, hhistory⟩ := hrest fun hmem => hnot (List.mem_cons_of_mem _ hmem)
            exact ⟨hsets.trans hkept.1, hhistory.trans hkept.2⟩

theorem rewriteAll_snapshots_follow {f : FabricEngine → SetRecord → Option SetRecord}
    (same : ∀ e r x, f e r = some x → x.id = r.id) (linked : e.Linked) (sets : base.sets = e.sets)
    (history : base.snapshotHistory = e.snapshotHistory) (limits : base.limits = e.limits) (other : MultipathSetId) :
    SnapshotsFollow abreast e (rewriteSets f base e.sets.toList) other := by
  have hkeyed : ∀ entry ∈ e.sets.toList, entry.2.id = entry.1 := by
    intro entry hentry
    exact linked.keyed _ _ (Std.ExtTreeMap.mem_toList_iff_getElem?_eq_some.mp hentry)
  have hfollows := (@rewriteSets_snapshots_follow abreast base f same _ (nodup_keys e.sets) hkeyed other).1
  unfold SnapshotsFollow at hfollows ⊢
  rw [sets, history, limits] at hfollows
  exact hfollows

theorem installSets_snapshots (stored : List SetRecord) (empty : e.sets = ∅) (bare : e.snapshotHistory = ∅)
    (other : MultipathSetId) :
    ((e.installSets stored).1.sets[other]? = none ∧ (e.installSets stored).1.snapshotHistory[other]? = none) ∨
      ∃ x, (e.installSets stored).1.sets[other]? = some x ∧
        (e.installSets stored).1.snapshotHistory[other]? = some (retain e.limits [] x) := by
  have hall : (e.installSets stored).1.limits = e.limits ∧ ∀ other : MultipathSetId,
      ((e.installSets stored).1.sets[other]? = none ∧ (e.installSets stored).1.snapshotHistory[other]? = none) ∨
      ∃ x, (e.installSets stored).1.sets[other]? = some x ∧
        (e.installSets stored).1.snapshotHistory[other]? = some (retain e.limits [] x) := by
    apply installSets_preserves (p := fun base : FabricEngine => base.limits = e.limits ∧ ∀ other : MultipathSetId,
      (base.sets[other]? = none ∧ base.snapshotHistory[other]? = none) ∨
      ∃ x, base.sets[other]? = some x ∧ base.snapshotHistory[other]? = some (retain e.limits [] x))
    · rintro base r _ ⟨hlimits, hbase⟩ _ hfresh
      obtain ⟨index, hframe⟩ := installSet_frame base r
      have hid : (base.recoveredSet r).id = r.id := rfl
      refine ⟨?_, fun other => ?_⟩
      · rw [hframe, (captureSnapshot_keeps _ _).limits]
        exact hlimits
      · rw [hframe, captureSnapshot_sets, captureSnapshot_history, hid]
        change ((base.sets.insert r.id (base.recoveredSet r))[other]? = none ∧ _) ∨ _
        rw [getElem?_insert_eq]
        by_cases h : r.id = other
        · rw [if_pos h, if_pos h]
          refine .inr ⟨_, rfl, ?_⟩
          rcases hbase other with ⟨_, hlog⟩ | ⟨x, hx, _⟩
          · change some (retain base.limits (base.snapshotHistory[other]?.getD []) _) = _
            rw [hlog, hlimits]
            rfl
          · rw [h, hx] at hfresh
            cases hfresh
        · rw [if_neg h, if_neg h]
          exact hbase other
    · refine ⟨rfl, fun other => .inl ?_⟩
      rw [empty, bare]
      exact ⟨Std.ExtTreeMap.getElem?_empty, Std.ExtTreeMap.getElem?_empty⟩
  exact hall.2 other

variable {op : Op} {q : Request} {result : FabricEngine × FabricOutcome}

theorem sealedCommit_shelves {spec : CommitSpec} {outcome : FabricOutcome} (named : x.id = setId)
    (other : MultipathSetId) :
    (base.sealedCommit setId x q spec outcome).sets[other]? =
        (if setId = other then some (x.committed base q.context spec) else base.sets[other]?) ∧
      (base.sealedCommit setId x q spec outcome).snapshotHistory[other]? =
        if setId = other then
          some (retain base.limits (base.snapshotHistory[other]?.getD []) (x.committed base q.context spec))
        else base.snapshotHistory[other]? := by
  obtain ⟨index, hframe⟩ := unindexVictims_frame base x
  have hid := (x.committed_id base q.context spec).trans named
  constructor
  · change (base.storeCommitted setId x (x.committed base q.context spec)).sets[other]? = _
    rw [storeCommitted_sets, getElem?_insert_eq]
  · change ((base.unindexVictims x).captureSnapshot (x.committed base q.context spec)).snapshotHistory[other]? = _
    rw [captureSnapshot_history, hid, hframe]

theorem createdRecord_id (linked : e.Linked) (context : MutationContext) (key : SetKey) (options : SetOptions) :
    (e.createdRecord context key options).id = e.ids.nextSetId.1 := by
  change (e.sets[e.ids.nextSetId.1]?.getD (e.declaredRecord context e.ids.nextSetId.1 key options)).id = _
  cases hfound : e.sets[e.ids.nextSetId.1]? with
  | none => rfl
  | some r => exact linked.keyed _ r hfound

theorem answer_snapshots_follow (answer : Answer e op q result) (ends : e.exec op = result)
    (request : op.request = some q) (linked : e.Linked) (other : MultipathSetId) :
    SnapshotsFollow (¬Lags e op) e result.1 other := by
  have hafter : e.after op = result.1 := congrArg Prod.fst ends
  cases answer with
  | refused | replayed => exact .of_same rfl rfl
  | left residual _ named found _ rejects =>
      refine .put found (fun abreast => ?_) other
      refine Answer.left_covered request abreast residual named found ?_ ?_
      · rw [hafter]
        exact Std.ExtTreeMap.getElem?_insert_self
      · rw [ends]
        exact rejects
  | @answered setId r x outcome admitted named found _ expects _ _ code idles =>
      have hcovered : ¬Lags e op → x.covered = r.covered := by
        intro abreast
        refine Answer.answered_covered request abreast admitted named found expects ?_ ?_ idles
        · rw [hafter]
          exact Std.ExtTreeMap.getElem?_insert_self
        · rw [ends]
          exact code
      exact (SnapshotsFollow.put found hcovered other).congr rfl rfl
  | @committed setId r x spec outcome generation membershipGeneration _ _ found edit =>
      have hid : (x.advanced generation membershipGeneration).id = setId :=
        edit.sameHead.id.trans (linked.keyed _ r found)
      obtain ⟨ids, index, total, hframe⟩ := prepared_frame e r op
      obtain ⟨hsets, hhistory⟩ := @sealedCommit_shelves (e.prepared r op) setId _ q spec outcome hid other
      unfold SnapshotsFollow
      rw [hsets, hhistory, hframe]
      split
      · exact .captured _
      · exact .kept
  | @superseded predecessor successor old new x spec outcome generation _ _ distinct _ foundOld foundNew _ _ edit =>
      have hid : (x.advanced generation old.membershipGeneration).id = predecessor :=
        edit.sameHead.id.trans (linked.keyed _ old foundOld)
      have hnew : new.id = successor := linked.keyed _ new foundNew
      obtain ⟨hsets, hhistory⟩ := @sealedCommit_shelves (e.putSet successor { new with supersedes := some predecessor })
        predecessor _ q spec outcome hid other
      generalize hbase : (e.putSet successor { new with supersedes := some predecessor }).sealedCommit predecessor
        (x.advanced generation old.membershipGeneration) q spec outcome = base at hsets hhistory ⊢
      have hlimits : base.limits = e.limits := by
        rw [← hbase]
        exact (sealedCommit_keeps _ _ _ _ _ _).limits
      unfold SnapshotsFollow supersedeSuccessor
      rw [putSet, captureSnapshot_sets, captureSnapshot_history, getElem?_insert_eq, hsets, hhistory, hlimits]
      change SnapshotStep _ _ _ _ _ (if new.id = other then _ else _)
      rw [hnew]
      by_cases hsuccessor : successor = other
      · subst hsuccessor
        rw [if_pos rfl, if_pos rfl, if_neg distinct]
        exact .captured _
      · rw [if_neg hsuccessor, if_neg hsuccessor]
        split
        · exact .captured _
        · rw [putSet, getElem?_insert_eq, if_neg hsuccessor]
          exact .kept
  | @viewed registration directory path view outcome =>
      have hlinked : ({ e with directory := directory } : FabricEngine).Linked := linked.congr rfl rfl
      have hviewed := @applyView_snapshots_follow (¬Lags e op) { e with directory := directory } path (some view) (some q.context)
        .pathInvalidated hlinked other
      unfold SnapshotsFollow at hviewed ⊢
      exact hviewed
  | @created key options outcome =>
      have hstored : SnapshotsFollow (¬Lags e op) e
          ((FabricEngine.captureSnapshot
            { e with ids := e.ids.nextSetId.2, keyIndex := e.keyIndex.insert key e.ids.nextSetId.1 }
            (e.createdRecord q.context key options)).putSet e.ids.nextSetId.1
              (e.createdRecord q.context key options)) other :=
        @SnapshotsFollow.store (¬Lags e op) e
          { e with ids := e.ids.nextSetId.2, keyIndex := e.keyIndex.insert key e.ids.nextSetId.1 } _ _ rfl
          (fun _ _ => rfl) rfl (createdRecord_id linked q.context key options) other
      exact hstored.congr rfl rfl

theorem after_snapshots_follow (linked : e.Linked) (op : Op) (other : MultipathSetId) :
    SnapshotsFollow (¬Lags e op) e (e.after op) other := by
  by_cases hreconciles : ∃ path used observed, op = .reconcilePath path used observed
  · obtain ⟨path, used, observed, rfl⟩ := hreconciles
    change SnapshotsFollow _ e (e.reconcilePath path used observed) other
    unfold reconcilePath
    split
    · exact .of_same rfl rfl
    · exact applyView_snapshots_follow linked other
  · have hstep := after_engineStep e op
    generalize hafter : e.after op = e' at hstep
    cases hstep with
    | unchanged | released | registered | unregistered | bound => exact .of_same rfl rfl
    | @answered q _ request answer =>
        have hends : e.exec op = (e.exec op) := rfl
        rw [← hafter]
        exact answer_snapshots_follow (exec_answer e request) hends request linked other
    | worked request found edit =>
        refine .put found (fun _ => ?_) other
        generalize ([] : Bytes) = summary at edit
        cases edit with
        | begun _ _ _ finds => exact SetRecord.withMember_covered finds.2 rfl
        | abandoned _ _ finds => exact SetRecord.withMember_covered finds.2 rfl
        | observed _ _ member same => exact SetRecord.withMember_covered member (MemberRecord.evaluate_covered same)
        | invalidated applied =>
            cases applied with
            | reconcile => exact absurd ⟨_, _, _, rfl⟩ hreconciles
            | _ => cases request
        | added _ publication =>
            cases publication <;> cases request
        | _ => cases request
    | viewed applied =>
        cases applied with
        | reconcile => exact absurd ⟨_, _, _, rfl⟩ hreconciles
    | @fenced key fence authority =>
        unfold fenceSets
        refine rewriteAll_snapshots_follow (fun _ r x hx => ?_) linked ?_ ?_ ?_ other
        any_goals rfl
        split at hx
        · cases hx
          rfl
        · cases hx
    | epochAdvanced =>
        refine rewriteAll_snapshots_follow (fun _ r x hx => ?_) linked ?_ ?_ ?_ other
        any_goals rfl
        cases hx
        rfl
    | @loaded path files decoded fallback epoch authority =>
        unfold SnapshotsFollow
        have hlimits : (e.clearedForLoad decoded.fences epoch authority).limits = e.limits := rfl
        rcases @installSets_snapshots (e.clearedForLoad decoded.fences epoch authority) decoded.sets rfl rfl other with
          ⟨hset, hlog⟩ | ⟨x, hset, hlog⟩
        · rw [hset, hlog]
          exact .cleared
        · rw [hset, hlog, hlimits]
          exact .reloaded x

end FabricEngine

section Retention

variable {limits : Limits} {log : List SetSnapshot} {r : SetRecord} {s : SetSnapshot}

theorem dropOldest_concat {limit : ℕ} (room : limit ≠ 0) (log : List SetSnapshot) (s : SetSnapshot) :
    dropOldest limit (log ++ [s]) = log.drop (log.length + 1 - limit) ++ [s] := by
  unfold dropOldest
  rw [List.length_append, List.length_singleton, List.drop_append_of_le_length (by omega)]

theorem retain_mem (room : limits.maxSnapshotHistory.toNat ≠ 0) (h : s ∈ retain limits log r) :
    s ∈ log ∨ s = makeSnapshot r ∧ (retain limits log r).getLast? = some s := by
  unfold retain at h ⊢
  by_cases hsame : log.getLast?.map SetSnapshot.snapshotId = some (makeSnapshot r).snapshotId
  · rw [if_pos hsame] at h
    exact .inl h
  · rw [if_neg hsame, dropOldest_concat room] at h ⊢
    rcases List.mem_append.mp h with hold | hnew
    · exact .inl (List.mem_of_mem_drop hold)
    · rw [List.mem_singleton] at hnew
      rw [List.getLast?_concat]
      exact .inr ⟨hnew, congrArg some hnew.symm⟩

theorem retain_last (room : limits.maxSnapshotHistory.toNat ≠ 0) :
    (retain limits log r).getLast?.map SetSnapshot.snapshotId = some (snapshotIdFor (computeSetDigest r)) := by
  unfold retain
  split
  · assumption
  · rw [dropOldest_concat room, List.getLast?_concat]
    rfl

theorem retain_chain (room : limits.maxSnapshotHistory.toNat ≠ 0)
    (chain : log.IsChain fun s t => s.snapshotId ≠ t.snapshotId) :
    (retain limits log r).IsChain fun s t => s.snapshotId ≠ t.snapshotId := by
  unfold retain
  split
  · exact chain
  · rename_i hnew
    rw [dropOldest_concat room]
    refine (chain.drop _).append (List.isChain_singleton _) fun last hlast snapshot hsnapshot => ?_
    rw [List.head?_singleton, Option.mem_some_iff] at hsnapshot
    subst hsnapshot
    intro hsame
    apply hnew
    have hlog : log.getLast? = some last := by
      rw [List.getLast?_drop] at hlast
      split at hlast
      · cases hlast
      · exact hlast
    rw [hlog, Option.map_some, hsame]

end Retention

namespace FabricEngine

variable {allowed : FabricEngine → Op → Prop} {config : FabricConfig} {e e' : FabricEngine} {setId : MultipathSetId}
  {r : SetRecord} {s : SetSnapshot} {log : List SetSnapshot} {op : Op}

def CapturedIn (allowed : FabricEngine → Op → Prop) (config : FabricConfig) (e : FabricEngine)
    (setId : MultipathSetId) (s : SetSnapshot) : Prop :=
  ∃ e₀ r₀, Run allowed config e₀ ∧ Continues allowed e₀ e ∧ e₀.sets[setId]? = some r₀ ∧ s = makeSnapshot r₀ ∧
    e₀.snapshotHistory[setId]?.bind List.getLast? = some s

structure SnapshotLog (allowed : FabricEngine → Op → Prop) (config : FabricConfig) (e : FabricEngine)
    (setId : MultipathSetId) (log : List SetSnapshot) : Prop where
  chain : log.IsChain fun s t => s.snapshotId ≠ t.snapshotId
  captured : ∀ s ∈ log, e.CapturedIn allowed config setId s

def UpToDate (e : FabricEngine) (setId : MultipathSetId) (r : SetRecord) : Prop :=
  ∃ log, e.snapshotHistory[setId]? = some log ∧
    log.getLast?.map SetSnapshot.snapshotId = some (snapshotIdFor (computeSetDigest r))

theorem CapturedIn.digest (h : e.CapturedIn allowed config setId s) : s.snapshotId = snapshotIdFor s.digest := by
  obtain ⟨_, r₀, _, _, _, rfl, _⟩ := h
  rfl

theorem CapturedIn.step (h : e.CapturedIn allowed config setId s) (allows : allowed e op) :
    (e.after op).CapturedIn allowed config setId s := by
  obtain ⟨e₀, r₀, hrun, hcontinues, hfound, hs, hlast⟩ := h
  exact ⟨e₀, r₀, hrun, .step hcontinues ⟨op, allows, rfl⟩, hfound, hs, hlast⟩

theorem SnapshotLog.step (h : e.SnapshotLog allowed config setId log) (allows : allowed e op) :
    (e.after op).SnapshotLog allowed config setId log :=
  ⟨h.chain, fun s hs => (h.captured s hs).step allows⟩

theorem SnapshotLog.retain (h : e.SnapshotLog allowed config setId log) (run : Run allowed config (e.after op))
    (allows : allowed e op) (room : e.limits.maxSnapshotHistory.toNat ≠ 0)
    (stored : (e.after op).sets[setId]? = some r)
    (history : (e.after op).snapshotHistory[setId]? = some (retain e.limits log r)) :
    (e.after op).SnapshotLog allowed config setId (retain e.limits log r) := by
  refine ⟨retain_chain room h.chain, fun s hs => ?_⟩
  rcases retain_mem room hs with hold | ⟨hnew, hlast⟩
  · exact (h.captured s hold).step allows
  · refine ⟨e.after op, r, run, .init rfl, stored, hnew, ?_⟩
    rw [history]
    exact hlast

theorem snapshotLog_step (linked : e.Linked) (room : e.limits.maxSnapshotHistory.toNat ≠ 0)
    (run : Run (fun e op => ¬Lags e op) config (e.after op)) (abreast : ¬Lags e op)
    (logged : ∀ log, e.snapshotHistory[setId]? = some log → e.SnapshotLog (fun e op => ¬Lags e op) config setId log)
    (current : ∀ r, e.sets[setId]? = some r → e.UpToDate setId r) :
    (∀ log, (e.after op).snapshotHistory[setId]? = some log →
        (e.after op).SnapshotLog (fun e op => ¬Lags e op) config setId log) ∧
      ∀ r, (e.after op).sets[setId]? = some r → (e.after op).UpToDate setId r := by
  have hold : ∀ log, e.snapshotHistory[setId]? = some log →
      (e.after op).SnapshotLog (fun e op => ¬Lags e op) config setId log :=
    fun log hlog => (logged log hlog).step abreast
  have hempty : e.SnapshotLog (fun e op => ¬Lags e op) config setId [] :=
    ⟨List.isChain_nil, fun s hs => absurd hs List.not_mem_nil⟩
  have hnew : ∀ log x, e.SnapshotLog (fun e op => ¬Lags e op) config setId log → (e.after op).sets[setId]? = some x →
      (e.after op).snapshotHistory[setId]? = some (retain e.limits log x) →
        (∀ log, (e.after op).snapshotHistory[setId]? = some log →
          (e.after op).SnapshotLog (fun e op => ¬Lags e op) config setId log) ∧
        ∀ r, (e.after op).sets[setId]? = some r → (e.after op).UpToDate setId r := by
    intro log x hlog hset hhistory
    constructor
    · intro log' hlog'
      rw [hhistory] at hlog'
      cases hlog'
      exact hlog.retain run abreast room hset hhistory
    · intro r hr
      rw [hset] at hr
      cases hr
      exact ⟨_, hhistory, retain_last room⟩
  have hfollows := after_snapshots_follow linked op setId
  unfold SnapshotsFollow at hfollows
  generalize hentry : (e.after op).sets[setId]? = entry at hfollows
  generalize hhistory : (e.after op).snapshotHistory[setId]? = history at hfollows
  rw [hentry, hhistory] at hnew
  unfold UpToDate
  cases hfollows with
  | kept =>
      refine ⟨hold, fun r hr => ?_⟩
      rw [hhistory]
      exact current r hr
  | @silent r x found same =>
      refine ⟨hold, fun y hy => ?_⟩
      cases hy
      rw [hhistory, digest_of_covered (same abreast)]
      exact current r found
  | captured x =>
      have hlog : e.SnapshotLog (fun e op => ¬Lags e op) config setId (e.snapshotHistory[setId]?.getD []) := by
        cases hlog : e.snapshotHistory[setId]? with
        | none => exact hempty
        | some log => exact logged log hlog
      exact hnew _ x hlog rfl rfl
  | reloaded x => exact hnew _ x hempty rfl rfl
  | cleared =>
      constructor
      · intro log hlog
        cases hlog
      · intro r hr
        cases hr

end FabricEngine

namespace FabricEngine

variable {config : FabricConfig} {e e' : FabricEngine} {setId : MultipathSetId} {r : SetRecord} {op : Op} {q : Request}

theorem snapshotLog_of_run (room : config.limits.maxSnapshotHistory ≠ 0) (run : Run (fun e op => ¬Lags e op) config e)
    (setId : MultipathSetId) :
    (∀ log, e.snapshotHistory[setId]? = some log → e.SnapshotLog (fun e op => ¬Lags e op) config setId log) ∧
      ∀ r, e.sets[setId]? = some r → e.UpToDate setId r := by
  have hroom : config.limits.maxSnapshotHistory.toNat ≠ 0 := by
    intro hzero
    exact room (UInt64.toNat_inj.mp hzero)
  induction run with
  | init ids =>
      constructor
      · intro log hlog
        cases (Std.ExtTreeMap.getElem?_empty.symm.trans hlog : none = some log)
      · intro r hr
        cases (Std.ExtTreeMap.getElem?_empty.symm.trans hr : none = some r)
  | step run op allows ih =>
      exact snapshotLog_step (linked_of_run run.reachable) (by rw [run.limits]; exact hroom) (.step run op allows) allows
        ih.1 ih.2

theorem retained_of_run {allowed : FabricEngine → Op → Prop} (run : Run allowed config e) (setId : MultipathSetId)
    {log : List SetSnapshot}
    (history : e.snapshotHistory[setId]? = some log) {s : SetSnapshot} (h : s ∈ log) :
    ∃ e₀ r₀, Run allowed config e₀ ∧ e₀.sets[setId]? = some r₀ ∧ s = makeSnapshot r₀ := by
  induction run generalizing log with
  | init ids => cases (Std.ExtTreeMap.getElem?_empty.symm.trans history : none = some log)
  | @step e run op hallowed ih =>
      have hnew : ∀ old x,
          (s ∈ old → ∃ e₀ r₀, Run allowed config e₀ ∧ e₀.sets[setId]? = some r₀ ∧ s = makeSnapshot r₀) →
          (e.after op).sets[setId]? = some x → s ∈ retain e.limits old x →
            ∃ e₀ r₀, Run allowed config e₀ ∧ e₀.sets[setId]? = some r₀ ∧ s = makeSnapshot r₀ := by
        intro old x hold hx hs
        unfold retain at hs
        split at hs
        · exact hold hs
        · rcases List.mem_append.mp (List.mem_of_mem_drop hs) with hs | hs
          · exact hold hs
          · exact ⟨e.after op, x, .step run op hallowed, hx, List.mem_singleton.mp hs⟩
      have hfollows := after_snapshots_follow (linked_of_run run.reachable) op setId
      unfold SnapshotsFollow at hfollows
      generalize hentry : (e.after op).sets[setId]? = entry at hfollows
      generalize hlater : (e.after op).snapshotHistory[setId]? = later at hfollows
      rw [hentry] at hnew
      rw [hlater] at history
      cases hfollows with
      | kept | silent => exact ih history h
      | captured x =>
          cases history
          refine hnew _ x (fun ht => ?_) rfl h
          cases hlog : e.snapshotHistory[setId]? with
          | none =>
              rw [hlog] at ht
              cases ht
          | some log =>
              rw [hlog] at ht
              exact ih hlog ht
      | reloaded x =>
          cases history
          exact hnew _ x (fun ht => by cases ht) rfl h
      | cleared => cases history

/-- The retained snapshots of a set with the record `r`: there is one, the last has the digest of the record,
consecutive ones differ, and each is the set as a step of the run has captured it. -/
def Recorded (allowed : FabricEngine → Op → Prop) (config : FabricConfig) (e : FabricEngine) (setId : MultipathSetId)
    (r : SetRecord) : Prop :=
  ∃ log, e.snapshotHistory[setId]? = some log ∧ log ≠ [] ∧
    log.getLast?.map SetSnapshot.digest = some (computeSetDigest r) ∧ e.SnapshotLog allowed config setId log

def Finds (e : FabricEngine) (setId : MultipathSetId) (digest : Digest128) (r : SetRecord) : Prop :=
  ∀ log, e.snapshotHistory[setId]? = some log → (∃ s ∈ log, s.digest = digest) →
    ∃ s, e.historicalSnapshot setId (snapshotIdFor digest) = some s ∧ s ∈ log ∧ s.digest = digest ∧
      (makeSnapshot r ∈ log → (∀ t ∈ log, t.digest = digest → t = makeSnapshot r) → s = makeSnapshot r)

theorem recorded_of_run (room : config.limits.maxSnapshotHistory ≠ 0) (run : Run (fun e op => ¬Lags e op) config e)
    (found : e.sets[setId]? = some r) : e.Recorded (fun e op => ¬Lags e op) config setId r := by
  obtain ⟨hlogged, hcurrent⟩ := snapshotLog_of_run room run setId
  obtain ⟨log, hlog, hlast⟩ := hcurrent r found
  obtain ⟨s, hs, hid⟩ := Option.map_eq_some_iff.mp hlast
  have hmem : s ∈ log := List.mem_of_getLast? hs
  refine ⟨log, hlog, List.ne_nil_of_mem hmem, ?_, hlogged log hlog⟩
  rw [((hlogged log hlog).captured s hmem).digest, snapshotIdFor_inj] at hid
  rw [hs, Option.map_some, hid]

theorem finds_of_run (room : config.limits.maxSnapshotHistory ≠ 0) (run : Run (fun e op => ¬Lags e op) config e)
    (setId : MultipathSetId) (digest : Digest128) (r : SetRecord) : e.Finds setId digest r := by
  rintro log hlog ⟨s, hs, hdigest⟩
  have hlogged := (snapshotLog_of_run room run setId).1 log hlog
  have hid : ∀ t ∈ log, (t.snapshotId == snapshotIdFor digest) = true ↔ t.digest = digest := by
    intro t ht
    rw [beq_iff_eq, (hlogged.captured t ht).digest, snapshotIdFor_inj]
  have hsome : (log.find? fun t => t.snapshotId == snapshotIdFor digest).isSome = true := by
    rw [List.find?_isSome]
    exact ⟨s, hs, (hid s hs).mpr hdigest⟩
  obtain ⟨t, ht⟩ := Option.isSome_iff_exists.mp hsome
  have hmem := List.mem_of_find?_eq_some ht
  have hmatch : (t.snapshotId == snapshotIdFor digest) = true :=
    @List.find?_some _ (fun t : SetSnapshot => t.snapshotId == snapshotIdFor digest) _ _ ht
  have hfound := (hid t hmem).mp hmatch
  refine ⟨t, ?_, hmem, hfound, fun _ only => only t hmem hfound⟩
  unfold historicalSnapshot
  rw [hlog]
  exact ht

/-- In a run with room for snapshots whose steps do not lag, the retained snapshots of every set keep up with its
record, and the digest of an accepted mutation finds what it has committed. -/
theorem history_keeps_up (room : config.limits.maxSnapshotHistory ≠ 0)
    (run : Run (fun e op => ¬Lags e op) config e) :
    (∀ (setId : MultipathSetId) (r : SetRecord), e.sets[setId]? = some r →
      e.Recorded (fun e op => ¬Lags e op) config setId r) ∧
    ∀ (op : Op) (q : Request) (setId : MultipathSetId) (digest : Digest128), ¬Lags e op → e.Accepts op q →
      (e.exec op).2.setId = some setId → (e.exec op).2.digest = some digest →
        ∃ r, (e.after op).sets[setId]? = some r ∧ digest = computeSetDigest r ∧
          (∃ s, (e.after op).historicalSnapshot setId (snapshotIdFor digest) = some s ∧ s.digest = digest) ∧
          ∀ e', Continues (fun e op => ¬Lags e op) (e.after op) e' → e'.Finds setId digest r := by
  refine ⟨fun setId r found => recorded_of_run room run found, ?_⟩
  intro op q setId digest abreast accepted hset hdigest
  have hplain : op.views = false := by
    by_contra hviews
    rw [Bool.not_eq_false] at hviews
    rw [exec_undigested accepted hviews] at hdigest
    cases hdigest
  have hrun : Run (fun e op => ¬Lags e op) config (e.after op) := .step run op abreast
  obtain ⟨setId', r, outcome, _, hstored, hreports⟩ := exec_reported accepted hplain
  rw [hreports] at hset hdigest
  cases hdigest
  have hid : r.id = setId := Option.some.inj hset
  rw [(linked_of_run hrun.reachable).keyed setId' r hstored] at hid
  subst hid
  obtain ⟨log, hlog, _, hlast, _⟩ := recorded_of_run room hrun hstored
  obtain ⟨s, hs, hsame⟩ := Option.map_eq_some_iff.mp hlast
  obtain ⟨t, hfound, _, ht, _⟩ := finds_of_run room hrun setId' (computeSetDigest r) r log hlog
    ⟨s, List.mem_of_getLast? hs, hsame⟩
  refine ⟨r, hstored, rfl, ⟨t, hfound, ht⟩, fun e' continued => ?_⟩
  have hlater : Run (fun e op => ¬Lags e op) config e' :=
    continued.keeps (P := Run (fun e op => ¬Lags e op) config) hrun fun _ op _ hrun allows => .step hrun op allows
  exact finds_of_run room hlater setId' (computeSetDigest r) r

theorem history_keeps_up_sample : ∃ r, (sampleRun sampleSteps).sets[sampleSet]? = some r ∧
    (sampleRun sampleSteps).Recorded (fun e op => ¬Lags e op) sampleConfig sampleSet r := by
  have hrun : Run (fun e op => ¬Lags e op) sampleConfig (sampleRun sampleSteps) := by
    refine Run.afterAll (fun op hop e => ?_) (.init sampleIds)
    simp only [sampleSteps, List.mem_cons, List.not_mem_nil, or_false] at hop
    rcases hop with rfl | rfl | rfl | rfl
    all_goals
      intro hlags
      cases hlags
  obtain ⟨r, hr⟩ : ∃ r, (sampleRun sampleSteps).sets[sampleSet]? = some r :=
    Option.isSome_iff_exists.mp (by decide +kernel)
  exact ⟨r, hr, (history_keeps_up (by decide) hrun).1 sampleSet r hr⟩

def restampedSteps : List Op :=
  sampleSteps ++
    [.registerPublisher (sampleId "pub2") (sampleId "boot") sampleScope (sampleId "sess2"),
    .revalidateSet (sampleContext "a9") sampleSet (sampleLookup (some sampleView))]

/-- The revalidation has stamped the new authority generation on the set, whose last snapshot has the old one. -/
theorem history_keeps_up_fails : ¬∀ (config : FabricConfig) (e : FabricEngine) (setId : MultipathSetId) (r : SetRecord),
    config.limits.maxSnapshotHistory ≠ 0 → Reachable config e → e.sets[setId]? = some r →
      e.Recorded (fun _ _ => True) config setId r := by
  intro h
  have hstale : ((sampleRun restampedSteps).sets[sampleSet]?.all fun r =>
      ((sampleRun restampedSteps).snapshotHistory[sampleSet]?.bind List.getLast?).map SetSnapshot.digest !=
        some (computeSetDigest r)) = true ∧ (sampleRun restampedSteps).sets[sampleSet]?.isSome = true := by
    decide +kernel
  obtain ⟨hstale, hsome⟩ := hstale
  obtain ⟨r, hr⟩ := Option.isSome_iff_exists.mp hsome
  obtain ⟨log, hlog, _, hlast, _⟩ := h sampleConfig _ sampleSet r (by decide) (sampleRun_reachable restampedSteps) hr
  rw [hr, Option.all_some, hlog, Option.bind_some, hlast, bne_self_eq_false] at hstale
  cases hstale

end FabricEngine

end MultipathFabric
