import MultipathFabric.RecordBounds

namespace MultipathFabric

open OrderedMap SetRecord

theorem SetRecord.SamePaths.size {r x : SetRecord} (h : r.SamePaths x) : x.members.size = r.members.size := by
  apply Nat.le_antisymm
  · exact size_le_of_mem fun path => (h path).mp
  · exact size_le_of_mem fun path => (h path).mpr

namespace FabricEngine

variable {e e' : FabricEngine} {setId : MultipathSetId} {op : Op} {r x : SetRecord}

theorem memberRecords_insert {sets : Std.ExtTreeMap MultipathSetId SetRecord} (found : sets[setId]? = some r) :
    memberRecords (sets.insert setId x) + r.members.size = memberRecords sets + x.members.size := by
  have hsum := total_insert (fun r : SetRecord => r.members.size) sets setId x
  rw [found] at hsum
  exact hsum

theorem memberRecords_insert_new {sets : Std.ExtTreeMap MultipathSetId SetRecord} (fresh : sets[setId]? = none) :
    memberRecords (sets.insert setId x) = memberRecords sets + x.members.size := by
  have hsum := total_insert (fun r : SetRecord => r.members.size) sets setId x
  rw [fresh] at hsum
  exact hsum

theorem size_le_memberRecords {sets : Std.ExtTreeMap MultipathSetId SetRecord} (found : sets[setId]? = some r) :
    r.members.size ≤ memberRecords sets := by
  obtain ⟨empty, hempty⟩ : ∃ empty : SetRecord, empty = { r with members := ∅ } := ⟨_, rfl⟩
  have hsum : memberRecords (sets.insert setId empty) + r.members.size = memberRecords sets + empty.members.size :=
    memberRecords_insert found
  have hsize : empty.members.size = 0 := by
    rw [hempty]
    exact Std.ExtTreeMap.size_empty
  omega

structure SameTally (e e' : FabricEngine) : Prop where
  sets : e'.sets.size = e.sets.size
  records : memberRecords e'.sets = memberRecords e.sets
  total : e'.totalMembers = e.totalMembers
  limits : e'.limits = e.limits

namespace SameTally

theorem refl (e : FabricEngine) : SameTally e e := ⟨rfl, rfl, rfl, rfl⟩

theorem congr (sets : e'.sets = e.sets) (total : e'.totalMembers = e.totalMembers) (limits : e'.limits = e.limits) :
    SameTally e e' := ⟨by rw [sets], by rw [sets], total, limits⟩

theorem trans {a b c : FabricEngine} (h : SameTally a b) (h' : SameTally b c) : SameTally a c :=
  ⟨h'.sets.trans h.sets, h'.records.trans h.records, h'.total.trans h.total, h'.limits.trans h.limits⟩

theorem put (found : e.sets[setId]? = some r) (same : x.members.size = r.members.size) :
    SameTally e (e.putSet setId x) := by
  refine ⟨size_insert_present found, ?_, rfl, rfl⟩
  have hsum : memberRecords (e.sets.insert setId x) + r.members.size = memberRecords e.sets + x.members.size :=
    memberRecords_insert found
  change memberRecords (e.sets.insert setId x) = _
  omega

theorem captureSnapshot (e : FabricEngine) (r : SetRecord) : SameTally e (e.captureSnapshot r) :=
  .congr (captureSnapshot_sets e r) (captureSnapshot_totalMembers e r) (captureSnapshot_keeps e r).limits

theorem recordAttempt (e : FabricEngine) (context : MutationContext) (operation : Bytes) (fields : List Bytes)
    (outcome : FabricOutcome) : SameTally e (e.recordAttempt context operation fields outcome) := .congr rfl rfl rfl

theorem applyView (e : FabricEngine) (path : PathId) (view : Option PathAuthorityView)
    (context : Option MutationContext) (cause : MembershipCause) :
    SameTally e (e.applyView path view context cause).1 := by
  apply applyView_preserves (p := SameTally e)
  · intro e' setId r x h found observes
    exact h.trans (.put found observes.samePaths.1.size)
  · intro e' r h
    exact h.trans (.captureSnapshot e' r)
  · exact .refl e

theorem rewritten {f : FabricEngine → SetRecord → Option SetRecord} {base : FabricEngine}
    (same : ∀ e r x, f e r = some x → r.SamePaths x) (h : SameTally e base) (sets : base.sets = e.sets) :
    SameTally e (rewriteSets f base e.sets.toList) := by
  rw [← sets]
  apply rewriteAll_preserves (p := SameTally e)
  · intro e' setId r x h found rewrites
    refine h.trans ((captureSnapshot e' x).trans (.put (r := r) ?_ (same e' r x rewrites).size))
    rw [captureSnapshot_sets]
    exact found
  · exact h

end SameTally

structure Tally (e e' : FabricEngine) (op : Op) : Prop where
  sets : e'.sets.size ≤ e.limits.maxSets.toNat
  total : e'.totalMembers ≤ e.limits.maxTotalMembers.toNat
  limits : e'.limits = e.limits
  runs : memberRecords e'.sets + e.totalMembers ≤ memberRecords e.sets + e'.totalMembers
  exact : (∀ (setId : MultipathSetId) (r : SetRecord), op.subject = some setId → e.sets[setId]? = some r →
    ¬op.overwrites r) → memberRecords e'.sets + e.totalMembers = memberRecords e.sets + e'.totalMembers

theorem SameTally.tally (h : SameTally e e') (counted : e.Counted) : Tally e e' op := by
  have hequal : memberRecords e'.sets + e.totalMembers = memberRecords e.sets + e'.totalMembers := by
    rw [h.records, h.total]
  refine ⟨?_, ?_, h.limits, Nat.le_of_eq hequal, fun _ => hequal⟩
  · rw [h.sets]
    exact counted.sets
  · rw [h.total]
    exact counted.within

theorem Tally.counted (h : Tally e e' op) (counted : e.Counted) : e'.Counted := by
  have hruns := h.runs
  have hmembers := counted.members
  constructor
  · rw [h.limits]
    exact h.sets
  · omega
  · rw [h.limits]
    exact h.total

end FabricEngine

open FabricEngine

theorem prepared_within {e : FabricEngine} {r : SetRecord} {op : Op} (room : e.HasRoom r op) (counted : e.Counted) :
    (e.prepared r op).totalMembers ≤ e.limits.maxTotalMembers.toNat := by
  have hwithin := counted.within
  cases op with
  | addMember | addMembers => exact room.total
  | removeMember =>
      unfold FabricEngine.prepared
      dsimp only
      split
      · exact hwithin
      · exact (Nat.sub_le _ _).trans hwithin
  | replaceMember => exact room.2.1
  | _ => exact hwithin

theorem committed_size (e : FabricEngine) (r : SetRecord) (context : MutationContext) (spec : CommitSpec) :
    (r.committed e context spec).members.size + (pruneVictims e.limits r).length = r.members.size := by
  have hpruned := pruneArchive_size e.limits { r with provenance := makeProvenance context spec.cause r }
  exact hpruned

theorem sealedCommit_totalMembers (e : FabricEngine) (setId : MultipathSetId) (y : SetRecord) (q : Request)
    (spec : CommitSpec) (outcome : FabricOutcome) :
    (e.sealedCommit setId y q spec outcome).totalMembers =
      e.totalMembers - (pruneVictims e.limits y).length := by
  change (FabricEngine.captureSnapshot _ _).totalMembers = _
  rw [captureSnapshot_totalMembers]
  obtain ⟨index, hindex⟩ := unindexVictims_frame e y
  rw [hindex]

theorem sealedCommit_tally (e : FabricEngine) {setId : MultipathSetId} {r : SetRecord} (x : SetRecord) (q : Request)
    (spec : CommitSpec) (outcome : FabricOutcome) (found : e.sets[setId]? = some r) :
    ∃ victims ≤ x.members.size,
      memberRecords (e.sealedCommit setId x q spec outcome).sets + r.members.size + victims =
        memberRecords e.sets + x.members.size ∧
      (e.sealedCommit setId x q spec outcome).totalMembers = e.totalMembers - victims ∧
      (e.sealedCommit setId x q spec outcome).sets.size = e.sets.size ∧
      (e.sealedCommit setId x q spec outcome).limits = e.limits := by
  have hpruned := committed_size e x q.context spec
  have hrecords : memberRecords (e.sets.insert setId (x.committed e q.context spec)) + r.members.size =
      memberRecords e.sets + (x.committed e q.context spec).members.size := memberRecords_insert found
  refine ⟨(pruneVictims e.limits x).length, by omega, ?_, sealedCommit_totalMembers e setId x q spec outcome, ?_,
    (sealedCommit_keeps _ _ _ _ _ _).limits⟩
  · rw [sealedCommit_sets]
    omega
  · rw [sealedCommit_sets, size_insert_present found]

theorem Answer.tally {e : FabricEngine} {op : Op} {q : Request} {result : FabricEngine × FabricOutcome}
    (answer : Answer e op q result) (h : e.Counted) : Tally e result.1 op := by
  cases answer with
  | refused | replayed => exact (SameTally.refl e).tally h
  | left residual _ _ found edit => exact (SameTally.put found (edit.size (residual_reshapes residual))).tally h
  | answered _ _ found edit =>
      refine SameTally.tally (.trans ?_ (.recordAttempt _ _ _ _ _)) h
      rcases edit with rfl | ⟨shape, summary, edit⟩
      · exact .put found rfl
      · exact .put found (edit.size shape)
  | @committed setId r x spec outcome generation membershipGeneration _ named found edit _ room =>
      have hmembers := h.members
      obtain ⟨hle, hexact⟩ := edit.balance ((size_le_memberRecords found).trans hmembers)
      have hwithin := prepared_within room h
      have hsize := size_le_memberRecords found
      have hfound : (e.prepared r op).sets[setId]? = some r := by
        rw [prepared_sets]
        exact found
      obtain ⟨victims, hvictims, hrecords, htotal, hsets, hlimits⟩ := sealedCommit_tally (e.prepared r op)
        (x.advanced generation membershipGeneration) q spec outcome hfound
      have hadvanced : (x.advanced generation membershipGeneration).members.size = x.members.size := rfl
      rw [hadvanced] at hvictims hrecords
      rw [prepared_sets] at hrecords hsets
      refine ⟨?_, ?_, hlimits.trans (prepared_keeps e r op).limits, ?_, fun hnone => ?_⟩
      · rw [hsets]
        exact h.sets
      · rw [htotal]
        omega
      · dsimp only
        rw [htotal]
        omega
      · have hequal := hexact (hnone setId r named found)
        dsimp only
        rw [htotal]
        omega
  | @superseded predecessor successor old new x spec outcome generation supersedes _ distinct _ foundOld foundNew _ _
      edit =>
      have hplain : op.reshapes = false := by rw [supersedes]; rfl
      have hput : SameTally e (e.putSet successor { new with supersedes := some predecessor }) := .put foundNew rfl
      have hfound : (e.putSet successor { new with supersedes := some predecessor }).sets[predecessor]? = some old := by
        rw [putSet, getElem?_insert_eq, if_neg distinct.symm]
        exact foundOld
      obtain ⟨victims, hvictims, hrecords, htotal, hsets, hlimits⟩ := sealedCommit_tally _
        (x.advanced generation old.membershipGeneration) q spec outcome hfound
      have hadvanced : (x.advanced generation old.membershipGeneration).members.size = old.members.size :=
        edit.size hplain
      have hsuccessor := sealedCommit_successor e distinct { new with supersedes := some predecessor }
        (x.advanced generation old.membershipGeneration) q spec outcome
      obtain ⟨committed, hcommitted⟩ : ∃ committed, committed = (e.putSet successor
          { new with supersedes := some predecessor }).sealedCommit predecessor
            (x.advanced generation old.membershipGeneration) q spec outcome := ⟨_, rfl⟩
      rw [← hcommitted] at hrecords htotal hsets hlimits hsuccessor ⊢
      have hfinal : SameTally committed (committed.supersedeSuccessor q.context predecessor successor
          { new with supersedes := some predecessor }) := by
        refine .trans (.captureSnapshot _ _) (.put (r := { new with supersedes := some predecessor }) ?_ rfl)
        rw [captureSnapshot_sets]
        exact hsuccessor
      have holds := size_le_memberRecords hfound
      have hmembers := h.members
      rw [hput.records] at hrecords holds
      rw [hput.total] at htotal
      have hequal : memberRecords committed.sets + e.totalMembers = memberRecords e.sets + committed.totalMembers := by
        omega
      refine ⟨?_, ?_, hfinal.limits.trans (hlimits.trans hput.limits), ?_, fun _ => ?_⟩
      · rw [hfinal.sets, hsets, hput.sets]
        exact h.sets
      · rw [hfinal.total, htotal]
        exact (Nat.sub_le _ _).trans h.within
      · rw [hfinal.records, hfinal.total]
        omega
      · rw [hfinal.records, hfinal.total]
        exact hequal
  | viewed =>
      refine SameTally.tally ?_ h
      refine .trans ?_ (.trans (.applyView _ _ _ _ _) (.recordAttempt _ _ _ _ _))
      exact .congr rfl rfl rfl
  | @created key options outcome creates _ _ _ room =>
      obtain ⟨minted, hminted⟩ : ∃ minted : FabricEngine, minted =
          { e with ids := e.ids.nextSetId.2, keyIndex := e.keyIndex.insert key e.ids.nextSetId.1 } := ⟨_, rfl⟩
      have hbase : SameTally e minted := by
        rw [hminted]
        exact .congr rfl rfl rfl
      have hsets : minted.sets = e.sets := by rw [hminted]
      rw [← hminted]
      have hcaptured := hbase.trans (.captureSnapshot minted (e.createdRecord q.context key options))
      obtain ⟨captured, hcapture⟩ : ∃ captured, captured =
          minted.captureSnapshot (e.createdRecord q.context key options) := ⟨_, rfl⟩
      have hsame : captured.sets = e.sets := by rw [hcapture, captureSnapshot_sets, hsets]
      rw [← hcapture] at hcaptured ⊢
      cases hfound : e.sets[e.ids.nextSetId.1]? with
      | some r =>
          refine SameTally.tally (hcaptured.trans (.trans (.put (r := r) ?_ ?_) (.recordAttempt _ _ _ _ _))) h
          · rw [hsame, hfound]
          · simp only [createdRecord, hfound]
            rfl
      | none =>
          have hempty : (e.createdRecord q.context key options).members.size = 0 := by
            simp only [createdRecord, hfound]
            exact Std.ExtTreeMap.size_empty
          have hrecords : memberRecords (e.sets.insert e.ids.nextSetId.1 (e.createdRecord q.context key options)) =
              memberRecords e.sets + (e.createdRecord q.context key options).members.size :=
            memberRecords_insert_new hfound
          have htotal := hcaptured.total
          have hwithin := h.within
          refine ⟨?_, ?_, hcaptured.limits, ?_, fun _ => ?_⟩
          · change (captured.sets.insert _ _).size ≤ _
            rw [hsame]
            refine Std.ExtTreeMap.size_insert_le.trans ?_
            exact room
          · change captured.totalMembers ≤ _
            omega
          · change memberRecords (captured.sets.insert _ _) + _ ≤ _ + captured.totalMembers
            rw [hsame]
            omega
          · change memberRecords (captured.sets.insert _ _) + _ = _ + captured.totalMembers
            rw [hsame]
            omega

namespace FabricEngine

theorem recoveredSet_size (e : FabricEngine) (r : SetRecord) : (e.recoveredSet r).members.size = r.members.size :=
  (bumpWatermark_size _).trans Std.ExtTreeMap.size_map

theorem installSets_counted {stored : List SetRecord} {e : FabricEngine}
    (balanced : memberRecords e.sets = e.totalMembers)
    (sets : e.sets.size + stored.length ≤ e.limits.maxSets.toNat)
    (members : e.totalMembers + (stored.map fun r => r.members.size).sum ≤ e.limits.maxTotalMembers.toNat) :
    (e.installSets stored).1.Counted ∧
      memberRecords (e.installSets stored).1.sets = (e.installSets stored).1.totalMembers := by
  induction stored generalizing e with
  | nil =>
      rw [List.length_nil] at sets
      rw [List.map_nil, List.sum_nil] at members
      exact ⟨⟨sets, Nat.le_of_eq balanced, members⟩, balanced⟩
  | cons r rest ih =>
      rw [List.length_cons] at sets
      rw [List.map_cons, List.sum_cons] at members
      have hstopped : e.Counted ∧ memberRecords e.sets = e.totalMembers :=
        ⟨⟨by omega, Nat.le_of_eq balanced, by omega⟩, balanced⟩
      unfold installSets
      split
      · exact hstopped
      · split
        · exact hstopped
        · rename_i hid
          rw [Option.not_isSome_iff_eq_none] at hid
          change (installSets (e.installSet r) rest).1.Counted ∧ _
          have hlimits : (e.installSet r).limits = e.limits := (installSet_stamp e r).limits
          have htotal : (e.installSet r).totalMembers = e.totalMembers + r.members.size := by
            obtain ⟨index, hindex⟩ := installSet_frame e r
            rw [hindex, captureSnapshot_totalMembers, recoveredSet_size]
          have hrecords : memberRecords (e.installSet r).sets = memberRecords e.sets + r.members.size := by
            rw [installSet_sets, memberRecords_insert_new hid, recoveredSet_size]
          have hsize : (e.installSet r).sets.size ≤ e.sets.size + 1 := by
            rw [installSet_sets]
            exact Std.ExtTreeMap.size_insert_le
          apply ih
          · omega
          · rw [hlimits]
            omega
          · rw [hlimits]
            omega

end FabricEngine

theorem EngineStep.counted {e e' : FabricEngine} {op : Op} (step : EngineStep e op e') (h : e.Counted) :
    e'.Counted ∧
      ((∀ (setId : MultipathSetId) (r : SetRecord), op.subject = some setId → e.sets[setId]? = some r →
        ¬op.overwrites r) → memberRecords e.sets = e.totalMembers → memberRecords e'.sets = e'.totalMembers) := by
  have hsame : ∀ {e' : FabricEngine}, SameTally e e' → e'.Counted ∧
      ((∀ (setId : MultipathSetId) (r : SetRecord), op.subject = some setId → e.sets[setId]? = some r →
        ¬op.overwrites r) → memberRecords e.sets = e.totalMembers → memberRecords e'.sets = e'.totalMembers) := by
    intro e' hsame
    have htally : Tally e e' op := hsame.tally h
    refine ⟨htally.counted h, fun _ hbalanced => ?_⟩
    rw [hsame.records, hsame.total, hbalanced]
  cases step with
  | unchanged => exact hsame (.refl e)
  | answered request answer =>
      have htally := answer.tally h
      refine ⟨htally.counted h, fun hnone hbalanced => ?_⟩
      have hexact := htally.exact hnone
      omega
  | worked request found edit =>
      have hshape : op.reshapes = false := by cases op <;> first | rfl | cases request
      exact hsame (.put found (edit.size hshape))
  | viewed => exact hsame (.applyView _ _ _ _ _)
  | released | registered | unregistered | bound => exact hsame (.congr rfl rfl rfl)
  | fenced =>
      apply hsame
      refine SameTally.rewritten (fun e r x hx => ?_) (.congr rfl rfl rfl) rfl
      split at hx
      · cases hx
        exact .bumped _
      · cases hx
  | epochAdvanced =>
      apply hsame
      refine SameTally.rewritten (fun e r x hx => ?_) (.congr rfl rfl rfl) rfl
      cases hx
      exact .bumped _
  | @loaded path files decoded fallback epoch authority loads read =>
      have hwithin := readAndDecode_within read
      have hloaded : (e.clearedForLoad decoded.fences epoch authority).sets = ∅ := rfl
      have hcount : (e.clearedForLoad decoded.fences epoch authority).totalMembers = 0 := rfl
      obtain ⟨hcounted, hbalanced⟩ := @installSets_counted decoded.sets
        (e.clearedForLoad decoded.fences epoch authority) (total_empty _)
        (by rw [hloaded, Std.ExtTreeMap.size_empty, Nat.zero_add]; exact hwithin.sets)
        (by rw [hcount, Nat.zero_add]; exact hwithin.members)
      exact ⟨hcounted, fun _ _ => hbalanced⟩

end MultipathFabric
