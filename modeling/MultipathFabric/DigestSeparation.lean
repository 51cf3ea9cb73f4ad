import MultipathFabric.DigestStream
import MultipathFabric.Library.WordMixing
import MultipathFabric.StoreCorruption

namespace MultipathFabric

open ByteCodec RollingChecksum WordMixing

namespace DigestBuilder

def laneBRoll (state : UInt64) (byte : UInt8) : UInt64 :=
  let mixed := (state ^^^ (byte.toUInt64 + 0x9E3779B97F4A7C15)) * digest64PrimeB
  (mixed <<< 13) ||| (mixed >>> 51)

theorem absorbByte_eq (b : DigestBuilder) (value : UInt8) :
    b.absorbByte value = ⟨fnv1a64Roll b.laneA value, laneBRoll b.laneB value⟩ := rfl

theorem digest64PrimeB_inverse : digest64PrimeB * 14886173955864302971 = 1 := by decide

theorem laneBRoll_separates : Separates laneBRoll := by
  have hmixed : ∀ x y : UInt64, (x * digest64PrimeB) <<< 13 ||| (x * digest64PrimeB) >>> 51 =
      (y * digest64PrimeB) <<< 13 ||| (y * digest64PrimeB) >>> 51 → x = y := by
    intro x y h
    have hrotated := rotation_word_injective (k := 13) (j := 51) (by decide) (by decide) (by decide) h
    exact scale_injective digest64PrimeB_inverse hrotated
  constructor
  · intro b s s' h
    exact (UInt64.xor_left_inj _).mp (hmixed _ _ h)
  · intro s b b' h
    have hsum := (UInt64.xor_right_inj s).mp (hmixed _ _ h)
    exact UInt8.toUInt64_inj.mp ((UInt64.add_left_inj _).mp hsum)

theorem absorbByte_separates : Separates absorbByte := by
  constructor
  · intro b s s' h
    rw [absorbByte_eq, absorbByte_eq] at h
    obtain ⟨hfirst, hsecond⟩ := DigestBuilder.mk.inj h
    cases s
    cases s'
    dsimp only at *
    rw [fnv1a64Roll_separates.states _ _ _ hfirst, laneBRoll_separates.states _ _ _ hsecond]
  · intro s b b' h
    exact fnv1a64Roll_separates.symbols _ _ _ (DigestBuilder.mk.inj h).1

theorem finish_injective : Function.Injective finish := by
  have hhigh : Function.Injective fun x : UInt64 =>
      (fun y : UInt64 => y ^^^ y >>> 33) ((fun y : UInt64 => y * 0xFF51AFD7ED558CCD) ((fun y : UInt64 => y ^^^ y >>> 33) x)) :=
    (xorShift_word_injective (by decide)).comp
      ((@scale_injective 0xFF51AFD7ED558CCD 5725274745694666757 (by decide)).comp (xorShift_word_injective (by decide)))
  have hlow : Function.Injective fun x : UInt64 =>
      (fun y : UInt64 => y ^^^ y >>> 32) ((fun y : UInt64 => y * 0xC4CEB9FE1A85EC53) ((fun y : UInt64 => y ^^^ y >>> 29) x)) :=
    (xorShift_word_injective (by decide)).comp
      ((@scale_injective 0xC4CEB9FE1A85EC53 11291846944257947611 (by decide)).comp (xorShift_word_injective (by decide)))
  intro b b' h
  obtain ⟨hmixed, hlast⟩ := Digest128.mk.inj h
  -- The low lane stands on its own; the high lane is masked by it.
  have hsecond : b.laneB = b'.laneB := hlow hlast
  rw [hsecond] at hmixed
  have hfirst : b.laneA = b'.laneA := hhigh ((UInt64.xor_left_inj _).mp hmixed)
  cases b
  cases b'
  dsimp only at hfirst hsecond
  rw [hfirst, hsecond]

theorem pair_bijective (f : DigestBuilder → Digest128) (h : Function.Injective f) : Function.Bijective f := by
  let lanes : UInt64 × UInt64 ≃ DigestBuilder := ⟨fun p => ⟨p.1, p.2⟩, fun b => (b.laneA, b.laneB), fun _ => rfl, fun _ => rfl⟩
  let words : Digest128 ≃ UInt64 × UInt64 := ⟨fun d => (d.high, d.low), fun p => ⟨p.1, p.2⟩, fun _ => rfl, fun _ => rfl⟩
  have hcomposed : Function.Bijective (words ∘ f ∘ lanes) :=
    Finite.injective_iff_bijective.mp (words.injective.comp (h.comp lanes.injective))
  exact (Function.Bijective.of_comp_iff f lanes.bijective).mp
    ((Function.Bijective.of_comp_iff' words.bijective _).mp hcomposed)

end DigestBuilder

theorem digestOf_differOnce {s t : Bytes} (apart : DifferOnce s t) : Request.digestOf s ≠ Request.digestOf t := by
  intro h
  exact DigestBuilder.absorbByte_separates.differOnce apart _ (DigestBuilder.finish_injective h)

inductive CoveredMember.OneMark (m : CoveredMember) : CoveredMember → Prop
  | lifecycle (l : MemberLifecycle) (h : m.lifecycle ≠ l) : OneMark m { m with lifecycle := l }
  | currentness (c : MemberCurrentness) (h : m.currentness ≠ c) : OneMark m { m with currentness := c }
  | adminEnabled (b : Bool) (h : m.adminEnabled ≠ b) : OneMark m { m with adminEnabled := b }

inductive CoveredState.OneMark (c : CoveredState) : CoveredState → Prop
  | lifecycle (l : SetLifecycle) (h : c.lifecycle ≠ l) : OneMark c { c with lifecycle := l }
  | currentness (x : SetCurrentness) (h : c.currentness ≠ x) : OneMark c { c with currentness := x }
  | adminEnabled (b : Bool) (h : c.adminEnabled ≠ b) : OneMark c { c with adminEnabled := b }
  | conditionalAuthorityPermitted (b : Bool) (h : c.conditionalAuthorityPermitted ≠ b) :
      OneMark c { c with conditionalAuthorityPermitted := b }
  | revocationReason (r : CoveredRevocation) (reason : RevocationReason) (revoked : c.revocation = some r)
      (h : r.reason ≠ reason) : OneMark c { c with revocation := some { r with reason := reason } }
  | member (before after : List CoveredMember) (m n : CoveredMember) (members : c.members = before ++ m :: after)
      (h : m.OneMark n) : OneMark c { c with members := before ++ n :: after }

section Streams

open DifferOnce

theorem CoveredMember.OneMark.differOnce {m n : CoveredMember} (h : m.OneMark n) : DifferOnce m.stream n.stream := by
  have hmarks : DifferOnce m.marks n.marks := by
    cases h with
    | lifecycle l h => exact head (fun same => h (raw_inj MemberLifecycle.fromRaw_raw same)) _
    | currentness c h => exact (head (fun same => h (raw_inj MemberCurrentness.fromRaw_raw same)) _).cons _
    | adminEnabled b h => exact ((head (fun same => h (flagByte_injective same)) _).cons _).cons _
  cases h with
  | _ => exact (((hmarks.append_left _).append_left _).append_left _).append_left _

theorem CoveredState.OneMark.differOnce {c x : CoveredState} (h : c.OneMark x) : DifferOnce c.stream x.stream := by
  cases h with
  | lifecycle l h =>
      have hbyte := head (fun same => h (raw_inj SetLifecycle.fromRaw_raw same))
      iterate 8 apply append_left
      exact hbyte _
  | currentness y h =>
      have hbyte := head (fun same => h (raw_inj SetCurrentness.fromRaw_raw same))
      iterate 8 apply append_left
      exact (hbyte _).cons _
  | adminEnabled b h =>
      have hbyte := head (fun same => h (flagByte_injective same))
      iterate 8 apply append_left
      exact ((hbyte _).cons _).cons _
  | conditionalAuthorityPermitted b h =>
      have hbyte := head (fun same => h (flagByte_injective same))
      iterate 8 apply append_left
      iterate 3 apply cons
      apply append_left
      exact hbyte _
  | revocationReason r reason revoked h =>
      have hbyte := head (fun same => h (raw_inj RevocationReason.fromRaw_raw same))
      have hblock : DifferOnce (revocationStream c.revocation) (revocationStream (some { r with reason := reason })) := by
        rw [revoked]
        exact (hbyte _).cons _
      iterate 8 apply append_left
      iterate 3 apply cons
      apply append_left
      apply cons
      iterate 3 apply append_left
      exact hblock.append_right _
  | member before after m n members h =>
      have hcount : c.members.length = (before ++ n :: after).length := by
        rw [members, List.length_append, List.length_append, List.length_cons, List.length_cons]
      have hlist : DifferOnce (c.members.flatMap CoveredMember.stream)
          ((before ++ n :: after).flatMap CoveredMember.stream) := by
        rw [members]
        simp only [List.flatMap_append, List.flatMap_cons]
        exact (h.differOnce.append_right _).append_left _
      unfold stream
      dsimp only
      rw [hcount]
      iterate 8 apply append_left
      iterate 3 apply cons
      apply append_left
      apply cons
      iterate 5 apply append_left
      exact hlist

def OneCharacter (fields others : List Bytes) : Prop :=
  ∃ before after : List Bytes, ∃ field other : Bytes,
    fields = before ++ field :: after ∧ others = before ++ other :: after ∧ DifferOnce field other

theorem chunk_differOnce {field other : Bytes} (h : DifferOnce field other) : DifferOnce (chunk field) (chunk other) := by
  rw [chunk, chunk, h.1]
  exact h.append_left _

theorem OneCharacter.fingerprint {fields others : List Bytes} (h : OneCharacter fields others) (operation : Bytes) :
    fingerprintRequest operation fields ≠ fingerprintRequest operation others := by
  obtain ⟨before, after, field, other, rfl, rfl, hdiffer⟩ := h
  have hstream := Request.fingerprint_eq ⟨MutationContext.unset, operation, before ++ field :: after⟩
  have hothers := Request.fingerprint_eq ⟨MutationContext.unset, operation, before ++ other :: after⟩
  change fingerprintRequest operation _ = _ at hstream hothers
  rw [hstream, hothers]
  apply digestOf_differOnce
  simp only [Request.stream, Request.absorbed, List.flatMap_append, List.flatMap_cons, List.length_append,
    List.length_cons, List.cons_append, List.nil_append]
  iterate 8 apply append_left
  exact (chunk_differOnce hdiffer).append_right _

end Streams

namespace FabricEngine

variable {e : FabricEngine}

theorem captureSnapshot_apart {r x : SetRecord} {s : SetSnapshot}
    (last : (e.snapshotHistory[x.id]?.getD []).getLast? = some s) (own : s.snapshotId = (makeSnapshot r).snapshotId)
    (apart : r.covered.OneMark x.covered) :
    (e.captureSnapshot x).snapshotHistory[x.id]? =
      some (dropOldest e.limits.maxSnapshotHistory.toNat (e.snapshotHistory[x.id]?.getD [] ++ [makeSnapshot x])) := by
  have hdigest : computeSetDigest r ≠ computeSetDigest x := by
    rw [computeSetDigest_eq, computeSetDigest_eq]
    exact digestOf_differOnce apart.differOnce
  have hnew : ¬(e.snapshotHistory[x.id]?.getD []).getLast?.map SetSnapshot.snapshotId = some (makeSnapshot x).snapshotId := by
    rw [last, Option.map_some, own]
    intro hsame
    exact hdigest (snapshotIdFor_inj.mp (Option.some.inj hsame))
  unfold captureSnapshot
  dsimp only
  rw [if_neg hnew, Std.ExtTreeMap.getElem?_insert_self]

theorem attemptCheck_oneCharacter {q : Request} {fields : List Bytes}
    (known : e.attemptIndex[q.context.attempt]? = some (fingerprintRequest q.operation fields))
    (apart : OneCharacter fields q.fields) : e.attemptCheck q.context q.operation q.fields = some (conflicting q) := by
  unfold attemptCheck
  rw [known]
  exact if_pos (apart.fingerprint q.operation)

end FabricEngine

theorem DigestBuilder.separates_single_bytes :
    ((∀ (b : DigestBuilder) (value : UInt8),
        b.absorbByte value = ⟨fnv1a64Roll b.laneA value, laneBRoll b.laneB value⟩) ∧
      (∀ byte, Function.Bijective fun lane => fnv1a64Roll lane byte) ∧
      (∀ lane, Function.Injective (fnv1a64Roll lane)) ∧
      (∀ byte, Function.Bijective fun lane => laneBRoll lane byte) ∧
      (∀ lane, Function.Injective (laneBRoll lane)) ∧
      Function.Bijective DigestBuilder.finish) ∧
    (∀ (b : DigestBuilder) (s t : Bytes), s.length = t.length → (∃! i : ℕ, s[i]? ≠ t[i]?) →
      (s.foldl absorbByte b).finish ≠ (t.foldl absorbByte b).finish) ∧
    (∀ (e : FabricEngine) (r x : SetRecord) (s : SetSnapshot),
      (e.snapshotHistory[x.id]?.getD []).getLast? = some s → s.snapshotId = (makeSnapshot r).snapshotId →
      r.covered.OneMark x.covered →
      (e.captureSnapshot x).snapshotHistory[x.id]? =
        some (dropOldest e.limits.maxSnapshotHistory.toNat (e.snapshotHistory[x.id]?.getD [] ++ [makeSnapshot x]))) ∧
    (∀ (e : FabricEngine) (q : Request) (fields : List Bytes),
      e.attemptIndex[q.context.attempt]? = some (fingerprintRequest q.operation fields) →
      OneCharacter fields q.fields →
      (∃ outcome, e.attemptCheck q.context q.operation q.fields = some outcome ∧ outcome.code = .attemptConflict) ∧
      ∀ op : Op, op.request = some q → op.unreplayed = false → op.formed e.limits = true → e.Authorizes op →
        (e.exec op).1 = e ∧ (e.exec op).2.code = .attemptConflict) := by
  refine ⟨⟨absorbByte_eq, fun byte => ?_, fun lane b b' => fnv1a64Roll_separates.symbols lane b b', fun byte => ?_,
    fun lane b b' => laneBRoll_separates.symbols lane b b', pair_bijective _ finish_injective⟩,
    fun b s t hlength honce hsame => ?_, fun e r x s last own apart => FabricEngine.captureSnapshot_apart last own apart,
    fun e q fields known apart => ?_⟩
  · exact Finite.injective_iff_bijective.mp fun s s' => fnv1a64Roll_separates.states byte s s'
  · exact Finite.injective_iff_bijective.mp fun s s' => laneBRoll_separates.states byte s s'
  · exact absorbByte_separates.differOnce ⟨hlength, honce⟩ b (finish_injective hsame)
  · have hconflict := FabricEngine.attemptCheck_oneCharacter known apart
    refine ⟨⟨_, hconflict, rfl⟩, fun op request replays formed caller => ?_⟩
    rw [FabricEngine.exec_known request replays formed caller hconflict]
    exact ⟨rfl, rfl⟩

def drained (reason : String) : Op := .withdrawMember (sampleContext "a4") sampleSet sampleMember (text reason)

theorem drained_apart : DifferOnce (text "drained") (text "drainer") := by
  have hlast : DifferOnce [(100 : UInt8)] [114] := DifferOnce.head (by decide) []
  exact hlast.append_left (text "draine")

theorem DigestBuilder.separates_single_bytes_sample :
    (∀ b : DigestBuilder, ((text "drained").foldl absorbByte b).finish ≠ ((text "drainer").foldl absorbByte b).finish) ∧
    (∃ r, (sampleRun sampleSteps).sets[sampleSet]? = some r ∧
      ((sampleRun sampleSteps).captureSnapshot { r with adminEnabled := false }).snapshotHistory[sampleSet]? =
        some (dropOldest (sampleRun sampleSteps).limits.maxSnapshotHistory.toNat
          ((sampleRun sampleSteps).snapshotHistory[sampleSet]?.getD [] ++
            [makeSnapshot { r with adminEnabled := false }]))) ∧
    (((sampleRun sampleSteps).after (drained "drained")).exec (drained "drainer")).1 =
        (sampleRun sampleSteps).after (drained "drained") ∧
      (((sampleRun sampleSteps).after (drained "drained")).exec (drained "drainer")).2.code = .attemptConflict := by
  obtain ⟨-, hstreams, hsnapshots, hattempts⟩ := separates_single_bytes
  refine ⟨fun b => hstreams b _ _ drained_apart.1 drained_apart.2, ?_, ?_⟩
  · have hsome : ((sampleRun sampleSteps).sets[sampleSet]?).isSome = true := by decide +kernel
    obtain ⟨r, hr⟩ := Option.isSome_iff_exists.mp hsome
    have hfacts : ∀ r ∈ (sampleRun sampleSteps).sets[sampleSet]?, r.id = sampleSet ∧ r.adminEnabled = true ∧
        ((sampleRun sampleSteps).snapshotHistory[r.id]?.getD []).getLast?.map SetSnapshot.snapshotId =
          some (makeSnapshot r).snapshotId := by
      decide +kernel
    obtain ⟨hid, henabled, hlast⟩ := hfacts r hr
    obtain ⟨s, hs, hown⟩ := Option.map_eq_some_iff.mp hlast
    have hmark : r.covered.OneMark ({ r with adminEnabled := false } : SetRecord).covered :=
      .adminEnabled false fun hsame => Bool.false_ne_true (hsame.symm.trans henabled)
    have hcaptured := hsnapshots (sampleRun sampleSteps) r { r with adminEnabled := false } s hs hown hmark
    rw [← hid]
    exact ⟨r, hid.symm ▸ hr, hcaptured⟩
  · have hknown : ((sampleRun sampleSteps).after (drained "drained")).attemptIndex[(sampleContext "a4").attempt]? =
        some (fingerprintRequest (text "withdraw_member") [text "withdraw_member", sampleSet.view, sampleMember.view,
          text "drained"]) := by
      decide +kernel
    have hcaller : (((sampleRun sampleSteps).after (drained "drained")).authorityCheck (sampleContext "a4") none
        (some sampleSet)).isOk = true := by
      decide +kernel
    obtain ⟨_, hauthorized⟩ := Checked.of_isOk hcaller
    have hapart : OneCharacter [text "withdraw_member", sampleSet.view, sampleMember.view, text "drained"]
        [text "withdraw_member", sampleSet.view, sampleMember.view, text "drainer"] :=
      ⟨[text "withdraw_member", sampleSet.view, sampleMember.view], [], _, _, rfl, rfl, drained_apart⟩
    exact (hattempts _ (.onSet (sampleContext "a4") (text "withdraw_member") sampleSet [sampleMember.view, text "drainer"])
      _ hknown hapart).2 (drained "drainer") rfl rfl (by decide +kernel)
        (FabricEngine.authorizes_named rfl rfl hauthorized)

def conditionalSteps : List Op :=
  [.registerPublisher (sampleId "pub") (sampleId "boot") sampleScope (sampleId "sess"),
    .createSet (sampleContext "a1") (sampleKey "set") ⟨1, true, true⟩,
    .declarePathAuthority (sampleContext "a2") sampleView,
    .addMember (sampleContext "a3") sampleSet sampleRequest (some sampleView)]

def conditionalView : PathAuthorityView := { sampleView with state := .conditionallyAuthorized }

def observedStates (e : FabricEngine) : List (Option PathAuthorityState) :=
  ((e.sets[sampleSet]?).map fun r => r.members.toList.map fun entry => entry.2.observedAuthorityState).getD []

def SetRecord.observing (r : SetRecord) (path : PathId) (m : MemberRecord) (state : PathAuthorityState) : SetRecord :=
  { r with members := r.members.insert path { m with observedAuthorityState := some state } }

/-- The state in which a member's path was last observed is an enumerator of the record that the digest leaves out. -/
theorem DigestBuilder.separates_fails :
    (¬∀ (e : FabricEngine) (r : SetRecord) (path : PathId) (m : MemberRecord) (state : PathAuthorityState),
      Reachable sampleConfig e → (e.snapshotHistory[r.id]?.getD []).getLast? = some (makeSnapshot r) →
      r.members[path]? = some m → m.observedAuthorityState ≠ some state →
      e.captureSnapshot (r.observing path m state) ≠ e) ∧
    (observedStates (sampleRun conditionalSteps) = [some .authorized] ∧
      observedStates (sampleRun (conditionalSteps ++ [.applyPathAuthority (sampleContext "a4") conditionalView])) =
        [some .conditionallyAuthorized] ∧
      (sampleRun (conditionalSteps ++ [.applyPathAuthority (sampleContext "a4") conditionalView])).snapshotHistory.toList =
        (sampleRun conditionalSteps).snapshotHistory.toList) := by
  refine ⟨fun h => ?_, by decide +kernel⟩
  have hsome : ((sampleRun conditionalSteps).sets[sampleSet]?).isSome = true := by decide +kernel
  have hfacts : ∀ r ∈ (sampleRun conditionalSteps).sets[sampleSet]?,
      ((sampleRun conditionalSteps).snapshotHistory[r.id]?.getD []).getLast? = some (makeSnapshot r) ∧
        (r.members[samplePath]?).isSome = true ∧ ∀ m ∈ r.members[samplePath]?,
          m.observedAuthorityState ≠ some .conditionallyAuthorized ∧
            (makeSnapshot (r.observing samplePath m .conditionallyAuthorized)).snapshotId =
              (makeSnapshot r).snapshotId := by
    decide +kernel
  obtain ⟨r, hr⟩ := Option.isSome_iff_exists.mp hsome
  obtain ⟨hlast, hmember, hobserved⟩ := hfacts r hr
  obtain ⟨m, hm⟩ := Option.isSome_iff_exists.mp hmember
  obtain ⟨hother, hsame⟩ := hobserved m hm
  refine h _ r samplePath m .conditionallyAuthorized (sampleRun_reachable _) hlast hm hother ?_
  unfold FabricEngine.captureSnapshot
  refine if_pos ?_
  change ((sampleRun conditionalSteps).snapshotHistory[r.id]?.getD []).getLast?.map SetSnapshot.snapshotId = _
  rw [hlast, Option.map_some, hsame]

end MultipathFabric
