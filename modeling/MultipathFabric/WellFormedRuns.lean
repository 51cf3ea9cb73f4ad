import MultipathFabric.Invalidation
import MultipathFabric.RequestChecks
import MultipathFabric.StoreSafety

namespace MultipathFabric

open OrderedMap

namespace SetRecord.WellFormed

variable {r : SetRecord} {e : FabricEngine} {context : MutationContext}

theorem pruned (h : r.WellFormed) (limits : Limits) : (r.pruneArchive limits).WellFormed := by
  have hkept : ({ r with members := (r.pruneArchive limits).members } : SetRecord).WellFormed := by
    apply h.withMembers
    intro path m' hm
    obtain ⟨m, hfound, hsame⟩ := pruneArchive_member hm
    obtain ⟨hpath, hmember⟩ := h.members path m hfound
    refine ⟨hpath, ?_⟩
    rcases hsame with rfl | ⟨pruned, rfl⟩
    · exact hmember
    · exact hmember.clearLineage pruned
  rw [pruneArchive_frame]
  exact hkept.congr rfl

theorem stamped (h : r.WellFormed) (identity : context.hasCallerIdentity = true) (cause : MembershipCause) :
    ({ r with provenance := makeProvenance context cause r } : SetRecord).WellFormed :=
  ⟨h.id, h.key, h.generation, h.membershipGeneration, h.authorityGeneration, h.governingEpoch, h.supersededBy,
    h.supersedes, h.revocation, ⟨(MutationContext.identity_valid identity).1, h.generation⟩, h.history, h.members⟩

theorem committed (h : r.WellFormed) (identity : context.hasCallerIdentity = true) {spec : CommitSpec}
    {old : SetRecord} (before : old.WellFormed) (names : spec.Names old) : (r.committed e context spec).WellFormed := by
  apply append ((h.stamped identity spec.cause).pruned e.limits)
  · exact (MutationContext.identity_valid identity).1
  · exact names.member
  · intro path hpath
    rcases names.path path hpath with hvalid | ⟨place, m, hm, hsame | hsame⟩
    · exact hvalid
    · rw [hsame]
      exact (before.members place m hm).1
    · rw [hsame]
      exact (before.members place m hm).2.pathId

theorem restamped (h : r.WellFormed) {authority : MultipathAuthorityGeneration} {epoch : CoordinatorEpoch}
    (generation : authority.valid = true) (governing : epoch.valid = true) :
    ({ r with authorityGeneration := authority, governingEpoch := epoch } : SetRecord).WellFormed :=
  ⟨h.id, h.key, h.generation, h.membershipGeneration, generation, governing, h.supersededBy, h.supersedes,
    h.revocation, h.provenance, h.history, h.members⟩

theorem fenced (h : r.WellFormed) {authority : MultipathAuthorityGeneration} {epoch : CoordinatorEpoch}
    (generation : authority.valid = true) (governing : epoch.valid = true) : (r.fenced authority epoch).WellFormed := by
  have hstamped : ({ r with
      currentness := .revalidationRequired
      authorityGeneration := authority
      governingEpoch := epoch } : SetRecord).WellFormed := (h.restamped generation governing).congr rfl
  exact hstamped.bumpWatermark

theorem epochAdvanced (h : r.WellFormed) (epoch : e.currentEpoch.valid = true)
    (authority : e.currentAuthorityGeneration.valid = true) : (e.epochAdvanced r).WellFormed := by
  have hstamped : ({ r with
      authorityGeneration := e.currentAuthorityGeneration
      governingEpoch := e.currentEpoch
      currentness := .revalidationRequired } : SetRecord).WellFormed := (h.restamped authority epoch).congr rfl
  apply hstamped.bumpWatermark.append
  · exact epoch
  · intro id hid
    cases hid
  · intro id hid
    cases hid

theorem recovered (h : r.WellFormed) (epoch : e.currentEpoch.valid = true)
    (authority : e.currentAuthorityGeneration.valid = true) : (e.recoveredSet r).WellFormed := by
  apply append
  · have hbumped := (h.map fun _ hm => hm.bumpWatermark).bumpWatermark
    exact (hbumped.restamped authority epoch).congr rfl
  · exact epoch
  · intro id hid
    cases hid
  · intro id hid
    cases hid

theorem viewed (h : r.WellFormed) (path : PathId) (view : Option PathAuthorityView)
    {context : Option MutationContext}
    (epoch : ((context.map MutationContext.epoch).getD e.currentEpoch).valid = true) :
    (e.viewed path view context .pathInvalidated r).WellFormed := by
  unfold FabricEngine.viewed
  split
  · exact h
  · split
    · exact h
    · rename_i m hm
      obtain ⟨hpath, hmember⟩ := h.members path m hm
      have hevaluated := hmember.evaluate r.conditionalAuthorityPermitted view false
      dsimp only
      split
      · exact h.withMember hpath hevaluated
      · exact h.invalidated hpath hevaluated epoch

end SetRecord.WellFormed

structure FabricEngine.WellFormed (e : FabricEngine) : Prop where
  epoch : e.currentEpoch.valid = true
  authority : e.currentAuthorityGeneration.valid = true
  sets : ∀ (setId : MultipathSetId) (r : SetRecord), e.sets[setId]? = some r → r.WellFormed

namespace FabricEngine.WellFormed

variable {e e' : FabricEngine} {setId : MultipathSetId} {r x : SetRecord} {op : Op} {q : Request}

theorem init (config : FabricConfig) (ids : IdFactory) : (FabricEngine.init config ids).WellFormed := by
  constructor
  · unfold FabricEngine.init
    dsimp only
    split
    · assumption
    · rfl
  · unfold FabricEngine.init
    dsimp only
    split
    · assumption
    · rfl
  · intro setId r hr
    cases (Std.ExtTreeMap.getElem?_empty.symm.trans hr : none = some r)

theorem congr (h : e.WellFormed) (sets : e'.sets = e.sets) (stamp : FabricEngine.SameStamp e e') : e'.WellFormed := by
  constructor
  · rw [stamp.epoch]
    exact h.epoch
  · rw [stamp.authority]
    exact h.authority
  · intro setId r hr
    rw [sets] at hr
    exact h.sets setId r hr

theorem store (h : e.WellFormed) (valid : x.WellFormed) (setId : MultipathSetId)
    (sets : e'.sets = e.sets.insert setId x) (stamp : FabricEngine.SameStamp e e') : e'.WellFormed := by
  constructor
  · rw [stamp.epoch]
    exact h.epoch
  · rw [stamp.authority]
    exact h.authority
  · intro other found hfound
    rw [sets, getElem?_insert_eq] at hfound
    split at hfound
    · cases hfound
      exact valid
    · exact h.sets other found hfound

theorem put (h : e.WellFormed) (valid : x.WellFormed) : (e.putSet setId x).WellFormed :=
  h.store valid setId rfl (FabricEngine.putSet_keeps _ _ _).stamp

theorem recordAttempt (h : e.WellFormed) (context : MutationContext) (operation : Bytes) (fields : List Bytes)
    (outcome : FabricOutcome) : (e.recordAttempt context operation fields outcome).WellFormed :=
  h.congr rfl (FabricEngine.recordAttempt_keeps _ _ _ _ _).stamp

theorem captured (h : e.WellFormed) (valid : x.WellFormed) : ((e.captureSnapshot x).putSet setId x).WellFormed := by
  refine h.store valid setId ?_ ((FabricEngine.captureSnapshot_keeps _ _).trans (FabricEngine.putSet_keeps _ _ _)).stamp
  rw [FabricEngine.putSet, FabricEngine.captureSnapshot_sets]

theorem applyView (h : e.WellFormed) (linked : e.Linked) {path : PathId} {view : Option PathAuthorityView}
    {context : Option MutationContext}
    (epoch : ((context.map MutationContext.epoch).getD e.currentEpoch).valid = true) :
    (e.applyView path view context .pathInvalidated).1.WellFormed := by
  have hkeeps : FabricEngine.Keeps e (e.applyView path view context .pathInvalidated).1 :=
    FabricEngine.applyView_keeps e _
  constructor
  · rw [hkeeps.epoch]
    exact h.epoch
  · rw [hkeeps.authority]
    exact h.authority
  · intro other found hfound
    rw [FabricEngine.applyView_sets linked] at hfound
    obtain ⟨r, hr, rfl⟩ := Option.map_eq_some_iff.mp hfound
    exact (h.sets other r hr).viewed path view epoch

theorem declared (h : e.WellFormed) {context : MutationContext} (identity : context.hasCallerIdentity = true)
    {key : SetKey} (named : key.valid = true) (options : SetOptions) :
    (e.createdRecord context key options).WellFormed := by
  obtain ⟨hepoch, _⟩ := MutationContext.identity_valid identity
  have hdeclared : (e.declaredRecord context e.ids.nextSetId.1 key options).WellFormed := by
    constructor
    case id => exact e.ids.nextSetId_valid
    case key => exact named
    case generation | membershipGeneration => rfl
    case authorityGeneration => exact h.authority
    case governingEpoch => exact h.epoch
    case provenance => exact ⟨hepoch, rfl⟩
    case supersededBy | supersedes | revocation =>
      intro id hid
      cases hid
    case history => exact fun entry hentry => absurd hentry List.not_mem_nil
    case members =>
      intro path m hm
      cases (Std.ExtTreeMap.getElem?_empty.symm.trans hm : none = some m)
  apply SetRecord.WellFormed.append
  · cases hfound : e.sets[e.ids.nextSetId.1]? with
    | none => exact hdeclared
    | some r => exact h.sets _ r hfound
  · exact hepoch
  · intro id hid
    cases hid
  · intro id hid
    cases hid

end FabricEngine.WellFormed

open FabricEngine

variable {e e' : FabricEngine} {op : Op} {q : Request}

theorem Admitted.identity {setId : MultipathSetId} (h : Admitted e op q) (request : op.request = some q)
    (named : op.subject = some setId) : q.context.hasCallerIdentity = true :=
  (authorityCheck_ok (authorizes_caller h.caller (request_context request) (Op.subject_named named))).1

theorem pathCallerCheck_identity {context : MutationContext} {registration : PublisherRegistration}
    (h : e.pathCallerCheck context = .ok registration) : context.hasCallerIdentity = true := by
  unfold pathCallerCheck at h
  simp only [Checked.bind_ok, Checked.require_ok] at h
  obtain ⟨_, hidentity, _⟩ := h
  exact hidentity

theorem Answer.wellFormed {result : FabricEngine × FabricOutcome} (answer : Answer e op q result)
    (request : op.request = some q) (linked : e.Linked) (h : e.WellFormed) (binds : op.BindsSet) :
    result.1.WellFormed := by
  have hedit {setId : MultipathSetId} {r x : SetRecord} {summary : Bytes} (admitted : Admitted e op q)
      (named : op.subject = some setId) (found : e.sets[setId]? = some r) (edit : RecordEdit e setId r op x summary) :
      x.WellFormed := by
    refine edit.wellFormed (h.sets setId r found) h.epoch h.authority (linked.keyed setId r found) ?_ binds
    intro other hother
    rw [request] at hother
    cases hother
    exact admitted.identity request named
  cases answer with
  | refused => exact h
  | replayed => exact h
  | left _ admitted named found edit => exact h.put (hedit admitted named found edit)
  | @answered setId r x outcome admitted named found edit =>
      apply FabricEngine.WellFormed.recordAttempt
      rcases edit with hsame | ⟨_, summary, edit⟩
      · rw [hsame]
        exact h.put (h.sets setId r found)
      · exact h.put (hedit admitted named found edit)
  | @committed setId r x spec outcome generation membershipGeneration admitted named found edit _ _ next follows _ _ _ _ names =>
      have hold := h.sets setId r found
      have hx := (hedit admitted named found edit).advanced (Generation.valid_of_next next)
        (follows.valid hold.membershipGeneration)
      have hcommitted := hx.committed (e := e.prepared r op) (admitted.identity request named) hold names
      refine h.store hcommitted setId ?_ ((prepared_keeps e r op).trans (sealedCommit_keeps _ _ _ _ _ _)).stamp
      rw [sealedCommit_sets, prepared_sets]
  | @superseded predecessor successor old new x spec outcome generation supersedes admitted distinct known foundOld foundNew
      accepts first edit _ next _ _ _ names =>
      have hnamed : op.subject = some predecessor := by rw [supersedes]; rfl
      have hidentity := admitted.identity request hnamed
      have hold := h.sets predecessor old foundOld
      have hx := (hedit admitted hnamed foundOld edit).advanced (Generation.valid_of_next next) hold.membershipGeneration
      have hnew := (h.sets successor new foundNew).supersedes_set known
      have hput : (e.putSet successor { new with supersedes := some predecessor }).WellFormed := h.put hnew
      have hsealed := hput.store (hx.committed hidentity hold names) predecessor
        (sealedCommit_sets _ _ _ q spec outcome) (sealedCommit_keeps _ _ _ _ _ _).stamp
      refine hsealed.store ?_ successor (supersedeSuccessor_sets _ _ _ _ _) (supersedeSuccessor_keeps _ _ _ _ _).stamp
      apply hnew.append
      · exact (MutationContext.identity_valid hidentity).1
      · intro id hid
        cases hid
      · intro id hid
        cases hid
  | @viewed registration directory path view outcome _ caller =>
      apply FabricEngine.WellFormed.recordAttempt
      have hbase : ({ e with directory := directory } : FabricEngine).WellFormed := ⟨h.epoch, h.authority, h.sets⟩
      have hlinked : ({ e with directory := directory } : FabricEngine).Linked := linked.congr rfl rfl
      exact hbase.applyView hlinked (MutationContext.identity_valid (pathCallerCheck_identity caller)).1
  | @created key options outcome creates admitted named =>
      apply FabricEngine.WellFormed.recordAttempt
      have hidentity : q.context.hasCallerIdentity = true := by
        have hcaller := admitted.caller
        rw [creates] at hcaller
        exact (authorityCheck_ok hcaller).1
      have hbase : FabricEngine.WellFormed
          { e with ids := e.ids.nextSetId.2, keyIndex := e.keyIndex.insert key e.ids.nextSetId.1 } :=
        ⟨h.epoch, h.authority, h.sets⟩
      exact hbase.captured (h.declared hidentity named options)

theorem readAndDecode_wellFormed {path : Bytes} {limits : Limits} {files : StoreFiles} {decoded : DecodedStore}
    {fallback : Bool} (read : readAndDecode path limits files = .ok (decoded, fallback)) :
    decoded.WellFormed limits := by
  have hfile : ∀ {contents : Option Bytes} {name : Bytes},
      (readFile name contents >>= decodeStore limits) = .ok decoded → decoded.WellFormed limits := by
    intro contents name h
    obtain ⟨file, _, hdecode⟩ := Checked.bind_ok.mp h
    exact decodeStore_wellFormed hdecode
  unfold readAndDecode at read
  split at read
  · rename_i found hprimary
    cases read
    exact hfile hprimary
  · split at read
    · rename_i found hbackup
      cases read
      exact hfile hbackup
    · cases read

theorem after_started (h : e.WellFormed) (op : Op) :
    (e.after op).currentEpoch.valid = true ∧ (e.after op).currentAuthorityGeneration.valid = true := by
  by_cases hloads : op.loads = true
  · cases op with
    | loadStore path files =>
        change (e.loadStore path files).1.currentEpoch.valid = true ∧
          (e.loadStore path files).1.currentAuthorityGeneration.valid = true
        rcases loadStore_cases e path files with hsame | ⟨decoded, _, epoch, authority, _, hepoch, hauthority, hloaded⟩
        · rw [hsame]
          exact ⟨h.epoch, h.authority⟩
        · have hstamp := installSets_stamp (e.clearedForLoad decoded.fences epoch authority) decoded.sets
          rw [hloaded, hstamp.epoch, hstamp.authority]
          exact ⟨Generation.valid_of_next hepoch, Generation.valid_of_next hauthority⟩
    | _ => cases hloads
  · have hplain : op.loads = false := by simpa using hloads
    constructor
    · rcases after_epoch e hplain with hsame | hnext
      · rw [hsame]
        exact h.epoch
      · exact Generation.valid_of_next hnext
    · rcases after_authority e hplain with hsame | hnext
      · rw [hsame]
        exact h.authority
      · rw [hnext]
        exact Generation.valid_next_getD h.authority

theorem EngineStep.wellFormed (step : EngineStep e op e') (linked : e.Linked) (h : e.WellFormed) (binds : op.BindsSet)
    (epoch : e'.currentEpoch.valid = true) (authority : e'.currentAuthorityGeneration.valid = true) :
    e'.WellFormed := by
  cases step with
  | unchanged => exact h
  | answered request answer => exact answer.wellFormed request linked h binds
  | @worked setId r x request found edit =>
      apply h.put
      refine edit.wellFormed (h.sets setId r found) h.epoch h.authority (linked.keyed setId r found) ?_ binds
      intro q hq
      rw [request] at hq
      cases hq
  | viewed => exact h.applyView linked h.epoch
  | released | registered | unregistered | bound => exact ⟨epoch, authority, h.sets⟩
  | @fenced key fence generation =>
      have hkeeps := rewriteSets_keeps (fun e r =>
          if r.provenance.publisher = key.publisher then
            some (r.fenced e.currentAuthorityGeneration e.currentEpoch)
          else none)
        { e with
          fences := e.fences.insert key fence
          registrations := e.registrations.erase key
          currentAuthorityGeneration := generation } e.sets.toList
      apply rewriteAll_preserves
      · intro base setId r x hbase hr hx
        split at hx
        · cases hx
          exact hbase.captured ((hbase.sets setId r hr).fenced hbase.authority hbase.epoch)
        · cases hx
      · exact ⟨h.epoch, hkeeps.authority ▸ authority, h.sets⟩
  | @epochAdvanced later generation =>
      have hkeeps := rewriteSets_keeps (fun e r => some (e.epochAdvanced r))
        { e with
          fences := e.fenceRegistrations later
          registrations := ∅
          currentEpoch := later
          currentAuthorityGeneration := generation } e.sets.toList
      refine rewriteSets_preserves ?_ (nodup_keys e.sets) (fun entry hentry => ?_) ?_
      · intro base setId r x hbase hr hx
        cases hx
        exact hbase.captured ((hbase.sets setId r hr).epochAdvanced hbase.epoch hbase.authority)
      · exact Std.ExtTreeMap.mem_toList_iff_getElem?_eq_some.mp hentry
      · exact ⟨hkeeps.epoch ▸ epoch, hkeeps.authority ▸ authority, h.sets⟩
  | @loaded path files decoded fallback later generation loads read nextEpoch nextAuthority =>
      have hstored := (readAndDecode_wellFormed read).sets
      apply installSets_preserves
      · intro base r hr hbase _ _
        have hrecovered := (hstored r hr).wellFormed.recovered hbase.epoch hbase.authority
        exact hbase.store hrecovered r.id (installSet_sets base r) (installSet_stamp base r)
      · refine ⟨Generation.valid_of_next nextEpoch, Generation.valid_of_next nextAuthority, ?_⟩
        intro setId r hr
        cases (Std.ExtTreeMap.getElem?_empty.symm.trans hr : none = some r)

theorem FabricEngine.WellFormed.after (h : e.WellFormed) (linked : e.Linked) (binds : op.BindsSet) :
    (e.after op).WellFormed := by
  obtain ⟨hepoch, hauthority⟩ := after_started h op
  exact (after_engineStep e op).wellFormed linked h binds hepoch hauthority

abbrev BindingRun : FabricConfig → FabricEngine → Prop := Run (FabricEngine.TakenUp fun _ op => op.BindsSet)

variable {config : FabricConfig}

theorem wellFormed_of_run (run : BindingRun config e) : e.WellFormed := by
  replace run := run.takenUp
  induction run with
  | init ids => exact .init config ids
  | step run op binds ih => exact ih.after (linked_of_run run.reachable) binds

theorem snapshot_of_run (run : BindingRun config e) {setId : MultipathSetId} {s : SetSnapshot}
    (h : e.snapshot setId = some s ∨ ∃ snapshotId, e.historicalSnapshot setId snapshotId = some s) :
    ∃ r, SetRecord.WellFormed r ∧ s = makeSnapshot r := by
  rcases h with hcurrent | ⟨snapshotId, hhistorical⟩
  · obtain ⟨r, hr, rfl⟩ := Option.map_eq_some_iff.mp hcurrent
    exact ⟨r, (wellFormed_of_run run).sets setId r hr, rfl⟩
  · unfold historicalSnapshot at hhistorical
    have hmem := List.mem_of_find?_eq_some hhistorical
    cases hlog : e.snapshotHistory[setId]? with
    | none =>
        rw [hlog] at hmem
        cases hmem
    | some log =>
        rw [hlog] at hmem
        obtain ⟨e₀, r₀, run₀, hr₀, rfl⟩ := retained_of_run run setId hlog hmem
        exact ⟨r₀, (wellFormed_of_run run₀).sets setId r₀ hr₀, rfl⟩

end MultipathFabric
