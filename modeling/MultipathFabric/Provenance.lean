import MultipathFabric.Attempts
import MultipathFabric.SnapshotHistory

namespace MultipathFabric

open OrderedMap

structure Stamp where
  publisher : PublisherId
  workerBoot : WorkerBootId
  epoch : CoordinatorEpoch
  attempt : MutationAttemptId
  deriving DecidableEq

def MutationContext.stamp (context : MutationContext) : Stamp :=
  ⟨context.publisher, context.workerBoot, context.epoch, context.attempt⟩

def MembershipProvenance.stamp (p : MembershipProvenance) : Stamp := ⟨p.publisher, p.workerBoot, p.epoch, p.attempt⟩

def Op.InPlace (r : SetRecord) : Op → Prop
  | .setMinimumUsableMembers _ _ minimum => r.minimumUsableMembers = minimum
  | .setConditionalAuthorityPolicy _ _ permitted => r.conditionalAuthorityPermitted = permitted
  | .setAdminEnabled _ _ enabled => r.adminEnabled = enabled
  | _ => False

/-- The accepted operations that change a set in a covered field without a commit of it: a setting that is in place on
a set whose lifecycle is not the derived one; a revalidation that finds nothing to commit while the stamps or a binding
change; the same of a member; a supersession, of the set that takes a new predecessor. -/
inductive Unstamped (e : FabricEngine) : Op → Prop
  | setting {op : Op} {q : Request} {setId : MultipathSetId} {r x : SetRecord} (engages : Engages e op q setId r)
      (inPlace : op.InPlace r) (idles : op.Idles e r x) (shifts : x.lifecycle ≠ r.lifecycle) : Unstamped e op
  | set {context : MutationContext} {setId : MultipathSetId} {views : ViewTable} {q : Request} {r : SetRecord}
      (engages : Engages e (.revalidateSet context setId views) q setId r) (steady : r.Steady views)
      (trails : r.Trails e views) : Unstamped e (.revalidateSet context setId views)
  | member {op : Op} (lags : Lags e op) (member : op.member ≠ none) : Unstamped e op
  | succession {context : MutationContext} {predecessor successor : MultipathSetId} {q : Request}
      {old new : SetRecord} (engages : Engages e (.supersedeSet context predecessor successor) q predecessor old)
      (distinct : predecessor ≠ successor) (found : e.sets[successor]? = some new)
      (accepts : transitionAllowed old.lifecycle .supersede = true) (first : old.supersededBy ≠ some successor)
      (next : old.generation.next ≠ none) (takes : new.supersedes ≠ some predecessor) :
      Unstamped e (.supersedeSet context predecessor successor)

namespace FabricEngine

def Names (e : FabricEngine) (op : Op) (setId : MultipathSetId) : Prop :=
  setId ∈ op.names ∨ ∃ context key options, op = .createSet context key options ∧ e.ids.nextSetId.1 = setId

structure Mutates (e : FabricEngine) (op : Op) (context : MutationContext) (setId : MultipathSetId) : Prop where
  carries : op.context = some context
  accepted : (e.exec op).2.succeeded = true
  fresh : ∀ q, op.request = some q → e.attemptCheck q.context q.operation q.fields ≠ some (e.exec op).2
  names : e.Names op setId
  changes : (e.after op).sets[setId]?.map SetRecord.covered ≠ e.sets[setId]?.map SetRecord.covered

def Marks (e : FabricEngine) (op : Op) (setId : MultipathSetId) : Prop :=
  (∃ context r', e.Mutates op context setId ∧ (e.after op).sets[setId]? = some r' ∧
    r'.provenance.stamp = context.stamp) ∨
  (∀ context, ¬e.Mutates op context setId) ∧
    (e.after op).sets[setId]?.map SetRecord.provenance = e.sets[setId]?.map SetRecord.provenance

variable {e : FabricEngine} {op : Op} {setId : MultipathSetId} {q : Request}

theorem Marks.of_same (h : (e.after op).sets[setId]? = e.sets[setId]?) : Marks e op setId := by
  refine .inr ⟨fun context hmutates => hmutates.changes ?_, ?_⟩
  · rw [h]
  · rw [h]

theorem Marks.of_covered {r x : SetRecord} (found : e.sets[setId]? = some r) (stored : (e.after op).sets[setId]? = some x)
    (covered : x.covered = r.covered) (provenance : x.provenance = r.provenance) : Marks e op setId := by
  refine .inr ⟨fun context hmutates => hmutates.changes ?_, ?_⟩
  · rw [found, stored, Option.map_some, Option.map_some, covered]
  · rw [found, stored, Option.map_some, Option.map_some, provenance]

theorem Marks.of_rejected (rejects : (e.exec op).2.succeeded = false)
    (provenance : (e.after op).sets[setId]?.map SetRecord.provenance = e.sets[setId]?.map SetRecord.provenance) :
    Marks e op setId := by
  refine .inr ⟨fun context hmutates => ?_, provenance⟩
  have haccepted := hmutates.accepted
  rw [rejects] at haccepted
  cases haccepted

theorem Marks.of_unnamed (unnamed : ¬e.Names op setId)
    (provenance : (e.after op).sets[setId]?.map SetRecord.provenance = e.sets[setId]?.map SetRecord.provenance) :
    Marks e op setId :=
  .inr ⟨fun _ hmutates => unnamed hmutates.names, provenance⟩

theorem Marks.of_commit {x : SetRecord} (request : op.request = some q) (accepted : (e.exec op).2.succeeded = true)
    (code : (e.exec op).2.code ≠ .idempotent) (names : e.Names op setId) (stored : (e.after op).sets[setId]? = some x)
    (stamps : x.provenance.stamp = q.context.stamp)
    (changes : e.sets[setId]?.map SetRecord.covered ≠ some x.covered) : Marks e op setId := by
  refine .inl ⟨q.context, x, ⟨request_context request, accepted, ?_, names, ?_⟩, stored, stamps⟩
  · intro q' _ hknown
    exact code (attemptCheck_code hknown accepted)
  · rw [stored]
    exact changes.symm

end FabricEngine

open FabricEngine

namespace Answer

variable {e : FabricEngine} {op : Op} {q : Request} {setId : MultipathSetId} {r x : SetRecord}

theorem accepted_covered (request : op.request = some q) (stamped : ¬Unstamped e op) (admitted : Admitted e op q)
    (named : op.subject = some setId) (found : e.sets[setId]? = some r) (expects : op.Expects q.context r)
    (stored : (e.after op).sets[setId]? = some x) (accepted : (e.exec op).2.succeeded = true)
    (code : op.rechecks = false → (e.exec op).2.code = .idempotent) (idles : op.Idles e r x) :
    x.covered = r.covered := by
  have hengages : Engages e op q setId r := ⟨request, named, admitted, found, expects⟩
  have hsame : e.after op = e → x.covered = r.covered := by
    intro hkept
    rw [hkept, found] at stored
    cases stored
    rfl
  have hresting : ∀ r' x', e.sets[setId]? = some r' → (e.after op).sets[setId]? = some x' → r' = r ∧ x' = x := by
    intro r' x' hr' hx'
    exact ⟨Option.some.inj (hr'.symm.trans found), Option.some.inj (hx'.symm.trans stored)⟩
  by_cases hlags : Lags e op
  · cases hlags with
    | minimum =>
        cases named
        rcases minimum_rests (.inr (code rfl)) with hkept | ⟨r', x', hadmits, hmoved, _, hplace, hstored⟩
        · exact hsame hkept
        · obtain ⟨rfl, rfl⟩ := hresting r' x' (admission_found hadmits.2.1) hstored
          apply SetRecord.transition_covered rfl hmoved
          by_contra hshifts
          exact stamped (.setting hengages (hplace accepted) hmoved hshifts)
    | policy =>
        cases named
        rcases policy_rests (.inr (code rfl)) with hkept | ⟨r', x', hadmits, hmoved, _, hplace, hstored⟩
        · exact hsame hkept
        · obtain ⟨rfl, rfl⟩ := hresting r' x' (admission_found hadmits.2.1) hstored
          apply SetRecord.transition_covered rfl hmoved
          by_contra hshifts
          exact stamped (.setting hengages (hplace accepted) hmoved hshifts)
    | @admin context other enabled =>
        cases named
        rcases admin_rests (.inr (code rfl)) with hkept | ⟨r', x', hadmits, hmoved, _, hplace, hstored⟩
        · exact hsame hkept
        · obtain ⟨rfl, rfl⟩ := hresting r' x' (admission_found hadmits.2.1) hstored
          apply SetRecord.transition_covered (admin_plain enabled) hmoved
          by_contra hshifts
          exact stamped (.setting hengages (hplace accepted) hmoved hshifts)
    | set =>
        cases named
        obtain ⟨rfl, hlifecycle, hcurrentness⟩ := idles
        have hsteady : r.Steady _ := SetRecord.steady_iff.mpr ⟨hlifecycle, hcurrentness⟩
        exact SetRecord.revalidatedSet_covered hsteady fun htrails => stamped (.set hengages hsteady htrails)
    | member engages finds steady shifts =>
        exact absurd (.member (.member engages finds steady shifts) (Option.some_ne_none _)) stamped
    | completion engages finds pending steady shifts =>
        exact absurd (.member (.completion engages finds pending steady shifts) (Option.some_ne_none _)) stamped
  · exact answered_covered request hlags admitted named found expects stored code idles

end Answer

namespace FabricEngine

variable {e : FabricEngine} {op : Op} {setId other : MultipathSetId} {q : Request} {r x : SetRecord}
  {result : FabricEngine × FabricOutcome}

theorem committed_provenance (e : FabricEngine) (x : SetRecord) (context : MutationContext) (spec : CommitSpec) :
    (x.committed e context spec).provenance.stamp = context.stamp ∧
      (x.committed e context spec).generation = x.generation := by
  simp only [SetRecord.committed, appendHistory, SetRecord.pruneArchive]
  split <;> exact ⟨rfl, rfl⟩

theorem applyView_provenance (e : FabricEngine) (path : PathId) (view : Option PathAuthorityView)
    (context : Option MutationContext) (cause : MembershipCause) (other : MultipathSetId) :
    (e.applyView path view context cause).1.sets[other]?.map SetRecord.provenance =
      e.sets[other]?.map SetRecord.provenance := by
  apply applyView_preserves (p := fun base : FabricEngine =>
    base.sets[other]?.map SetRecord.provenance = e.sets[other]?.map SetRecord.provenance)
  · intro base setId r x hbase found observes
    rw [putSet, getElem?_insert_eq]
    split
    · rename_i h
      rw [← hbase, ← h, found, Option.map_some, Option.map_some]
      cases observes with
      | observed => rfl
      | invalidated =>
          unfold dependencyInvalidated
          dsimp only
          split <;> rfl
    · exact hbase
  · intro base r hbase
    rw [captureSnapshot_sets]
    exact hbase
  · rfl

theorem rewriteAll_provenance {base : FabricEngine} {f : FabricEngine → SetRecord → Option SetRecord}
    (same : ∀ e r x, f e r = some x → x.provenance = r.provenance) (sets : base.sets = e.sets) (other : MultipathSetId) :
    (rewriteSets f base e.sets.toList).sets[other]?.map SetRecord.provenance =
      e.sets[other]?.map SetRecord.provenance := by
  rw [← sets]
  apply rewriteAll_preserves (p := fun e' : FabricEngine =>
    e'.sets[other]?.map SetRecord.provenance = base.sets[other]?.map SetRecord.provenance)
  · intro e' setId r x he' found hx
    rw [putSet, captureSnapshot_sets, getElem?_insert_eq]
    split
    · rename_i h
      rw [← he', ← h, found, Option.map_some, Option.map_some, same e' r x hx]
    · exact he'
  · rfl

theorem covered_ne_of_next {generation : MultipathSetGeneration} (found : e.sets[setId]? = some r)
    (next : r.generation.next = some generation) (advanced : x.generation = generation) :
    e.sets[setId]?.map SetRecord.covered ≠ some x.covered := by
  rw [found]
  intro hsame
  have hgeneration : r.generation = x.generation := congrArg CoveredState.generation (Option.some.inj hsame)
  exact Generation.ne_of_next next (advanced.symm.trans hgeneration.symm)

theorem answer_marks (answer : Answer e op q result) (ends : e.exec op = result) (request : op.request = some q)
    (linked : e.Linked) (stamped : ¬Unstamped e op) (other : MultipathSetId) : Marks e op other := by
  have hafter : e.after op = result.1 := congrArg Prod.fst ends
  have houtcome : (e.exec op).2 = result.2 := congrArg Prod.snd ends
  cases answer with
  | refused | replayed =>
      refine .of_same ?_
      rw [hafter]
  | @left setId r x _ _ _ _ named found edit rejects =>
      dsimp only at hafter houtcome
      rw [← houtcome] at rejects
      refine .of_rejected rejects ?_
      rw [hafter, putSet, getElem?_insert_eq]
      split
      · rename_i h
        rw [← h, found, Option.map_some, Option.map_some, edit.sameHead.provenance]
      · rfl
  | @answered setId r x outcome admitted named found edit expects accepted _ code idles =>
      by_cases h : setId = other
      · subst h
        have hstored : (e.after op).sets[setId]? = some x := by
          rw [hafter]
          exact Std.ExtTreeMap.getElem?_insert_self
        have hcode : op.rechecks = false → (e.exec op).2.code = .idempotent := by
          rw [houtcome]
          exact code
        have haccepted : (e.exec op).2.succeeded = true := by
          rw [houtcome]
          exact accepted
        refine .of_covered found hstored ?_ ?_
        · exact Answer.accepted_covered request stamped admitted named found expects hstored haccepted hcode idles
        · rcases edit with rfl | ⟨_, _, edit⟩
          · rfl
          · exact edit.sameHead.provenance
      · refine .of_same ?_
        rw [hafter]
        change (e.putSet setId x).sets[other]? = _
        rw [putSet, getElem?_insert_eq, if_neg h]
  | @committed setId r x spec outcome generation membershipGeneration _ named found edit _ _ next _ accepted _ code =>
      dsimp only at hafter houtcome
      rw [← houtcome] at accepted code
      obtain ⟨ids, index, total, hframe⟩ := prepared_frame e r op
      have hid : (x.advanced generation membershipGeneration).id = setId :=
        edit.sameHead.id.trans (linked.keyed _ r found)
      have hsets := (@sealedCommit_shelves (e.prepared r op) setId _ q spec outcome hid other).1
      rw [← hafter] at hsets
      by_cases h : setId = other
      · subst h
        rw [if_pos rfl] at hsets
        obtain ⟨hstamp, hgeneration⟩ := committed_provenance (e.prepared r op) (x.advanced generation membershipGeneration)
          q.context spec
        refine .of_commit request accepted code (.inl (Op.subject_named named)) hsets hstamp ?_
        exact covered_ne_of_next found next hgeneration
      · refine .of_same ?_
        rw [hsets, if_neg h, hframe]
  | @superseded predecessor successor old new x spec outcome generation supersedes admitted distinct _ foundOld foundNew
      accepts first edit expects next accepted _ code =>
      dsimp only at hafter houtcome
      rw [← houtcome] at accepted code
      have hid : (x.advanced generation old.membershipGeneration).id = predecessor :=
        edit.sameHead.id.trans (linked.keyed _ old foundOld)
      have hnamed : op.subject = some predecessor := by
        rw [supersedes]
        rfl
      have hsets := (@sealedCommit_shelves (e.putSet successor { new with supersedes := some predecessor })
        predecessor _ q spec outcome hid other).1
      have hstored := congrArg (fun base : FabricEngine => base.sets[other]?) hafter
      rw [supersedeSuccessor_sets, getElem?_insert_eq, hsets] at hstored
      by_cases hsuccessor : successor = other
      · subst hsuccessor
        rw [if_pos rfl] at hstored
        have htakes : new.supersedes = some predecessor := by
          by_contra htakes
          subst supersedes
          refine stamped (.succession ⟨request, rfl, admitted, foundOld, expects⟩ distinct foundNew accepts first ?_ htakes)
          rw [next]
          exact Option.some_ne_none _
        refine .of_covered foundNew hstored ?_ rfl
        unfold SetRecord.covered
        rw [htakes]
        rfl
      · rw [if_neg hsuccessor] at hstored
        by_cases hpredecessor : predecessor = other
        · subst hpredecessor
          rw [if_pos rfl] at hstored
          obtain ⟨hstamp, hgeneration⟩ := committed_provenance (e.putSet successor { new with supersedes := some predecessor })
            (x.advanced generation old.membershipGeneration) q.context spec
          exact .of_commit request accepted code (.inl (Op.subject_named hnamed)) hstored hstamp
            (covered_ne_of_next foundOld next hgeneration)
        · refine .of_same ?_
          rw [hstored, if_neg hpredecessor, putSet, getElem?_insert_eq, if_neg hsuccessor]
  | @viewed registration directory path view outcome admitted _ applied =>
      dsimp only at hafter
      refine .of_unnamed ?_ ?_
      · rintro (hnamed | ⟨context, key, options, rfl, _⟩)
        · cases applied <;> cases hnamed
        · cases applied
      · rw [hafter]
        exact applyView_provenance { e with directory := directory } path (some view) (some q.context) .pathInvalidated other
  | @created key options outcome creates _ _ _ _ _ accepted _ code =>
      dsimp only at hafter houtcome
      rw [← houtcome] at accepted code
      have hsets : (e.after op).sets[other]? = if e.ids.nextSetId.1 = other then some (e.createdRecord q.context key options)
          else e.sets[other]? := by
        rw [hafter]
        change (((FabricEngine.captureSnapshot _ _).sets.insert e.ids.nextSetId.1 _)[other]?) = _
        rw [captureSnapshot_sets, getElem?_insert_eq]
      by_cases h : e.ids.nextSetId.1 = other
      · subst h
        rw [if_pos rfl] at hsets
        cases hfound : e.sets[e.ids.nextSetId.1]? with
        | none =>
            refine .of_commit request accepted code (.inr ⟨_, _, _, creates, rfl⟩) hsets ?_ ?_
            · unfold createdRecord
              rw [hfound]
              rfl
            · rw [hfound]
              exact (Option.some_ne_none _).symm
        | some r =>
            refine .of_covered hfound hsets ?_ ?_
            all_goals
              unfold createdRecord
              rw [hfound]
              rfl
      · refine .of_same ?_
        rw [hsets, if_neg h]

theorem unrecorded_marks {context : MutationContext} (carries : op.context = some context) (request : op.request = none)
    (other : MultipathSetId) : Marks e op other := by
  cases op with
  | beginMemberRevalidation context' setId memberId attempt =>
      have hafter : e.after (.beginMemberRevalidation context' setId memberId attempt) =
          (e.beginMemberRevalidation context' setId memberId attempt).1 := rfl
      rcases beginMemberRevalidation_cases e context' setId memberId attempt with
        ⟨h, _⟩ | ⟨_, r, x, found, edit, h, _⟩
      · refine .of_same ?_
        rw [hafter, h]
      · by_cases hother : setId = other
        · subst hother
          have hstored : (e.after (.beginMemberRevalidation context' setId memberId attempt)).sets[setId]? = some x := by
            rw [hafter, h]
            exact Std.ExtTreeMap.getElem?_insert_self
          refine .of_covered found hstored ?_ edit.sameHead.provenance
          generalize ([] : Bytes) = summary at edit
          cases edit with
          | begun _ _ _ finds => exact SetRecord.withMember_covered finds.2 rfl
          | added _ publication => cases publication
          | observed applied => cases applied
          | invalidated applied => cases applied
        · refine .of_same ?_
          rw [hafter, h, putSet, getElem?_insert_eq, if_neg hother]
  | refreshPath context' path view =>
      cases view with
      | none =>
          refine .of_same ?_
          change ((e.refreshPathLocked context' path none).1).sets[other]? = _
          rw [(refreshPathLocked_unknown e context' path).1]
      | some view => cases request
  | _ =>
      first
        | (cases carries; done)
        | cases request

theorem silent_provenance (silent : op.context = none) (plain : op.loads = false) (other : MultipathSetId) :
    (e.after op).sets[other]?.map SetRecord.provenance = e.sets[other]?.map SetRecord.provenance := by
  have hstep := after_engineStep e op
  generalize e.after op = e' at hstep
  cases hstep with
  | unchanged | released | registered | unregistered | bound => rfl
  | answered request =>
      rw [request_context request] at silent
      cases silent
  | @worked setId r x request found edit =>
      rw [putSet, getElem?_insert_eq]
      split
      · rename_i h
        rw [← h, found, Option.map_some, Option.map_some, edit.sameHead.provenance]
      · rfl
  | viewed => exact applyView_provenance _ _ _ _ _ other
  | @fenced key fence authority =>
      refine rewriteAll_provenance (fun _ r x hx => ?_) rfl other
      split at hx
      · cases hx
        rfl
      · cases hx
  | epochAdvanced =>
      refine rewriteAll_provenance (fun _ r x hx => ?_) rfl other
      cases hx
      rfl
  | loaded loads =>
      rw [loads] at plain
      cases plain

theorem after_marks (linked : e.Linked) (plain : op.loads = false) (stamped : ¬Unstamped e op) (other : MultipathSetId) :
    Marks e op other := by
  cases hcontext : op.context with
  | none =>
      refine .inr ⟨fun context hmutates => ?_, silent_provenance hcontext plain other⟩
      have hcarries := hmutates.carries
      rw [hcontext] at hcarries
      cases hcarries
  | some context =>
      cases hrequest : op.request with
      | none => exact unrecorded_marks hcontext hrequest other
      | some q => exact answer_marks (exec_answer e hrequest) rfl hrequest linked stamped other

variable {allowed : FabricEngine → Op → Prop} {config : FabricConfig} {stamp : Stamp}

/-- The last mutation of the set in a run that has led to the state is one with the stamp. -/
def LastMutated (allowed : FabricEngine → Op → Prop) (config : FabricConfig) (e : FabricEngine)
    (setId : MultipathSetId) (stamp : Stamp) : Prop :=
  ∃ e₀ op context, Run allowed config e₀ ∧ allowed e₀ op ∧ e₀.Mutates op context setId ∧ context.stamp = stamp ∧
    Continues (fun x op => allowed x op ∧ ∀ context, ¬x.Mutates op context setId) (e₀.after op) e

def Stamping (e : FabricEngine) (op : Op) : Prop := op.loads = false ∧ ¬Unstamped e op

theorem Stamping.marks (run : Run Stamping config e) (h : e.Stamping op) (setId : MultipathSetId) : Marks e op setId :=
  after_marks (linked_of_run run.reachable) h.1 h.2 setId

theorem Mutates.stamps {context : MutationContext} (h : e.Mutates op context setId) (marks : Marks e op setId) :
    (e.after op).sets[setId]?.map (fun r => r.provenance.stamp) = some context.stamp := by
  rcases marks with ⟨context', r', hmutates, hr', hstamp⟩ | ⟨hidle, _⟩
  · have hcontext : context' = context := Option.some.inj (hmutates.carries.symm.trans h.carries)
    rw [hr', Option.map_some, hstamp, hcontext]
  · exact absurd h (hidle context)

theorem LastMutated.names_stamp (h : e.LastMutated Stamping config setId stamp) :
    e.sets[setId]?.map (fun r => r.provenance.stamp) = some stamp := by
  obtain ⟨e₀, op, context, run, allows, hmutates, rfl, continued⟩ := h
  have hlast : Run Stamping config e ∧ e.sets[setId]?.map (fun r => r.provenance.stamp) = some context.stamp := by
    refine continued.keeps (P := fun x => Run Stamping config x ∧
      x.sets[setId]?.map (fun r => r.provenance.stamp) = some context.stamp) ⟨.step run op allows, ?_⟩ ?_
    · exact hmutates.stamps (allows.marks run setId)
    · rintro x op' _ ⟨hrun, hstamp⟩ ⟨hallows, hidle⟩
      refine ⟨.step hrun op' hallows, ?_⟩
      rcases hallows.marks hrun setId with ⟨context', _, hmutates', _⟩ | ⟨_, hsame⟩
      · exact absurd hmutates' (hidle context')
      · have hmapped := congrArg (Option.map MembershipProvenance.stamp) hsame
        rw [Option.map_map, Option.map_map] at hmapped
        exact hmapped.trans hstamp
  exact hlast.2

theorem lastMutated_of_run (run : Run Stamping config e) (found : e.sets[setId]? = some r) :
    e.LastMutated Stamping config setId r.provenance.stamp := by
  induction run generalizing r with
  | init ids => cases (Std.ExtTreeMap.getElem?_empty.symm.trans found : none = some r)
  | @step e run op allows ih =>
      rcases Stamping.marks run allows setId with ⟨context, r', hmutates, hr', hstamp⟩ | ⟨hidle, hsame⟩
      · rw [hr', Option.some.injEq] at found
        subst found
        exact ⟨e, op, context, run, allows, hmutates, hstamp.symm, .init rfl⟩
      · rw [found, Option.map_some, eq_comm, Option.map_eq_some_iff] at hsame
        obtain ⟨r₀, hr₀, hprovenance⟩ := hsame
        obtain ⟨e₀, op₀, context, hrun, hallows, hmutates, hstamp, hcontinued⟩ := ih hr₀
        rw [hprovenance] at hstamp
        exact ⟨e₀, op₀, context, hrun, hallows, hmutates, hstamp, .step hcontinued ⟨op, ⟨allows, hidle⟩, rfl⟩⟩

theorem lastMutated_iff (run : Run Stamping config e) (found : e.sets[setId]? = some r) :
    e.LastMutated Stamping config setId stamp ↔ stamp = r.provenance.stamp := by
  constructor
  · intro h
    have hstamp := h.names_stamp
    rw [found, Option.map_some, Option.some.injEq] at hstamp
    exact hstamp.symm
  · rintro rfl
    exact lastMutated_of_run run found

theorem fence_revokes {publisher : PublisherId} {workerBoot : WorkerBootId} {cause : Bytes}
    (fences : (e.after (.fenceWorker publisher workerBoot cause)).fences ≠ e.fences) (found : e.sets[setId]? = some r) :
    ∃ r', (e.after (.fenceWorker publisher workerBoot cause)).sets[setId]? = some r' ∧
      (r.provenance.publisher = publisher → r'.currentness = .revalidationRequired) ∧
      (r.provenance.publisher ≠ publisher → r' = r) := by
  change (e.fenceWorker publisher workerBoot cause).1.fences ≠ e.fences at fences
  change ∃ r', (e.fenceWorker publisher workerBoot cause).1.sets[setId]? = some r' ∧ _
  rcases fenceWorker_cases e publisher workerBoot cause with h | ⟨authority, _, _, _, _, h⟩
  · rw [h] at fences
    exact absurd rfl fences
  · rw [h, fenceSets_step]
    change ∃ r', e.sets[setId]?.map _ = some r' ∧ _
    rw [found, Option.map_some]
    refine ⟨_, rfl, fun howner => ?_, fun howner => ?_⟩
    · rw [if_pos howner]
      rfl
    · rw [if_neg howner]

/-- In a run without a load whose steps stamp what they mutate, the provenance of every set names its last mutator, so
that a fence revokes the currentness of the sets whose last mutator is of the publisher. -/
theorem provenance_names_last_mutator (run : Run Stamping config e) :
    (∀ (setId : MultipathSetId) (r : SetRecord), e.sets[setId]? = some r →
      ∀ stamp, e.LastMutated Stamping config setId stamp ↔ stamp = r.provenance.stamp) ∧
    ∀ (publisher : PublisherId) (workerBoot : WorkerBootId) (cause : Bytes),
      (e.after (.fenceWorker publisher workerBoot cause)).fences ≠ e.fences →
        ∀ (setId : MultipathSetId) (r : SetRecord), e.sets[setId]? = some r →
          ∃ r', (e.after (.fenceWorker publisher workerBoot cause)).sets[setId]? = some r' ∧
            ((∃ stamp, e.LastMutated Stamping config setId stamp ∧ stamp.publisher = publisher) →
              r'.currentness = .revalidationRequired) ∧
            ((∀ stamp, e.LastMutated Stamping config setId stamp → stamp.publisher ≠ publisher) → r' = r) := by
  refine ⟨fun setId r found stamp => lastMutated_iff run found, ?_⟩
  intro publisher workerBoot cause fences setId r found
  obtain ⟨r', hr', hrevoked, hkept⟩ := fence_revokes fences found
  refine ⟨r', hr', ?_, fun hothers => ?_⟩
  · rintro ⟨stamp, hlast, hpublisher⟩
    rw [lastMutated_iff run found] at hlast
    subst hlast
    exact hrevoked hpublisher
  · exact hkept (hothers _ (lastMutated_of_run run found))

theorem provenance_names_last_mutator_sample : ∃ r, (sampleRun sampleSteps).sets[sampleSet]? = some r ∧
    (sampleRun sampleSteps).LastMutated Stamping sampleConfig sampleSet r.provenance.stamp := by
  have hrun : Run Stamping sampleConfig (sampleRun sampleSteps) := by
    refine Run.afterAll (fun op hop e => ?_) (.init sampleIds)
    simp only [sampleSteps, List.mem_cons, List.not_mem_nil, or_false] at hop
    rcases hop with rfl | rfl | rfl | rfl
    all_goals
      refine ⟨rfl, fun hunstamped => ?_⟩
      cases hunstamped with
      | setting _ inPlace => cases inPlace
      | member lags => cases lags
  obtain ⟨r, hr⟩ : ∃ r, (sampleRun sampleSteps).sets[sampleSet]? = some r :=
    Option.isSome_iff_exists.mp (by decide +kernel)
  exact ⟨r, hr, ((provenance_names_last_mutator hrun).1 sampleSet r hr _).mpr rfl⟩

def secondContext (attempt : String) : MutationContext :=
  { sampleContext attempt with publisher := sampleId "pub2", session := sampleId "sess2" }

def secondSteps : List Op :=
  sampleSteps ++
    [.registerPublisher (sampleId "pub2") (sampleId "boot") sampleScope (sampleId "sess2"),
    .createSet (secondContext "b1") (sampleKey "old") ⟨1, true, false⟩]

def secondSuccession : Op := .supersedeSet (secondContext "b2") (sampleId "mpf-set-7f-3") sampleSet

/-- The supersession is the last mutation of the successor, which keeps the provenance of the one before. -/
theorem provenance_names_last_mutator_fails : ¬∀ (config : FabricConfig) (e : FabricEngine) (setId : MultipathSetId)
    (r : SetRecord) (stamp : Stamp), Run (fun _ op => op.loads = false) config e → e.sets[setId]? = some r →
      e.LastMutated (fun _ op => op.loads = false) config setId stamp → stamp = r.provenance.stamp := by
  intro h
  have hrun : Run (fun _ op => op.loads = false) sampleConfig (sampleRun secondSteps) := by
    refine Run.afterAll (fun op hop e => ?_) (.init sampleIds)
    simp only [secondSteps, sampleSteps, List.mem_append, List.mem_cons, List.not_mem_nil, or_false] at hop
    rcases hop with (rfl | rfl | rfl | rfl) | rfl | rfl
    all_goals rfl
  have haccepted : ((sampleRun secondSteps).exec secondSuccession).2.succeeded = true ∧
      ((sampleRun secondSteps).exec secondSuccession).2.code ≠ .idempotent := by
    decide +kernel
  have hmutates : (sampleRun secondSteps).Mutates secondSuccession (secondContext "b2") sampleSet := by
    refine ⟨rfl, haccepted.1, ?_, .inl (List.mem_cons_of_mem _ List.mem_cons_self), by decide +kernel⟩
    intro q _ hknown
    exact haccepted.2 (attemptCheck_code hknown haccepted.1)
  have hstale : ((sampleRun secondSteps).after secondSuccession).sets[sampleSet]?.map
      (fun r => decide (r.provenance.stamp = (secondContext "b2").stamp)) = some false := by
    decide +kernel
  obtain ⟨r, hr, hstamp⟩ := Option.map_eq_some_iff.mp hstale
  refine of_decide_eq_false hstamp (h sampleConfig _ sampleSet r _ (.step hrun secondSuccession rfl) hr ?_).symm
  exact ⟨_, secondSuccession, _, hrun, rfl, hmutates, rfl, .init rfl⟩

end FabricEngine

end MultipathFabric
