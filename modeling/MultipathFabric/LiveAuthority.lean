import MultipathFabric.AuthoritySpec

namespace MultipathFabric

open OrderedMap Checked

def MutationContext.worker (context : MutationContext) : WorkerKey := ⟨context.publisher, context.workerBoot⟩

namespace FabricEngine

structure GovernedBy (e : FabricEngine) (context : MutationContext) (registration : PublisherRegistration) : Prop where
  unfenced : e.fences[context.worker]? = none
  registered : e.registrations[context.worker]? = some registration
  current : registration.epoch = e.currentEpoch
  epoch : context.epoch = e.currentEpoch

def CoversRecord (scope : AuthorityScope) (r : SetRecord) : Prop :=
  scope.covers r.key.fabric r.key.nameSpace r.id = true

/-- The scope covers the sets that an operation names or changes on the way to `after`, and the namespace in which it
creates one. -/
structure Covers (e : FabricEngine) (op : Op) (scope : AuthorityScope) (after : FabricEngine) : Prop where
  named : ∀ setId ∈ op.names, ∃ r, e.sets[setId]? = some r ∧ CoversRecord scope r
  changed : ∀ (setId : MultipathSetId) (r : SetRecord), e.sets[setId]? = some r → after.sets[setId]? ≠ some r → CoversRecord scope r
  created : ∀ context key options, op = .createSet context key options →
    scope.coversNamespace key.fabric key.nameSpace = true

variable {e : FabricEngine} {op : Op} {q : Request} {context : MutationContext}

theorem GovernedBy.unique {registration other : PublisherRegistration} (h : e.GovernedBy context registration)
    (h' : e.GovernedBy context other) : other = registration :=
  Option.some.inj (h'.registered.symm.trans h.registered)

theorem authorityCheck_governed {key : Option SetKey} {target : Option MultipathSetId} {u : Unit}
    (h : e.authorityCheck context key target = .ok u) :
    ∃ registration, e.GovernedBy context registration ∧
      (∀ k, key = some k → registration.scope.coversNamespace k.fabric k.nameSpace = true) ∧
      ∀ setId, key = none → target = some setId →
        ∃ r, e.sets[setId]? = some r ∧ CoversRecord registration.scope r := by
  unfold authorityCheck at h
  simp only [Checked.bind_ok, Checked.require_ok, Checked.unlessAnswered_ok, Checked.present_ok, beq_iff_eq,
    Option.map_eq_none_iff] at h
  obtain ⟨_, _, _, hepoch, _, hunfenced, registration, hregistered, _, hcurrent, h⟩ := h
  refine ⟨registration, ⟨hunfenced, hregistered, hcurrent, hepoch⟩, fun k hk => ?_, fun setId hk ht => ?_⟩
  · subst hk
    exact Checked.require_ok.mp h
  · subst hk ht
    simp only [Checked.bind_ok, Checked.present_ok] at h
    obtain ⟨target, htarget, h⟩ := h
    cases htarget
    split at h
    · simp only [Checked.bind_ok] at h
      obtain ⟨_, _, h⟩ := h
      cases h
    · rename_i r hfound
      exact ⟨r, hfound, Checked.require_ok.mp h⟩

theorem pathCallerCheck_governed {registration : PublisherRegistration}
    (h : e.pathCallerCheck context = .ok registration) : e.GovernedBy context registration := by
  unfold pathCallerCheck at h
  simp only [Checked.bind_ok, Checked.require_ok, Checked.present_ok, beq_iff_eq, Option.isNone_iff_eq_none,
    Option.filter_eq_some_iff] at h
  obtain ⟨_, _, _, hepoch, _, hunfenced, hregistered, hcurrent⟩ := h
  exact ⟨hunfenced, hregistered, hcurrent, hepoch⟩

theorem uncoveredDependent_covers {scope : AuthorityScope} {path : PathId} {dependents : Std.ExtTreeSet MultipathSetId}
    {setId : MultipathSetId} {r : SetRecord} (h : e.uncoveredDependent scope path = none)
    (hdependents : e.pathDependents[path]? = some dependents) (hmem : setId ∈ dependents.toList)
    (hfound : e.sets[setId]? = some r) : CoversRecord scope r := by
  unfold uncoveredDependent at h
  rw [hdependents] at h
  have hset := List.findSome?_eq_none_iff.mp h setId hmem
  rw [hfound] at hset
  dsimp only at hset
  split at hset
  · rename_i hcovers
    exact hcovers
  · cases hset

theorem applyView_untouched {path : PathId} {view : Option PathAuthorityView} {context : Option MutationContext}
    (applied : op.Applies path view context) {setId : MultipathSetId}
    (h : ∀ dependents, e.pathDependents[path]? = some dependents → setId ∉ dependents.toList) :
    (e.applyView path view context .pathInvalidated).1.sets[setId]? = e.sets[setId]? := by
  unfold applyView
  split
  · rfl
  · rename_i dependents hdependents
    have hdistinct : dependents.toList.Nodup := by
      refine Std.ExtTreeSet.distinct_toList.imp fun {a b} h heq => h ?_
      rw [heq, Std.compare_self]
    exact (applyViewToSets_step applied dependents.toList hdistinct rfl rfl setId).2 (h dependents hdependents)

end FabricEngine

open FabricEngine

variable {e : FabricEngine} {op : Op} {q : Request} {context : MutationContext}

theorem Answer.authorizes {result : FabricEngine × FabricOutcome} (h : Answer e op q result)
    (accepted : result.2.succeeded = true) : e.Authorizes op := by
  cases h with
  | refused rejects =>
      rw [rejects] at accepted
      cases accepted
  | left _ _ _ _ _ rejects =>
      rw [rejects] at accepted
      cases accepted
  | replayed known => exact known.1
  | answered admitted | committed admitted | superseded _ admitted | viewed admitted | created _ admitted =>
      exact admitted.caller

theorem RecordEdit.names {setId : MultipathSetId} {r x : SetRecord} {summary : Bytes}
    (edit : RecordEdit e setId r op x summary) (hplain : op.views = false)
    (hcreates : ∀ context key options, op ≠ .createSet context key options)
    (habandons : ∀ ticket, op ≠ .abandonMemberRevalidation ticket) : setId ∈ op.names := by
  cases edit with
  | collided context key options => exact absurd rfl (hcreates context key options)
  | abandoned ticket => exact absurd rfl (habandons ticket)
  | observed applied => cases applied <;> cases hplain
  | invalidated applied => cases applied <;> cases hplain
  | added _ publication => cases publication <;> exact List.mem_cons_self
  | released _ _ _ names => exact names ▸ List.mem_cons_self
  | completed _ _ _ names => exact names ▸ List.mem_cons_self
  | supersedes | supersedesRecorded => exact List.mem_cons_of_mem _ List.mem_cons_self
  | _ => exact List.mem_cons_self

namespace FabricEngine

theorem changed_named {setId : MultipathSetId} {r : SetRecord} (hcontext : op.context = some context)
    (hplain : op.views = false) (hcreates : ∀ context key options, op ≠ .createSet context key options)
    (hfound : e.sets[setId]? = some r) (hchanged : (e.after op).sets[setId]? ≠ some r) : setId ∈ op.names := by
  have hstep := after_sets e op setId
  rw [hfound] at hstep
  generalize (e.after op).sets[setId]? = after at hstep hchanged
  cases hstep with
  | kept => exact absurd rfl hchanged
  | changed edit =>
      apply edit.names hplain hcreates
      rintro ticket rfl
      cases hcontext
  | fenced fences =>
      subst fences
      cases hcontext
  | epochAdvanced advances =>
      subst advances
      cases hcontext
  | cleared loads =>
      subst loads
      cases hcontext
  | recovered loads =>
      subst loads
      cases hcontext

theorem named_governed {setId : MultipathSetId} (hauthorized : ∀ other ∈ op.names,
    e.authorityCheck context none (some other) = .ok ()) (hnamed : setId ∈ op.names) :
    ∃ registration, e.GovernedBy context registration ∧ ∀ other ∈ op.names,
      ∃ r, e.sets[other]? = some r ∧ CoversRecord registration.scope r := by
  obtain ⟨registration, hgoverned, _, _⟩ := authorityCheck_governed (hauthorized setId hnamed)
  refine ⟨registration, hgoverned, fun other hother => ?_⟩
  obtain ⟨registration', hgoverned', _, hcovers⟩ := authorityCheck_governed (hauthorized other hother)
  rw [← hgoverned.unique hgoverned']
  exact hcovers other rfl rfl

theorem named_covers {setId : MultipathSetId} (hcontext : op.context = some context)
    (hauthorized : ∀ other ∈ op.names, e.authorityCheck context none (some other) = .ok ())
    (hnamed : setId ∈ op.names) :
    ∃ registration, e.GovernedBy context registration ∧ e.Covers op registration.scope (e.after op) := by
  obtain ⟨registration, hgoverned, hcovers⟩ := named_governed hauthorized hnamed
  have hcreates : ∀ context key options, op ≠ .createSet context key options := by
    rintro context key options rfl
    cases hnamed
  refine ⟨registration, hgoverned, hcovers, fun other r hfound hchanged => ?_, fun context key options hop => ?_⟩
  · obtain ⟨r', hfound', hr'⟩ := hcovers other (changed_named hcontext (named_plain hnamed) hcreates hfound hchanged)
    rw [hfound] at hfound'
    cases hfound'
    exact hr'
  · exact absurd hop (hcreates context key options)

theorem viewed_caller (hviews : op.views = true) (hrequest : op.request = some q) (h : e.Authorizes op) :
    ∃ registration, e.GovernedBy q.context registration := by
  cases op with
  | declarePathAuthority | applyPathAuthority =>
      cases hrequest
      obtain ⟨registration, hcaller⟩ := h
      exact ⟨registration, pathCallerCheck_governed hcaller⟩
  | refreshPath context path view =>
      cases view with
      | none => cases hrequest
      | some view =>
          cases hrequest
          obtain ⟨registration, hcaller⟩ := h
          exact ⟨registration, pathCallerCheck_governed hcaller⟩
  | reconcilePath => cases hrequest
  | _ => cases hviews

theorem viewed_covers (hrequest : op.request = some q) (hviews : op.views = true)
    (haccepted : (e.exec op).2.succeeded = true) :
    ∃ registration, e.GovernedBy q.context registration ∧ e.Covers op registration.scope (e.after op) := by
  have hnames : ∀ setId : MultipathSetId, setId ∉ op.names := by
    intro setId hnamed
    rw [named_plain hnamed] at hviews
    cases hviews
  have hcreates : ∀ context key options, op ≠ .createSet context key options := by
    rintro context key options rfl
    cases hviews
  have hcovers : ∀ scope : AuthorityScope, (∀ (setId : MultipathSetId) (r : SetRecord), e.sets[setId]? = some r →
      (e.exec op).1.sets[setId]? ≠ some r → CoversRecord scope r) → e.Covers op scope (e.after op) :=
    fun scope hchanged => ⟨fun setId hnamed => absurd hnamed (hnames setId), hchanged,
      fun context key options hop => absurd hop (hcreates context key options)⟩
  have hanswer := exec_answer e hrequest
  generalize e.exec op = result at hanswer haccepted hcovers
  cases hanswer with
  | refused rejects =>
      rw [rejects] at haccepted
      cases haccepted
  | replayed known =>
      obtain ⟨registration, hgoverned⟩ := viewed_caller hviews hrequest known.1
      exact ⟨registration, hgoverned, hcovers _ fun setId r hfound hchanged => absurd hfound hchanged⟩
  | left _ _ named | answered _ named | committed _ named => exact absurd (Op.subject_named named) (hnames _)
  | superseded supersedes =>
      subst supersedes
      cases hviews
  | created creates => exact absurd creates (hcreates _ _ _)
  | @viewed registration directory path view outcome admitted caller applied covered =>
      refine ⟨registration, pathCallerCheck_governed caller, hcovers _ fun setId r hfound hchanged => ?_⟩
      by_cases hdependent : ∃ dependents, e.pathDependents[path]? = some dependents ∧ setId ∈ dependents.toList
      · obtain ⟨dependents, hdependents, hmem⟩ := hdependent
        exact uncoveredDependent_covers covered hdependents hmem hfound
      · have hkept := applyView_untouched (e := { e with directory := directory }) applied fun dependents hdependents hmem =>
          hdependent ⟨dependents, hdependents, hmem⟩
        exact absurd (hkept.trans hfound) hchanged

theorem created_covers {key : SetKey} {options : SetOptions}
    (haccepted : (e.exec (.createSet context key options)).2.succeeded = true)
    (hminted : e.sets[e.ids.nextSetId.1]? = none) :
    ∃ registration, e.GovernedBy context registration ∧
      e.Covers (.createSet context key options) registration.scope (e.after (.createSet context key options)) := by
  have hauthorized : e.authorityCheck context (some key) none = .ok () := (exec_answer e rfl).authorizes haccepted
  obtain ⟨registration, hgoverned, hnamespace, _⟩ := authorityCheck_governed hauthorized
  refine ⟨registration, hgoverned, fun setId hnamed => ?_, fun setId r hfound hchanged => ?_,
    fun context' key' options' hop => ?_⟩
  · cases hnamed
  · have hstep := createSet_step e context key options setId
    rw [hfound] at hstep
    change (e.createSet context key options).1.sets[setId]? ≠ some r at hchanged
    generalize (e.createSet context key options).1.sets[setId]? = after at hstep hchanged
    cases hstep with
    | kept => exact absurd rfl hchanged
    | changed edit =>
        cases edit with
        | collided _ _ _ minted =>
            rw [minted, hfound] at hminted
            cases hminted
        | added _ publication => cases publication
        | observed applied => cases applied
        | invalidated applied => cases applied
    | fenced fences => cases fences
    | epochAdvanced advances => cases advances
    | cleared loads => cases loads
    | recovered loads => cases loads
  · cases hop
    exact hnamespace key rfl

theorem authorizes_governed (hrequest : op.request = some q) (h : e.Authorizes op) :
    ∃ registration, e.GovernedBy q.context registration := by
  by_cases hviews : op.views = true
  · exact viewed_caller hviews hrequest h
  · cases op with
    | createSet caller key options =>
        cases hrequest
        obtain ⟨registration, hgoverned, _⟩ := authorityCheck_governed h
        exact ⟨registration, hgoverned⟩
    | declarePathAuthority | applyPathAuthority | refreshPath | reconcilePath => exact absurd rfl hviews
    | registerPublisher | unregisterPublisher | fenceWorker | advanceEpoch | beginMemberRevalidation
    | abandonMemberRevalidation | bindPathAuthority | loadStore => cases hrequest
    | _ =>
        cases hrequest
        obtain ⟨registration, hgoverned, _⟩ := authorityCheck_governed (h _ _ rfl List.mem_cons_self)
        exact ⟨registration, hgoverned⟩

theorem governed_of_accepted (hcontext : op.context = some context) (haccepted : (e.exec op).2.succeeded = true) :
    ∃ registration, e.GovernedBy context registration := by
  cases hrequest : op.request with
  | some q =>
      rw [request_context hrequest] at hcontext
      cases hcontext
      exact authorizes_governed hrequest ((exec_answer e hrequest).authorizes haccepted)
  | none =>
      cases op with
      | beginMemberRevalidation caller setId memberId attempt =>
          cases hcontext
          rcases beginMemberRevalidation_cases e context setId memberId attempt with
            ⟨_, hrejected⟩ | ⟨hauthorized, _⟩
          · exact absurd (hrejected.symm.trans haccepted) Bool.false_ne_true
          · obtain ⟨registration, hgoverned, _⟩ := authorityCheck_governed hauthorized
            exact ⟨registration, hgoverned⟩
      | refreshPath caller path view =>
          cases view with
          | none =>
              have hrejected := (refreshPathLocked_unknown e caller path).2
              exact absurd (hrejected.symm.trans haccepted) Bool.false_ne_true
          | some view => cases hrequest
      | registerPublisher | unregisterPublisher | fenceWorker | advanceEpoch | abandonMemberRevalidation
      | reconcilePath | bindPathAuthority | loadStore => cases hcontext
      | _ => cases hrequest

/-- An accepted operation has a caller that is registered at the governing epoch and not fenced, and whose scope covers
what its locked section touches. -/
theorem live_authority (hcontext : op.context = some context) (haccepted : (e.exec op).2.succeeded = true)
    (hminted : ∀ caller key options, op = .createSet caller key options → e.sets[e.ids.nextSetId.1]? = none) :
    ∃ registration, e.GovernedBy context registration ∧ e.Covers op registration.scope (e.after op) := by
  cases op with
  | createSet caller key options =>
      cases hcontext
      exact created_covers haccepted (hminted _ _ _ rfl)
  | declarePathAuthority | applyPathAuthority =>
      cases hcontext
      exact viewed_covers rfl rfl haccepted
  | refreshPath caller path view =>
      cases hcontext
      cases view with
      | none =>
          have hrejected := (refreshPathLocked_unknown e context path).2
          exact absurd (hrejected.symm.trans haccepted) Bool.false_ne_true
      | some view => exact viewed_covers rfl rfl haccepted
  | beginMemberRevalidation caller setId memberId attempt =>
      cases hcontext
      rcases beginMemberRevalidation_cases e context setId memberId attempt with
        ⟨_, hrejected⟩ | ⟨hauthorized, _⟩
      · exact absurd (hrejected.symm.trans haccepted) Bool.false_ne_true
      · apply named_covers rfl ?_ List.mem_cons_self
        intro other hother
        rw [List.mem_singleton.mp hother]
        exact hauthorized
  | registerPublisher | unregisterPublisher | fenceWorker | advanceEpoch | abandonMemberRevalidation | reconcilePath
  | bindPathAuthority | loadStore => cases hcontext
  | _ =>
      apply named_covers hcontext ?_ List.mem_cons_self
      intro other hother
      exact (exec_answer e rfl).authorizes haccepted _ other hcontext hother

/-- The lookups that the caller of an operation makes before its locked section. -/
def lookups (e : FabricEngine) : Op → List (PathId × Option PathAuthorityView)
  | .addMember _ _ request view => [(request.pathId, view)]
  | .addMembers _ _ requests => requests.map fun request => (request.1.pathId, request.2)
  | .revalidateSet _ _ views => views.toList
  | .revalidateMember _ setId memberId looked =>
      ((e.memberPath setId memberId).map fun path => (path, looked.getD none)).toList
  | _ => []

def reconciled (e : FabricEngine) (op : Op) (observed : PathId → Option PathAuthorityView) : FabricEngine :=
  if (e.locked op).reconciles then
    (e.lookups op).foldl (fun e looked => e.reconcilePath looked.1 looked.2 (observed looked.1)) (e.after op)
  else e.after op

end FabricEngine

def guestContext : MutationContext :=
  { sampleContext "b1" with
    publisher := sampleId "guest"
    workerBoot := sampleId "guest-boot"
    session := sampleId "guest-sess" }

def guestSet : MultipathSetId := sampleId "mpf-set-7f-3"

def guestSteps : List Op :=
  sampleSteps ++
    [.createSet (sampleContext "a4") (sampleKey "other") ⟨1, true, false⟩,
      .registerPublisher (sampleId "guest") (sampleId "guest-boot")
        ⟨sampleId "fab", sampleId "ns", [guestSet]⟩ (sampleId "guest-sess"),
      .bindPathAuthority true]

def guestAddition : Op := .addMember guestContext guestSet sampleRequest (some sampleView)

def laterView (_ : PathId) : Option PathAuthorityView := some ⟨samplePath, ⟨2⟩, .authorized⟩

def recycledSteps : List Op :=
  [.loadStore (text "store") ⟨(encodeStore (sampleRun sampleSteps)).toOption, none, none⟩,
    .registerPublisher (sampleId "guest") (sampleId "guest-boot") ⟨sampleId "fab", sampleId "other-ns", []⟩
      (sampleId "guest-sess")]

def guestCreation : Op :=
  .createSet { guestContext with epoch := ⟨2⟩ } ⟨sampleId "fab", sampleId "other-ns", sampleId "set"⟩ ⟨1, true, false⟩

namespace FabricEngine

def scopeCovers (e : FabricEngine) (context : MutationContext) (setId : MultipathSetId) : Option Bool :=
  e.registrations[context.worker]?.bind fun registration =>
    e.sets[setId]?.map fun r => registration.scope.covers r.key.fabric r.key.nameSpace r.id

theorem Covers.not_changed {e after : FabricEngine} {op : Op} {context : MutationContext}
    {registration : PublisherRegistration} (setId : MultipathSetId) (hgoverned : e.GovernedBy context registration)
    (hcovers : e.Covers op registration.scope after) (houtside : e.scopeCovers context setId = some false) :
    (after.sets[setId]?.map fun r => r.history.length) = (e.sets[setId]?.map fun r => r.history.length) := by
  unfold scopeCovers at houtside
  rw [hgoverned.registered, Option.bind_some] at houtside
  obtain ⟨r, hfound, hnot⟩ := Option.map_eq_some_iff.mp houtside
  by_cases hchanged : after.sets[setId]? = some r
  · rw [hchanged, hfound]
  · have hr := hcovers.changed setId r hfound hchanged
    rw [CoversRecord, hnot] at hr
    cases hr

/-- The session of the registration is never compared with the caller's, a creation may find its minted identity taken,
and a reconciliation reaches dependents beyond the caller's scope. -/
theorem live_authority_fails :
    (¬∀ config e op context, Reachable config e → op.context = some context → (e.exec op).2.succeeded = true →
      ∃ registration, e.GovernedBy context registration ∧ registration.session = context.session) ∧
    (¬∀ config e op context, Reachable config e → op.context = some context → (e.exec op).2.succeeded = true →
      ∃ registration, e.GovernedBy context registration ∧ e.Covers op registration.scope (e.after op)) ∧
    ¬∀ config e op context observed, Reachable config e → op.context = some context →
      (e.exec op).2.succeeded = true →
      ∃ registration, e.GovernedBy context registration ∧
        e.Covers op registration.scope (e.reconciled op observed) := by
  refine ⟨fun h => ?_, fun h => ?_, fun h => ?_⟩
  · obtain ⟨registration, hgoverned, hsession⟩ := h sampleConfig (sampleRun sampleSteps)
      (.publishSet { sampleContext "a4" with session := sampleId "elsewhere" } sampleSet) _
      (sampleRun_reachable sampleSteps) rfl (by decide +kernel)
    have hstored : (sampleRun sampleSteps).registrations[(sampleContext "a4").worker]?.map
        PublisherRegistration.session = some (sampleId "sess") := by decide +kernel
    have hregistered := hgoverned.registered
    generalize sampleRun sampleSteps = e at hregistered hstored
    change e.registrations[(sampleContext "a4").worker]? = _ at hregistered
    rw [hregistered, Option.map_some, hsession] at hstored
    exact absurd hstored (by decide)
  · obtain ⟨registration, hgoverned, hcovers⟩ := h sampleConfig (sampleRun recycledSteps) guestCreation _
      (sampleRun_reachable recycledSteps) rfl (by decide +kernel)
    have hsame := Covers.not_changed sampleSet hgoverned hcovers (by decide +kernel)
    exact absurd hsame (by decide +kernel)
  · obtain ⟨registration, hgoverned, hcovers⟩ := h sampleConfig (sampleRun guestSteps) guestAddition _ laterView
      (sampleRun_reachable guestSteps) rfl (by decide +kernel)
    have hsame := Covers.not_changed sampleSet hgoverned hcovers (by decide +kernel)
    exact absurd hsame (by decide +kernel)

theorem live_authority_publication :
    ∃ registration, (sampleRun sampleSteps).GovernedBy (sampleContext "a4") registration ∧
      (sampleRun sampleSteps).Covers (.publishSet (sampleContext "a4") sampleSet) registration.scope
        ((sampleRun sampleSteps).after (.publishSet (sampleContext "a4") sampleSet)) := by
  have haccepted : ((sampleRun sampleSteps).exec (.publishSet (sampleContext "a4") sampleSet)).2.succeeded = true := by
    decide +kernel
  generalize sampleRun sampleSteps = e at *
  exact live_authority rfl haccepted fun _ _ _ hop => by cases hop

end FabricEngine

end MultipathFabric
