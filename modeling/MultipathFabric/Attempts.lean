import MultipathFabric.AttemptLog

namespace MultipathFabric

open BoundedLog

/-- The checks on its arguments that an operation makes before it looks for a recorded attempt. A member revalidation
has to come upon a path to look up first, and a refresh upon a view. -/
def Op.formed (limits : Limits) : Op → Bool
  | .createSet _ key _ => key.valid
  | .publishSet _ setId | .setMinimumUsableMembers _ setId _ | .setConditionalAuthorityPolicy _ setId _
  | .setAdminEnabled _ setId _ | .completeWithdrawal _ setId | .revalidateSet _ setId _ => setId.valid
  | .withdrawSet _ setId reason | .retireSet _ setId reason => setId.valid && decide (reason.length ≤ 256)
  | .revokeSet _ setId _ detail => setId.valid && decide (detail.length ≤ 512)
  | .supersedeSet _ predecessor successor => predecessor.valid && successor.valid && predecessor != successor
  | .addMember _ setId request _ => setId.valid && request.pathId.valid && request.authorityGeneration.valid
  | .addMembers _ setId requests => setId.valid && !requests.isEmpty &&
      decide (requests.length ≤ limits.maxBatchSize.toNat) &&
      (requests.map Prod.fst).all fun request => request.pathId.valid && request.authorityGeneration.valid
  | .removeMember _ setId memberId reason | .withdrawMember _ setId memberId reason =>
      setId.valid && memberId.valid && decide (reason.length ≤ 256)
  | .replaceMember _ setId memberId request reason _ => setId.valid && memberId.valid && request.pathId.valid &&
      request.authorityGeneration.valid && decide (reason.length ≤ 256)
  | .setMemberAdminEnabled _ setId memberId _ _ => setId.valid && memberId.valid
  | .revalidateMember _ setId memberId looked => setId.valid && memberId.valid && looked.isSome
  | .declarePathAuthority _ view | .applyPathAuthority _ view => view.path.valid && view.generation.valid
  | .refreshPath _ path (some view) => path.valid && view.path.valid && view.generation.valid
  | _ => false

namespace FabricEngine

variable {e : FabricEngine}

theorem admission_known {q : Request} {setId : MultipathSetId} {outcome : FabricOutcome}
    (caller : e.authorityCheck q.context none (some setId) = .ok ())
    (known : e.attemptCheck q.context q.operation q.fields = some outcome) :
    e.admission q.context q.operation q.fields setId = .error outcome := by
  unfold admission
  rw [caller, known]
  rfl

theorem require_bind {α : Type} {condition : Bool} (h : condition = true) (rejection : FabricOutcome)
    (f : Unit → Checked α) : (Checked.require condition rejection >>= f) = f () := by
  rw [h]
  rfl

theorem conclude_refused {α : Type} {x : Checked α} {outcome : FabricOutcome} (h : x = .error outcome)
    (f : α → Checked (FabricEngine × FabricOutcome)) : conclude e (x >>= f) = (e, outcome) := by
  rw [h]
  rfl

theorem concludeLocked_refused {α : Type} {x : Checked α} {outcome : FabricOutcome} (h : x = .error outcome)
    (f : α → Checked LockedResult) : (concludeLocked e (x >>= f)).answer = (e, outcome) := by
  rw [h]
  rfl

theorem unlessAnswered_known {answer : Option FabricOutcome} {outcome : FabricOutcome} (h : answer = some outcome) :
    Checked.unlessAnswered answer = .error outcome := by
  rw [h]
  rfl

theorem declarePathAuthority_known {context : MutationContext} {view : PathAuthorityView}
    {registration : PublisherRegistration} {outcome : FabricOutcome}
    (formed : (view.path.valid && view.generation.valid) = true)
    (caller : e.pathCallerCheck context = .ok registration)
    (known : e.attemptCheck context (text "declare_path_authority") (viewFields (text "declare_path_authority") view) = some outcome) :
    e.declarePathAuthority context view = (e, outcome) := by
  unfold declarePathAuthority
  dsimp only
  rw [require_bind formed, caller]
  exact conclude_refused (unlessAnswered_known known) _

theorem applyPathAuthority_known {context : MutationContext} {view : PathAuthorityView}
    {registration : PublisherRegistration} {outcome : FabricOutcome}
    (formed : (view.path.valid && view.generation.valid) = true)
    (caller : e.pathCallerCheck context = .ok registration)
    (known : e.attemptCheck context (text "apply_path_authority") (viewFields (text "apply_path_authority") view) = some outcome) :
    e.applyPathAuthority context view = (e, outcome) := by
  unfold applyPathAuthority
  dsimp only
  rw [require_bind formed, caller]
  exact conclude_refused (unlessAnswered_known known) _

theorem addMembersLocked_known {context : MutationContext} {setId : MultipathSetId}
    {requests : List (MemberRequest × Option PathAuthorityView)} {operation : Bytes} {bulk : Bool}
    {outcome : FabricOutcome} (valid : setId.valid = true) (nonempty : (!requests.isEmpty) = true)
    (bound : (!bulk || decide (requests.length ≤ e.limits.maxBatchSize.toNat)) = true)
    (members : ((requests.map Prod.fst).all fun request =>
      request.pathId.valid && request.authorityGeneration.valid) = true)
    (known : e.admission context operation (bulkFields operation setId (requests.map Prod.fst)) setId =
      .error outcome) :
    (e.addMembersLocked context setId requests operation bulk).answer = (e, outcome) := by
  unfold addMembersLocked
  dsimp only
  rw [require_bind valid, require_bind nonempty, require_bind bound, require_bind members]
  exact concludeLocked_refused known _

theorem exec_known {op : Op} {q : Request} {outcome : FabricOutcome} (request : op.request = some q)
    (replays : op.unreplayed = false) (formed : op.formed e.limits = true) (caller : e.Authorizes op)
    (known : e.attemptCheck q.context q.operation q.fields = some outcome) : e.exec op = (e, outcome) := by
  have hadmission : ∀ setId, setId ∈ op.names →
      e.admission q.context q.operation q.fields setId = .error outcome := by
    intro setId hnamed
    exact admission_known (authorizes_caller caller (request_context request) hnamed) known
  cases op with
  | createSet context key options =>
      cases request
      change e.createSet context key options = _
      unfold createSet
      have hvalid : key.valid = true := formed
      have hcaller : e.authorityCheck context (some key) none = .ok () := caller
      rw [require_bind hvalid, hcaller]
      exact conclude_refused (unlessAnswered_known known) _
  | publishSet context setId =>
      cases request
      change e.publishSet context setId = _
      unfold publishSet
      have hvalid : setId.valid = true := formed
      rw [require_bind hvalid]
      exact conclude_refused (hadmission setId List.mem_cons_self) _
  | setMinimumUsableMembers context setId minimum =>
      cases request
      change e.setMinimumUsableMembers context setId minimum = _
      unfold setMinimumUsableMembers
      have hvalid : setId.valid = true := formed
      rw [require_bind hvalid]
      exact conclude_refused (hadmission setId List.mem_cons_self) _
  | setConditionalAuthorityPolicy context setId permitted =>
      cases request
      change e.setConditionalAuthorityPolicy context setId permitted = _
      unfold setConditionalAuthorityPolicy
      have hvalid : setId.valid = true := formed
      rw [require_bind hvalid]
      exact conclude_refused (hadmission setId List.mem_cons_self) _
  | setAdminEnabled context setId enabled =>
      cases request
      change e.setAdminEnabled context setId enabled = _
      unfold setAdminEnabled
      have hvalid : setId.valid = true := formed
      rw [require_bind hvalid]
      exact conclude_refused (hadmission setId List.mem_cons_self) _
  | completeWithdrawal context setId =>
      cases request
      change e.completeWithdrawal context setId = _
      unfold completeWithdrawal
      have hvalid : setId.valid = true := formed
      rw [require_bind hvalid]
      exact conclude_refused (hadmission setId List.mem_cons_self) _
  | withdrawSet context setId reason =>
      cases request
      change e.withdrawSet context setId reason = _
      unfold withdrawSet
      simp only [Op.formed, Bool.and_eq_true] at formed
      obtain ⟨hvalid, hreason⟩ := formed
      rw [require_bind hvalid, require_bind hreason]
      exact conclude_refused (hadmission setId List.mem_cons_self) _
  | retireSet context setId reason =>
      cases request
      change e.retireSet context setId reason = _
      unfold retireSet
      simp only [Op.formed, Bool.and_eq_true] at formed
      obtain ⟨hvalid, hreason⟩ := formed
      rw [require_bind hvalid, require_bind hreason]
      exact conclude_refused (hadmission setId List.mem_cons_self) _
  | revokeSet context setId reason detail =>
      cases request
      change e.revokeSet context setId reason detail = _
      unfold revokeSet
      simp only [Op.formed, Bool.and_eq_true] at formed
      obtain ⟨hvalid, hdetail⟩ := formed
      rw [require_bind hvalid, require_bind hdetail]
      exact conclude_refused (hadmission setId List.mem_cons_self) _
  | supersedeSet context predecessor successor =>
      cases request
      change e.supersedeSet context predecessor successor = _
      unfold supersedeSet
      simp only [Op.formed, Bool.and_eq_true] at formed
      obtain ⟨hvalid, hdistinct⟩ := formed
      have hvalid' : (predecessor.valid && successor.valid) = true := Bool.and_eq_true_iff.mpr hvalid
      have hpredecessor : e.authorityCheck context none (some predecessor) = .ok () :=
        authorizes_caller caller rfl List.mem_cons_self
      have hsuccessor : e.authorityCheck context none (some successor) = .ok () :=
        authorizes_caller caller rfl (List.mem_cons_of_mem _ List.mem_cons_self)
      rw [require_bind hvalid', require_bind hdistinct, hpredecessor, hsuccessor]
      exact conclude_refused (unlessAnswered_known known) _
  | addMember context setId request' view =>
      cases request
      simp only [Op.formed, Bool.and_eq_true] at formed
      refine addMembersLocked_known formed.1.1 rfl rfl ?_ (hadmission setId List.mem_cons_self)
      change (request'.pathId.valid && request'.authorityGeneration.valid && true) = true
      rw [formed.1.2, formed.2]
      rfl
  | addMembers context setId requests =>
      cases request
      simp only [Op.formed, Bool.and_eq_true] at formed
      exact addMembersLocked_known formed.1.1.1 formed.1.1.2 formed.1.2 formed.2 (hadmission setId List.mem_cons_self)
  | removeMember context setId memberId reason =>
      cases request
      change e.removeMember context setId memberId reason = _
      unfold removeMember
      simp only [Op.formed, Bool.and_eq_true] at formed
      obtain ⟨hvalid, hreason⟩ := formed
      rw [require_bind (Bool.and_eq_true_iff.mpr hvalid), require_bind hreason]
      exact conclude_refused (hadmission setId List.mem_cons_self) _
  | withdrawMember context setId memberId reason =>
      cases request
      change e.withdrawMember context setId memberId reason = _
      unfold withdrawMember
      simp only [Op.formed, Bool.and_eq_true] at formed
      obtain ⟨hvalid, hreason⟩ := formed
      rw [require_bind (Bool.and_eq_true_iff.mpr hvalid), require_bind hreason]
      exact conclude_refused (hadmission setId List.mem_cons_self) _
  | replaceMember context setId memberId request' reason view =>
      cases request
      change e.replaceMemberLocked context setId memberId request' reason view = _
      unfold replaceMemberLocked
      obtain ⟨hvalid, hreason⟩ := Bool.and_eq_true_iff.mp formed
      rw [require_bind hvalid, require_bind hreason]
      exact conclude_refused (hadmission setId List.mem_cons_self) _
  | setMemberAdminEnabled context setId memberId enabled view =>
      cases request
      change e.setMemberAdminEnabledLocked context setId memberId enabled view = _
      unfold setMemberAdminEnabledLocked
      have hvalid : (setId.valid && memberId.valid) = true := formed
      rw [require_bind hvalid]
      exact conclude_refused (hadmission setId List.mem_cons_self) _
  | revalidateSet context setId views =>
      cases request
      change (e.revalidateSetLocked context setId views).answer = _
      unfold revalidateSetLocked
      have hvalid : setId.valid = true := formed
      rw [require_bind hvalid]
      exact concludeLocked_refused (hadmission setId List.mem_cons_self) _
  | revalidateMember context setId memberId looked =>
      cases request
      change (e.revalidateMemberLocked context setId memberId looked).answer = _
      unfold revalidateMemberLocked
      obtain ⟨hvalid, hlooked⟩ := Bool.and_eq_true_iff.mp formed
      obtain ⟨view, rfl⟩ := Option.isSome_iff_exists.mp hlooked
      have hcaller : e.authorityCheck context none (some setId) = .ok () :=
        authorizes_caller caller rfl List.mem_cons_self
      rw [require_bind hvalid, hcaller]
      exact concludeLocked_refused (hadmission setId List.mem_cons_self) _
  | declarePathAuthority context view =>
      cases request
      obtain ⟨registration, hcaller⟩ := caller
      exact declarePathAuthority_known formed hcaller known
  | applyPathAuthority context view =>
      cases request
      obtain ⟨registration, hcaller⟩ := caller
      exact applyPathAuthority_known formed hcaller known
  | refreshPath context path view =>
      cases view with
      | none => cases request
      | some view =>
          cases request
          obtain ⟨registration, hcaller⟩ := caller
          simp only [Op.formed, Bool.and_eq_true] at formed
          change e.refreshPathLocked context path (some view) = _
          unfold refreshPathLocked
          rw [formed.1.1]
          exact applyPathAuthority_known (Bool.and_eq_true_iff.mpr ⟨formed.1.2, formed.2⟩) hcaller known
  | completeMemberRevalidation => cases replays
  | _ => cases request

/-- Every attempt is logged once, and the index holds the fingerprints of the logged attempts and nothing else. -/
def Logged (e : FabricEngine) : Prop :=
  Indexed AttemptRecord.attempt AttemptRecord.fingerprint e.attempts e.attemptIndex

def replayed (outcome : FabricOutcome) : FabricOutcome :=
  { outcome with
    code := .idempotent
    stage := .none
    detail := text "exact replay of an already-committed attempt; original outcome " ++ outcome.code.toString }

def conflicting (q : Request) : FabricOutcome :=
  makeRejection .attemptConflict
    (text "attempt " ++ q.context.attempt.view ++ text " was already used for a different semantic request")

theorem attemptCheck_none {q : Request} (h : e.attemptCheck q.context q.operation q.fields = none) :
    e.attemptIndex[q.context.attempt]? = none := by
  unfold attemptCheck at h
  split at h
  · assumption
  · split at h
    · cases h
    · split at h <;> cases h

theorem attemptCheck_unknown {q : Request} (h : e.attemptIndex[q.context.attempt]? = none) :
    e.attemptCheck q.context q.operation q.fields = none := by
  unfold attemptCheck
  rw [h]

theorem accepts_unknown {op : Op} {q : Request} (request : op.request = some q)
    (accepted : (e.exec op).2.succeeded = true) (unknown : e.attemptIndex[q.context.attempt]? = none) :
    e.Accepts op q := by
  refine ⟨request, accepted, ?_⟩
  rw [attemptCheck_unknown unknown]
  exact (Option.some_ne_none _).symm

theorem attemptCheck_code {context : MutationContext} {operation : Bytes} {fields : List Bytes}
    {outcome : FabricOutcome} (h : e.attemptCheck context operation fields = some outcome)
    (accepted : outcome.succeeded = true) : outcome.code = .idempotent := by
  unfold attemptCheck at h
  split at h
  · cases h
  · split at h
    · cases h
      cases accepted
    · split at h
      · cases h
        rfl
      · cases h
        cases accepted

theorem attemptCheck_logged (h : e.Logged) {a : AttemptRecord} (logged : a ∈ e.attempts) {q : Request}
    (same : q.context.attempt = a.attempt) :
    e.attemptCheck q.context q.operation q.fields =
      some (if q.fingerprint = a.fingerprint then replayed a.outcome else conflicting q) := by
  have hindex : e.attemptIndex[q.context.attempt]? = some a.fingerprint :=
    (h.marks _ _).mpr ⟨a, logged, same.symm, rfl⟩
  have hfind : e.attempts.find? (fun record => record.attempt == q.context.attempt) = some a := by
    refine h.find logged fun b => ?_
    rw [beq_iff_eq, same]
  unfold attemptCheck
  rw [hindex]
  by_cases hsame : q.fingerprint = a.fingerprint
  · have hknown : ¬a.fingerprint ≠ fingerprintRequest q.operation q.fields := fun hne => hne hsame.symm
    rw [if_pos hsame]
    simp only [if_neg hknown, hfind]
    rfl
  · have hknown : a.fingerprint ≠ fingerprintRequest q.operation q.fields := fun heq => hsame heq.symm
    rw [if_neg hsame]
    simp only [if_pos hknown]
    rfl

/-- A completion records its attempt without looking for it: its caller has to bring an identity of its own. -/
def FreshCompletion (e : FabricEngine) (op : Op) : Prop :=
  op.unreplayed = true → ∀ q, op.request = some q → e.attemptIndex[q.context.attempt]? = none

theorem after_logs {op : Op} (fresh : e.FreshCompletion op) (kept : op.loads = false) :
    (∀ q, ¬e.Accepts op q) ∧ (e.after op).attemptLog = e.attemptLog ∨
      ∃ q, e.Accepts op q ∧ e.attemptIndex[q.context.attempt]? = none ∧
        (e.after op).attemptLog =
          record AttemptRecord.attempt AttemptRecord.fingerprint e.limits.maxAttempts.toNat e.attempts e.attemptIndex
            ⟨q.context.attempt, q.fingerprint, (e.exec op).2⟩ := by
  cases hrequest : op.request with
  | none =>
      refine .inl ⟨fun q haccepts => ?_, after_attemptLog hrequest kept⟩
      rw [haccepts.1] at hrequest
      cases hrequest
  | some q =>
      rcases (exec_answer e hrequest).attemptLog with ⟨hlog, hanswer⟩ | ⟨hadmitted, haccepted, hlog⟩
      · refine .inl ⟨fun other haccepts => ?_, hlog⟩
        obtain ⟨hother, hsucceeded, hown⟩ := haccepts
        rw [hrequest] at hother
        cases hother
        rcases hanswer with hrejected | hreplayed
        · rw [hrejected] at hsucceeded
          cases hsucceeded
        · exact hown hreplayed.2
      · have hunknown : e.attemptIndex[q.context.attempt]? = none := by
          rcases hadmitted.fresh with hcompletion | hnone
          · exact fresh hcompletion q hrequest
          · exact attemptCheck_none hnone
        exact .inr ⟨q, accepts_unknown hrequest haccepted hunknown, hunknown, hlog⟩

theorem Logged.of_eq {x : FabricEngine} (h : e.Logged) (same : x.attemptLog = e.attemptLog) : x.Logged := by
  obtain ⟨hlog, hindex⟩ := Prod.mk.inj same
  unfold Logged
  rw [hlog, hindex]
  exact h

theorem Logged.record {x : FabricEngine} (h : e.Logged) {limit : ℕ} {a : AttemptRecord}
    (unknown : e.attemptIndex[a.attempt]? = none) (log : x.attemptLog =
      BoundedLog.record AttemptRecord.attempt AttemptRecord.fingerprint limit e.attempts e.attemptIndex a) :
    x.Logged := by
  have hrecord : Indexed AttemptRecord.attempt AttemptRecord.fingerprint
      (BoundedLog.record AttemptRecord.attempt AttemptRecord.fingerprint limit e.attempts e.attemptIndex a).1
      (BoundedLog.record AttemptRecord.attempt AttemptRecord.fingerprint limit e.attempts e.attemptIndex a).2 :=
    Indexed.record h unknown
  rw [← log] at hrecord
  exact hrecord

theorem Logged.load (h : e.Logged) (path : Bytes) (files : StoreFiles) : (e.loadStore path files).1.Logged := by
  rcases loadStore_cases e path files with hsame | ⟨decoded, _, epoch, authority, _, _, _, hloaded⟩
  · rw [hsame]
    exact h
  · have hcleared : (e.clearedForLoad decoded.fences epoch authority).Logged := Indexed.empty
    rw [hloaded]
    exact hcleared.of_eq (installSets_attemptLog _ _)

theorem Logged.after {op : Op} (h : e.Logged) (fresh : e.FreshCompletion op) : (e.after op).Logged := by
  by_cases hloads : op.loads = true
  · cases op with
    | loadStore path files => exact h.load path files
    | _ => cases hloads
  · rw [Bool.not_eq_true] at hloads
    rcases after_logs fresh hloads with ⟨_, hlog⟩ | ⟨q, _, hunknown, hlog⟩
    · exact h.of_eq hlog
    · exact h.record (a := ⟨q.context.attempt, q.fingerprint, (e.exec op).2⟩) hunknown hlog

theorem logged_of_run {config : FabricConfig} (run : Run FreshCompletion config e) : e.Logged := by
  induction run with
  | init ids => exact Indexed.empty
  | step run op fresh ih => exact ih.after fresh

inductive Since (start : FabricEngine) : ℕ → FabricEngine → Prop
  | start : Since start 0 start
  | quiet {n : ℕ} {e : FabricEngine} (since : Since start n e) (op : Op) (fresh : e.FreshCompletion op)
      (kept : op.loads = false) (quiet : ∀ q, ¬e.Accepts op q) : Since start n (e.after op)
  | recorded {n : ℕ} {e : FabricEngine} (since : Since start n e) (op : Op) (q : Request)
      (fresh : e.FreshCompletion op) (accepts : e.Accepts op q) : Since start (n + 1) (e.after op)

theorem request_loads {op : Op} {q : Request} (h : op.request = some q) : op.loads = false := by
  cases op with
  | loadStore => cases h
  | _ => rfl

theorem Since.recent {start : FabricEngine} {n : ℕ} {a : AttemptRecord} (h : start.Since n e) (logged : start.Logged)
    (recent : Recent start.attempts a 0) (room : n < start.limits.maxAttempts.toNat) :
    e.Logged ∧ e.limits = start.limits ∧ Recent e.attempts a n := by
  induction h with
  | start => exact ⟨logged, rfl, recent⟩
  | quiet since op fresh kept quiet ih =>
      obtain ⟨hlogged, hlimits, hrecent⟩ := ih room
      rcases after_logs fresh kept with ⟨_, hlog⟩ | ⟨q, haccepts, _⟩
      · refine ⟨hlogged.of_eq hlog, (after_limits _ op).trans hlimits, ?_⟩
        rw [(Prod.mk.inj hlog).1]
        exact hrecent
      · exact absurd haccepts (quiet q)
  | @recorded n e since op q fresh accepts ih =>
      obtain ⟨hlogged, hlimits, hrecent⟩ := ih (by omega)
      rcases after_logs fresh (request_loads accepts.1) with ⟨hquiet, _⟩ | ⟨q', _, hunknown, hlog⟩
      · exact absurd accepts (hquiet q)
      · refine ⟨hlogged.after fresh, (after_limits _ op).trans hlimits, ?_⟩
        rw [← hlimits] at room
        have hattempts := congrArg Prod.fst hlog
        change (e.after op).attempts = _ at hattempts
        rw [hattempts]
        exact hrecent.record room _

/-- Every attempt that is accepted is remembered for as long as the log has room for it: the same request again
gets the recorded answer, another one under its identity a conflict, and neither changes anything. -/
theorem exactly_once {config : FabricConfig} {e : FabricEngine} (run : Run FreshCompletion config e) :
    e.Logged ∧ ∀ op q, e.FreshCompletion op → e.Accepts op q → ∀ n e', (e.after op).Since n e' →
      n < e.limits.maxAttempts.toNat → ∀ op' q', op'.request = some q' → q'.context.attempt = q.context.attempt →
        op'.unreplayed = false → op'.formed e'.limits = true → e'.Authorizes op' →
          e'.exec op' = (e', if q'.fingerprint = q.fingerprint then replayed (e.exec op).2 else conflicting q') := by
  refine ⟨logged_of_run run, ?_⟩
  intro op q hfresh haccepts n e' hsince hroom op' q' hrequest hsame hreplays hformed hcaller
  have hlogged := (logged_of_run run).after hfresh
  rcases after_logs hfresh (request_loads haccepts.1) with ⟨hquiet, _⟩ | ⟨other, hother, hunknown, hlog⟩
  · exact absurd haccepts (hquiet q)
  · have hq : other = q := Option.some.inj (hother.1.symm.trans haccepts.1)
    subst hq
    have hrecent : Recent (e.after op).attempts ⟨other.context.attempt, other.fingerprint, (e.exec op).2⟩ 0 := by
      have hattempts := congrArg Prod.fst hlog
      change (e.after op).attempts = _ at hattempts
      rw [hattempts]
      exact recent_record _ _ _ _ (by omega)
    rw [← after_limits e op] at hroom
    obtain ⟨hlater, _, hstill⟩ := hsince.recent hlogged hrecent hroom
    exact exec_known hrequest hreplays hformed hcaller (attemptCheck_logged hlater hstill.mem hsame)

def publication : Op := .publishSet (sampleContext "a4") sampleSet

theorem freshCompletion_of_replays {op : Op} (h : op.unreplayed = false) (e : FabricEngine) : e.FreshCompletion op := by
  intro hcompletion
  rw [h] at hcompletion
  cases hcompletion

theorem exactly_once_publication :
    ((sampleRun sampleSteps).after publication).exec publication =
      ((sampleRun sampleSteps).after publication, replayed ((sampleRun sampleSteps).exec publication).2) := by
  have hplain : ∀ op ∈ sampleSteps, op.unreplayed = false := by simp [sampleSteps, Op.unreplayed]
  have hrun : Run FreshCompletion sampleConfig (sampleRun sampleSteps) :=
    Run.afterAll (fun op hop => freshCompletion_of_replays (hplain op hop)) (.init sampleIds)
  have hunknown : ((sampleRun sampleSteps).attemptIndex[(sampleContext "a4").attempt]?).isNone = true := by
    decide +kernel
  have haccepted : ((sampleRun sampleSteps).exec publication).2.succeeded = true := by decide +kernel
  have hcaller : (((sampleRun sampleSteps).after publication).authorityCheck (sampleContext "a4") none
      (some sampleSet)).isOk = true := by decide +kernel
  obtain ⟨_, hauthorized⟩ := Checked.of_isOk hcaller
  have hroom : 0 < (sampleRun sampleSteps).limits.maxAttempts.toNat := by decide +kernel
  have hformed : publication.formed ((sampleRun sampleSteps).after publication).limits = true := by decide +kernel
  generalize sampleRun sampleSteps = e at *
  have hown : e.Accepts publication (.onSet (sampleContext "a4") (text "publish_set") sampleSet []) :=
    accepts_unknown rfl haccepted (Option.isNone_iff_eq_none.mp hunknown)
  have hauthorizes : (e.after publication).Authorizes publication :=
    authorizes_named rfl rfl hauthorized
  have hanswer := (exactly_once hrun).2 publication _ (freshCompletion_of_replays rfl e) hown 0 _ .start hroom publication _
    rfl rfl rfl hformed hauthorizes
  rw [if_pos rfl] at hanswer
  exact hanswer

def completion (attempt : String) : Op :=
  .completeMemberRevalidation (sampleContext attempt)
    { setId := sampleSet
      memberId := sampleMember
      attempt := sampleId "rv"
      memberGeneration := .first
      setWatermark := ⟨0⟩
      memberWatermark := ⟨2⟩
      epoch := .first
      boundAuthorityGeneration := .first
      valid := true } (some sampleView)

def begunSteps : List Op :=
  sampleSteps ++ [.beginMemberRevalidation (sampleContext "a4") sampleSet sampleMember (sampleId "rv")]

/-- A completion under a known identity is carried out and logged again, and the same completion again is not known. -/
theorem exactly_once_fails :
    (¬∀ config e, Reachable config e → e.Logged) ∧
      ¬∀ config e op q, Reachable config e → e.Accepts op q → 0 < e.limits.maxAttempts.toNat →
        (e.after op).Authorizes op → ((e.after op).exec op).2.code = .idempotent := by
  constructor
  · intro h
    have hlogged := h sampleConfig (sampleRun (begunSteps ++ [completion "a1"])) (sampleRun_reachable _)
    have htwice : ¬((sampleRun (begunSteps ++ [completion "a1"])).attempts.map AttemptRecord.attempt).Nodup := by
      decide +kernel
    exact htwice hlogged.distinct
  · intro h
    have hreachable := sampleRun_reachable begunSteps
    have hunknown : ((sampleRun begunSteps).attemptIndex[(sampleContext "a5").attempt]?).isNone = true := by
      decide +kernel
    have haccepted : ((sampleRun begunSteps).exec (completion "a5")).2.succeeded = true := by decide +kernel
    have hcaller : (((sampleRun begunSteps).after (completion "a5")).authorityCheck (sampleContext "a5") none
        (some sampleSet)).isOk = true := by decide +kernel
    obtain ⟨_, hauthorized⟩ := Checked.of_isOk hcaller
    have hroom : 0 < (sampleRun begunSteps).limits.maxAttempts.toNat := by decide +kernel
    have hcode : (((sampleRun begunSteps).after (completion "a5")).exec (completion "a5")).2.code ≠ .idempotent := by
      decide +kernel
    generalize sampleRun begunSteps = e at *
    exact hcode (h sampleConfig e (completion "a5") _ hreachable
      (accepts_unknown rfl haccepted (Option.isNone_iff_eq_none.mp hunknown)) hroom
      (authorizes_named rfl rfl hauthorized))

end FabricEngine

end MultipathFabric
