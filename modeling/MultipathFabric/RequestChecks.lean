import MultipathFabric.RevalidationSpec

namespace MultipathFabric

namespace FabricEngine

variable {e : FabricEngine} {op : Op} {q : Request}

/-- The engine takes the operation up: its caller, its attempt, the generations that it expects, the sets that a view
reaches and the successor of a supersession have been checked. A completion is stale, and not refused, when the member
has another generation than its caller expects. -/
structure TakesUp (e : FabricEngine) (op : Op) : Prop where
  admitted : ∀ q, op.request = some q → Admitted e op q
  expects : ∀ q setId r, op.request = some q → op.subject = some setId → e.sets[setId]? = some r →
    op.unreplayed = true ∨ op.Expects q.context r
  covers : ∀ path view context, op.Applies path (some view) (some context) → ∃ registration,
    e.pathCallerCheck context = .ok registration ∧ e.uncoveredDependent registration.scope path = none
  supersedes : ∀ context predecessor successor, op = .supersedeSet context predecessor successor →
    predecessor ≠ successor ∧ e.sets[successor]?.isSome = true

theorem unapplied_of_named {named : MultipathSetId} (subject : op.subject = some named) {view : Option PathAuthorityView}
    {context : Option MutationContext} {path : PathId} : ¬op.Applies path view context := by
  intro applied
  cases applied <;> cases subject

theorem supersedeSet_checks (e : FabricEngine) (context : MutationContext) (predecessor successor : MultipathSetId) :
    (e.supersedeSet context predecessor successor).1 = e ∨
      predecessor ≠ successor ∧ e.sets[successor]?.isSome = true := by
  unfold supersedeSet
  generalize hresult : conclude e _ = result
  rcases conclude_cases hresult with hsame | h
  · exact .inl hsame
  · simp only [Checked.bind_ok, Checked.require_ok, bne_iff_ne] at h
    obtain ⟨_, _, _, hdistinct, _, _, _, _, _, _, _, _, new, hnew, _⟩ := h
    refine .inr ⟨hdistinct, ?_⟩
    rw [requireSet_ok hnew]
    rfl

theorem exec_supersedes (e : FabricEngine) (op : Op) : (e.exec op).1 = e ∨
    ∀ context predecessor successor, op = .supersedeSet context predecessor successor →
      predecessor ≠ successor ∧ e.sets[successor]?.isSome = true := by
  by_cases hop : ∃ context predecessor successor, op = .supersedeSet context predecessor successor
  · obtain ⟨context, predecessor, successor, rfl⟩ := hop
    refine (supersedeSet_checks e context predecessor successor).imp_right fun hchecks => ?_
    intro _ _ _ hsame
    cases hsame
    exact hchecks
  · exact .inr fun context predecessor successor hsame => absurd ⟨context, predecessor, successor, hsame⟩ hop

theorem takesUp_unrequested (h : op.request = none) : e.TakesUp op := by
  refine ⟨?_, ?_, ?_, ?_⟩
  · intro q hq
    rw [h] at hq
    cases hq
  · intro q setId r hq
    rw [h] at hq
    cases hq
  · intro path view context applied
    cases applied <;> cases h
  · rintro context predecessor successor rfl
    cases h

theorem takesUp_requested (request : op.request = some q) : (e.exec op).1 = e ∨ e.TakesUp op := by
  have hrequest : ∀ other, op.request = some other → other = q := by
    intro other hother
    rw [request] at hother
    exact (Option.some.inj hother).symm
  have hadmits (admitted : Admitted e op q) : ∀ other, op.request = some other → Admitted e op other := by
    intro other hother
    rw [hrequest other hother]
    exact admitted
  have hsupersedes := exec_supersedes e op
  have hanswer := exec_answer e request
  generalize e.exec op = result at hanswer hsupersedes ⊢
  have hnamed {setId : MultipathSetId} {r : SetRecord} (admitted : Admitted e op q) (subject : op.subject = some setId)
      (found : e.sets[setId]? = some r) (expects : op.unreplayed = true ∨ op.Expects q.context r) :
      result.1 = e ∨ e.TakesUp op := by
    refine hsupersedes.imp_right fun hdistinct => ⟨hadmits admitted, ?_, ?_, hdistinct⟩
    · intro other named record hother hname hrecord
      rw [subject] at hname
      cases hname
      rw [found] at hrecord
      cases hrecord
      rw [hrequest other hother]
      exact expects
    · intro path view context applied
      exact absurd applied (unapplied_of_named subject)
  cases hanswer with
  | refused | replayed => exact .inl rfl
  | left _ admitted named found _ _ _ _ expects => exact hnamed admitted named found expects
  | answered admitted named found _ expects => exact hnamed admitted named found (.inr expects)
  | committed admitted named found _ expects => exact hnamed admitted named found (.inr expects)
  | superseded supersedes admitted _ _ foundOld _ _ _ _ expects =>
      exact hnamed admitted (by rw [supersedes]; rfl) foundOld (.inr expects)
  | @viewed registration directory path view outcome admitted caller applied covered =>
      refine hsupersedes.imp_right fun hdistinct => ⟨hadmits admitted, ?_, ?_, hdistinct⟩
      · intro other setId r hother hsubject
        exact absurd applied (unapplied_of_named hsubject)
      · intro other otherView context happlied
        have hother : other = path ∧ context = q.context := by
          cases happlied <;> cases applied <;> exact ⟨rfl, rfl⟩
        obtain ⟨rfl, rfl⟩ := hother
        exact ⟨registration, caller, covered⟩
  | created creates admitted =>
      subst creates
      refine .inr ⟨hadmits admitted, ?_, ?_, ?_⟩
      · intro other setId r hother hsubject
        cases hsubject
      · intro path view context applied
        cases applied
      · intro context predecessor successor hsame
        cases hsame

theorem after_eq_or_takesUp (e : FabricEngine) (op : Op) : e.after op = e ∨ e.TakesUp op := by
  cases hrequest : op.request with
  | none => exact .inr (takesUp_unrequested hrequest)
  | some q => exact takesUp_requested hrequest

/-- A condition on the steps of a run that asks nothing of a step that is not taken up. -/
def TakenUp (allowed : FabricEngine → Op → Prop) (e : FabricEngine) (op : Op) : Prop := e.TakesUp op → allowed e op

end FabricEngine

theorem Run.takenUp {allowed : FabricEngine → Op → Prop} {config : FabricConfig} {e : FabricEngine}
    (run : Run (FabricEngine.TakenUp allowed) config e) : Run allowed config e := by
  induction run with
  | init ids => exact .init ids
  | @step e _ op h ih =>
      rcases e.after_eq_or_takesUp op with hsame | hup
      · rw [hsame]
        exact ih
      · exact .step ih op (h hup)

end MultipathFabric
