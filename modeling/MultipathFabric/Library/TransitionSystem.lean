/-!
Systems of many parties: the states that their steps reach, in whatever order the parties take them.
-/

namespace TransitionSystem

variable {σ : Type}

inductive Reaches (init : σ → Prop) (step : σ → σ → Prop) : σ → Prop
  | init {s : σ} (h : init s) : Reaches init step s
  | step {s s' : σ} (run : Reaches init step s) (h : step s s') : Reaches init step s'

structure Invariant (init : σ → Prop) (step : σ → σ → Prop) (holds : σ → Prop) : Prop where
  starts : ∀ s, init s → holds s
  keeps : ∀ s s', Reaches init step s → holds s → step s s' → holds s'

variable {init : σ → Prop} {step : σ → σ → Prop}

theorem Invariant.reached {holds : σ → Prop} (h : Invariant init step holds) {s : σ}
    (run : Reaches init step s) : holds s := by
  induction run with
  | init hinit => exact h.starts _ hinit
  | step run hstep ih => exact h.keeps _ _ run ih hstep

theorem Reaches.mono {wider : σ → σ → Prop} (hwider : ∀ s s', step s s' → wider s s') {s : σ}
    (run : Reaches init step s) : Reaches init wider s := by
  induction run with
  | init hinit => exact .init hinit
  | step run hstep ih => exact .step ih (hwider _ _ hstep)

end TransitionSystem
