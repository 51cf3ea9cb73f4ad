import Mathlib.Data.List.Basic

/-!
Checks made one after the other, seen against all the faults that a request has. The checks answer for the first
fault alone, so they answer for the one of lowest rank exactly when the faults are ordered.
-/

namespace Precedence

variable {ε α β κ : Type}

def faultIf (violated : Bool) (fault : κ) : List κ := if violated then [fault] else []

@[simp] theorem mem_faultIf {violated : Bool} {fault other : κ} :
    other ∈ faultIf violated fault ↔ violated = true ∧ other = fault := by
  cases violated <;> simp [faultIf]

@[simp] theorem faultIf_eq_nil {violated : Bool} {fault : κ} : faultIf violated fault = [] ↔ violated = false := by
  cases violated <;> simp [faultIf]

theorem flatten_flatten_cons (group later : List (List κ)) :
    (group.flatten :: later).flatten = (group ++ later).flatten := by
  rw [List.flatten_cons, List.flatten_append]

def Blames (answers : ε → Prop) (reports : ε → κ → Prop) (error : ε) (faults : List κ) : Prop :=
  answers error ∨ ∃ fault, faults.head? = some fault ∧ reports error fault

/-- A result of the checks that is in keeping with the faults. -/
structure Judged (answers : ε → Prop) (reports : ε → κ → Prop) (settled : α → List κ → Prop) (x : Except ε α)
    (faults : List κ) : Prop where
  passes : ∀ a, x = .ok a → settled a faults
  fails : ∀ error, x = .error error → Blames answers reports error faults

abbrev Checks (answers : ε → Prop) (reports : ε → κ → Prop) (x : Except ε α) (faults : List κ) : Prop :=
  Judged answers reports (fun _ faults => faults = []) x faults

namespace Judged

variable {answers : ε → Prop} {reports : ε → κ → Prop} {settled : β → List κ → Prop}

theorem ok {a : β} {faults : List κ} (h : settled a faults) :
    Judged answers reports settled (.ok a : Except ε β) faults := by
  refine ⟨fun b hb => ?_, fun _ h => by cases h⟩
  cases hb
  exact h

theorem error {error : ε} {faults : List κ} (h : Blames answers reports error faults) :
    Judged answers reports settled (.error error : Except ε β) faults := by
  refine ⟨(fun _ h => by cases h), fun other hother => ?_⟩
  cases hother
  exact h

theorem bind_append {x : Except ε α} {f : α → Except ε β} {faults later : List κ}
    (first : Checks answers reports x faults)
    (next : ∀ a, x = .ok a → Judged answers reports settled (f a) later) :
    Judged answers reports settled (x >>= f) (faults ++ later) := by
  cases x with
  | error failure =>
      refine .error ?_
      rcases first.fails failure rfl with hanswer | ⟨fault, hhead, hreport⟩
      · exact .inl hanswer
      · refine .inr ⟨fault, ?_, hreport⟩
        rw [List.head?_append, hhead]
        rfl
  | ok a =>
      rw [first.passes a rfl, List.nil_append]
      exact next a rfl

theorem bind {x : Except ε α} {f : α → Except ε β} {faults : List κ} {later : List (List κ)}
    (first : Checks answers reports x faults)
    (next : ∀ a, x = .ok a → Judged answers reports settled (f a) later.flatten) :
    Judged answers reports settled (x >>= f) (faults :: later).flatten := by
  rw [List.flatten_cons]
  exact bind_append first next

theorem last {x : Except ε β} {faults : List κ} (h : Judged answers reports settled x faults) :
    Judged answers reports settled x [faults].flatten := by
  rw [List.flatten_cons, List.flatten_nil, List.append_nil]
  exact h

end Judged

def Ordered (rank : κ → ℕ) (faults : List κ) : Prop :=
  ∀ first ∈ faults.head?, ∀ fault ∈ faults, rank first ≤ rank fault

variable {rank : κ → ℕ}

@[simp] theorem ordered_nil : Ordered rank ([] : List κ) := fun _ h => by cases h

theorem ordered_faultIf {violated : Bool} {fault : κ} {later : List κ} :
    Ordered rank (faultIf violated fault ++ later) ↔
      if violated then ∀ other ∈ later, rank fault ≤ rank other else Ordered rank later := by
  cases violated <;> simp [faultIf, Ordered]

end Precedence
