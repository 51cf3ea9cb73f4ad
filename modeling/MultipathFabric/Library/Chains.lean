import Mathlib.Logic.Relation

/-!
The chains of a partial successor function.
-/

namespace Chains

open Relation

variable {α : Type} {next next' : α → Option α} {a b : α}

def Follows (next : α → Option α) (a b : α) : Prop := next a = some b

/-- Following successors from `a` comes to an end. -/
abbrev Ends (next : α → Option α) (a : α) : Prop := Acc (fun b a => Follows next a b) a

theorem Ends.last (h : Ends next a) : ∃ b, ReflTransGen (Follows next) a b ∧ next b = none := by
  induction h with
  | intro a _ ih =>
    cases hnext : next a with
    | none => exact ⟨a, .refl, hnext⟩
    | some b =>
      obtain ⟨c, hpath, hlast⟩ := ih b hnext
      exact ⟨c, hpath.head hnext, hlast⟩

theorem Ends.acyclic (h : Ends next a) : ¬TransGen (Follows next) a a := by
  induction h with
  | intro a _ ih =>
    intro hcycle
    obtain ⟨b, hstep, hback⟩ := TransGen.head'_iff.mp hcycle
    exact ih b hstep (TransGen.tail' hback hstep)

theorem ends_link (ends : ∀ x, Ends next x) (link : next' a = some b) (others : ∀ x, x ≠ a → next' x = next x)
    (free : ¬ReflTransGen (Follows next) b a) (x : α) : Ends next' x := by
  have haway : ∀ y, ¬ReflTransGen (Follows next) y a → Ends next' y := by
    intro y
    induction ends y with
    | intro y _ ih =>
      intro hfree
      constructor
      intro z hz
      have hy : y ≠ a := by
        rintro rfl
        exact hfree .refl
      have hstep : Follows next y z := by
        unfold Follows
        rw [← others y hy]
        exact hz
      exact ih z hstep fun hpath => hfree (hpath.head hstep)
  induction ends x with
  | intro x _ ih =>
    constructor
    intro z hz
    by_cases hx : x = a
    · have hlink : next' x = some b := by rw [hx, link]
      have heq : some z = some b := hz.symm.trans hlink
      rw [Option.some.inj heq]
      exact haway b free
    · apply ih
      unfold Follows
      rw [← others x hx]
      exact hz

theorem ends_congr (h : ∀ x, next' x = next x) (ends : ∀ x, Ends next x) (x : α) : Ends next' x := by
  have heq : next' = next := funext h
  rw [heq]
  exact ends x

end Chains
