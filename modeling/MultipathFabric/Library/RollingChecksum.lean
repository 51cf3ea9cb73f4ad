import Mathlib.Data.List.Basic
import Mathlib.Logic.Function.Basic

/-!
Checksums that roll over a list of symbols, one step for each symbol.
-/

namespace RollingChecksum

variable {σ β : Type} {step : σ → β → σ}

/-- A step that confuses neither two states under one symbol nor two symbols in one state. -/
structure Separates (step : σ → β → σ) : Prop where
  states : ∀ b s s', step s b = step s' b → s = s'
  symbols : ∀ s b b', step s b = step s b' → b = b'

theorem Separates.foldl (h : Separates step) {symbols : List β} {s s' : σ}
    (same : symbols.foldl step s = symbols.foldl step s') : s = s' := by
  induction symbols generalizing s s' with
  | nil => exact same
  | cons b rest ih => exact h.states b s s' (ih same)

theorem Separates.replaced (h : Separates step) {before after : List β} {b b' : β} {s : σ}
    (same : (before ++ b :: after).foldl step s = (before ++ b' :: after).foldl step s) : b = b' := by
  rw [List.foldl_append, List.foldl_append, List.foldl_cons, List.foldl_cons] at same
  exact h.symbols _ _ _ (h.foldl same)

theorem Separates.set (h : Separates step) {symbols : List β} {i : ℕ} (inside : i < symbols.length) {b : β} {s : σ}
    (same : (symbols.set i b).foldl step s = symbols.foldl step s) : b = symbols[i] := by
  have hset : symbols.set i b = symbols.take i ++ b :: symbols.drop (i + 1) := by
    rw [List.set_eq_take_append_cons_drop, if_pos inside]
  have hown : symbols = symbols.take i ++ symbols[i] :: symbols.drop (i + 1) := by
    rw [← List.drop_eq_getElem_cons inside, List.take_append_drop]
  rw [hset] at same
  nth_rewrite 3 [hown] at same
  exact h.replaced same

def DifferOnce (s t : List β) : Prop := s.length = t.length ∧ ∃! i : ℕ, s[i]? ≠ t[i]?

namespace DifferOnce

variable {s t : List β} {b b' : β}

theorem head (h : b ≠ b') (rest : List β) : DifferOnce (b :: rest) (b' :: rest) := by
  refine ⟨rfl, 0, ?_, ?_⟩
  · simpa using h
  · intro i hi
    cases i with
    | zero => rfl
    | succ i => exact absurd rfl hi

theorem cons (h : DifferOnce s t) (b : β) : DifferOnce (b :: s) (b :: t) := by
  obtain ⟨hlength, i, hi, hunique⟩ := h
  refine ⟨congrArg Nat.succ hlength, i + 1, hi, ?_⟩
  intro j hj
  cases j with
  | zero => exact absurd rfl hj
  | succ j => exact congrArg Nat.succ (hunique j hj)

theorem append_left (h : DifferOnce s t) (before : List β) : DifferOnce (before ++ s) (before ++ t) := by
  induction before with
  | nil => exact h
  | cons b before ih => exact ih.cons b

theorem split (h : DifferOnce s t) :
    ∃ before b b' after, b ≠ b' ∧ s = before ++ b :: after ∧ t = before ++ b' :: after := by
  induction s generalizing t with
  | nil =>
      obtain ⟨hlength, i, hi, -⟩ := h
      rw [List.length_eq_zero_iff.mp hlength.symm] at hi
      exact absurd rfl hi
  | cons b s ih =>
      obtain ⟨hlength, i, hi, hunique⟩ := h
      cases t with
      | nil => cases hlength
      | cons b' t =>
          cases i with
          | zero =>
              refine ⟨[], b, b', s, by simpa using hi, rfl, ?_⟩
              have hrest : s = t := by
                apply List.ext_getElem?
                intro j
                by_contra hj
                exact absurd (hunique (j + 1) hj) (Nat.succ_ne_zero j)
              rw [hrest, List.nil_append]
          | succ i =>
              have hfirst : b = b' := by
                by_contra hne
                have hzero := hunique 0 (by simpa using hne)
                omega
              have honce : DifferOnce s t := by
                refine ⟨Nat.succ.inj hlength, i, hi, fun j hj => ?_⟩
                exact Nat.succ.inj (hunique (j + 1) hj)
              obtain ⟨before, c, c', after, hne, rfl, rfl⟩ := ih honce
              exact ⟨b :: before, c, c', after, hne, rfl, by rw [hfirst, List.cons_append]⟩

theorem append_right (h : DifferOnce s t) (after : List β) : DifferOnce (s ++ after) (t ++ after) := by
  obtain ⟨before, b, b', rest, hne, rfl, rfl⟩ := h.split
  rw [List.append_assoc, List.append_assoc]
  exact (head hne (rest ++ after)).append_left before

end DifferOnce

theorem Separates.differOnce (h : Separates step) {s t : List β} (apart : DifferOnce s t) (start : σ) :
    s.foldl step start ≠ t.foldl step start := by
  obtain ⟨before, b, b', after, hne, rfl, rfl⟩ := apart.split
  exact fun same => hne (h.replaced same)

end RollingChecksum
