import Mathlib.Logic.Basic

/-!
A file that is replaced through a temporary file, with the file before it kept as a backup.
-/

namespace FileReplacement

variable {α β : Type}

structure Files (α : Type) where
  target : Option α
  temporary : Option α
  backup : Option α

/-- How far a replacement has come: its content is ready, the temporary file is written, the backup is removed, the
target is out of the way. -/
inductive Phase
  | ready | written | cleared | rotated
  deriving DecidableEq

namespace Files

def map (f : α → β) (d : Files α) : Files β := ⟨d.target.map f, d.temporary.map f, d.backup.map f⟩

def advance (d : Files α) (x : α) : Phase → Option (Files α × Option Phase)
  | .ready => some ({ d with temporary := some x }, some .written)
  | .written =>
      match d.target with
      | some _ => some ({ d with backup := none }, some .cleared)
      | none => some (d, some .rotated)
  | .cleared => d.target.map fun old => ({ d with target := none, backup := some old }, some .rotated)
  | .rotated => d.temporary.map fun new => ({ d with target := some new, temporary := none }, none)

def source (readable : α → Bool) (d : Files α) : Option α := (d.target.filter readable).or (d.backup.filter readable)

def Holds (d : Files α) (x : α) : Prop := d.target = some x ∨ d.temporary = some x ∨ d.backup = some x

variable {d d' : Files α} {x y : α} {phase : Phase} {next : Option Phase} {readable : α → Bool}

theorem holds_of_advance (h : d.advance x phase = some (d', next)) (holds : d'.Holds y) : d.Holds y ∨ y = x := by
  cases phase with
  | ready =>
      simp only [advance, Option.some.injEq, Prod.mk.injEq] at h
      obtain ⟨rfl, _⟩ := h
      rcases holds with h | h | h
      · exact .inl (.inl h)
      · exact .inr (Option.some.inj h).symm
      · exact .inl (.inr (.inr h))
  | written =>
      cases htarget : d.target with
      | some old =>
          simp only [advance, htarget, Option.some.injEq, Prod.mk.injEq] at h
          obtain ⟨rfl, _⟩ := h
          rcases holds with h | h | h
          · exact .inl (.inl (htarget.trans h))
          · exact .inl (.inr (.inl h))
          · cases h
      | none =>
          simp only [advance, htarget, Option.some.injEq, Prod.mk.injEq] at h
          rw [h.1]
          exact .inl holds
  | cleared =>
      obtain ⟨old, hold, hstep⟩ := Option.map_eq_some_iff.mp h
      cases hstep
      rcases holds with h | h | h
      · cases h
      · exact .inl (.inr (.inl h))
      · exact .inl (.inl (hold.trans h))
  | rotated =>
      obtain ⟨new, hnew, hstep⟩ := Option.map_eq_some_iff.mp h
      cases hstep
      rcases holds with h | h | h
      · exact .inl (.inr (.inl (hnew.trans h)))
      · cases h
      · exact .inl (.inr (.inr h))

theorem holds_of_source (h : d.source readable = some x) : d.Holds x ∧ readable x = true := by
  unfold source at h
  rcases Option.or_eq_some_iff.mp h with htarget | ⟨_, hbackup⟩
  · obtain ⟨hx, hreadable⟩ := Option.filter_eq_some_iff.mp htarget
    exact ⟨.inl hx, hreadable⟩
  · obtain ⟨hx, hreadable⟩ := Option.filter_eq_some_iff.mp hbackup
    exact ⟨.inr (.inr hx), hreadable⟩

end Files

/-- The states of one undisturbed replacement of `x`, with the phase it is in until it is done. -/
inductive Replacing (start : Files α) (x : α) : Files α → Option Phase → Prop
  | begun : Replacing start x start (some .ready)
  | step {d d' : Files α} {phase : Phase} {next : Option Phase} (run : Replacing start x d (some phase))
      (h : d.advance x phase = some (d', next)) : Replacing start x d' next

def Replaces (start : Files α) (x : α) (d : Files α) : Option Phase → Prop
  | some .ready => d = start
  | some .written => d = { start with temporary := some x }
  | some .cleared => start.target.isSome = true ∧ d = ⟨start.target, some x, none⟩
  | some .rotated => d = ⟨none, some x, start.target.or start.backup⟩
  | none => d = ⟨some x, none, start.target.or start.backup⟩

theorem Replacing.replaces {start d : Files α} {x : α} {phase : Option Phase} (h : Replacing start x d phase) :
    Replaces start x d phase := by
  induction h with
  | begun => rfl
  | @step d d' phase next _ hstep ih =>
      cases phase with
      | ready =>
          cases hstep
          change _ = _ at ih
          rw [ih]
          rfl
      | written =>
          change _ = _ at ih
          subst ih
          cases htarget : start.target with
          | some old =>
              simp only [Files.advance, htarget, Option.some.injEq, Prod.mk.injEq] at hstep
              obtain ⟨rfl, rfl⟩ := hstep
              refine ⟨?_, ?_⟩
              · rw [htarget]
                rfl
              · rw [htarget]
          | none =>
              simp only [Files.advance, htarget, Option.some.injEq, Prod.mk.injEq] at hstep
              obtain ⟨rfl, rfl⟩ := hstep
              change _ = _
              rw [htarget]
              rfl
      | cleared =>
          obtain ⟨hsome, rfl⟩ := ih
          obtain ⟨old, hold, hmoved⟩ := Option.map_eq_some_iff.mp hstep
          cases hmoved
          change _ = _
          dsimp only at hold
          rw [hold]
          rfl
      | rotated =>
          change _ = _ at ih
          subst ih
          cases hstep
          rfl

theorem Replacing.done (start : Files α) (x : α) :
    Replacing start x ⟨some x, none, start.target.or start.backup⟩ none := by
  have hwritten : Replacing start x { start with temporary := some x } (some .written) := .step .begun rfl
  have hrotated : Replacing start x ⟨none, some x, start.target.or start.backup⟩ (some .rotated) := by
    cases htarget : start.target with
    | none =>
        refine .step hwritten ?_
        simp only [Files.advance, htarget, Option.none_or]
    | some old =>
        have hcleared : Replacing start x ⟨some old, some x, none⟩ (some .cleared) := by
          refine .step hwritten ?_
          simp only [Files.advance, htarget]
        exact .step hcleared rfl
  exact .step hrotated rfl

section

variable {start d : Files α} {x : α} {phase : Option Phase} {readable : α → Bool}

theorem Replacing.source (h : Replacing start x d phase) (target : ∀ old, start.target = some old → readable old = true) :
    d.source readable = start.source readable ∨ d.source readable = some x := by
  have hreplaces := h.replaces
  have hrotated : (start.target.or start.backup).filter readable = start.source readable := by
    unfold Files.source
    cases htarget : start.target with
    | none => rfl
    | some old =>
        have hreadable := target old htarget
        rw [Option.filter_some_pos hreadable]
        exact Option.filter_some_pos hreadable
  cases phase with
  | none =>
      rw [hreplaces]
      unfold Files.source
      dsimp only
      cases hx : readable x with
      | true => exact .inr (by rw [Option.filter_some_pos hx, Option.some_or])
      | false =>
          left
          rw [Option.filter_some_neg hx, hrotated]
          rfl
  | some phase =>
      left
      cases phase with
      | ready =>
          rw [hreplaces]
      | written =>
          rw [hreplaces]
          rfl
      | cleared =>
          obtain ⟨hsome, rfl⟩ := hreplaces
          obtain ⟨old, hold⟩ := Option.isSome_iff_exists.mp hsome
          unfold Files.source
          dsimp only
          rw [hold, Option.filter_some_pos (target old hold)]
          rfl
      | rotated =>
          rw [hreplaces]
          unfold Files.source
          dsimp only
          rw [hrotated]
          rfl

theorem Replacing.target (h : Replacing start x d phase) (present : start.target.isSome = true)
    (rotated : phase ≠ some .rotated) : d.target.isSome = true := by
  have hreplaces := h.replaces
  cases phase with
  | none =>
      rw [hreplaces]
      rfl
  | some phase =>
      cases phase with
      | ready =>
          rw [hreplaces]
          exact present
      | written =>
          rw [hreplaces]
          exact present
      | cleared =>
          rw [hreplaces.2]
          exact present
      | rotated => exact absurd rfl rotated

end

end FileReplacement
