import MultipathFabric.Library.ByteCodec
import Mathlib.Tactic.Ring

/-!
A reader that keeps its buffer, an offset into it and a flag that a failed read takes down, and how the reader over the
remaining bytes follows it. `none` stands for a read outside the buffer.
-/

namespace ByteCodec

structure Cursor where
  data : List UInt8
  offset : ℕ
  ok : Bool

namespace Cursor

def start (data : List UInt8) : Cursor := ⟨data, 0, true⟩

def atEnd (c : Cursor) : Bool := c.ok && c.offset == c.data.length

def require (c : Cursor) (count : ℕ) : Bool × Cursor :=
  if !c.ok then (false, c)
  else if c.data.length - c.offset < count then (false, { c with ok := false })
  else (true, c)

def gather (c : Cursor) : ℕ → Option ℕ
  | 0 => some 0
  | i + 1 => do
      let value ← c.gather i
      let b ← c.data[c.offset + i]?
      pure (value ||| b.toNat <<< (8 * i))

def copy (c : Cursor) : ℕ → Option (List UInt8)
  | 0 => some []
  | i + 1 => do
      let copied ← c.copy i
      let b ← c.data[c.offset + i]?
      pure (copied ++ [b])

def number (width : ℕ) (c : Cursor) : Option (Option ℕ × Cursor) :=
  let (ready, c) := c.require width
  if ready then do
    let value ← c.gather width
    pure (some value, { c with offset := c.offset + width })
  else pure (none, c)

def u8 (c : Cursor) : Option (Option UInt8 × Cursor) := do
  let (value, c) ← c.number 1
  pure (value.map UInt8.ofNat, c)

def u16 (c : Cursor) : Option (Option UInt16 × Cursor) := do
  let (value, c) ← c.number 2
  pure (value.map UInt16.ofNat, c)

def u32 (c : Cursor) : Option (Option UInt32 × Cursor) := do
  let (value, c) ← c.number 4
  pure (value.map UInt32.ofNat, c)

def u64 (c : Cursor) : Option (Option UInt64 × Cursor) := do
  let (value, c) ← c.number 8
  pure (value.map UInt64.ofNat, c)

def boolean (c : Cursor) : Option (Option Bool × Cursor) := do
  let (value, c) ← c.u8
  match value with
  | none => pure (none, c)
  | some b => if 1 < b then pure (none, { c with ok := false }) else pure (some (b == 1), c)

def raw (count : ℕ) (c : Cursor) : Option (Option (List UInt8) × Cursor) :=
  let (ready, c) := c.require count
  if ready then do
    let value ← c.copy count
    pure (some value, { c with offset := c.offset + count })
  else pure (none, c)

def string (bound : ℕ) (c : Cursor) : Option (Option (List UInt8) × Cursor) := do
  let (length, c) ← c.u32
  match length with
  | none => pure (none, c)
  | some length =>
      if bound < length.toNat then pure (none, { c with ok := false })
      else c.raw length.toNat

variable {α : Type}

/-- The read succeeds where the reader of the remaining bytes does, on the same value and leaving the same bytes; nothing
outside the buffer is read, a failure takes the flag down, and a reader whose flag is down only fails. -/
structure Follows (read : Cursor → Option (Option α × Cursor)) (p : Reader α) : Prop where
  sticky : ∀ c, c.ok = false → read c = some (none, c)
  reads : ∀ (c : Cursor) (value : α) (rest : List UInt8), c.ok = true → c.offset ≤ c.data.length →
    p (c.data.drop c.offset) = some (value, rest) →
      ∃ offset, read c = some (some value, { c with offset := offset }) ∧ offset ≤ c.data.length ∧
        rest = c.data.drop offset
  fails : ∀ c : Cursor, c.ok = true → c.offset ≤ c.data.length → p (c.data.drop c.offset) = none →
    ∃ offset, read c = some (none, { c with offset := offset, ok := false }) ∧ offset ≤ c.data.length

section Reads

variable {c : Cursor} {n : ℕ}

theorem require_ok (ok : c.ok = true) (h : c.offset + n ≤ c.data.length) : c.require n = (true, c) := by
  have hroom : ¬c.data.length - c.offset < n := by omega
  simp only [require, ok, Bool.not_true, Bool.false_eq_true, if_false, hroom]

theorem require_short (ok : c.ok = true) (inside : c.offset ≤ c.data.length) (h : c.data.length < c.offset + n) :
    c.require n = (false, { c with ok := false }) := by
  have hroom : c.data.length - c.offset < n := by omega
  simp only [require, ok, Bool.not_true, Bool.false_eq_true, if_false, hroom, if_true]

theorem require_failed (ok : c.ok = false) : c.require n = (false, c) := by
  simp only [require, ok, Bool.not_false, if_true]

theorem copy_eq (h : c.offset + n ≤ c.data.length) : c.copy n = some ((c.data.drop c.offset).take n) := by
  induction n with
  | zero => rfl
  | succ n ih =>
      have hinside : c.offset + n < c.data.length := by omega
      have hlast : (c.data.drop c.offset)[n]? = some c.data[c.offset + n] := by
        rw [List.getElem?_drop, List.getElem?_eq_getElem hinside]
      rw [copy, ih (by omega), List.getElem?_eq_getElem hinside, List.take_add_one, hlast]
      rfl

theorem fromLittleEndian_concat (bytes : List UInt8) (b : UInt8) :
    fromLittleEndian (bytes ++ [b]) = fromLittleEndian bytes + 256 ^ bytes.length * b.toNat := by
  induction bytes with
  | nil => simp [fromLittleEndian]
  | cons a rest ih =>
      rw [List.cons_append, fromLittleEndian, ih, fromLittleEndian, List.length_cons, pow_succ]
      ring

theorem gather_eq (h : c.offset + n ≤ c.data.length) :
    c.gather n = some (fromLittleEndian ((c.data.drop c.offset).take n)) := by
  induction n with
  | zero => rfl
  | succ n ih =>
      have hinside : c.offset + n < c.data.length := by omega
      have hlast : (c.data.drop c.offset)[n]? = some c.data[c.offset + n] := by
        rw [List.getElem?_drop, List.getElem?_eq_getElem hinside]
      have hlength : ((c.data.drop c.offset).take n).length = n := by
        rw [List.length_take, List.length_drop]
        omega
      have hlow := fromLittleEndian_lt ((c.data.drop c.offset).take n)
      have hsplit : (c.data.drop c.offset).take (n + 1) =
          (c.data.drop c.offset).take n ++ [c.data[c.offset + n]] := by
        rw [List.take_add_one, hlast]
        rfl
      have hpower : 256 ^ n = 2 ^ (8 * n) := by
        rw [pow_mul]
        rfl
      rw [hlength, hpower] at hlow
      rw [gather, ih (by omega), List.getElem?_eq_getElem hinside, hsplit, fromLittleEndian_concat, hlength, hpower]
      change some _ = _
      rw [Nat.or_comm, ← Nat.shiftLeft_add_eq_or_of_lt hlow, Nat.shiftLeft_eq, Nat.add_comm, Nat.mul_comm]

theorem number_follows (width : ℕ) : Follows (number width) (Reader.number width) := by
  constructor
  · intro c ok
    simp only [number, require_failed ok]
    rfl
  · intro c value rest ok inside h
    unfold Reader.number Reader.raw at h
    by_cases hroom : width ≤ (c.data.drop c.offset).length
    · rw [if_pos hroom] at h
      cases h
      rw [List.length_drop] at hroom
      refine ⟨c.offset + width, ?_, by omega, by rw [List.drop_drop]⟩
      simp only [number, require_ok ok (show c.offset + width ≤ c.data.length by omega),
        gather_eq (show c.offset + width ≤ c.data.length by omega)]
      rfl
    · rw [if_neg hroom] at h
      cases h
  · intro c ok inside h
    unfold Reader.number Reader.raw at h
    by_cases hroom : width ≤ (c.data.drop c.offset).length
    · rw [if_pos hroom] at h
      cases h
    · rw [List.length_drop] at hroom
      refine ⟨c.offset, ?_, inside⟩
      simp only [number, require_short ok inside (show c.data.length < c.offset + width by omega)]
      rfl

theorem raw_follows (count : ℕ) : Follows (raw count) (Reader.raw count) := by
  constructor
  · intro c ok
    simp only [raw, require_failed ok]
    rfl
  · intro c value rest ok inside h
    unfold Reader.raw at h
    by_cases hroom : count ≤ (c.data.drop c.offset).length
    · rw [if_pos hroom] at h
      cases h
      rw [List.length_drop] at hroom
      refine ⟨c.offset + count, ?_, by omega, by rw [List.drop_drop]⟩
      simp only [raw, require_ok ok (show c.offset + count ≤ c.data.length by omega),
        copy_eq (show c.offset + count ≤ c.data.length by omega)]
      rfl
    · rw [if_neg hroom] at h
      cases h
  · intro c ok inside h
    unfold Reader.raw at h
    by_cases hroom : count ≤ (c.data.drop c.offset).length
    · rw [if_pos hroom] at h
      cases h
    · rw [List.length_drop] at hroom
      refine ⟨c.offset, ?_, inside⟩
      simp only [raw, require_short ok inside (show c.data.length < c.offset + count by omega)]
      rfl

theorem Follows.map {β : Type} {read : Cursor → Option (Option α × Cursor)} {p : Reader α} (h : Follows read p)
    (f : α → β) {q : Reader β} (same : ∀ bytes, q bytes = (p bytes).map fun result => (f result.1, result.2)) :
    Follows (fun c => do
      let (value, c) ← read c
      pure (value.map f, c)) q := by
  constructor
  · intro c ok
    rw [h.sticky c ok]
    rfl
  · intro c value rest ok inside hq
    rw [same] at hq
    obtain ⟨⟨a, left⟩, hp, hvalue⟩ := Option.map_eq_some_iff.mp hq
    cases hvalue
    obtain ⟨offset, hread, hbound, hrest⟩ := h.reads c a left ok inside hp
    refine ⟨offset, ?_, hbound, hrest⟩
    rw [hread]
    rfl
  · intro c ok inside hq
    rw [same, Option.map_eq_none_iff] at hq
    obtain ⟨offset, hread, hbound⟩ := h.fails c ok inside hq
    refine ⟨offset, ?_, hbound⟩
    rw [hread]
    rfl

theorem u8_follows : Follows u8 Reader.u8 := by
  refine (number_follows 1).map UInt8.ofNat fun bytes => ?_
  cases bytes with
  | nil => rfl
  | cons b rest => simp [Reader.u8, Reader.number, Reader.raw, fromLittleEndian]

theorem u16_follows : Follows u16 Reader.u16 := (number_follows 2).map UInt16.ofNat fun _ => rfl

theorem u32_follows : Follows u32 Reader.u32 := (number_follows 4).map UInt32.ofNat fun _ => rfl

theorem u64_follows : Follows u64 Reader.u64 := (number_follows 8).map UInt64.ofNat fun _ => rfl

theorem boolean_of_u8 (bytes : List UInt8) :
    Reader.boolean bytes = (Reader.u8 bytes).bind fun result =>
      if 1 < result.1 then none else some (result.1 == 1, result.2) := by
  cases bytes with
  | nil => rfl
  | cons b rest => rfl

theorem boolean_follows : Follows boolean Reader.boolean := by
  constructor
  · intro c ok
    rw [boolean, u8_follows.sticky c ok]
    rfl
  · intro c value rest ok inside h
    rw [boolean_of_u8] at h
    obtain ⟨⟨b, left⟩, hbyte, hvalue⟩ := Option.bind_eq_some_iff.mp h
    obtain ⟨offset, hread, hbound, hrest⟩ := u8_follows.reads c b left ok inside hbyte
    dsimp only at hvalue
    split at hvalue
    · cases hvalue
    · rename_i hsmall
      cases hvalue
      refine ⟨offset, ?_, hbound, hrest⟩
      rw [boolean, hread]
      exact if_neg hsmall
  · intro c ok inside h
    rw [boolean_of_u8] at h
    cases hbyte : Reader.u8 (c.data.drop c.offset) with
    | none =>
        obtain ⟨offset, hread, hbound⟩ := u8_follows.fails c ok inside hbyte
        refine ⟨offset, ?_, hbound⟩
        rw [boolean, hread]
        rfl
    | some result =>
        obtain ⟨offset, hread, hbound, hrest⟩ := u8_follows.reads c result.1 result.2 ok inside hbyte
        rw [hbyte] at h
        dsimp only [Option.bind_some] at h
        split at h
        · rename_i hbig
          refine ⟨offset, ?_, hbound⟩
          rw [boolean, hread]
          exact if_pos hbig
        · cases h

theorem string_of_u32 (bound : ℕ) (bytes : List UInt8) :
    Reader.string bound bytes = (Reader.u32 bytes).bind fun result =>
      if bound < result.1.toNat then none else Reader.raw result.1.toNat result.2 := by
  unfold Reader.string Reader.u32
  cases hlength : Reader.number 4 bytes with
  | none => rfl
  | some result =>
      obtain ⟨-, hbound⟩ := Reader.number_exact 4 (show Reader.number 4 bytes = some (result.1, result.2) from hlength)
      have hword : (UInt32.ofNat result.1).toNat = result.1 := by
        rw [UInt32.toNat_ofNat']
        exact Nat.mod_eq_of_lt hbound
      simp only [Option.map_some, Option.bind_some, hword]

theorem string_follows (bound : ℕ) : Follows (string bound) (Reader.string bound) := by
  constructor
  · intro c ok
    rw [string, u32_follows.sticky c ok]
    rfl
  · intro c value rest ok inside h
    rw [string_of_u32] at h
    obtain ⟨⟨length, left⟩, hlength, hvalue⟩ := Option.bind_eq_some_iff.mp h
    obtain ⟨offset, hread, hbound, hleft⟩ := u32_follows.reads c length left ok inside hlength
    dsimp only at hvalue
    split at hvalue
    · cases hvalue
    · rename_i hsmall
      rw [hleft] at hvalue
      obtain ⟨after, hraw, hafter, hrest⟩ := (raw_follows length.toNat).reads { c with offset := offset } value rest ok
        hbound hvalue
      refine ⟨after, ?_, hafter, hrest⟩
      rw [string, hread]
      exact (if_neg hsmall).trans hraw
  · intro c ok inside h
    rw [string_of_u32] at h
    cases hlength : Reader.u32 (c.data.drop c.offset) with
    | none =>
        obtain ⟨offset, hread, hbound⟩ := u32_follows.fails c ok inside hlength
        refine ⟨offset, ?_, hbound⟩
        rw [string, hread]
        rfl
    | some result =>
        obtain ⟨offset, hread, hbound, hleft⟩ := u32_follows.reads c result.1 result.2 ok inside hlength
        rw [hlength] at h
        dsimp only [Option.bind_some] at h
        split at h
        · rename_i hbig
          refine ⟨offset, ?_, hbound⟩
          rw [string, hread]
          exact if_pos hbig
        · rename_i hsmall
          rw [hleft] at h
          obtain ⟨after, hraw, hafter⟩ := (raw_follows result.1.toNat).fails { c with offset := offset } ok hbound h
          refine ⟨after, ?_, hafter⟩
          rw [string, hread]
          exact (if_neg hsmall).trans hraw

end Reads

end Cursor

end ByteCodec
