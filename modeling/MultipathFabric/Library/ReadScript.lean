import MultipathFabric.Library.ByteCursor

/-!
Decoders as the reads that they make, on the remaining bytes and on a cursor: a decoder that is such a script never leaves
its buffer, and what it accepts is described along with it.
-/

namespace ByteCodec

inductive Read
  | u8 | u16 | u32 | u64 | boolean
  | string (bound : ℕ)

namespace Read

def Value : Read → Type
  | .u8 => UInt8
  | .u16 => UInt16
  | .u32 => UInt32
  | .u64 => UInt64
  | .boolean => Bool
  | .string _ => List UInt8

def reader : (r : Read) → Reader r.Value
  | .u8 => Reader.u8
  | .u16 => Reader.u16
  | .u32 => Reader.u32
  | .u64 => Reader.u64
  | .boolean => Reader.boolean
  | .string bound => Reader.string bound

def cursor : (r : Read) → Cursor → Option (Option r.Value × Cursor)
  | .u8 => Cursor.u8
  | .u16 => Cursor.u16
  | .u32 => Cursor.u32
  | .u64 => Cursor.u64
  | .boolean => Cursor.boolean
  | .string bound => Cursor.string bound

theorem follows (r : Read) : Cursor.Follows r.cursor r.reader := by
  cases r with
  | u8 => exact Cursor.u8_follows
  | u16 => exact Cursor.u16_follows
  | u32 => exact Cursor.u32_follows
  | u64 => exact Cursor.u64_follows
  | boolean => exact Cursor.boolean_follows
  | string bound => exact Cursor.string_follows bound

end Read

/-- The reads of a decoder, each with the error that its failure is answered with. -/
inductive Script (ε α : Type)
  | done (a : α)
  | fail (e : ε)
  | read (r : Read) (e : ε) (next : r.Value → Script ε α)

namespace Script

variable {ε ε' α β : Type}

def run : Script ε α → Decoder ε α
  | .done a => fun bytes => .ok (a, bytes)
  | .fail e => fun _ => .error e
  | .read r e next => fun bytes =>
      match r.reader bytes with
      | some (value, rest) => (next value).run rest
      | none => .error e

/-- The same reads on a cursor; `none` is a read outside the buffer. -/
def exec : Script ε α → Cursor → Option (Except ε α × Cursor)
  | .done a, c => some (.ok a, c)
  | .fail e, c => some (.error e, c)
  | .read r e next, c => do
      let (value, c) ← r.cursor c
      match value with
      | some value => (next value).exec c
      | none => pure (.error e, c)

def bind : Script ε α → (α → Script ε β) → Script ε β
  | .done a, f => f a
  | .fail e, _ => .fail e
  | .read r e next, f => .read r e fun value => (next value).bind f

def mapError (g : ε → ε') : Script ε α → Script ε' α
  | .done a => .done a
  | .fail e => .fail (g e)
  | .read r e next => .read r (g e) fun value => (next value).mapError g

theorem run_bind (s : Script ε α) (f : α → Script ε β) (bytes : List UInt8) :
    (s.bind f).run bytes = (s.run bytes).bind fun result => (f result.1).run result.2 := by
  induction s generalizing bytes with
  | done a => rfl
  | fail e => rfl
  | read r e next ih =>
      rw [bind, run, run]
      dsimp only
      cases r.reader bytes with
      | none => rfl
      | some result => exact ih result.1 result.2

theorem run_mapError (s : Script ε α) (g : ε → ε') (bytes : List UInt8) :
    (s.mapError g).run bytes = (s.run bytes).mapError g := by
  induction s generalizing bytes with
  | done a => rfl
  | fail e => rfl
  | read r e next ih =>
      rw [mapError, run, run]
      dsimp only
      cases r.reader bytes with
      | none => rfl
      | some result => exact ih result.1 result.2

theorem exec_ok {s : Script ε α} {c : Cursor} (ok : c.ok = true) (inside : c.offset ≤ c.data.length) {a : α}
    {rest : List UInt8} (h : s.run (c.data.drop c.offset) = .ok (a, rest)) :
    ∃ offset, s.exec c = some (.ok a, { c with offset := offset }) ∧ offset ≤ c.data.length ∧
      rest = c.data.drop offset := by
  induction s generalizing c with
  | done b =>
      cases h
      exact ⟨c.offset, rfl, inside, rfl⟩
  | fail e => cases h
  | read r e next ih =>
      rw [run] at h
      dsimp only at h
      cases hread : r.reader (c.data.drop c.offset) with
      | none =>
          rw [hread] at h
          cases h
      | some result =>
          rw [hread] at h
          obtain ⟨middle, hcursor, hmiddle, hrest⟩ := r.follows.reads c result.1 result.2 ok inside hread
          dsimp only at h
          rw [hrest] at h
          obtain ⟨offset, hexec, hoffset, hleft⟩ := ih result.1 (c := { c with offset := middle }) ok hmiddle h
          refine ⟨offset, ?_, hoffset, hleft⟩
          rw [exec, hcursor]
          exact hexec

theorem exec_error {s : Script ε α} {c : Cursor} (ok : c.ok = true) (inside : c.offset ≤ c.data.length) {e : ε}
    (h : s.run (c.data.drop c.offset) = .error e) :
    ∃ after : Cursor, s.exec c = some (.error e, after) ∧ after.data = c.data ∧ after.offset ≤ c.data.length := by
  induction s generalizing c with
  | done b => cases h
  | fail e =>
      cases h
      exact ⟨c, rfl, rfl, inside⟩
  | read r failure next ih =>
      rw [run] at h
      dsimp only at h
      cases hread : r.reader (c.data.drop c.offset) with
      | none =>
          rw [hread] at h
          cases h
          obtain ⟨offset, hcursor, hoffset⟩ := r.follows.fails c ok inside hread
          refine ⟨{ c with offset := offset, ok := false }, ?_, rfl, hoffset⟩
          rw [exec, hcursor]
          rfl
      | some result =>
          rw [hread] at h
          obtain ⟨middle, hcursor, hmiddle, hrest⟩ := r.follows.reads c result.1 result.2 ok inside hread
          dsimp only at h
          rw [hrest] at h
          obtain ⟨after, hexec, hdata, hoffset⟩ := ih result.1 (c := { c with offset := middle }) ok hmiddle h
          refine ⟨after, ?_, hdata, hoffset⟩
          rw [exec, hcursor]
          exact hexec

end Script

structure Reader.Safe {α : Type} (p : Reader α) (good : α → Prop) : Prop where
  scripted : ∃ s : Script Unit α, ∀ bytes, p bytes = (s.run bytes).toOption
  yields : ∀ bytes value rest, p bytes = some (value, rest) → good value

namespace Reader.Safe

variable {α β : Type} {p : Reader α} {f : α → Reader β} {good : α → Prop} {better : β → Prop}

theorem done {a : α} (h : good a) : Safe (pure a) good := by
  refine ⟨⟨.done a, fun _ => rfl⟩, ?_⟩
  intro bytes value rest hread
  cases hread
  exact h

theorem any (a : α) : Safe (pure a) fun _ => True := done trivial

theorem bind (hp : Safe p good) (hf : ∀ a, good a → Safe (f a) better) : Safe (p >>= f) better := by
  obtain ⟨s, hs⟩ := hp.scripted
  have hnext : ∀ a, ∃ t : Script Unit β, good a → ∀ bytes, f a bytes = (t.run bytes).toOption := by
    intro a
    by_cases ha : good a
    · obtain ⟨t, ht⟩ := (hf a ha).scripted
      exact ⟨t, fun _ => ht⟩
    · exact ⟨.fail (), fun h => absurd h ha⟩
  choose next hnext using hnext
  constructor
  · refine ⟨s.bind next, fun bytes => ?_⟩
    rw [Script.run_bind]
    change (p bytes).bind (fun result => f result.1 result.2) = _
    have hbytes := hs bytes
    cases hrun : s.run bytes with
    | error e =>
        rw [hrun] at hbytes
        rw [hbytes]
        rfl
    | ok result =>
        rw [hrun] at hbytes
        rw [hbytes]
        exact hnext result.1 (hp.yields bytes result.1 result.2 hbytes) result.2
  · intro bytes value rest hread
    obtain ⟨a, left, hp', hf'⟩ := Reader.bind_some hread
    exact (hf a (hp.yields bytes a left hp')).yields left value rest hf'

theorem read (r : Read) : Safe r.reader fun _ => True := by
  refine ⟨⟨.read r () fun value => .done value, fun bytes => ?_⟩, fun _ _ _ _ => trivial⟩
  rw [Script.run]
  dsimp only
  cases r.reader bytes with
  | none => rfl
  | some result => rfl

theorem u8 {f : UInt8 → Reader β} (h : ∀ value, Safe (f value) better) : Safe (Reader.u8 >>= f) better :=
  (read .u8).bind fun value _ => h value

theorem u16 {f : UInt16 → Reader β} (h : ∀ value, Safe (f value) better) : Safe (Reader.u16 >>= f) better :=
  (read .u16).bind fun value _ => h value

theorem u32 {f : UInt32 → Reader β} (h : ∀ value, Safe (f value) better) : Safe (Reader.u32 >>= f) better :=
  (read .u32).bind fun value _ => h value

theorem u64 {f : UInt64 → Reader β} (h : ∀ value, Safe (f value) better) : Safe (Reader.u64 >>= f) better :=
  (read .u64).bind fun value _ => h value

theorem boolean {f : Bool → Reader β} (h : ∀ value, Safe (f value) better) : Safe (Reader.boolean >>= f) better :=
  (read .boolean).bind fun value _ => h value

theorem string {bound : ℕ} {f : List UInt8 → Reader β} (h : ∀ value, Safe (f value) better) :
    Safe (Reader.string bound >>= f) better :=
  (read (.string bound)).bind fun value _ => h value

theorem present {x : Option α} (h : ∀ a, x = some a → Safe (f a) better) : Safe (Reader.present x >>= f) better := by
  cases x with
  | none =>
      refine ⟨⟨.fail (), fun _ => rfl⟩, ?_⟩
      intro bytes value rest hread
      cases hread
  | some a =>
      have hvalue : Safe (Reader.present (some a)) fun b => b = a := done rfl
      exact hvalue.bind fun b hb => h b (congrArg some hb.symm)

theorem mono (h : Safe p good) {weaker : α → Prop} (hgood : ∀ a, good a → weaker a) : Safe p weaker :=
  ⟨h.scripted, fun bytes value rest hread => hgood value (h.yields bytes value rest hread)⟩

end Reader.Safe

structure Decoder.Safe {ε α : Type} (p : Decoder ε α) (good : α → Prop) : Prop where
  scripted : ∃ s : Script ε α, ∀ bytes, p bytes = s.run bytes
  yields : Yields p good

namespace Decoder.Safe

variable {ε α β : Type} [Nonempty ε] {p : Decoder ε α} {f : α → Decoder ε β} {good : α → Prop} {better : β → Prop}
  {failure : ε}

omit [Nonempty ε] in
theorem done {a : α} (h : good a) : Safe (pure a : Decoder ε α) good := ⟨⟨.done a, fun _ => rfl⟩, .pure h⟩

theorem step (hp : Safe p good) (hf : ∀ a, good a → Safe (f a) better) : Safe (p >>= f) better := by
  obtain ⟨s, hs⟩ := hp.scripted
  have hnext : ∀ a, ∃ t : Script ε β, good a → ∀ bytes, f a bytes = t.run bytes := by
    intro a
    by_cases ha : good a
    · obtain ⟨t, ht⟩ := (hf a ha).scripted
      exact ⟨t, fun _ => ht⟩
    · exact ⟨.fail (Classical.arbitrary ε), fun h => absurd h ha⟩
  choose next hnext using hnext
  refine ⟨⟨s.bind next, fun bytes => ?_⟩, .bind hp.yields fun a ha => (hf a ha).yields⟩
  rw [Script.run_bind]
  change (p bytes).bind (fun result => f result.1 result.2) = _
  have hbytes := hs bytes
  cases hrun : s.run bytes with
  | error e =>
      rw [hrun] at hbytes
      rw [hbytes]
      rfl
  | ok result =>
      rw [hrun] at hbytes
      rw [hbytes]
      exact hnext result.1 (hp.yields bytes result.1 result.2 hbytes) result.2

omit [Nonempty ε] in
theorem group_only {p : Reader α} (h : Reader.Safe p good) : Safe (Decoder.group p failure) good := by
  obtain ⟨s, hs⟩ := h.scripted
  constructor
  · refine ⟨s.mapError fun _ => failure, fun bytes => ?_⟩
    rw [Script.run_mapError, Decoder.group, hs bytes]
    cases s.run bytes with
    | error e => rfl
    | ok result => rfl
  · intro bytes value rest hread
    unfold Decoder.group at hread
    split at hread
    · rename_i result hresult
      cases hread
      exact h.yields bytes value rest hresult
    · cases hread

theorem group {p : Reader α} (h : Reader.Safe p good) (hf : ∀ a, good a → Safe (f a) better) :
    Safe (Decoder.group p failure >>= f) better := (group_only h).step hf

omit [Nonempty ε] in
theorem present_only {x : Option α} (h : ∀ a, x = some a → good a) : Safe (Decoder.present x failure) good := by
  cases x with
  | none =>
      refine ⟨⟨.fail failure, fun _ => rfl⟩, ?_⟩
      intro bytes value rest hread
      cases hread
  | some a => exact done (h a rfl)

theorem present {x : Option α} (h : ∀ a, x = some a → Safe (f a) better) :
    Safe (Decoder.present x failure >>= f) better := by
  have hvalue : Safe (Decoder.present x failure) fun a => x = some a := present_only fun _ ha => ha
  exact hvalue.step h

theorem check {condition : Bool} {f : Unit → Decoder ε β} (h : condition = true → Safe (f ()) better) :
    Safe (Decoder.check condition failure >>= f) better := by
  have honly : Safe (Decoder.check condition failure) fun _ => condition = true := by
    cases condition with
    | true => exact done rfl
    | false =>
        refine ⟨⟨.fail failure, fun _ => rfl⟩, ?_⟩
        intro bytes value rest hread
        cases hread
  exact honly.step fun _ => h

theorem times (h : Safe p good) (n : ℕ) : Safe (Decoder.times p n) fun l => l.length = n ∧ ∀ a ∈ l, good a := by
  induction n with
  | zero => exact done ⟨rfl, fun a ha => absurd ha List.not_mem_nil⟩
  | succ n ih =>
      refine h.step fun a ha => ih.step fun rest hrest => done ⟨congrArg Nat.succ hrest.1, ?_⟩
      intro b hb
      rcases List.mem_cons.mp hb with rfl | hb
      · exact ha
      · exact hrest.2 b hb

omit [Nonempty ε] in
theorem mono (h : Safe p good) {weaker : α → Prop} (hgood : ∀ a, good a → weaker a) : Safe p weaker :=
  ⟨h.scripted, fun bytes value rest hread => hgood value (h.yields bytes value rest hread)⟩

omit [Nonempty ε] in
theorem and {other : α → Prop} (h : Safe p good) (y : Yields p other) : Safe p fun a => good a ∧ other a :=
  ⟨h.scripted, fun bytes value rest hread => ⟨h.yields bytes value rest hread, y bytes value rest hread⟩⟩

end Decoder.Safe

/-- A decoder that reads its buffer through a cursor and nothing outside of it: it comes to the same answer, and it has
accepted with the cursor at its end exactly when no byte is left. -/
def Decoder.InBounds {ε α : Type} (p : Decoder ε α) : Prop :=
  ∃ s : Script ε α, ∀ data : List UInt8,
    (∀ value rest, p data = .ok (value, rest) → ∃ after : Cursor, s.exec (Cursor.start data) = some (.ok value, after) ∧
      after.data = data ∧ after.offset ≤ data.length ∧ rest = data.drop after.offset ∧
        (after.atEnd = true ↔ rest = [])) ∧
    ∀ e, p data = .error e → ∃ after : Cursor, s.exec (Cursor.start data) = some (.error e, after) ∧
      after.data = data ∧ after.offset ≤ data.length

theorem Decoder.Safe.inBounds {ε α : Type} {p : Decoder ε α} {good : α → Prop} (h : Safe p good) : p.InBounds := by
  obtain ⟨s, hs⟩ := h.scripted
  refine ⟨s, fun data => ⟨fun value rest hread => ?_, fun e hread => ?_⟩⟩
  · rw [hs] at hread
    obtain ⟨offset, hexec, hoffset, hrest⟩ := Script.exec_ok (c := Cursor.start data) rfl (Nat.zero_le _) hread
    refine ⟨_, hexec, rfl, hoffset, hrest, ?_⟩
    change (true && offset == data.length) = true ↔ _
    change rest = data.drop offset at hrest
    change offset ≤ data.length at hoffset
    rw [hrest, Bool.true_and, beq_iff_eq, List.drop_eq_nil_iff]
    omega
  · rw [hs] at hread
    exact Script.exec_error (c := Cursor.start data) rfl (Nat.zero_le _) hread

end ByteCodec
