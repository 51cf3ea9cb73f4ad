import MultipathFabric.Delivery
import Mathlib.Data.Nat.Digits.Defs

namespace MultipathFabric

open ByteCodec

def decimalValue (t : Bytes) : ℕ := Nat.ofDigits 10 (t.reverse.map fun c => c.toNat - 48)

theorem decimalValue_cons (c : UInt8) (t : Bytes) :
    decimalValue (c :: t) = (c.toNat - 48) * 10 ^ t.length + decimalValue t := by
  simp only [decimalValue, List.reverse_cons, List.map_append, List.map_singleton, Nat.ofDigits_append,
    Nat.ofDigits_singleton, List.length_map, List.length_reverse]
  rw [Nat.mul_comm, Nat.add_comm]

theorem isDigit_iff {c : UInt8} : isDigit c = true ↔ ¬(c < 48 ∨ 57 < c) := by
  simp only [isDigit, decide_eq_true_eq, UInt8.le_iff_toNat_le, UInt8.lt_iff_toNat_lt]
  omega

theorem digit_le {c : UInt8} (h : isDigit c = true) : c.toNat - 48 ≤ 9 := by
  simp only [isDigit, decide_eq_true_eq, UInt8.le_iff_toNat_le] at h
  have hhigh : c.toNat ≤ 57 := h.2
  omega

namespace Wire

theorem guard_iff {value digit : ℕ} (h : digit ≤ 9) :
    (2 ^ 64 - 1 - digit) / 10 < value ↔ 2 ^ 64 ≤ value * 10 + digit := by
  omega

theorem parseU64Digits_eq_some {t : Bytes} {value n : ℕ} (h : value < 2 ^ 64) :
    parseU64Digits t value = some n ↔
      t.all isDigit = true ∧ value * 10 ^ t.length + decimalValue t = n ∧ n < 2 ^ 64 := by
  induction t generalizing value with
  | nil =>
      simp only [parseU64Digits, Option.some.injEq, List.all_nil, List.length_nil, pow_zero, mul_one, true_and]
      constructor
      · rintro rfl
        exact ⟨rfl, h⟩
      · exact And.left
  | cons c rest ih =>
      rw [parseU64Digits, List.all_cons, Bool.and_eq_true]
      by_cases hdigit : isDigit c = true
      · have hsmall := digit_le hdigit
        rw [if_neg (isDigit_iff.mp hdigit)]
        -- Read from the front, every digit still to come multiplies what has been read by ten.
        have hvalue : value * 10 ^ (c :: rest).length + decimalValue (c :: rest) =
            (value * 10 + (c.toNat - 48)) * 10 ^ rest.length + decimalValue rest := by
          rw [decimalValue_cons, List.length_cons, pow_succ]
          ring
        rw [hvalue]
        by_cases hfits : value * 10 + (c.toNat - 48) < 2 ^ 64
        · have hpass : ¬(2 ^ 64 - 1 - (c.toNat - 48)) / 10 < value := by
            rw [guard_iff hsmall]
            omega
          simp only [hpass, if_false, ih hfits, hdigit, true_and]
        · have hstop : (2 ^ 64 - 1 - (c.toNat - 48)) / 10 < value := by
            rw [guard_iff hsmall]
            omega
          have hgrows : value * 10 + (c.toNat - 48) ≤ (value * 10 + (c.toNat - 48)) * 10 ^ rest.length :=
            Nat.le_mul_of_pos_right _ (by positivity)
          simp only [hstop, if_true]
          constructor
          · intro hnone
            cases hnone
          · rintro ⟨-, htotal, hn⟩
            omega
      · have hout : c < 48 ∨ 57 < c := by
          by_contra hin
          exact hdigit (isDigit_iff.mpr hin)
        simp only [hout, if_true, hdigit]
        constructor
        · intro hnone
          cases hnone
        · rintro ⟨⟨hfalse, -⟩, -⟩
          exact absurd hfalse (by simp)

/-- The loop on machine words, where a product or a sum that does not fit would wrap. -/
def parseU64Words : Bytes → UInt64 → Option UInt64
  | [], value => some value
  | c :: rest, value =>
      if c < 48 ∨ 57 < c then none
      else
        let digit := (c - 48).toUInt64
        if (0xFFFFFFFFFFFFFFFF - digit) / 10 < value then none else parseU64Words rest (value * 10 + digit)

theorem parseU64Words_eq (t : Bytes) (value : UInt64) :
    parseU64Words t value = (parseU64Digits t value.toNat).map UInt64.ofNat := by
  induction t generalizing value with
  | nil => simp [parseU64Words, parseU64Digits]
  | cons c rest ih =>
      rw [parseU64Words, parseU64Digits]
      by_cases hdigit : isDigit c = true
      · have hsmall := digit_le hdigit
        have hlow : (48 : UInt8) ≤ c := by
          simp only [isDigit, decide_eq_true_eq] at hdigit
          exact hdigit.1
        have hword : (c - 48).toUInt64.toNat = c.toNat - 48 := by
          rw [UInt8.toNat_toUInt64, UInt8.toNat_sub_of_le _ _ hlow]
          rfl
        have hsub : (0xFFFFFFFFFFFFFFFF - (c - 48).toUInt64 : UInt64).toNat = 2 ^ 64 - 1 - (c.toNat - 48) := by
          rw [UInt64.toNat_sub_of_le, hword]
          · rfl
          · rw [UInt64.le_iff_toNat_le, hword]
            exact hsmall.trans (by decide)
        have hguard : (0xFFFFFFFFFFFFFFFF - (c - 48).toUInt64) / 10 < value ↔
            (2 ^ 64 - 1 - (c.toNat - 48)) / 10 < value.toNat := by
          rw [UInt64.lt_iff_toNat_lt, UInt64.toNat_div, hsub]
          rfl
        simp only [if_neg (isDigit_iff.mp hdigit)]
        by_cases hstop : (2 ^ 64 - 1 - (c.toNat - 48)) / 10 < value.toNat
        · rw [if_pos hstop, if_pos (hguard.mpr hstop)]
          rfl
        · have hnext : (value * 10 + (c - 48).toUInt64).toNat = value.toNat * 10 + (c.toNat - 48) := by
            have hfits : value.toNat * 10 + (c.toNat - 48) < 2 ^ 64 := by
              have hno := (guard_iff hsmall).not.mp hstop
              omega
            rw [UInt64.toNat_add, UInt64.toNat_mul, hword, Nat.mod_add_mod]
            exact Nat.mod_eq_of_lt hfits
          rw [if_neg hstop, if_neg (hguard.not.mpr hstop), ih, hnext]
      · have hout : c < 48 ∨ 57 < c := by
          by_contra hin
          exact hdigit (isDigit_iff.mpr hin)
        rw [if_pos hout, if_pos hout]
        rfl

theorem parseU64_eq (t : Bytes) :
    parseU64 t =
      if t ≠ [] ∧ t.all isDigit = true ∧ decimalValue t < 2 ^ 64 then some (UInt64.ofNat (decimalValue t))
      else none := by
  have hdigits (n : ℕ) := @parseU64Digits_eq_some t 0 n (by norm_num)
  simp only [Nat.zero_mul, Nat.zero_add] at hdigits
  by_cases hempty : t = []
  · subst hempty
    rfl
  · have hne : t.isEmpty = false := by rwa [List.isEmpty_eq_false_iff]
    simp only [parseU64, hne, Bool.false_eq_true, if_false, ne_eq, hempty, not_false_eq_true, true_and]
    split
    · rename_i haccepted
      rw [(hdigits _).mpr ⟨haccepted.1, rfl, haccepted.2⟩]
      rfl
    · rename_i hrefused
      cases hread : parseU64Digits t 0 with
      | none => rfl
      | some n =>
          obtain ⟨hall, hvalue, hlt⟩ := (hdigits n).mp hread
          rw [← hvalue] at hlt
          exact absurd ⟨hall, hlt⟩ hrefused

theorem present_some {α : Type} {x : Option α} {bytes rest : Bytes} {value : α}
    (h : Reader.present x bytes = some (value, rest)) : x = some value ∧ rest = bytes := by
  obtain ⟨v, hv, heq⟩ := Option.map_eq_some_iff.mp h
  cases heq
  exact ⟨hv, rfl⟩

theorem present_identity {d : IdDomain} {id other : StrongId d} {bytes rest : Bytes}
    (h : Reader.present (StrongId.parse id.view) bytes = some (other, rest)) : id.valid = true ∧ rest = bytes := by
  obtain ⟨hparse, hrest⟩ := present_some h
  have hsame : other = id := StrongId.ext (StrongId.view_of_parse hparse)
  rw [← hsame]
  exact ⟨StrongId.valid_of_parse hparse, hrest⟩

theorem present_generation {d : GenerationDomain} {g other : Generation d} {bytes rest : Bytes}
    (h : Reader.present (Generation.fromValue g.value) bytes = some (other, rest)) :
    g.valid = true ∧ rest = bytes := by
  obtain ⟨hvalue, hrest⟩ := present_some h
  refine ⟨?_, hrest⟩
  by_contra hunset
  have hzero : g.value = 0 := by simpa [Generation.valid] using hunset
  rw [hzero] at hvalue
  cases hvalue

theorem optionalGeneration_some {d : GenerationDomain} {g : Option (Generation d)} {bytes : Bytes}
    {read : Option (Generation d) × Bytes}
    (h : optionalGeneration ((g.map fun g => decimal g.value.toNat).getD []) bytes = some read) :
    (∀ value, g = some value → value.valid = true) ∧ read.2 = bytes := by
  cases g with
  | none =>
      cases h
      refine ⟨fun _ hnone => ?_, rfl⟩
      cases hnone
  | some g =>
      have hne : (decimal g.value.toNat).isEmpty = false := by
        rw [List.isEmpty_eq_false_iff]
        exact decimal_ne_nil _
      simp only [Option.map_some, Option.getD_some, optionalGeneration, hne, Bool.false_eq_true, if_false,
        parseU64_decimal] at h
      obtain ⟨value, rest, hvalue, h⟩ := Reader.bind_some h
      obtain ⟨hnumber, hrest⟩ := present_some hvalue
      cases hnumber
      obtain ⟨other, left, hother, h⟩ := Reader.bind_some h
      obtain ⟨hvalid, hleft⟩ := present_generation hother
      cases h
      refine ⟨?_, hleft.trans hrest⟩
      rintro _ ⟨⟩
      exact hvalid

theorem sendable_of_readContext {context : MutationContext} {rest : Bytes} {read : MutationContext × Bytes}
    (h : readContext (encode (contextFields context) ++ rest) = some read) : context.Sendable := by
  unfold readContext contextFields at h
  simp only [List.cons_append, List.nil_append] at h
  rw [(Reader.u64_takes _).run_field, (id_takes _).run_field, (id_takes _).run_field, (id_takes _).run_field,
    (id_takes _).run_field, (optionalNumber_takes _).run_fields] at h
  have hmember := (optionalNumber_takes context.expectedMemberGeneration)
  rw [hmember.run] at h
  obtain ⟨_, _, hepoch, h⟩ := Reader.bind_some h
  obtain ⟨_, _, hpublisher, h⟩ := Reader.bind_some h
  obtain ⟨_, _, hboot, h⟩ := Reader.bind_some h
  obtain ⟨_, _, hsession, h⟩ := Reader.bind_some h
  obtain ⟨_, _, hattempt, h⟩ := Reader.bind_some h
  obtain ⟨_, _, hset, h⟩ := Reader.bind_some h
  obtain ⟨_, _, hexpected, h⟩ := Reader.bind_some h
  exact
    { epoch := (present_generation hepoch).1
      publisher := (present_identity hpublisher).1
      workerBoot := (present_identity hboot).1
      session := (present_identity hsession).1
      attempt := (present_identity hattempt).1
      expectedSet := (optionalGeneration_some hset).1
      expectedMember := (optionalGeneration_some hexpected).1 }

theorem readContext_encoded {context : MutationContext} (rest : Bytes) :
    (context.Sendable → readContext (encode (contextFields context) ++ rest) = some (context, rest)) ∧
      (¬context.Sendable → readContext (encode (contextFields context) ++ rest) = none) := by
  refine ⟨fun h => readContext_takes h rest, fun h => ?_⟩
  cases hread : readContext (encode (contextFields context) ++ rest) with
  | none => rfl
  | some read => exact absurd (sendable_of_readContext hread) h

theorem writeContext_ok (context : MutationContext) :
    ((ByteWriter.start maxPayload).writeAll (contextFields context)).ok = true := by
  have hcompact := compact_context context
  have hlength := contextFields_length context
  have hbytes := encode_length_le hcompact
  have hmax : maxPayload = 1048576 := rfl
  refine (ByteWriter.start_ok _ _).mpr ⟨List.all_eq_true.mpr fun f hf => (hcompact f hf).1, ?_⟩
  have hproduct := Nat.mul_le_mul_right 132 hlength
  omega

/-- A context with an expected generation of zero is written, and refused when it is read back. -/
theorem parseU64_loses_unset :
    ¬∀ (context : MutationContext), context.hasCallerIdentity = true → ∃ rest, ∃ read : MutationContext,
      readContext ((ByteWriter.start maxPayload).writeAll (contextFields context)).buffer = some (read, rest) ∧
        read.expectedSetGeneration = context.expectedSetGeneration ∧
          read.expectedMemberGeneration = context.expectedMemberGeneration := by
  intro h
  let context := { sampleContext "a1" with expectedSetGeneration := some .unset }
  obtain ⟨rest, read, hread, -⟩ := h context (by decide +kernel)
  have hnone : readContext ((ByteWriter.start maxPayload).writeAll (contextFields context)).buffer = none := by
    decide +kernel
  rw [hnone] at hread
  cases hread

theorem parseU64_exact :
    (∀ (t : Bytes) (n : UInt64),
      parseU64 t = some n ↔ t ≠ [] ∧ t.all isDigit = true ∧ decimalValue t = n.toNat) ∧
    (∀ t : Bytes, (parseU64 t).isSome = true ↔ t ≠ [] ∧ t.all isDigit = true ∧ decimalValue t < 2 ^ 64) ∧
    (∀ t : Bytes, parseU64 t = if t.isEmpty then none else parseU64Words t 0) ∧
    (∀ n : UInt64, parseU64 (decimal n.toNat) = some n) ∧
    ∀ (context : MutationContext) (rest : Bytes),
      let written := (ByteWriter.start maxPayload).writeAll (contextFields context)
      written.ok = true ∧
        (∀ read left, readContext (written.buffer ++ rest) = some (read, left) →
          read.expectedSetGeneration = context.expectedSetGeneration ∧
            read.expectedMemberGeneration = context.expectedMemberGeneration ∧ left = rest) ∧
        ((readContext (written.buffer ++ rest)).isSome = true ↔ context.Sendable) := by
  refine ⟨fun t n => ?_, fun t => ?_, fun t => ?_, parseU64_decimal, fun context rest => ?_⟩
  · rw [parseU64_eq]
    have hlt : n.toNat < 2 ^ 64 := n.toNat_lt
    split
    · rename_i haccepted
      constructor
      · intro h
        rw [← Option.some.inj h, UInt64.toNat_ofNat', Nat.mod_eq_of_lt haccepted.2.2]
        exact ⟨haccepted.1, haccepted.2.1, rfl⟩
      · rintro ⟨-, -, hvalue⟩
        rw [hvalue, UInt64.ofNat_toNat]
    · rename_i hrefused
      constructor
      · intro h
        cases h
      · rintro ⟨hne, hall, hvalue⟩
        rw [← hvalue] at hlt
        exact absurd ⟨hne, hall, hlt⟩ hrefused
  · rw [parseU64_eq]
    split
    · rename_i haccepted
      simpa using haccepted
    · rename_i hrefused
      simpa using hrefused
  · rw [parseU64, parseU64Words_eq]
    rfl
  · have hok := writeContext_ok context
    obtain ⟨haccepts, hrefuses⟩ := @readContext_encoded context rest
    simp only [ByteWriter.start_buffer hok, hok, true_and]
    by_cases hsendable : context.Sendable
    · rw [haccepts hsendable]
      refine ⟨fun read left h => ?_, iff_of_true rfl hsendable⟩
      cases h
      exact ⟨rfl, rfl, rfl⟩
    · rw [hrefuses hsendable]
      refine ⟨fun read left h => ?_, iff_of_false (by simp) hsendable⟩
      cases h

end Wire

end MultipathFabric
