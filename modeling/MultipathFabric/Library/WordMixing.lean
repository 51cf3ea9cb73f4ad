import Mathlib.Data.BitVec
import Mathlib.Data.Fintype.EquivFin
import Mathlib.Data.Finite.Prod

/-!
Steps by which a hash mixes a machine word, none of which loses a bit.
-/

namespace WordMixing

variable {w : ℕ} {x y : BitVec w}

theorem shifted_bit (x : BitVec w) (k i : ℕ) : (x >>> k).getLsbD i = x.getLsbD (k + i) :=
  BitVec.getLsbD_ushiftRight x k i

theorem xorShift_injective {k : ℕ} (hk : 0 < k) : Function.Injective fun x : BitVec w => x ^^^ x >>> k := by
  intro x y h
  have hbits : ∀ n i, w ≤ i + n → x.getLsbD i = y.getLsbD i := by
    intro n
    induction n with
    | zero =>
        intro i hi
        rw [BitVec.getLsbD_of_ge x i hi, BitVec.getLsbD_of_ge y i hi]
    | succ n ih =>
        intro i hi
        have hmixed := congrArg (fun z : BitVec w => z.getLsbD i) h
        simp only [BitVec.getLsbD_xor, shifted_bit, ih (k + i) (by omega)] at hmixed
        exact Bool.xor_left_inj.mp hmixed
  apply BitVec.eq_of_getLsbD_eq
  intro i _
  exact hbits w i (Nat.le_add_left w i)

theorem rotation_bit (x : BitVec w) {k i : ℕ} (hk : k ≤ w) (hi : i < w) :
    (x <<< k ||| x >>> (w - k)).getLsbD (if i + k < w then i + k else i + k - w) = x.getLsbD i := by
  rw [BitVec.getLsbD_or, shifted_bit, BitVec.getLsbD_shiftLeft]
  split
  · rename_i hlow
    have hout : x.getLsbD (w - k + (i + k)) = false := BitVec.getLsbD_of_ge x _ (by omega)
    have hpast : ¬i + k < k := by omega
    simp [hout, hlow, hpast]
  · rename_i hhigh
    have hback : w - k + (i + k - w) = i := by omega
    have hbelow : i + k - w < k := by omega
    simp [hback, hbelow]

theorem rotation_injective {k : ℕ} (hk : k ≤ w) :
    Function.Injective fun x : BitVec w => x <<< k ||| x >>> (w - k) := by
  intro x y h
  apply BitVec.eq_of_getLsbD_eq
  intro i hi
  have hx := rotation_bit x hk hi
  have hy := rotation_bit y hk hi
  dsimp only at h
  rw [h] at hx
  exact hx.symm.trans hy

theorem scale_injective {factor inverse : UInt64} (unit : factor * inverse = 1) :
    Function.Injective fun x : UInt64 => x * factor := by
  intro x y h
  have hproduct := congrArg (· * inverse) h
  simpa only [UInt64.mul_assoc, unit, UInt64.mul_one] using hproduct

theorem xorShift_word_injective {k : UInt64} (hk : k % 64 ≠ 0) :
    Function.Injective fun x : UInt64 => x ^^^ x >>> k := by
  intro x y h
  apply UInt64.toBitVec_inj.mp
  have hbits := congrArg UInt64.toBitVec h
  simp only [UInt64.toBitVec_xor, UInt64.toBitVec_shiftRight, BitVec.ushiftRight_eq'] at hbits
  refine xorShift_injective ?_ hbits
  rw [Nat.pos_iff_ne_zero]
  intro hzero
  exact hk (UInt64.toBitVec_inj.mp (BitVec.eq_of_toNat_eq hzero))

theorem rotation_word_injective {k j : UInt64} (hpos : k.toNat < 64) (hsum : k.toNat + j.toNat = 64) (hj : j.toNat < 64) :
    Function.Injective fun x : UInt64 => x <<< k ||| x >>> j := by
  intro x y h
  apply UInt64.toBitVec_inj.mp
  have hbits := congrArg UInt64.toBitVec h
  have hleft : (k.toBitVec % 64).toNat = k.toNat := by
    rw [BitVec.toNat_umod]
    exact Nat.mod_eq_of_lt hpos
  have hright : (j.toBitVec % 64).toNat = 64 - k.toNat := by
    rw [BitVec.toNat_umod]
    exact (Nat.mod_eq_of_lt hj).trans (by omega)
  simp only [UInt64.toBitVec_or, UInt64.toBitVec_shiftLeft, UInt64.toBitVec_shiftRight, BitVec.shiftLeft_eq',
    BitVec.ushiftRight_eq', hleft, hright] at hbits
  exact rotation_injective hpos.le hbits

instance finite_uint64 : Finite UInt64 := Finite.of_injective UInt64.toFin fun _ _ h => UInt64.toFin_inj.mp h

end WordMixing
