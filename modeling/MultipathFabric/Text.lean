import Mathlib.Data.List.Basic
import Mathlib.Tactic.IntervalCases
import Mathlib.Tactic.Linarith

namespace MultipathFabric

/-- A `std::string`: a sequence of bytes, not necessarily text. -/
abbrev Bytes := List UInt8

def text (s : String) : Bytes := s.toByteArray.data.toList

def decimal (n : Nat) : Bytes := (Nat.toDigits 10 n).map Char.toUInt8

def isDigit (c : UInt8) : Bool := decide (48 ≤ c ∧ c ≤ 57)

theorem isDigit_toUInt8 {c : Char} (h : c.isDigit = true) : isDigit c.toUInt8 = true := by
  simp only [Char.isDigit, Bool.and_eq_true, decide_eq_true_eq, UInt32.le_iff_toNat_le] at h
  have hlow : 48 ≤ c.val.toNat := h.1
  have hhigh : c.val.toNat ≤ 57 := h.2
  have hval : c.toUInt8.toNat = c.val.toNat := by
    simp only [Char.toUInt8, UInt32.toNat_toUInt8]
    omega
  simp only [isDigit, decide_eq_true_eq, UInt8.le_iff_toNat_le, hval]
  exact ⟨hlow, hhigh⟩

theorem decimal_digits (n : Nat) : (decimal n).all isDigit = true := by
  rw [List.all_eq_true]
  intro c hc
  obtain ⟨d, hd, rfl⟩ := List.mem_map.mp hc
  exact isDigit_toUInt8 (Nat.isDigit_of_mem_toDigits (by decide) (by decide) hd)

theorem decimal_ne_nil (n : Nat) : decimal n ≠ [] := by
  simp [decimal, Nat.toDigits_ne_nil]

theorem decimal_length_le {n k : Nat} (hk : 0 < k) (h : n < 10 ^ k) : (decimal n).length ≤ k := by
  rw [decimal, List.length_map]
  exact (Nat.length_toDigits_le_iff (by decide) hk).mpr h

theorem decimal_length_of_u64 (n : UInt64) : (decimal n.toNat).length ≤ 20 := by
  have h : n.toNat < 2 ^ 64 := n.toNat_lt
  exact decimal_length_le (by decide) (by omega)

end MultipathFabric
