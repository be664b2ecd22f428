import Mathlib.Data.Nat.Bitwise

/-!
# Aligning with bit masks

Rounding up to a multiple of a power of two by a mask of its complement, in a machine word
of `w` bits, and reading off from one bit whether a multiple of `2 ^ j` is one of
`2 ^ (j + 1)`.
-/

namespace Codon.Library

/-- `(n + a - 1) & -a` in words of `w` bits. -/
def maskUp (w n a : Nat) : Nat := (n + a - 1) &&& (2 ^ w - a)

/-- Masking with the complement of a power of two clears the low bits. -/
theorem and_complement {w n k : Nat} (hk : k ≤ w) (hn : n < 2 ^ w) :
    n &&& (2 ^ w - 2 ^ k) = n / 2 ^ k * 2 ^ k := by
  have hcomplement : 2 ^ w - 2 ^ k = 2 ^ w - ((2 ^ k - 1) + 1) := by
    have hpos := Nat.two_pow_pos k
    omega
  have hlt : 2 ^ k - 1 < 2 ^ w := by
    have hle := Nat.pow_le_pow_right (n := 2) (by omega) hk
    have hpos := Nat.two_pow_pos k
    omega
  rw [← Nat.shiftRight_eq_div_pow, ← Nat.shiftLeft_eq]
  refine Nat.eq_of_testBit_eq fun i => ?_
  rw [Nat.testBit_and, hcomplement, Nat.testBit_two_pow_sub_succ hlt, Nat.testBit_two_pow_sub_one,
    Nat.testBit_shiftLeft, Nat.testBit_shiftRight]
  by_cases hki : k ≤ i
  · rw [Nat.add_sub_cancel' hki]
    by_cases hiw : i < w
    · simp [hki, hiw]
    · have hhigh : n.testBit i = false :=
        Nat.testBit_lt_two_pow (hn.trans_le (Nat.pow_le_pow_right (by omega) (by omega)))
      simp [hhigh]
  · simp [hki, Nat.lt_of_not_le hki]

/-- Rounding up to a multiple of a power of two. -/
theorem mask_up_spec {w n k : Nat} (hk : k ≤ w) (hn : n + 2 ^ k ≤ 2 ^ w) :
    2 ^ k ∣ maskUp w n (2 ^ k) ∧ n ≤ maskUp w n (2 ^ k) ∧ maskUp w n (2 ^ k) < n + 2 ^ k := by
  have hpos := Nat.two_pow_pos k
  have heq : maskUp w n (2 ^ k) = (n + 2 ^ k - 1) / 2 ^ k * 2 ^ k :=
    and_complement hk (by omega)
  have hdiv := Nat.div_add_mod (n + 2 ^ k - 1) (2 ^ k)
  have hmod := Nat.mod_lt (n + 2 ^ k - 1) hpos
  rw [Nat.mul_comm] at hdiv
  rw [heq]
  exact ⟨Nat.dvd_mul_left _ _, by omega, by omega⟩

/-- A multiple of `2 ^ j` with its bit `j` clear is a multiple of `2 ^ (j + 1)`; adding `2 ^ j` to
one with the bit set gives such a multiple. -/
theorem dvd_of_and_two_pow {n j : Nat} (h : 2 ^ j ∣ n) :
    2 ^ (j + 1) ∣ if n &&& 2 ^ j ≠ 0 then n + 2 ^ j else n := by
  obtain ⟨m, rfl⟩ := h
  have hbit : (2 ^ j * m).testBit j = m.testBit 0 := by
    rw [Nat.testBit_two_pow_mul]
    simp
  have hand : 2 ^ j * m &&& 2 ^ j ≠ 0 ↔ m % 2 = 1 := by
    rw [Nat.and_two_pow, hbit, Nat.testBit_zero]
    by_cases hodd : m % 2 = 1
    · simp [hodd]
    · simp [hodd]
  rw [pow_succ]
  split_ifs with hset
  · obtain ⟨q, hq⟩ : ∃ q, m + 1 = 2 * q := ⟨(m + 1) / 2, by have := hand.1 hset; omega⟩
    exact ⟨q, by rw [Nat.mul_assoc, ← hq, Nat.mul_add, Nat.mul_one]⟩
  · obtain ⟨q, hq⟩ : ∃ q, m = 2 * q := ⟨m / 2, by
      have hclear : ¬m % 2 = 1 := fun h => hset (hand.2 h)
      omega⟩
    exact ⟨q, by rw [hq, Nat.mul_assoc]⟩

end Codon.Library
