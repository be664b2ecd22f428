import Mathlib.Data.Nat.Bitwise

/-!
# Unsigned keys for signed numbers and floats

Bit patterns that are compared as signed numbers, or as floats, are mapped to bit patterns that
compare alike as unsigned numbers, and back. For floats the order is the total order of the bits:
those with the sign bit come first, the greatest magnitude before all others.
-/

namespace Codon.Library.SortKeys

variable {w : Nat}

/-- The sign bit is flipped. -/
def flipSign (x : BitVec w) : BitVec w := x ^^^ BitVec.intMin w

/-- The sign bit is set if it was not, and all bits are flipped if it was. -/
def floatKey (x : BitVec w) : BitVec w := (x ||| BitVec.intMin w) ^^^ x.sshiftRight (w - 1)

/-- The way back. -/
def floatOfKey (x : BitVec w) : BitVec w :=
  (x &&& ~~~BitVec.intMin w) ^^^ (~~~x).sshiftRight (w - 1)

/-- The place of a float in the total order, relative to positive zero. -/
def floatRank (x : BitVec w) : Int :=
  if x.msb = true then ((2 ^ (w - 1) : Nat) : Int) - x.toNat - 1 else x.toNat

/-- Flipping the sign twice changes nothing. -/
theorem flip_sign_flip_sign (x : BitVec w) : flipSign (flipSign x) = x := by
  rw [flipSign, flipSign, BitVec.xor_assoc, BitVec.xor_self, BitVec.xor_zero]

/-- Shifting the sign through all bits. -/
theorem sshift_right_sign (h : 0 < w) (x : BitVec w) :
    x.sshiftRight (w - 1) = if x.msb = true then BitVec.allOnes w else 0#w := by
  refine BitVec.eq_of_getLsbD_eq fun i hi => ?_
  have hsign : (if w - 1 + i < w then x.getLsbD (w - 1 + i) else x.msb) = x.msb := by
    split_ifs with hlt
    · rw [show w - 1 + i = w - 1 by omega, BitVec.msb_eq_getLsbD_last]
    · rfl
  rw [BitVec.getLsbD_sshiftRight, hsign]
  cases x.msb <;> simp [hi]

/-- The key of a positive value has the sign set. -/
theorem float_key_of_pos (h : 0 < w) {x : BitVec w} (hx : x.msb = false) :
    floatKey x = x ||| BitVec.intMin w := by
  rw [floatKey, sshift_right_sign h, hx, if_neg Bool.false_ne_true, BitVec.xor_zero]

/-- Setting a sign that is set changes nothing. -/
theorem or_sign {x : BitVec w} (hx : x.msb = true) : x ||| BitVec.intMin w = x := by
  refine BitVec.eq_of_getLsbD_eq fun i hi => ?_
  rw [BitVec.getLsbD_or, BitVec.getLsbD_intMin]
  by_cases hlast : i + 1 = w
  · obtain rfl : i = w - 1 := by omega
    rw [← BitVec.msb_eq_getLsbD_last, hx, Bool.true_or]
  · simp [hlast]

/-- The key of a negative value is its complement. -/
theorem float_key_of_neg (h : 0 < w) {x : BitVec w} (hx : x.msb = true) : floatKey x = ~~~x := by
  rw [floatKey, sshift_right_sign h, hx, if_pos rfl, or_sign hx, BitVec.xor_allOnes]

/-- A value is read back from its key. -/
theorem float_of_key_float_key (h : 0 < w) (x : BitVec w) : floatOfKey (floatKey x) = x := by
  cases hx : x.msb with
  | false =>
      have hkey : (~~~(x ||| BitVec.intMin w)).msb = false := by
        simp [BitVec.msb_not, BitVec.msb_or, BitVec.msb_intMin, h]
      rw [float_key_of_pos h hx, floatOfKey, sshift_right_sign h, hkey, if_neg Bool.false_ne_true,
        BitVec.xor_zero]
      refine BitVec.eq_of_getLsbD_eq fun i hi => ?_
      rw [BitVec.getLsbD_and, BitVec.getLsbD_or, BitVec.getLsbD_not, BitVec.getLsbD_intMin]
      by_cases hlast : i + 1 = w
      · obtain rfl : i = w - 1 := by omega
        rw [← BitVec.msb_eq_getLsbD_last, hx]
        simp [hlast]
      · simp [hlast, hi]
  | true =>
      rw [float_key_of_neg h hx, floatOfKey, BitVec.not_not, sshift_right_sign h, hx, if_pos rfl,
        BitVec.xor_allOnes, ← BitVec.not_or, BitVec.not_not, or_sign hx]

/-- The parts of a number above and below the sign. -/
theorem to_nat_msb (h : 0 < w) (x : BitVec w) :
    2 ^ w = 2 * 2 ^ (w - 1) ∧
      x.toNat / 2 ^ (w - 1) = (if x.msb = true then 1 else 0) ∧ x.toNat < 2 ^ w := by
  have hpow : 2 ^ w = 2 * 2 ^ (w - 1) := by
    rw [← Nat.pow_succ', Nat.succ_eq_add_one, Nat.sub_add_cancel h]
  have hmsb := BitVec.msb_eq_decide x
  refine ⟨hpow, ?_, x.isLt⟩
  split_ifs with hx
  · have hle : 2 ^ (w - 1) ≤ x.toNat := by simpa [hx] using hmsb
    exact Nat.div_eq_of_lt_le (by omega) (by have := x.isLt; omega)
  · have hlt : x.toNat < 2 ^ (w - 1) := by simpa [hx] using hmsb
    exact Nat.div_eq_of_lt hlt

/-- As an unsigned number, the key of a signed number is larger by half the range. -/
theorem flip_sign_to_nat (h : 0 < w) (x : BitVec w) :
    ((flipSign x).toNat : Int) = x.toInt + (2 ^ (w - 1) : Nat) := by
  obtain ⟨hpow, hdiv, hlt⟩ := to_nat_msb h x
  have hpos := Nat.two_pow_pos (w - 1)
  have hhigh : (flipSign x).toNat / 2 ^ (w - 1) = x.toNat / 2 ^ (w - 1) ^^^ 1 := by
    rw [flipSign, BitVec.toNat_xor, BitVec.toNat_intMin_of_pos h, Nat.xor_div_two_pow,
      Nat.div_self hpos]
  have hlow : (flipSign x).toNat % 2 ^ (w - 1) = x.toNat % 2 ^ (w - 1) := by
    rw [flipSign, BitVec.toNat_xor, BitVec.toNat_intMin_of_pos h, Nat.xor_mod_two_pow,
      Nat.mod_self, Nat.xor_zero]
  -- the highest bit is flipped, and the lower ones are kept
  have hkey := Nat.div_add_mod (flipSign x).toNat (2 ^ (w - 1))
  have hself := Nat.div_add_mod x.toNat (2 ^ (w - 1))
  rw [hhigh, hlow, hdiv] at hkey
  rw [hdiv] at hself
  rw [BitVec.toInt_eq_msb_cond]
  generalize 2 ^ (w - 1) = half at *
  cases hx : x.msb with
  | false =>
      simp only [hx, Bool.false_eq_true, if_false, Nat.zero_xor, Nat.mul_one, Nat.mul_zero]
        at hkey hself ⊢
      omega
  | true =>
      simp only [hx, if_true, Nat.xor_self, Nat.mul_one, Nat.mul_zero, hpow] at hkey hself ⊢
      omega

/-- As an unsigned number, the key of a float is its rank, larger by half the range. -/
theorem float_key_to_nat (h : 0 < w) (x : BitVec w) :
    ((floatKey x).toNat : Int) = floatRank x + (2 ^ (w - 1) : Nat) := by
  obtain ⟨hpow, -, hlt⟩ := to_nat_msb h x
  have hmsb := BitVec.msb_eq_decide x
  cases hx : x.msb with
  | false =>
      have hsmall : x.toNat < 2 ^ (w - 1) := by simpa [hx] using hmsb
      have hor : (x ||| BitVec.intMin w).toNat = 2 ^ (w - 1) + x.toNat := by
        rw [BitVec.toNat_or, BitVec.toNat_intMin_of_pos h, Nat.or_comm]
        simpa using (Nat.two_pow_add_eq_or_of_lt hsmall 1).symm
      rw [float_key_of_pos h hx, hor, floatRank, hx, if_neg Bool.false_ne_true]
      omega
  | true =>
      rw [float_key_of_neg h hx, BitVec.toNat_not, floatRank, hx, if_pos rfl, hpow]
      rw [hpow] at hlt
      generalize 2 ^ (w - 1) = half at *
      omega

end Codon.Library.SortKeys
