import Mathlib.Algebra.GroupWithZero.Divisibility
import Mathlib.Tactic.Ring

/-!
# Binary floating-point formats

The magnitude of a floating-point number as a natural number, in units of the smallest
subnormal number of its format, and rounding to nearest, ties to even. With the sign left
out, the encodings of a format are the natural numbers in the order of their magnitudes, so
that a subnormal number, a normal number and a carry into the exponent need no cases:
`nearest` shifts the significant bits out and adds the binade.
-/

namespace Codon.Library

/-- The magnitude of the encoding `bits`, with `p` bits of fraction. -/
def magnitude (p bits : Nat) : Nat :=
  if bits / 2 ^ p = 0 then bits % 2 ^ p
  else (2 ^ p + bits % 2 ^ p) * 2 ^ (bits / 2 ^ p - 1)

/-- `n / 2 ^ s`, rounded to nearest, ties to even. -/
def roundShift (n s : Nat) : Nat :=
  if 2 ^ s < 2 * (n % 2 ^ s) ∨ (2 ^ s = 2 * (n % 2 ^ s) ∧ n / 2 ^ s % 2 = 1) then n / 2 ^ s + 1
  else n / 2 ^ s

/-- How many bits are shifted out when the magnitude `n / 2 ^ t` is rounded. -/
def roundedBits (p t n : Nat) : Nat := max t (n.log2 - p)

/-- The encoding nearest to the magnitude `n / 2 ^ t`, if the exponent is unbounded. -/
def nearest (p t n : Nat) : Nat :=
  (roundedBits p t n - t) * 2 ^ p + roundShift n (roundedBits p t n)

/-- The bits that are shifted out leave `p + 1` bits, and all of them are used unless only the `t`
bits are shifted out. -/
theorem rounded_bits_spec (p t n : Nat) :
    t ≤ roundedBits p t n ∧ n < 2 ^ (roundedBits p t n + p + 1) ∧
      (t < roundedBits p t n → 2 ^ (roundedBits p t n + p) ≤ n) := by
  have hle : n.log2 + 1 ≤ roundedBits p t n + p + 1 := by
    unfold roundedBits
    omega
  refine ⟨Nat.le_max_left .., Nat.lt_log2_self.trans_le (Nat.pow_le_pow_right (by omega) hle),
    fun hlt => ?_⟩
  have hlog : roundedBits p t n + p = n.log2 := by
    unfold roundedBits at hlt ⊢
    omega
  have hn : n ≠ 0 := by
    rintro rfl
    rw [Nat.log2_zero] at hlog
    omega
  rw [hlog]
  exact Nat.log2_self_le hn

/-- The number of bits that are shifted out is the only one with these properties. -/
theorem rounded_bits_eq {p t n s : Nat} (hts : t ≤ s) (hn : n < 2 ^ (s + p + 1))
    (hlow : t < s → 2 ^ (s + p) ≤ n) : roundedBits p t n = s := by
  obtain ⟨hle, hlt, hhigh⟩ := rounded_bits_spec p t n
  generalize roundedBits p t n = s' at hle hlt hhigh ⊢
  have hpow {a b : Nat} (h : 2 ^ a < 2 ^ b) : a < b := (Nat.pow_lt_pow_iff_right (by omega)).1 h
  rcases Nat.lt_trichotomy s' s with h | h | h
  · have := hpow ((hlow (by omega)).trans_lt hlt)
    omega
  · exact h
  · have := hpow ((hhigh (by omega)).trans_lt hn)
    omega

/-- Shifting out zeros rounds nothing. -/
theorem round_shift_of_dvd {n s : Nat} (h : 2 ^ s ∣ n) : roundShift n s = n / 2 ^ s := by
  have hpos : 0 < 2 ^ s := Nat.two_pow_pos s
  rw [roundShift, Nat.mod_eq_zero_of_dvd h, if_neg (by omega)]

/-- A subnormal number. -/
theorem magnitude_subnormal {p bits : Nat} (h : bits < 2 ^ p) : magnitude p bits = bits := by
  rw [magnitude, Nat.div_eq_of_lt h, if_pos rfl, Nat.mod_eq_of_lt h]

/-- A normal number of the binade `k`, whose significand is `q`. -/
theorem magnitude_normal {p q : Nat} (k : Nat) (hlow : 2 ^ p ≤ q) (hhigh : q < 2 ^ (p + 1)) :
    magnitude p (k * 2 ^ p + q) = q * 2 ^ k := by
  have hpos : 0 < 2 ^ p := Nat.two_pow_pos p
  obtain ⟨m, rfl⟩ := Nat.exists_eq_add_of_le hlow
  have hm : m < 2 ^ p := by
    rw [Nat.pow_succ] at hhigh
    omega
  have hbits : k * 2 ^ p + (2 ^ p + m) = m + 2 ^ p * (k + 1) := by ring
  rw [hbits, magnitude, Nat.add_mul_div_left _ _ hpos, Nat.add_mul_mod_self_left,
    Nat.div_eq_of_lt hm, Nat.mod_eq_of_lt hm, if_neg (by omega)]
  simp

/-- An encoding is that of a subnormal number or that of a normal one. -/
theorem encoding_cases (p bits : Nat) :
    bits < 2 ^ p ∨ ∃ k q, 2 ^ p ≤ q ∧ q < 2 ^ (p + 1) ∧ bits = k * 2 ^ p + q := by
  have hpos : 0 < 2 ^ p := Nat.two_pow_pos p
  rcases Nat.lt_or_ge bits (2 ^ p) with h | h
  · exact .inl h
  · have hmod := Nat.mod_lt bits hpos
    refine .inr ⟨bits / 2 ^ p - 1, 2 ^ p + bits % 2 ^ p, by omega, by rw [Nat.pow_succ]; omega, ?_⟩
    have hone : 1 ≤ bits / 2 ^ p := (Nat.one_le_div_iff hpos).2 h
    obtain ⟨e, he⟩ := Nat.exists_eq_add_of_le hone
    conv_lhs => rw [← Nat.div_add_mod bits (2 ^ p), he]
    rw [he, Nat.add_sub_cancel_left]
    ring

/-- A magnitude has at most `p + 1` significant bits. -/
theorem magnitude_eq (p bits : Nat) : ∃ q k, q < 2 ^ (p + 1) ∧ magnitude p bits = q * 2 ^ k := by
  rcases encoding_cases p bits with h | ⟨k, q, hlow, hhigh, rfl⟩
  · refine ⟨bits, 0, h.trans_le (Nat.pow_le_pow_right (by omega) (by omega)), ?_⟩
    rw [magnitude_subnormal h, pow_zero, Nat.mul_one]
  · exact ⟨q, k, hhigh, magnitude_normal k hlow hhigh⟩

/-- The encodings below `(e + 1) * 2 ^ p` have magnitudes below `2 ^ (p + e)`, ... -/
theorem magnitude_lt {p e bits : Nat} (h : bits < (e + 1) * 2 ^ p) :
    magnitude p bits < 2 ^ (p + e) := by
  rcases encoding_cases p bits with hlow | ⟨k, q, hlow, hhigh, rfl⟩
  · rw [magnitude_subnormal hlow]
    exact hlow.trans_le (Nat.pow_le_pow_right (by omega) (by omega))
  · have hk : k < e := by
      by_contra hk
      have := Nat.mul_le_mul_right (2 ^ p) (Nat.le_of_not_lt hk)
      rw [Nat.add_mul] at h
      omega
    rw [magnitude_normal k hlow hhigh]
    calc q * 2 ^ k
        < 2 ^ (p + 1) * 2 ^ k := Nat.mul_lt_mul_of_pos_right hhigh (Nat.two_pow_pos k)
      _ = 2 ^ (p + 1 + k) := (Nat.pow_add ..).symm
      _ ≤ 2 ^ (p + e) := Nat.pow_le_pow_right (by omega) (by omega)

/-- ... and only those. -/
theorem lt_of_magnitude_lt {p e bits : Nat} (h : magnitude p bits < 2 ^ (p + e)) :
    bits < (e + 1) * 2 ^ p := by
  rcases encoding_cases p bits with hlow | ⟨k, q, hlow, hhigh, rfl⟩
  · exact hlow.trans_le (Nat.le_mul_of_pos_left _ (by omega))
  · rw [magnitude_normal k hlow hhigh] at h
    have hlt : 2 ^ (p + k) < 2 ^ (p + e) := by
      rw [Nat.pow_add]
      exact (Nat.mul_le_mul_right _ hlow).trans_lt h
    have hk : k + 2 ≤ e + 1 := by
      have := (Nat.pow_lt_pow_iff_right (by omega)).1 hlt
      omega
    rw [Nat.pow_succ] at hhigh
    calc k * 2 ^ p + q
        < (k + 2) * 2 ^ p := by rw [Nat.add_mul]; omega
      _ ≤ (e + 1) * 2 ^ p := Nat.mul_le_mul_right _ hk

/-- Rounding a magnitude of the format gives its encoding back. -/
theorem nearest_magnitude (p t bits : Nat) : nearest p t (magnitude p bits * 2 ^ t) = bits := by
  have hpos (a : Nat) : 0 < 2 ^ a := Nat.two_pow_pos a
  rcases encoding_cases p bits with h | ⟨k, q, hlow, hhigh, rfl⟩
  · have hbits : roundedBits p t (bits * 2 ^ t) = t := by
      refine rounded_bits_eq (Nat.le_refl t) ?_ fun hlt => absurd hlt (Nat.lt_irrefl t)
      calc bits * 2 ^ t
          < 2 ^ p * 2 ^ t := Nat.mul_lt_mul_of_pos_right h (hpos t)
        _ ≤ 2 ^ (t + p + 1) := by
            rw [← Nat.pow_add]
            exact Nat.pow_le_pow_right (by omega) (by omega)
    rw [magnitude_subnormal h, nearest, hbits, round_shift_of_dvd (Nat.dvd_mul_left ..),
      Nat.mul_div_cancel _ (hpos t), Nat.sub_self, Nat.zero_mul, Nat.zero_add]
  · have hscaled : q * 2 ^ k * 2 ^ t = q * 2 ^ (k + t) := by ring
    have hbits : roundedBits p t (q * 2 ^ (k + t)) = k + t := by
      refine rounded_bits_eq (Nat.le_add_left t k) ?_ fun _ => ?_
      · calc q * 2 ^ (k + t)
            < 2 ^ (p + 1) * 2 ^ (k + t) := Nat.mul_lt_mul_of_pos_right hhigh (hpos _)
          _ = 2 ^ (k + t + p + 1) := by ring
      · calc 2 ^ (k + t + p)
            = 2 ^ p * 2 ^ (k + t) := by ring
          _ ≤ q * 2 ^ (k + t) := Nat.mul_le_mul_right _ hlow
    rw [magnitude_normal k hlow hhigh, hscaled, nearest, hbits,
      round_shift_of_dvd (Nat.dvd_mul_left ..), Nat.mul_div_cancel _ (hpos _), Nat.add_sub_cancel]

/-- A magnitude whose bits all fit is represented exactly. -/
theorem magnitude_nearest {p t n : Nat} (h : 2 ^ roundedBits p t n ∣ n) :
    magnitude p (nearest p t n) * 2 ^ t = n := by
  obtain ⟨hle, hlt, hhigh⟩ := rounded_bits_spec p t n
  rw [nearest, round_shift_of_dvd h]
  generalize roundedBits p t n = s at h hle hlt hhigh ⊢
  obtain ⟨q, rfl⟩ := h
  obtain ⟨k, rfl⟩ := Nat.exists_eq_add_of_le hle
  have hpos : 0 < 2 ^ (t + k) := Nat.two_pow_pos (t + k)
  have hq : q < 2 ^ (p + 1) := by
    refine Nat.lt_of_mul_lt_mul_left (a := 2 ^ (t + k)) (hlt.trans_eq ?_)
    ring
  rw [Nat.mul_div_cancel_left q hpos, Nat.add_sub_cancel_left]
  rcases Nat.lt_or_ge q (2 ^ p) with hsmall | hlarge
  · -- only a subnormal number is this small
    have hk : k = 0 := by
      by_contra hk
      have hmany := hhigh (by omega)
      rw [Nat.pow_add, Nat.mul_le_mul_left_iff hpos] at hmany
      omega
    subst hk
    rw [Nat.zero_mul, Nat.zero_add, magnitude_subnormal hsmall, Nat.add_zero, Nat.mul_comm]
  · rw [magnitude_normal k hlarge hq]
    ring

/-- A number with at most `p + 1` significant bits loses none. -/
theorem rounded_bits_dvd {p q : Nat} (k : Nat) (hq : q < 2 ^ (p + 1)) :
    2 ^ roundedBits p 0 (q * 2 ^ k) ∣ q * 2 ^ k := by
  obtain ⟨-, -, hhigh⟩ := rounded_bits_spec p 0 (q * 2 ^ k)
  generalize roundedBits p 0 (q * 2 ^ k) = s at hhigh ⊢
  rcases Nat.eq_zero_or_pos s with rfl | hs
  · exact one_dvd _
  · have hlt : 2 ^ (s + p) < 2 ^ (p + 1 + k) := by
      calc 2 ^ (s + p)
          ≤ q * 2 ^ k := hhigh hs
        _ < 2 ^ (p + 1) * 2 ^ k := Nat.mul_lt_mul_of_pos_right hq (Nat.two_pow_pos k)
        _ = 2 ^ (p + 1 + k) := by ring
    have hle : s ≤ k := by
      have := (Nat.pow_lt_pow_iff_right (by omega)).1 hlt
      omega
    exact (pow_dvd_pow 2 hle).trans (Nat.dvd_mul_left ..)

/-- A format with more significant bits represents a scaled magnitude exactly. -/
theorem magnitude_widened {p p' : Nat} (h : p ≤ p') (t bits : Nat) :
    magnitude p' (nearest p' 0 (magnitude p bits * 2 ^ t)) = magnitude p bits * 2 ^ t := by
  obtain ⟨q, k, hq, hmagnitude⟩ := magnitude_eq p bits
  have hscaled : magnitude p bits * 2 ^ t = q * 2 ^ (k + t) := by
    rw [hmagnitude]
    ring
  rw [hscaled, ← Nat.mul_one (magnitude p' _)]
  exact magnitude_nearest (rounded_bits_dvd (k + t)
    (hq.trans_le (Nat.pow_le_pow_right (by omega) (by omega))))

end Codon.Library
