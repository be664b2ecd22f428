import Codon.Library.Rounding

/-!
# Conversions between floating-point formats

A format has `fraction` bits of fraction and `exponent` bits of exponent below its sign.
A conversion rounds to nearest, ties to even; what is too large becomes an infinity, and a
NaN stays one. Going to a wider format and back leaves every finite number as it is
(`cast_cast`).
-/

namespace Codon.Library

/-- An interchange format. -/
structure FloatFormat where
  fraction : Nat
  exponent : Nat
  one_le_fraction : 1 ≤ fraction
  two_le_exponent : 2 ≤ exponent

namespace FloatFormat

/-- The encoding of a zero with the sign bit set. -/
def signBit (f : FloatFormat) : Nat := 2 ^ (f.fraction + f.exponent)

/-- The encoding of infinity. -/
def infinity (f : FloatFormat) : Nat := (2 ^ f.exponent - 1) * 2 ^ f.fraction

/-- Neither an infinity nor a NaN. -/
def isFinite (f : FloatFormat) (bits : Nat) : Bool := bits % f.signBit < f.infinity

/-- The place of an encoding among the numbers, and none for a NaN. Both zeros have the same. -/
def place (f : FloatFormat) (bits : Nat) : Option Int :=
  if f.infinity < bits % f.signBit then none
  else if bits / f.signBit = 0 then some (bits % f.signBit : Nat)
  else some (-(bits % f.signBit : Nat))

/-- The smallest subnormal number is `2 ^ -scale`. -/
def scale (f : FloatFormat) : Nat := 2 ^ (f.exponent - 1) - 2 + f.fraction

/-- The encoding of a magnitude of `f` in `g`. -/
def castMagnitude (f g : FloatFormat) (bits : Nat) : Nat :=
  min g.infinity
    (nearest g.fraction (f.scale - g.scale)
      (magnitude f.fraction bits * 2 ^ (g.scale - f.scale)))

/-- The payload of a NaN of `f` in `g`, made quiet. -/
def castPayload (f g : FloatFormat) (payload : Nat) : Nat :=
  (payload * 2 ^ (g.fraction - f.fraction) / 2 ^ (f.fraction - g.fraction)) |||
    2 ^ (g.fraction - 1)

/-- The conversion of an encoding without its sign: a finite number, an infinity or a NaN. -/
def castRest (f g : FloatFormat) (rest : Nat) : Nat :=
  if rest < f.infinity then castMagnitude f g rest
  else if rest = f.infinity then g.infinity
  else g.infinity + castPayload f g (rest - f.infinity)

/-- The conversion from `f` to `g`. -/
def cast (f g : FloatFormat) (bits : Nat) : Nat :=
  bits / f.signBit * g.signBit + castRest f g (bits % f.signBit)

/-- The sign bit lies above the infinity by the size of a fraction. -/
theorem sign_bit_eq (f : FloatFormat) : f.signBit = f.infinity + 2 ^ f.fraction := by
  have hpos : 0 < 2 ^ f.exponent := Nat.two_pow_pos f.exponent
  rw [infinity, signBit, ← Nat.succ_mul, Nat.succ_eq_add_one, Nat.sub_add_cancel hpos, Nat.add_comm,
    Nat.pow_add]

/-- The infinity has no sign. -/
theorem infinity_lt_sign_bit (f : FloatFormat) : f.infinity < f.signBit := by
  rw [sign_bit_eq]
  exact Nat.lt_add_of_pos_right (Nat.two_pow_pos f.fraction)

/-- The finite encodings are those of the magnitudes below the first that is too large. -/
theorem infinity_eq (f : FloatFormat) : f.infinity = (2 ^ f.exponent - 2 + 1) * 2 ^ f.fraction := by
  have hle : 2 ^ 1 ≤ 2 ^ f.exponent :=
    Nat.pow_le_pow_right (by omega) (Nat.le_of_succ_le f.two_le_exponent)
  rw [infinity, show 2 ^ f.exponent - 2 + 1 = 2 ^ f.exponent - 1 by omega]

variable {f g : FloatFormat}

/-- A wider format has smaller subnormal numbers, and its exponents go further. -/
theorem scale_le (hfraction : f.fraction ≤ g.fraction) (hexponent : f.exponent ≤ g.exponent) :
    f.scale ≤ g.scale ∧ f.fraction + (2 ^ f.exponent - 2) + (g.scale - f.scale) ≤
      g.fraction + (2 ^ g.exponent - 2) := by
  have hsplit (h : FloatFormat) : 2 ^ h.exponent = 2 * 2 ^ (h.exponent - 1) := by
    rw [← Nat.pow_succ', Nat.succ_eq_add_one, Nat.sub_add_cancel]
    exact Nat.le_of_succ_le h.two_le_exponent
  have hlow : 2 ^ 1 ≤ 2 ^ (f.exponent - 1) :=
    Nat.pow_le_pow_right (by omega) (Nat.le_sub_one_of_lt f.two_le_exponent)
  have hle : 2 ^ (f.exponent - 1) ≤ 2 ^ (g.exponent - 1) :=
    Nat.pow_le_pow_right (by omega) (Nat.sub_le_sub_right hexponent 1)
  rw [hsplit f, hsplit g]
  unfold scale
  omega

/-- A finite magnitude of the narrower format is one of the wider format, and the same. -/
theorem cast_magnitude_widened (hfraction : f.fraction ≤ g.fraction)
    (hexponent : f.exponent ≤ g.exponent) {bits : Nat} (h : bits < f.infinity) :
    castMagnitude f g bits < g.infinity ∧
      magnitude g.fraction (castMagnitude f g bits) =
        magnitude f.fraction bits * 2 ^ (g.scale - f.scale) := by
  obtain ⟨hscale, hroom⟩ := scale_le hfraction hexponent
  have hexact := magnitude_widened hfraction (g.scale - f.scale) bits
  have hlt : nearest g.fraction 0 (magnitude f.fraction bits * 2 ^ (g.scale - f.scale)) <
      g.infinity := by
    rw [infinity_eq] at h ⊢
    apply lt_of_magnitude_lt
    calc magnitude g.fraction (nearest g.fraction 0 _)
        = magnitude f.fraction bits * 2 ^ (g.scale - f.scale) := hexact
      _ < 2 ^ (f.fraction + (2 ^ f.exponent - 2)) * 2 ^ (g.scale - f.scale) :=
          Nat.mul_lt_mul_of_pos_right (magnitude_lt h) (Nat.two_pow_pos _)
      _ = 2 ^ (f.fraction + (2 ^ f.exponent - 2) + (g.scale - f.scale)) := (Nat.pow_add ..).symm
      _ ≤ 2 ^ (g.fraction + (2 ^ g.exponent - 2)) := Nat.pow_le_pow_right (by omega) hroom
  rw [castMagnitude, Nat.sub_eq_zero_of_le hscale, Nat.min_eq_right hlt.le]
  exact ⟨hlt, hexact⟩

/-- The payload of a NaN stays below the sign bit. -/
theorem cast_payload_lt {payload : Nat} (h : payload < 2 ^ f.fraction) :
    castPayload f g payload < 2 ^ g.fraction := by
  refine Nat.or_lt_two_pow ?_
    (Nat.pow_lt_pow_right (by omega) (Nat.sub_one_lt_of_lt g.one_le_fraction))
  rw [Nat.div_lt_iff_lt_mul (Nat.two_pow_pos _), ← Nat.pow_add]
  calc payload * 2 ^ (g.fraction - f.fraction)
      < 2 ^ f.fraction * 2 ^ (g.fraction - f.fraction) :=
        Nat.mul_lt_mul_of_pos_right h (Nat.two_pow_pos _)
    _ = 2 ^ (g.fraction + (f.fraction - g.fraction)) := by
        rw [← Nat.pow_add]
        congr 1
        omega

/-- The conversion stays below the sign bit. -/
theorem cast_rest_lt {rest : Nat} (h : rest < f.signBit) : castRest f g rest < g.signBit := by
  rw [sign_bit_eq] at h
  have hlt := g.infinity_lt_sign_bit
  unfold castRest
  split_ifs with hfinite hinfinite
  · exact (Nat.min_le_left _ _).trans_lt hlt
  · exact hlt
  · rw [sign_bit_eq g]
    exact Nat.add_lt_add_left (cast_payload_lt (by omega)) _

/-- There is a sign bit. -/
theorem sign_bit_pos (f : FloatFormat) : 0 < f.signBit :=
  Nat.two_pow_pos _

/-- A cast takes the value apart from the sign. -/
theorem cast_mod (f g : FloatFormat) (bits : Nat) :
    cast f g bits % g.signBit = castRest f g (bits % f.signBit) := by
  rw [cast, Nat.add_comm, Nat.add_mul_mod_self_right,
    Nat.mod_eq_of_lt (cast_rest_lt (Nat.mod_lt bits f.sign_bit_pos))]

/-- A cast keeps the sign. -/
theorem cast_div (f g : FloatFormat) (bits : Nat) :
    cast f g bits / g.signBit = bits / f.signBit := by
  rw [cast, Nat.add_comm, Nat.add_mul_div_right _ _ g.sign_bit_pos,
    Nat.div_eq_of_lt (cast_rest_lt (Nat.mod_lt bits f.sign_bit_pos)), Nat.zero_add]

/-- The conversion is an encoding of its format. -/
theorem cast_lt {bits : Nat} (h : bits < 2 * f.signBit) : cast f g bits < 2 * g.signBit := by
  rw [← Nat.div_lt_iff_lt_mul g.sign_bit_pos, cast_div, Nat.div_lt_iff_lt_mul f.sign_bit_pos]
  exact h

/-- Going to a wider format and back leaves a finite number as it is. -/
theorem cast_cast (hfraction : f.fraction ≤ g.fraction) (hexponent : f.exponent ≤ g.exponent)
    {bits : Nat} (h : f.isFinite bits) : cast g f (cast f g bits) = bits := by
  have hfinite : bits % f.signBit < f.infinity := by simpa [isFinite] using h
  obtain ⟨hlt, hexact⟩ := cast_magnitude_widened hfraction hexponent hfinite
  have hback : castMagnitude g f (castMagnitude f g (bits % f.signBit)) = bits % f.signBit := by
    rw [castMagnitude, hexact, Nat.sub_eq_zero_of_le (scale_le hfraction hexponent).1, pow_zero,
      Nat.mul_one, nearest_magnitude, Nat.min_eq_right hfinite.le]
  rw [cast, cast_div, cast_mod, castRest.eq_1 f g, if_pos hfinite, castRest, if_pos hlt, hback]
  exact Nat.div_add_mod' bits f.signBit

/-- An infinity stays an infinity, and a NaN a NaN. -/
theorem not_is_finite_cast {bits : Nat} (h : f.isFinite bits = false) :
    g.isFinite (cast f g bits) = false := by
  have hrest : ¬bits % f.signBit < f.infinity := by simpa [isFinite] using h
  rw [isFinite, cast_mod, castRest, if_neg hrest]
  split
  · exact decide_eq_false (Nat.lt_irrefl _)
  · exact decide_eq_false (Nat.le_add_right _ _).not_gt

end FloatFormat

end Codon.Library
