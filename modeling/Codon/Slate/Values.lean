import Codon.Library.FloatFormat
import Mathlib.Algebra.Order.Ring.Int

/-!
# Values of slate elements

How the integer and floating-point types of the slate turn an `INT64` or a `double` into
the bits that are stored, and how those bits are read back. Bits are natural numbers, a
`double` is its encoding, and an `INT64` is an integer. `restorable` says which stored bits
can be written back after they have been read (`encode_decode_int`,
`encode_decode_double`).
-/

namespace Codon.Slate

open Codon.Library

/-- The types of slate elements: the twelve that can be commanded, and all others. -/
inductive SlateType where
  | bool
  | int8
  | int16
  | int32
  | int64
  | uint8
  | uint16
  | uint32
  | ulong
  | uint64
  | float
  | double
  | other (typeId : Nat)
deriving DecidableEq

/-- The format of `float`. -/
def binary32 : FloatFormat := ⟨23, 8, by decide, by decide⟩

/-- The format of `double`. -/
def binary64 : FloatFormat := ⟨52, 11, by decide, by decide⟩

/-- The size of a type in bytes. `ulongIs64` says whether an `unsigned long` has eight of them
rather than four. -/
def SlateType.size (ulongIs64 : Bool) : SlateType → Nat
  | .bool => 1
  | .int8 => 1
  | .int16 => 2
  | .int32 => 4
  | .int64 => 8
  | .uint8 => 1
  | .uint16 => 2
  | .uint32 => 4
  | .ulong => if ulongIs64 then 8 else 4
  | .uint64 => 8
  | .float => 4
  | .double => 8
  | .other _ => 0

/-- Converts an integer to the bits of a type with `size` bytes. -/
def wrapInt (size : Nat) (value : Int) : Nat := (value % 256 ^ size).toNat

/-- Reads the bits of a signed type with `size` bytes. -/
def signedInt (size : Nat) (bits : Nat) : Int := (bits : Int).bmod (256 ^ size)

/-- `validate_int_element_bounds`, and the bits of a value that passes it. -/
def boundedInt (minValue maxValue : Int) (size : Nat) (value : Int) : Option Nat :=
  if value < minValue ∨ maxValue < value then none else some (wrapInt size value)

/-- What setting an integer element stores; none if the value is out of bounds or the element is no
integer. The lower bound of 32-bit unsigned types is that of the signed ones. -/
def encodeInt (ulongIs64 : Bool) (type : SlateType) (value : Int) : Option Nat :=
  match type with
  | .bool => boundedInt 0 1 1 value
  | .int8 => boundedInt (-2 ^ 7) (2 ^ 7 - 1) 1 value
  | .int16 => boundedInt (-2 ^ 15) (2 ^ 15 - 1) 2 value
  | .int32 => boundedInt (-2 ^ 31) (2 ^ 31 - 1) 4 value
  | .int64 => some (wrapInt 8 value)
  | .uint8 => boundedInt 0 (2 ^ 8 - 1) 1 value
  | .uint16 => boundedInt 0 (2 ^ 16 - 1) 2 value
  | .uint32 => boundedInt (-2 ^ 31) (2 ^ 32 - 1) 4 value
  | .ulong =>
      if ulongIs64 then some (wrapInt 8 value) else boundedInt (-2 ^ 31) (2 ^ 32 - 1) 4 value
  | .uint64 => some (wrapInt 8 value)
  | .float => none
  | .double => none
  | .other _ => none

/-- What getting an integer element gives. A `bool` other than 0 and 1, which C++ leaves undefined,
reads as its byte. -/
def decodeInt (ulongIs64 : Bool) (type : SlateType) (bits : Nat) : Option Int :=
  match type with
  | .bool => some bits
  | .int8 => some (signedInt 1 bits)
  | .int16 => some (signedInt 2 bits)
  | .int32 => some (signedInt 4 bits)
  | .int64 => some (signedInt 8 bits)
  | .uint8 => some bits
  | .uint16 => some bits
  | .uint32 => some bits
  | .ulong => some (if ulongIs64 then signedInt 8 bits else bits)
  | .uint64 => some (signedInt 8 bits)
  | .float => none
  | .double => none
  | .other _ => none

/-- What setting a floating-point element stores; none if the value is not finite there or the
element is no floating-point number. -/
def encodeDouble (type : SlateType) (value : Nat) : Option Nat :=
  match type with
  | .double => if binary64.isFinite value then some value else none
  | .float =>
      let floatValue := binary64.cast binary32 value
      if binary32.isFinite floatValue then some floatValue else none
  | _ => none

/-- What getting a floating-point element gives. -/
def decodeDouble (type : SlateType) (bits : Nat) : Option Nat :=
  match type with
  | .double => some bits
  | .float => some (binary32.cast binary64 bits)
  | _ => none

/-- Whether the value of an element can be written back: a `bool` is 0 or 1, and a floating-point
number is finite. -/
def restorable (type : SlateType) (bits : Nat) : Bool :=
  match type with
  | .bool => bits ≤ 1
  | .float => binary32.isFinite bits
  | .double => binary64.isFinite bits
  | _ => true

/-- A signed value is wrapped back to its bits. -/
theorem wrap_signed_int {size bits : Nat} (h : bits < 256 ^ size) :
    wrapInt size (signedInt size bits) = bits := by
  have hmod : ((bits : Int).bmod (256 ^ size)) % ((256 ^ size : Nat) : Int) = bits := by
    rw [Int.bmod_emod, Int.emod_eq_of_lt (by omega) (by exact_mod_cast h)]
  rw [wrapInt, signedInt]
  push_cast at hmod
  rw [hmod, Int.toNat_natCast]

/-- So is an unsigned one. -/
theorem wrap_nat {size bits : Nat} (h : bits < 256 ^ size) : wrapInt size bits = bits := by
  rw [wrapInt, Int.emod_eq_of_lt (by omega) (by exact_mod_cast h), Int.toNat_natCast]

/-- A signed value is in the range of its type. -/
theorem signed_int_range {size : Nat} (hsize : 0 < size) (bits : Nat) :
    -2 ^ (8 * size - 1) ≤ signedInt size bits ∧ signedInt size bits < 2 ^ (8 * size - 1) := by
  have hpower : 256 ^ size = 2 * 2 ^ (8 * size - 1) := by
    rw [show 256 = 2 ^ 8 by decide, ← Nat.pow_mul, ← Nat.pow_succ']
    congr 1
    omega
  have hlow := Int.le_bmod (x := bits) (m := 256 ^ size) (Nat.pow_pos (by decide))
  have hhigh := Int.bmod_lt (x := bits) (m := 256 ^ size) (Nat.pow_pos (by decide))
  rw [signedInt]
  rw [hpower] at hlow hhigh ⊢
  push_cast at hlow hhigh
  omega

/-- A signed type takes every value that was read from it. -/
theorem bounded_signed {minValue maxValue : Int} {size bits : Nat} (hsize : 0 < size)
    (hbits : bits < 256 ^ size) (hlow : minValue ≤ -2 ^ (8 * size - 1))
    (hhigh : 2 ^ (8 * size - 1) ≤ maxValue + 1) :
    boundedInt minValue maxValue size (signedInt size bits) = some bits := by
  obtain ⟨hmin, hmax⟩ := signed_int_range hsize bits
  rw [boundedInt, if_neg (by omega), wrap_signed_int hbits]

/-- An unsigned type takes every value that was read from it. -/
theorem bounded_unsigned {minValue maxValue : Int} {size bits : Nat} (hbits : bits < 256 ^ size)
    (hlow : minValue ≤ 0) (hhigh : 256 ^ size ≤ maxValue + 1) :
    boundedInt minValue maxValue size bits = some bits := by
  have hlt : (bits : Int) < 256 ^ size := by exact_mod_cast hbits
  rw [boundedInt, if_neg (by omega), wrap_nat hbits]

/-- Setting an integer element to the value that it had stores the same bits, if it can. -/
theorem encode_decode_int {ulongIs64 : Bool} {type : SlateType} {bits : Nat} {value : Int}
    (hbits : bits < 256 ^ type.size ulongIs64) (h : decodeInt ulongIs64 type bits = some value) :
    encodeInt ulongIs64 type value = if restorable type bits then some bits else none := by
  cases type <;> simp only [decodeInt, Option.some.injEq, reduceCtorEq] at h <;> subst h
  case bool =>
    have hread : restorable .bool bits = decide (bits ≤ 1) := rfl
    have hwidth : bits < 256 ^ 1 := hbits
    rw [encodeInt, boundedInt, wrap_nat hwidth, hread]
    by_cases hle : bits ≤ 1
    · rw [if_neg (by omega), if_pos (decide_eq_true hle)]
    · rw [if_pos (by omega), if_neg (by simpa using hle)]
  case int8 => exact bounded_signed (by decide) hbits (by decide) (by decide)
  case int16 => exact bounded_signed (by decide) hbits (by decide) (by decide)
  case int32 => exact bounded_signed (by decide) hbits (by decide) (by decide)
  case int64 | uint64 =>
    have hwidth : bits < 256 ^ 8 := hbits
    rw [encodeInt, wrap_signed_int hwidth]
    rfl
  case uint8 => exact bounded_unsigned hbits (by decide) (by decide)
  case uint16 => exact bounded_unsigned hbits (by decide) (by decide)
  case uint32 => exact bounded_unsigned hbits (by decide) (by decide)
  case ulong =>
    cases ulongIs64 with
    | true =>
        have hwidth : bits < 256 ^ 8 := hbits
        simp only [encodeInt, if_true]
        rw [wrap_signed_int hwidth]
        rfl
    | false => exact bounded_unsigned hbits (by decide) (by decide)

/-- A value that was read is an `INT64`. -/
theorem decode_int_range {ulongIs64 : Bool} {type : SlateType} {bits : Nat} {value : Int}
    (hbits : bits < 256 ^ type.size ulongIs64) (h : decodeInt ulongIs64 type bits = some value) :
    -2 ^ 63 ≤ value ∧ value < 2 ^ 63 := by
  have hsigned (size : Nat) (hsize : 0 < size) (hle : size ≤ 8) :
      -2 ^ 63 ≤ signedInt size bits ∧ signedInt size bits < 2 ^ 63 := by
    obtain ⟨hlow, hhigh⟩ := signed_int_range hsize bits
    have hpower : (2 : Int) ^ (8 * size - 1) ≤ 2 ^ 63 :=
      pow_le_pow_right₀ (by decide) (by omega)
    omega
  have hunsigned (size : Nat) (hlt : bits < 256 ^ size) (hle : size ≤ 4) :
      -2 ^ 63 ≤ (bits : Int) ∧ (bits : Int) < 2 ^ 63 := by
    have hpower : 256 ^ size ≤ 256 ^ 4 := Nat.pow_le_pow_right (by decide) hle
    omega
  cases type <;> simp only [decodeInt, Option.some.injEq, reduceCtorEq] at h <;> subst h
  case bool | uint8 => exact hunsigned 1 hbits (by decide)
  case uint16 => exact hunsigned 2 hbits (by decide)
  case uint32 => exact hunsigned 4 hbits (by decide)
  case int8 => exact hsigned 1 (by decide) (by decide)
  case int16 => exact hsigned 2 (by decide) (by decide)
  case int32 => exact hsigned 4 (by decide) (by decide)
  case int64 => exact hsigned 8 (by decide) (by decide)
  case uint64 => exact hsigned 8 (by decide) (by decide)
  case ulong =>
    cases ulongIs64 with
    | true =>
        rw [if_pos rfl]
        exact hsigned 8 (by decide) (by decide)
    | false => exact hunsigned 4 hbits (by decide)

/-- A value that was read is a `double`. -/
theorem decode_double_lt {ulongIs64 : Bool} {type : SlateType} {bits value : Nat}
    (hbits : bits < 256 ^ type.size ulongIs64) (h : decodeDouble type bits = some value) :
    value < 2 ^ 64 := by
  cases type <;> simp only [decodeDouble, Option.some.injEq, reduceCtorEq] at h <;> subst h
  case float => exact FloatFormat.cast_lt (f := binary32) (g := binary64) hbits
  case double => exact hbits

/-- Setting a floating-point element to the value that it had stores the same bits, if it can. -/
theorem encode_decode_double {type : SlateType} {bits value : Nat}
    (h : decodeDouble type bits = some value) :
    encodeDouble type value = if restorable type bits then some bits else none := by
  cases type <;> simp only [decodeDouble, Option.some.injEq, reduceCtorEq] at h <;> subst h
  case float =>
    have hread : restorable .float bits = binary32.isFinite bits := rfl
    rw [encodeDouble, hread]
    cases hfinite : binary32.isFinite bits with
    | true => rw [FloatFormat.cast_cast (by decide) (by decide) hfinite, hfinite]
    | false =>
        have hback := FloatFormat.not_is_finite_cast (g := binary32)
          (FloatFormat.not_is_finite_cast (g := binary64) hfinite)
        simp only [hback, Bool.false_eq_true, if_false]
  case double => rfl

end Codon.Slate
