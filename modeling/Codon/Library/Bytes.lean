import Mathlib.Tactic.Ring

/-!
# Little-endian numbers

A number of `size` bytes, the least significant byte first, and its bytes.
-/

namespace Codon.Library

/-- The number that is stored in the first `size` bytes. -/
def fromBytes (bytes : Nat → UInt8) : Nat → Nat
  | 0 => 0
  | size + 1 => fromBytes bytes size + (bytes size).toNat * 256 ^ size

/-- The byte of a number at a position. -/
def toByte (n i : Nat) : UInt8 := UInt8.ofNat (n / 256 ^ i)

/-- A number read from bytes fits them. -/
theorem from_bytes_lt (bytes : Nat → UInt8) (size : Nat) : fromBytes bytes size < 256 ^ size := by
  induction size with
  | zero => exact Nat.one_pos
  | succ size ih =>
      have hbyte : (bytes size).toNat ≤ 255 := Nat.le_of_lt_succ (bytes size).toNat_lt
      calc fromBytes bytes (size + 1)
          < 256 ^ size + 255 * 256 ^ size :=
            Nat.add_lt_add_of_lt_of_le ih (Nat.mul_le_mul_right _ hbyte)
        _ = 256 ^ (size + 1) := by ring

/-- Only the first `size` bytes are read. -/
theorem from_bytes_congr {bytes bytes' : Nat → UInt8} {size : Nat}
    (h : ∀ i < size, bytes i = bytes' i) : fromBytes bytes size = fromBytes bytes' size := by
  induction size with
  | zero => rfl
  | succ size ih =>
      rw [fromBytes, fromBytes, h size (Nat.lt_succ_self size),
        ih fun i hi => h i (Nat.lt_succ_of_lt hi)]

/-- Reading a number and taking its bytes gives what was read. -/
theorem to_byte_from_bytes (bytes : Nat → UInt8) {size i : Nat} (h : i < size) :
    toByte (fromBytes bytes size) i = bytes i := by
  induction size with
  | zero => exact absurd h (Nat.not_lt_zero i)
  | succ size ih =>
      rw [fromBytes, toByte]
      rcases Nat.lt_succ_iff_lt_or_eq.1 h with hlt | rfl
      · -- the byte above is a multiple of 256 here
        obtain ⟨k, rfl⟩ := Nat.exists_eq_add_of_lt hlt
        have hpower : (bytes (i + k + 1)).toNat * 256 ^ (i + k + 1) =
            256 ^ i * (256 * ((bytes (i + k + 1)).toNat * 256 ^ k)) := by ring
        rw [hpower, Nat.add_mul_div_left _ _ (Nat.pow_pos (by decide)), ← ih hlt, toByte]
        apply UInt8.toNat_inj.1
        rw [UInt8.toNat_ofNat', UInt8.toNat_ofNat', Nat.add_mul_mod_self_left]
      · rw [Nat.add_mul_div_right _ _ (Nat.pow_pos (by decide)),
          Nat.div_eq_of_lt (from_bytes_lt bytes i), Nat.zero_add]
        exact UInt8.ofNat_toNat

/-- The number that the bytes of a number make, as far as they go. -/
theorem from_bytes_to_byte (n size : Nat) : fromBytes (toByte n) size = n % 256 ^ size := by
  induction size with
  | zero => rw [Nat.pow_zero, Nat.mod_one, fromBytes]
  | succ size ih =>
      have hbyte : (toByte n size).toNat = n / 256 ^ size % 256 := UInt8.toNat_ofNat'
      rw [fromBytes, ih, hbyte, Nat.pow_succ, Nat.mod_mul, Nat.mul_comm (256 ^ size)]

end Codon.Library
