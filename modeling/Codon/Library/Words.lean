import Mathlib.Data.Nat.ModEq
import Mathlib.Data.List.Basic

/-!
# Steps on words that lose nothing

The word operations that mixing functions are made of, and that two different words stay
different under each of them.
-/

namespace Codon.Library

variable {w : Nat}

/-- A product with an odd number, modulo a power of two. -/
theorem mul_odd_injective {c : BitVec w} (hc : c.toNat % 2 = 1) {x y : BitVec w}
    (h : x * c = y * c) : x = y := by
  have hcoprime : Nat.gcd (2 ^ w) c.toNat = 1 := by
    apply Nat.Coprime.pow_left
    show Nat.gcd 2 c.toNat = 1
    rw [Nat.gcd_rec, hc, Nat.gcd_one_left]
  have hmod : x.toNat * c.toNat ≡ y.toNat * c.toNat [MOD 2 ^ w] := by
    have h' := congrArg BitVec.toNat h
    rwa [BitVec.toNat_mul, BitVec.toNat_mul] at h'
  have hcancel : x.toNat ≡ y.toNat [MOD 2 ^ w] :=
    Nat.ModEq.cancel_right_of_coprime hcoprime hmod
  exact BitVec.eq_of_toNat_eq (Nat.ModEq.eq_of_lt_of_lt hcancel x.isLt y.isLt)

/-- A word combined with its own upper bits. -/
theorem xor_shift_injective {r : Nat} (hr : 0 < r) {x y : BitVec w}
    (h : x ^^^ x >>> r = y ^^^ y >>> r) : x = y := by
  -- what differs between the two is equal to its own upper bits
  have hdiff : x ^^^ y = (x ^^^ y) >>> r := by
    rw [BitVec.ushiftRight_xor_distrib]
    apply BitVec.eq_of_getLsbD_eq
    intro i hi
    have hbit := congrArg (BitVec.getLsbD · i) h
    simp only [BitVec.getLsbD_xor] at hbit ⊢
    generalize x.getLsbD i = a at *
    generalize y.getLsbD i = b at *
    generalize (x >>> r).getLsbD i = c at *
    generalize (y >>> r).getLsbD i = d at *
    cases a <;> cases b <;> cases c <;> simp_all
  have hzero : (x ^^^ y).toNat = 0 := by
    have hself := congrArg BitVec.toNat hdiff
    rw [BitVec.toNat_ushiftRight, Nat.shiftRight_eq_div_pow] at hself
    by_contra hne
    have hlt := Nat.div_lt_self (Nat.pos_of_ne_zero hne) (Nat.one_lt_two_pow hr.ne')
    omega
  have hxor : x ^^^ y = y ^^^ y := by
    rw [BitVec.xor_self]
    exact BitVec.eq_of_toNat_eq hzero
  exact (BitVec.xor_left_inj y).1 hxor

/-- A rotation, as it is written with two shifts. -/
theorem rotate_injective {r : Nat} (hr : r < w) {x y : BitVec w}
    (h : x <<< r ||| x >>> (w - r) = y <<< r ||| y >>> (w - r)) : x = y := by
  have hrotate (z : BitVec w) : z <<< r ||| z >>> (w - r) = z.rotateLeft r := by
    rw [BitVec.rotateLeft_def, Nat.mod_eq_of_lt hr]
  rw [hrotate, hrotate] at h
  apply BitVec.eq_of_getLsbD_eq
  intro i hi
  -- bit `i` is found `r` places above, or below the top if that is too high
  by_cases htop : i + r < w
  · have hbit := congrArg (BitVec.getLsbD · (i + r)) h
    have hge : ¬ i + r < r := by omega
    simpa only [BitVec.getLsbD_rotateLeft_of_le hr, hge, htop, if_false, decide_true,
      Bool.true_and, Nat.add_sub_cancel, decide_false, cond_false] using hbit
  · have hbit := congrArg (BitVec.getLsbD · (i + r - w)) h
    have hlow : i + r - w < r := by omega
    have hback : w - r + (i + r - w) = i := by omega
    simpa only [BitVec.getLsbD_rotateLeft_of_le hr, hlow, hback, decide_true, cond_true]
      using hbit

section Bytes

/-- Bytes at given shifts, combined in one word. -/
def combine (byte : Nat → UInt8) (places : List (Nat × Nat)) (x : BitVec w) : BitVec w :=
  places.foldl (fun x place => x ^^^ (byte place.1).toBitVec.setWidth w <<< place.2) x

/-- The places do not overlap. -/
def Apart (places : List (Nat × Nat)) : Prop :=
  places.Pairwise fun a b => a.2 + 8 ≤ b.2 ∨ b.2 + 8 ≤ a.2

instance (places : List (Nat × Nat)) : Decidable (Apart places) :=
  inferInstanceAs (Decidable (List.Pairwise _ _))

/-- The bits of a byte that is shifted into a word. -/
theorem shifted_byte_bit (b : UInt8) (s i : Nat) :
    (b.toBitVec.setWidth w <<< s).getLsbD i =
      (decide (i < w) && (decide (s ≤ i) && b.toBitVec.getLsbD (i - s))) := by
  rw [BitVec.getLsbD_shiftLeft, BitVec.getLsbD_setWidth]
  by_cases hi : i < w
  · have hlt : i - s < w := by omega
    by_cases hs : i < s
    · simp [hs, Nat.not_le.2 hs]
    · simp [hi, hs, hlt, Nat.le_of_not_lt hs]
  · simp [hi]

/-- Where no byte goes, the word stays as it was. -/
theorem combine_outside (byte : Nat → UInt8) {places : List (Nat × Nat)} (x : BitVec w) {i : Nat}
    (h : ∀ place ∈ places, i < place.2 ∨ place.2 + 8 ≤ i) :
    (combine byte places x).getLsbD i = x.getLsbD i := by
  induction places generalizing x with
  | nil => rfl
  | cons place places ih =>
      have hfirst := h place (List.mem_cons_self ..)
      have hrest : ∀ p ∈ places, i < p.2 ∨ p.2 + 8 ≤ i :=
        fun p hp => h p (List.mem_cons_of_mem _ hp)
      show (combine byte places (x ^^^ (byte place.1).toBitVec.setWidth w <<< place.2)).getLsbD i
        = x.getLsbD i
      rw [ih _ hrest, BitVec.getLsbD_xor, shifted_byte_bit]
      rcases hfirst with hlow | hhigh
      · simp [Nat.not_le.2 hlow]
      · have hbyte : (byte place.1).toBitVec.getLsbD (i - place.2) = false :=
          BitVec.getLsbD_of_ge _ _ (by omega)
        simp [hbyte]

/-- Each byte can be read back, if what was there before can be. -/
theorem combine_inside (byte : Nat → UInt8) {places : List (Nat × Nat)} (x : BitVec w)
    (hapart : Apart places) {place : Nat × Nat} (hmem : place ∈ places)
    (hfits : place.2 + 8 ≤ w) {j : Nat} (hj : j < 8) :
    (combine byte places x).getLsbD (place.2 + j) =
      (x.getLsbD (place.2 + j) ^^ (byte place.1).toBitVec.getLsbD j) := by
  induction places generalizing x with
  | nil => cases hmem
  | cons first places ih =>
      obtain ⟨hfirst, hrest⟩ := List.pairwise_cons.1 hapart
      show (combine byte places
        (x ^^^ (byte first.1).toBitVec.setWidth w <<< first.2)).getLsbD (place.2 + j) = _
      rcases List.mem_cons.1 hmem with rfl | hlater
      · have houtside : ∀ p ∈ places, place.2 + j < p.2 ∨ p.2 + 8 ≤ place.2 + j := by
          intro p hp
          have := hfirst p hp
          omega
        have hlt : place.2 + j < w := by omega
        rw [combine_outside byte _ houtside, BitVec.getLsbD_xor, shifted_byte_bit]
        simp [hlt]
      · have hdisjoint := hfirst place hlater
        have hfirst_bit : ((byte first.1).toBitVec.setWidth w <<< first.2).getLsbD (place.2 + j)
            = false := by
          rw [shifted_byte_bit]
          rcases hdisjoint with hbelow | habove
          · have hbyte : (byte first.1).toBitVec.getLsbD (place.2 + j - first.2) = false :=
              BitVec.getLsbD_of_ge _ _ (by omega)
            simp [hbyte]
          · have hlow : ¬ first.2 ≤ place.2 + j := by omega
            simp [hlow]
        rw [ih _ hrest hlater, BitVec.getLsbD_xor, hfirst_bit, Bool.xor_false]

/-- Two sets of bytes that combine to the same word are the same bytes. -/
theorem combine_injective {byte byte' : Nat → UInt8} {places : List (Nat × Nat)} {x : BitVec w}
    (hapart : Apart places) (hfits : ∀ place ∈ places, place.2 + 8 ≤ w)
    (h : combine byte places x = combine byte' places x) :
    ∀ place ∈ places, byte place.1 = byte' place.1 := by
  intro place hmem
  apply UInt8.toBitVec_inj.1
  apply BitVec.eq_of_getLsbD_eq
  intro j hj
  have hbit := congrArg (BitVec.getLsbD · (place.2 + j)) h
  simp only [combine_inside byte x hapart hmem (hfits place hmem) hj,
    combine_inside byte' x hapart hmem (hfits place hmem) hj] at hbit
  exact Bool.xor_right_inj.1 hbit

/-- Only the bytes that have a place count. -/
theorem combine_congr {byte byte' : Nat → UInt8} {places : List (Nat × Nat)} (x : BitVec w)
    (h : ∀ place ∈ places, byte place.1 = byte' place.1) :
    combine byte places x = combine byte' places x := by
  induction places generalizing x with
  | nil => rfl
  | cons place places ih =>
      have hfirst := h place (List.mem_cons_self ..)
      show combine byte places (x ^^^ (byte place.1).toBitVec.setWidth w <<< place.2)
        = combine byte' places (x ^^^ (byte' place.1).toBitVec.setWidth w <<< place.2)
      rw [hfirst]
      exact ih _ fun p hp => h p (List.mem_cons_of_mem _ hp)

end Bytes

end Codon.Library
