import Codon.Library.Bytes
import Codon.Library.CountingSort

/-!
# The radix sort

`SortInternal` sorts by one byte of the elements after the other, from the least significant one,
and moves the elements from `p` to the scratch buffer and back. `pass` is the body of its loop on
the bytes of the two buffers, and `elem_pass` is what it does to the elements, which are read from
these bytes as a little-endian machine does: every element is written to its place, taken modulo
the number of elements below the offsets, which have 32 bits.
-/

namespace Codon.Util.FastSort

open Codon.Library Codon.Library.CountingSort

/-- The bytes from an address on. -/
abbrev Memory : Type := Nat → UInt8

/-- Arithmetic in `U32`. -/
def u32 (n : Nat) : Nat := n % 2 ^ 32

/-- Arithmetic in `U64`. -/
def u64 (n : Nat) : Nat := n % 2 ^ 64

/-- `__builtin_memcpy(dst + off, src + i, size)`. -/
def copy (dst : Memory) (off : Nat) (src : Memory) (i size : Nat) : Memory := fun a =>
  if off ≤ a ∧ a < off + size then src (i + (a - off)) else dst a

/-- The rounds of `for (i = 0; i < n * kBytes; i += kBytes)`. -/
def rounds (kBytes n : Nat) : Nat := u64 (n * kBytes) / kBytes

/-- `byteCounts` after the first rounds of the loop that counts. -/
def byteCounts (kBytes : Nat) (pA : Memory) (iByte : Nat) : Nat → UInt8 → Nat
  | 0 => fun _ => 0
  | m + 1 =>
      let counts := byteCounts kBytes pA iByte m
      let b := pA (m * kBytes + iByte)
      Function.update counts b (u32 (counts b + kBytes))

/-- `sum` before round `i` of the loop that turns counts into offsets. -/
def sumBefore (counts : UInt8 → Nat) : Nat → Nat
  | 0 => 0
  | i + 1 => u32 (sumBefore counts i + counts (UInt8.ofNat i))

/-- `byteCounts` after that loop. -/
def offsets (counts : UInt8 → Nat) : UInt8 → Nat := fun b => sumBefore counts b.toNat

/-- `byteCounts` and `pB` after the first rounds of the loop that moves. -/
def moved (kBytes : Nat) (pA : Memory) (iByte : Nat) (counts : UInt8 → Nat) (pB : Memory) :
    Nat → (UInt8 → Nat) × Memory
  | 0 => (offsets counts, pB)
  | m + 1 =>
      let before := moved kBytes pA iByte counts pB m
      let b := pA (m * kBytes + iByte)
      (Function.update before.1 b (u32 (before.1 b + kBytes)),
        copy before.2 (before.1 b) pA (m * kBytes) kBytes)

/-- The body of the loop over the bytes: `pB` after it. -/
def pass (kBytes n iByte : Nat) (pA pB : Memory) : Memory :=
  (moved kBytes pA iByte (byteCounts kBytes pA iByte (rounds kBytes n)) pB (rounds kBytes n)).2

/-- `pScratch` and `p`. -/
structure Buffers where
  scratch : Memory
  p : Memory

/-- The buffers after the first rounds of the loop over the bytes. -/
def passes (kBytes n : Nat) (buffers : Buffers) : Nat → Buffers
  | 0 => buffers
  | iByte + 1 =>
      let b := passes kBytes n buffers iByte
      if iByte &&& 1 ≠ 0 then { b with p := pass kBytes n iByte b.scratch b.p }
      else { b with scratch := pass kBytes n iByte b.p b.scratch }

/-- `SortInternal`: what it leaves in `p`. -/
def sortInternal (kBytes n : Nat) (buffers : Buffers) : Memory :=
  let b := passes kBytes n buffers kBytes
  if kBytes &&& 1 ≠ 0 then copy b.p 0 b.scratch 0 n else b.p

/-! ## The elements -/

/-- Element `k`, as its bytes make it on a little-endian machine. -/
def elem (kBytes : Nat) (mem : Memory) (k : Nat) : Nat :=
  fromBytes (fun j => mem (k * kBytes + j)) kBytes

/-- The byte of element `m` that a pass looks at. -/
def digit (kBytes : Nat) (mem : Memory) (iByte m : Nat) : Nat := (mem (m * kBytes + iByte)).toNat

variable {kBytes limit n iByte : Nat} {pA pB : Memory}

/-- An element fits its bytes. -/
theorem elem_lt (kBytes : Nat) (mem : Memory) (k : Nat) : elem kBytes mem k < 256 ^ kBytes :=
  from_bytes_lt _ _

/-- A digit is a byte of the element. -/
theorem digit_eq (mem : Memory) (h : iByte < kBytes) (m : Nat) :
    digit kBytes mem iByte m = elem kBytes mem m / 256 ^ iByte % 256 := by
  have hbyte := to_byte_from_bytes (fun j => mem (m * kBytes + j)) h
  rw [digit, ← hbyte, toByte, UInt8.toNat_ofNat', elem]

/-- Copying the bytes of an element copies the element. -/
theorem elem_copy (dst src : Memory) (q m : Nat) :
    elem kBytes (copy dst (kBytes * q) src (m * kBytes) kBytes) =
      Function.update (elem kBytes dst) q (elem kBytes src m) := by
  funext k
  rw [Nat.mul_comm kBytes q]
  by_cases hk : k = q
  · subst hk
    rw [Function.update_self]
    refine from_bytes_congr fun j hj => ?_
    rw [copy, if_pos (by omega), Nat.add_sub_cancel_left]
  · rw [Function.update_of_ne hk]
    refine from_bytes_congr fun j hj => if_neg ?_
    rintro ⟨hle, hlt⟩
    rcases Nat.lt_or_gt_of_ne hk with hbefore | hafter
    · have hmul := Nat.mul_le_mul_right kBytes (Nat.succ_le_of_lt hbefore)
      rw [Nat.succ_mul] at hmul
      omega
    · have hmul := Nat.mul_le_mul_right kBytes (Nat.succ_le_of_lt hafter)
      rw [Nat.succ_mul] at hmul
      omega

/-- The number of bytes of the elements counted, in 32 bits. -/
theorem byte_counts_eq (m : Nat) (b : UInt8) :
    byteCounts kBytes pA iByte m b = u32 (kBytes * having (digit kBytes pA iByte) m b.toNat) := by
  induction m with
  | zero => rfl
  | succ m ih =>
      rw [byteCounts, having_succ]
      by_cases hb : b = pA (m * kBytes + iByte)
      · subst hb
        simp only [Function.update_self, ih, digit, if_true, u32]
        rw [Nat.mul_add, Nat.mul_one, Nat.mod_add_mod]
      · have hne : digit kBytes pA iByte m ≠ b.toNat := fun heq => hb (UInt8.toNat_inj.1 heq).symm
        simp only [Function.update_of_ne hb, ih, if_neg hne, Nat.add_zero]

/-- The sum before a digit is the place of its first element, in 32 bits. -/
theorem sum_before_eq {i : Nat} (hi : i ≤ 256) :
    sumBefore (byteCounts kBytes pA iByte n) i =
      u32 (kBytes * below (digit kBytes pA iByte) n i) := by
  induction i with
  | zero => rw [below_zero]; rfl
  | succ i ih =>
      have hbyte : (UInt8.ofNat i).toNat = i := by
        rw [UInt8.toNat_ofNat']
        exact Nat.mod_eq_of_lt hi
      rw [sumBefore, ih (Nat.le_of_succ_le hi), byte_counts_eq, hbyte, below_succ]
      simp only [u32, Nat.mul_add, Nat.add_mod_mod, Nat.mod_add_mod]

/-- An offset is a whole number of elements, as many as fit below `2 ^ 32`. -/
theorem u32_mul (hlimit : kBytes * limit = 2 ^ 32) (x : Nat) :
    u32 (kBytes * x) = kBytes * (x % limit) := by
  rw [u32, ← hlimit, Nat.mul_mod_mul_left]

/-- The loop that moves writes every element to its place, modulo the limit. -/
theorem moved_eq (hlimit : kBytes * limit = 2 ^ 32) (m : Nat) :
    (∀ b : UInt8, (moved kBytes pA iByte (byteCounts kBytes pA iByte n) pB m).1 b =
        u32 (kBytes * (below (digit kBytes pA iByte) n b.toNat +
          having (digit kBytes pA iByte) m b.toNat))) ∧
      elem kBytes (moved kBytes pA iByte (byteCounts kBytes pA iByte n) pB m).2 =
        scatter (fun m => place (digit kBytes pA iByte) n m % limit) (elem kBytes pA)
          (elem kBytes pB) m := by
  induction m with
  | zero =>
      refine ⟨fun b => ?_, rfl⟩
      show sumBefore _ b.toNat = _
      rw [sum_before_eq (Nat.le_of_lt b.toNat_lt)]
      rfl
  | succ m ih =>
      obtain ⟨hoffsets, helem⟩ := ih
      constructor
      · intro b
        rw [moved, having_succ]
        by_cases hb : b = pA (m * kBytes + iByte)
        · subst hb
          simp only [Function.update_self, hoffsets, digit, if_true, u32]
          rw [Nat.mod_add_mod, ← Nat.add_assoc, Nat.mul_add _ _ 1, Nat.mul_one]
        · have hne : digit kBytes pA iByte m ≠ b.toNat := fun heq =>
            hb (UInt8.toNat_inj.1 heq).symm
          simp only [Function.update_of_ne hb, hoffsets, if_neg hne, Nat.add_zero]
      · rw [moved, scatter]
        simp only [hoffsets, u32_mul hlimit]
        rw [elem_copy, helem]
        rfl

/-- What a pass over `n` elements does to the elements. -/
theorem elem_pass (hlimit : kBytes * limit = 2 ^ 32) (hfits : n * kBytes < 2 ^ 64) :
    elem kBytes (pass kBytes n iByte pA pB) =
      scatter (fun m => place (digit kBytes pA iByte) n m % limit) (elem kBytes pA)
        (elem kBytes pB) n := by
  have hpos : 0 < kBytes := Nat.pos_of_ne_zero (by rintro rfl; simp at hlimit)
  have hrounds : rounds kBytes n = n := by
    rw [rounds, u64, Nat.mod_eq_of_lt hfits, Nat.mul_div_cancel _ hpos]
  rw [pass, hrounds]
  exact (moved_eq hlimit n).2

/-! ## The loop over the bytes -/

/-- The buffer that a pass reads. -/
def Buffers.source (b : Buffers) (iByte : Nat) : Memory :=
  if iByte &&& 1 ≠ 0 then b.scratch else b.p

/-- The buffer that a pass writes. -/
def Buffers.target (b : Buffers) (iByte : Nat) : Memory :=
  if iByte &&& 1 ≠ 0 then b.p else b.scratch

/-- A pass writes what the next one reads, and leaves what it reads itself. -/
theorem passes_succ (kBytes n : Nat) (b : Buffers) (i : Nat) :
    (passes kBytes n b (i + 1)).source (i + 1) = pass kBytes n i
        ((passes kBytes n b i).source i) ((passes kBytes n b i).target i) ∧
      (passes kBytes n b (i + 1)).target (i + 1) = (passes kBytes n b i).source i := by
  rw [passes]
  simp only [Buffers.source, Buffers.target, Nat.and_one_is_mod]
  rcases Nat.mod_two_eq_zero_or_one i with hi | hi
  · have hnext : (i + 1) % 2 = 1 := by omega
    simp [hi, hnext]
  · have hnext : (i + 1) % 2 = 0 := by omega
    simp [hi, hnext]

/-- The widths of the elements: one byte, or an even number of bytes, so many that offsets of 32
bits reach the first `limit` elements. -/
structure Width (kBytes limit : Nat) : Prop where
  limit_eq : kBytes * limit = 2 ^ 32
  one_or_even : kBytes = 1 ∨ kBytes % 2 = 0

/-- An element has at least one byte. -/
theorem Width.pos (h : Width kBytes limit) : 0 < kBytes := by
  have hlimit := h.limit_eq
  exact Nat.pos_of_ne_zero (by rintro rfl; simp at hlimit)

/-- The limit is positive. -/
theorem Width.limit_pos (h : Width kBytes limit) : 0 < limit := by
  have hlimit := h.limit_eq
  exact Nat.pos_of_ne_zero (by rintro rfl; simp at hlimit)

/-- What the last pass wrote is what is left in `p`. -/
theorem sort_internal_elem (h : Width kBytes limit) (b : Buffers) {k : Nat} (hk : k < n) :
    elem kBytes (sortInternal kBytes n b) k =
      elem kBytes ((passes kBytes n b kBytes).source kBytes) k := by
  simp only [sortInternal, Buffers.source, Nat.and_one_is_mod]
  rcases h.one_or_even with rfl | heven
  · -- one byte for each element, so that `n` bytes are all of them
    simp only [Nat.reduceMod, ne_eq, one_ne_zero, not_false_eq_true, if_true]
    refine from_bytes_congr fun j hj => ?_
    rw [copy, if_pos (by omega)]
    congr 1
    omega
  · simp [heven]

/-- The elements of one array are a rearrangement of those of another, in the order of their lowest
`i` bytes. -/
structure SortedBy (kBytes n i : Nat) (mem original : Memory) : Prop where
  perm : ((List.range n).map (elem kBytes mem)).Perm ((List.range n).map (elem kBytes original))
  sorted : ∀ k' < n, ∀ k < k', elem kBytes mem k % 256 ^ i ≤ elem kBytes mem k' % 256 ^ i

/-- One more byte: the order of two elements is that of this byte, then that of the lower ones. -/
theorem mod_byte_le {x y i : Nat} (h : x / 256 ^ i % 256 < y / 256 ^ i % 256 ∨
    x / 256 ^ i % 256 = y / 256 ^ i % 256 ∧ x % 256 ^ i ≤ y % 256 ^ i) :
    x % 256 ^ (i + 1) ≤ y % 256 ^ (i + 1) := by
  rw [Nat.mod_pow_succ, Nat.mod_pow_succ]
  rcases h with hlt | ⟨heq, hle⟩
  · have hlow : x % 256 ^ i < 256 ^ i := Nat.mod_lt _ (Nat.pow_pos (by decide))
    have hmul := Nat.mul_le_mul_left (256 ^ i) (Nat.succ_le_of_lt hlt)
    rw [Nat.mul_succ] at hmul
    omega
  · rw [heq]
    omega

/-- A pass over elements that the offsets reach. -/
theorem SortedBy.pass {i : Nat} {mem original : Memory} (h : SortedBy kBytes n i mem original)
    (hwidth : Width kBytes limit) (hfits : n * kBytes < 2 ^ 64) (hn : n ≤ limit) (hi : i < kBytes)
    (pB : Memory) : SortedBy kBytes n (i + 1) (pass kBytes n i mem pB) original := by
  have hplaced : ∀ m < n, elem kBytes (FastSort.pass kBytes n i mem pB)
      (place (digit kBytes mem i) n m) = elem kBytes mem m := by
    have hplace : ∀ m < n, place (digit kBytes mem i) n m % limit =
        place (digit kBytes mem i) n m := fun m hm =>
      Nat.mod_eq_of_lt (Nat.lt_of_lt_of_le (place_lt hm) hn)
    intro m hm
    rw [elem_pass hwidth.limit_eq hfits, ← hplace m hm]
    refine scatter_of_inj (fun m => place (digit kBytes mem i) n m % limit)
      (fun j hj j' hj' heq => ?_) m hm
    rw [hplace j hj, hplace j' hj'] at heq
    exact place_inj hj hj' heq
  refine ⟨(map_perm hplaced).trans h.perm, ?_⟩
  refine CountingSort.sorted (r := fun x y => x % 256 ^ (i + 1) ≤ y % 256 ^ (i + 1)) hplaced ?_ ?_
  · intro m _ m' hm' hlt heq
    rw [digit_eq mem hi, digit_eq mem hi] at heq
    exact mod_byte_le (.inr ⟨heq, h.sorted m' hm' m hlt⟩)
  · intro m _ m' _ hlt
    rw [digit_eq mem hi, digit_eq mem hi] at hlt
    exact mod_byte_le (.inl hlt)

/-- After so many passes, the elements are sorted by that many low bytes. -/
theorem passes_sorted (hwidth : Width kBytes limit) (hfits : n * kBytes < 2 ^ 64) (hn : n ≤ limit)
    (b : Buffers) {i : Nat} (hi : i ≤ kBytes) :
    SortedBy kBytes n i ((passes kBytes n b i).source i) b.p := by
  induction i with
  | zero =>
      refine ⟨List.Perm.refl _, fun k' _ k _ => ?_⟩
      rw [Nat.pow_zero, Nat.mod_one, Nat.mod_one]
  | succ i ih =>
      rw [(passes_succ kBytes n b i).1]
      exact (ih (Nat.le_of_succ_le hi)).pass hwidth hfits hn hi _

/-- `SortInternal` sorts the elements as numbers if offsets of 32 bits reach all of them. -/
theorem sort_internal_sorted (hwidth : Width kBytes limit) (hfits : n * kBytes < 2 ^ 64)
    (hn : n ≤ limit) (b : Buffers) :
    ((List.range n).map (elem kBytes (sortInternal kBytes n b))).Perm
        ((List.range n).map (elem kBytes b.p)) ∧
      ∀ k' < n, ∀ k < k',
        elem kBytes (sortInternal kBytes n b) k ≤ elem kBytes (sortInternal kBytes n b) k' := by
  obtain ⟨hperm, hsorted⟩ := passes_sorted hwidth hfits hn b (Nat.le_refl kBytes)
  have helem : ∀ k < n, elem kBytes (sortInternal kBytes n b) k =
      elem kBytes ((passes kBytes n b kBytes).source kBytes) k := fun k hk =>
    sort_internal_elem hwidth b hk
  constructor
  · rw [List.map_congr_left fun k hk => helem k (List.mem_range.1 hk)]
    exact hperm
  · intro k' hk' k hk
    have hle := hsorted k' hk' k hk
    rw [Nat.mod_eq_of_lt (elem_lt _ _ _), Nat.mod_eq_of_lt (elem_lt _ _ _)] at hle
    rw [helem k (hk.trans hk'), helem k' hk']
    exact hle

end Codon.Util.FastSort
