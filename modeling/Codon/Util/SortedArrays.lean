import Mathlib.Algebra.Order.BigOperators.Group.List
import Codon.Library.SortKeys
import Codon.Util.FastSort

/-!
# Sorting the element types

`Sort` maps the bits of signed numbers and of floats to unsigned numbers in the same order, sorts
these and maps them back. This leaves a sorted rearrangement of the array, whatever the scratch
buffer holds, exactly for arrays of up to `2 ^ 32` bytes (`sort_iff`): in a larger one the last
elements of the scratch buffer are read without having been written.
-/

namespace Codon.Util.FastSort

open Codon.Library Codon.Library.CountingSort Codon.Library.SortKeys

variable {kBytes limit n : Nat}

/-! ## More elements than the offsets reach -/

/-- Two elements that are equal but for the lowest bit. -/
def Twin (x y : Nat) : Prop := x = y ∨ x = 0 ∧ y = 1

/-- Of twins the first is not larger. -/
theorem Twin.le {x y : Nat} (h : Twin x y) : x ≤ y := by
  rcases h with rfl | ⟨rfl, rfl⟩
  · exact Nat.le_refl x
  · exact Nat.zero_le 1

/-- Two arrays of such elements are told apart by the lowest byte only. -/
theorem digit_twin {mem mem' : Memory} {i : Nat}
    (h : ∀ k, Twin (elem kBytes mem k) (elem kBytes mem' k)) (hi : i < kBytes) (hpos : 1 ≤ i) :
    digit kBytes mem i = digit kBytes mem' i := by
  funext m
  rw [digit_eq mem hi, digit_eq mem' hi]
  rcases h m with heq | ⟨hzero, hone⟩
  · rw [heq]
  · have hpower : 1 < 256 ^ i := Nat.one_lt_pow (by omega) (by decide)
    rw [hzero, hone, Nat.zero_div, Nat.div_eq_of_lt hpower]

/-- What two runs have come to that differ in the last element of the scratch buffer only. -/
structure Diverged (kBytes n i : Nat) (b b' : Buffers) : Prop where
  p : ∀ k, Twin (elem kBytes b.p k) (elem kBytes b'.p k)
  scratch : ∀ k, Twin (elem kBytes b.scratch k) (elem kBytes b'.scratch k)
  last : elem kBytes b.scratch (n - 1) = 0 ∧ elem kBytes b'.scratch (n - 1) = 1
  differs : 2 ≤ i → ∃ k < n, elem kBytes b.p k = 0 ∧ elem kBytes b'.p k = 1

section Diverging

variable (hwidth : Width kBytes limit) (hfits : n * kBytes < 2 ^ 64) (hn : limit < n)

include hwidth hfits

/-- A pass that reads and writes such elements leaves such elements. -/
theorem pass_twin {i : Nat} {pA pA' pB pB' : Memory}
    (hdigit : digit kBytes pA i = digit kBytes pA' i)
    (hA : ∀ k, Twin (elem kBytes pA k) (elem kBytes pA' k))
    (hB : ∀ k, Twin (elem kBytes pB k) (elem kBytes pB' k)) (k : Nat) :
    Twin (elem kBytes (pass kBytes n i pA pB) k) (elem kBytes (pass kBytes n i pA' pB') k) := by
  rw [elem_pass hwidth.limit_eq hfits, elem_pass hwidth.limit_eq hfits, ← hdigit]
  exact scatter_related (fun m _ => hA m) hB k

include hn

/-- A pass does not write the last element. -/
theorem pass_last {i : Nat} (pA pB : Memory) :
    elem kBytes (pass kBytes n i pA pB) (n - 1) = elem kBytes pB (n - 1) := by
  rw [elem_pass hwidth.limit_eq hfits]
  refine scatter_of_ne fun m _ => Nat.ne_of_lt ?_
  have hplace := Nat.mod_lt (place (digit kBytes pA i) n m) hwidth.limit_pos
  omega

/-- The last element that a pass reads stands where it was written. -/
theorem pass_wrote_last {i : Nat} (pA pB : Memory) :
    elem kBytes (pass kBytes n i pA pB) (place (digit kBytes pA i) n (n - 1) % limit) =
      elem kBytes pA (n - 1) := by
  obtain ⟨n, rfl⟩ := Nat.exists_eq_add_of_lt hn
  rw [elem_pass hwidth.limit_eq hfits]
  exact scatter_last (fun m => place (digit kBytes pA i) (limit + n + 1) m % limit) _

/-- A pass keeps the two runs told apart. -/
theorem Diverged.step {i : Nat} {b b' : Buffers}
    (h : Diverged kBytes n i (passes kBytes n b i) (passes kBytes n b' i)) (hi : i < kBytes)
    (hpos : 1 ≤ i) :
    Diverged kBytes n (i + 1) (passes kBytes n b (i + 1)) (passes kBytes n b' (i + 1)) := by
  rw [passes, passes]
  -- an even round reads `p` and writes `scratch`, an odd one the other way
  rcases Nat.mod_two_eq_zero_or_one i with hparity | hparity
  · simp only [Nat.and_one_is_mod, hparity, ne_eq, not_true_eq_false, if_false]
    refine ⟨h.p, pass_twin hwidth hfits (digit_twin h.p hi hpos) h.p h.scratch, ?_,
      fun _ => h.differs (by omega)⟩
    rw [pass_last hwidth hfits hn, pass_last hwidth hfits hn]
    exact h.last
  · simp only [Nat.and_one_is_mod, hparity, ne_eq, one_ne_zero, not_false_eq_true, if_true]
    have hdigit := digit_twin h.scratch hi hpos
    refine ⟨pass_twin hwidth hfits hdigit h.scratch h.p, h.scratch, h.last, fun _ => ?_⟩
    refine ⟨place (digit kBytes (passes kBytes n b i).scratch i) n (n - 1) % limit,
      (Nat.mod_lt _ hwidth.limit_pos).trans hn, ?_, ?_⟩
    · rw [pass_wrote_last hwidth hfits hn]
      exact h.last.1
    · rw [hdigit, pass_wrote_last hwidth hfits hn]
      exact h.last.2

/-- Two runs on one array, with scratch buffers that differ in the last element only. -/
theorem diverged {b b' : Buffers} (hp : b.p = b'.p)
    (hscratch : ∀ k, Twin (elem kBytes b.scratch k) (elem kBytes b'.scratch k))
    (hlast : elem kBytes b.scratch (n - 1) = 0 ∧ elem kBytes b'.scratch (n - 1) = 1) {i : Nat}
    (hpos : 1 ≤ i) (hi : i ≤ kBytes) :
    Diverged kBytes n i (passes kBytes n b i) (passes kBytes n b' i) := by
  induction i, hpos using Nat.le_induction with
  | base =>
      have hp' : ∀ k, Twin (elem kBytes b.p k) (elem kBytes b'.p k) := fun k => .inl (by rw [hp])
      have hdigit : digit kBytes b.p 0 = digit kBytes b'.p 0 := by rw [hp]
      refine ⟨hp', pass_twin hwidth hfits hdigit hp' hscratch, ?_, fun h => absurd h (by decide)⟩
      show elem kBytes (pass kBytes n 0 b.p b.scratch) (n - 1) = 0 ∧
        elem kBytes (pass kBytes n 0 b'.p b'.scratch) (n - 1) = 1
      rw [pass_last hwidth hfits hn, pass_last hwidth hfits hn]
      exact hlast
  | succ i hpos ih => exact (ih (Nat.le_of_succ_le hi)).step hwidth hfits hn hi hpos

/-- They leave arrays that are no rearrangements of each other. -/
theorem sort_internal_diverges (b b' : Buffers) (hp : b.p = b'.p)
    (hscratch : ∀ k, Twin (elem kBytes b.scratch k) (elem kBytes b'.scratch k))
    (hlast : elem kBytes b.scratch (n - 1) = 0 ∧ elem kBytes b'.scratch (n - 1) = 1) :
    ¬ ((List.range n).map (elem kBytes (sortInternal kBytes n b))).Perm
      ((List.range n).map (elem kBytes (sortInternal kBytes n b'))) := by
  have hdiverged := diverged hwidth hfits hn hp hscratch hlast hwidth.pos (Nat.le_refl kBytes)
  have hsource : (∀ k, Twin (elem kBytes ((passes kBytes n b kBytes).source kBytes) k)
      (elem kBytes ((passes kBytes n b' kBytes).source kBytes) k)) ∧
      ∃ k < n, elem kBytes ((passes kBytes n b kBytes).source kBytes) k = 0 ∧
        elem kBytes ((passes kBytes n b' kBytes).source kBytes) k = 1 := by
    simp only [Buffers.source, Nat.and_one_is_mod]
    rcases hwidth.one_or_even with rfl | heven
    · exact ⟨hdiverged.scratch, n - 1, by omega, hdiverged.last⟩
    · have htwo : 2 ≤ kBytes := by
        have hpos := hwidth.pos
        omega
      simp only [heven, ne_eq, not_true_eq_false, if_false]
      exact ⟨hdiverged.p, hdiverged.differs htwo⟩
  obtain ⟨htwin, k, hk, hzero, hone⟩ := hsource
  intro hperm
  refine absurd hperm.sum_eq (Nat.ne_of_lt (List.sum_lt_sum _ _ (fun j hj => ?_) ⟨k, ?_, ?_⟩))
  · rw [sort_internal_elem hwidth b (List.mem_range.1 hj),
      sort_internal_elem hwidth b' (List.mem_range.1 hj)]
    exact (htwin j).le
  · exact List.mem_range.2 hk
  · rw [sort_internal_elem hwidth b hk, sort_internal_elem hwidth b' hk, hzero, hone]
    exact Nat.zero_lt_one

end Diverging

/-! ## The types -/

/-- The types that `Sort` is offered for. -/
inductive ElemType where
  | u8 | i8 | u16 | i16 | u32 | i32 | u64 | i64 | u128 | i128 | float

/-- How the bits of a type are compared. -/
inductive Kind where
  | unsigned | signed | float

namespace ElemType

/-- `sizeof`. -/
def size : ElemType → Nat
  | u8 | i8 => 1
  | u16 | i16 => 2
  | u32 | i32 | float => 4
  | u64 | i64 => 8
  | u128 | i128 => 16

def bits (t : ElemType) : Nat := 8 * t.size

def kind : ElemType → Kind
  | u8 | u16 | u32 | u64 | u128 => .unsigned
  | i8 | i16 | i32 | i64 | i128 => .signed
  | float => .float

variable (t : ElemType)

/-- The order of the elements: that of the numbers, and for floats the total order of the bits. -/
def le (x y : BitVec t.bits) : Prop :=
  match t.kind with
  | .unsigned => x.toNat ≤ y.toNat
  | .signed => x.toInt ≤ y.toInt
  | .float => floatRank x ≤ floatRank y

/-- The first loop of `Sort` on one element, where there is one: `p[i] ^= 0x80` and its like, and
`(bits | (1 << 31)) ^ (I32(bits) >> 31)`. -/
def encode (x : BitVec t.bits) : BitVec t.bits :=
  match t.kind with
  | .unsigned => x
  | .signed => flipSign x
  | .float => floatKey x

/-- The last loop: `p[i] ^= 0x80` and its like, and `(bits & ~(1 << 31)) ^ (I32(~bits) >> 31)`. -/
def decode (x : BitVec t.bits) : BitVec t.bits :=
  match t.kind with
  | .unsigned => x
  | .signed => flipSign x
  | .float => floatOfKey x

/-- `p[k]`. -/
def value (mem : Memory) (k : Nat) : BitVec t.bits := BitVec.ofNat t.bits (elem t.size mem k)

/-- The elements of an array. -/
def values (mem : Memory) (n : Nat) : List (BitVec t.bits) := (List.range n).map (t.value mem)

/-- `for (i = 0; i < n; ++i) p[i] = f(p[i])`. -/
def mapElems (f : BitVec t.bits → BitVec t.bits) (p : Memory) (n : Nat) : Memory := fun a =>
  if a / t.size < n then toByte (f (t.value p (a / t.size))).toNat (a % t.size) else p a

/-- `Sort`: what it leaves in `p`. -/
def sort (scratch p : Memory) (n : Nat) : Memory :=
  match t.kind with
  | .unsigned => sortInternal t.size n ⟨scratch, p⟩
  | .signed | .float =>
      t.mapElems t.decode (sortInternal t.size n ⟨scratch, t.mapElems t.encode p n⟩) n

/-- An array of the type: its bytes and its length, which fit into memory. -/
structure Input where
  p : Memory
  n : Nat
  fits : n * t.size < 2 ^ 64

variable {t}

/-- `Sort` leaves a rearrangement of the array in nondecreasing order, whatever the scratch buffer
holds. -/
def Input.Sorts (input : t.Input) : Prop :=
  ∀ scratch, (t.values (t.sort scratch input.p input.n) input.n).Perm
      (t.values input.p input.n) ∧
    (t.values (t.sort scratch input.p input.n) input.n).Pairwise t.le

/-- The bytes of an array with these elements. -/
def store (kBytes : Nat) (elems : Nat → Nat) : Memory := fun a =>
  toByte (elems (a / kBytes)) (a % kBytes)

/-- An element that is stored is read back. -/
theorem elem_store {kBytes k : Nat} (elems : Nat → Nat) (h : elems k < 256 ^ kBytes) :
    elem kBytes (store kBytes elems) k = elems k := by
  rw [← Nat.mod_eq_of_lt h, ← from_bytes_to_byte]
  refine from_bytes_congr fun j hj => ?_
  have hpos := Nat.zero_lt_of_lt hj
  rw [store, Nat.mul_comm k, Nat.mul_add_div hpos, Nat.div_eq_of_lt hj, Nat.add_zero,
    Nat.mul_add_mod, Nat.mod_eq_of_lt hj]

/-- An element has bytes. -/
theorem size_pos (t : ElemType) : 0 < t.size := by cases t <;> decide

/-- An element has bits. -/
theorem bits_pos (t : ElemType) : 0 < t.bits := Nat.mul_pos (by decide) t.size_pos

/-- The bytes of an element are its bits. -/
theorem two_pow_bits (t : ElemType) : 2 ^ t.bits = 256 ^ t.size := Nat.pow_mul 2 8 t.size

/-- The widths of the elements are those that are sorted. -/
theorem width (t : ElemType) : Width t.size (2 ^ 32 / t.size) := by
  cases t <;> exact ⟨by decide, by decide⟩

/-- The value of an element as a number. -/
theorem value_to_nat (mem : Memory) (k : Nat) : (t.value mem k).toNat = elem t.size mem k := by
  rw [value, BitVec.toNat_ofNat, two_pow_bits, Nat.mod_eq_of_lt (elem_lt _ _ _)]

/-- What the loop over the elements does to each of them. -/
theorem value_map_elems (f : BitVec t.bits → BitVec t.bits) (p : Memory) {n k : Nat} (hk : k < n) :
    t.value (t.mapElems f p n) k = f (t.value p k) := by
  have hlt : (f (t.value p k)).toNat < 256 ^ t.size := t.two_pow_bits ▸ (f (t.value p k)).isLt
  have hstore := elem_store (fun k => (f (t.value p k)).toNat) hlt
  apply BitVec.eq_of_toNat_eq
  rw [value_to_nat, ← hstore]
  refine from_bytes_congr fun j hj => ?_
  have hdiv : (k * t.size + j) / t.size = k := by
    rw [Nat.mul_comm k, Nat.mul_add_div t.size_pos, Nat.div_eq_of_lt hj, Nat.add_zero]
  rw [mapElems, store, hdiv, if_pos hk]

/-- What was encoded is decoded again. -/
theorem decode_encode (x : BitVec t.bits) : t.decode (t.encode x) = x := by
  unfold decode encode
  cases t.kind with
  | unsigned => rfl
  | signed => exact flip_sign_flip_sign x
  | float => exact float_of_key_float_key t.bits_pos x

/-- What was decoded is encoded again. -/
theorem encode_decode (x : BitVec t.bits) : t.encode (t.decode x) = x := by
  have hinj : Function.Injective t.encode :=
    Function.LeftInverse.injective (g := t.decode) decode_encode
  have : Finite (BitVec t.bits) :=
    Finite.of_injective (BitVec.toFin (w := t.bits)) fun _ _ => BitVec.eq_of_toFin_eq
  exact Function.LeftInverse.rightInverse_of_surjective decode_encode
    (Finite.surjective_of_injective hinj) x

/-- The elements compare as what they are encoded with. -/
theorem le_iff (x y : BitVec t.bits) : t.le x y ↔ (t.encode x).toNat ≤ (t.encode y).toNat := by
  unfold le encode
  cases t.kind with
  | unsigned => rfl
  | signed =>
      have hx := flip_sign_to_nat t.bits_pos x
      have hy := flip_sign_to_nat t.bits_pos y
      simp only
      omega
  | float =>
      have hx := float_key_to_nat t.bits_pos x
      have hy := float_key_to_nat t.bits_pos y
      simp only
      omega

/-- Unsigned elements are sorted as they are. -/
theorem sort_unsigned (h : t.kind = .unsigned) (scratch p : Memory) (n : Nat) :
    t.sort scratch p n = sortInternal t.size n ⟨scratch, p⟩ := by rw [sort, h]

/-- Other elements are encoded, sorted and decoded. -/
theorem sort_encoded (h : t.kind ≠ .unsigned) (scratch p : Memory) (n : Nat) :
    t.sort scratch p n =
      t.mapElems t.decode (sortInternal t.size n ⟨scratch, t.mapElems t.encode p n⟩) n := by
  rw [sort]
  cases hkind : t.kind with
  | unsigned => exact absurd hkind h
  | signed | float => rfl

/-- `Sort` sorts the encoded elements as unsigned numbers and decodes them. -/
theorem sort_value (p : Memory) (n : Nat) : ∃ encoded : Memory,
    (∀ k < n, t.value encoded k = t.encode (t.value p k)) ∧ ∀ scratch, ∀ k < n,
      t.value (t.sort scratch p n) k =
        t.decode (t.value (sortInternal t.size n ⟨scratch, encoded⟩) k) := by
  by_cases hkind : t.kind = .unsigned
  · refine ⟨p, fun k _ => by rw [encode, hkind], fun scratch k _ => ?_⟩
    rw [sort_unsigned hkind, decode, hkind]
  · refine ⟨t.mapElems t.encode p n, fun k hk => value_map_elems _ _ hk, fun scratch k hk => ?_⟩
    rw [sort_encoded hkind, value_map_elems _ _ hk]

/-- Arrays that the offsets reach are sorted. -/
theorem Input.sorts_of_le (input : t.Input) (h : input.n * t.size ≤ 2 ^ 32) : input.Sorts := by
  obtain ⟨encoded, hencoded, hsort⟩ := sort_value (t := t) input.p input.n
  have hlimit : input.n ≤ 2 ^ 32 / t.size := (Nat.le_div_iff_mul_le t.size_pos).2 h
  intro scratch
  obtain ⟨hperm, hsorted⟩ := sort_internal_sorted t.width input.fits hlimit ⟨scratch, encoded⟩
  constructor
  · have hdecoded := hperm.map fun x => t.decode (BitVec.ofNat t.bits x)
    rw [List.map_map, List.map_map] at hdecoded
    have hleft : t.values (t.sort scratch input.p input.n) input.n = _ :=
      List.map_congr_left fun k hk => hsort scratch k (List.mem_range.1 hk)
    have hright : t.values input.p input.n =
        (List.range input.n).map fun k => t.decode (t.value encoded k) :=
      List.map_congr_left fun k hk => by rw [hencoded k (List.mem_range.1 hk), decode_encode]
    rw [hleft, hright]
    exact hdecoded
  · rw [values, List.pairwise_map]
    refine List.pairwise_lt_range.imp_of_mem fun {i j} hi hj hlt => ?_
    rw [hsort scratch i (List.mem_range.1 hi), hsort scratch j (List.mem_range.1 hj), le_iff,
      encode_decode, encode_decode, value_to_nat, value_to_nat]
    exact hsorted j (List.mem_range.1 hj) i hlt

/-- A larger array comes out differently for two scratch buffers. -/
theorem Input.not_sorts_of_lt (input : t.Input) (h : 2 ^ 32 < input.n * t.size) :
    ¬ input.Sorts := by
  obtain ⟨encoded, -, hsort⟩ := sort_value (t := t) input.p input.n
  have hlimit : 2 ^ 32 / t.size < input.n := by
    rw [Nat.div_lt_iff_lt_mul t.size_pos]
    exact h
  have hbase : 1 < 256 ^ t.size := Nat.one_lt_pow t.size_pos.ne' (by decide)
  have hzero (k : Nat) : elem t.size (store t.size fun _ => 0) k = 0 :=
    elem_store (fun _ => 0) (Nat.zero_lt_of_lt hbase)
  have hone (k : Nat) : elem t.size (store t.size fun k => if k = input.n - 1 then 1 else 0) k =
      if k = input.n - 1 then 1 else 0 := by
    refine elem_store (fun k => if k = input.n - 1 then 1 else 0) ?_
    split_ifs
    · exact hbase
    · exact Nat.zero_lt_of_lt hbase
  have hnot := sort_internal_diverges t.width input.fits hlimit
    ⟨store t.size fun _ => 0, encoded⟩
    ⟨store t.size fun k => if k = input.n - 1 then 1 else 0, encoded⟩ rfl
    (fun k => by
      simp only [hzero, hone]
      split_ifs
      · exact .inr ⟨rfl, rfl⟩
      · exact .inl rfl)
    ⟨hzero _, (hone _).trans (if_pos rfl)⟩
  intro hsorts
  -- both results rearrange the same array, so what they decode rearranges each other
  have hperm := ((hsorts (store t.size fun _ => 0)).1.trans
    (hsorts (store t.size fun k => if k = input.n - 1 then 1 else 0)).1.symm).map
      fun x => (t.encode x).toNat
  simp only [values, List.map_map] at hperm
  have helem (scratch : Memory) : (List.range input.n).map
      ((fun x => (t.encode x).toNat) ∘ t.value (t.sort scratch input.p input.n)) =
        (List.range input.n).map (elem t.size (sortInternal t.size input.n ⟨scratch, encoded⟩)) :=
    List.map_congr_left fun k hk => by
      rw [Function.comp, hsort scratch k (List.mem_range.1 hk), encode_decode, value_to_nat]
  rw [helem, helem] at hperm
  exact hnot hperm

/-- For every type and every array of it that fits into memory: `Sort` leaves a rearrangement of the
array in nondecreasing order, whatever the scratch buffer holds, if and only if the array has at
most `2 ^ 32` bytes. -/
theorem sort_iff (input : t.Input) : input.Sorts ↔ input.n * t.size ≤ 2 ^ 32 := by
  constructor
  · intro hsorts
    by_contra hlt
    exact input.not_sorts_of_lt (Nat.lt_of_not_le hlt) hsorts
  · exact input.sorts_of_le

/-- An array of `2 ^ 32 + 1` zero bytes. -/
def zeros : ElemType.u8.Input := ⟨fun _ => 0, 2 ^ 32 + 1, by decide⟩

/-- An array of `2 ^ 32 + 1` zeros is not sorted. -/
theorem zeros_not_sorted : ¬ ∀ (t : ElemType) (input : t.Input), input.Sorts := fun h =>
  zeros.not_sorts_of_lt (by decide) (h .u8 zeros)

end ElemType

end Codon.Util.FastSort
