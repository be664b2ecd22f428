import Codon.Library.Bytes
import Codon.Library.Words

/-!
# The content digest

The 128-bit digest of a buffer, which shards of a slate are compared by. Every step of the
computation keeps different values different, so a difference that is confined to one block
of the buffer, or to the seed, is always seen.
-/

namespace Codon.Hash

open Codon.Library

/-- An unsigned 64-bit number. -/
abbrev UINT64 := BitVec 64

/-- A digest, or a seed. -/
@[ext] structure Hash128 where
  lo : UINT64
  hi : UINT64
  deriving DecidableEq, Repr

def rotl64 (x : UINT64) (r : Nat) : UINT64 := x <<< r ||| x >>> (64 - r)

def fmix64 (k : UINT64) : UINT64 :=
  let k := k ^^^ k >>> 33
  let k := k * 0xff51afd7ed558ccd
  let k := k ^^^ k >>> 33
  let k := k * 0xc4ceb9fe1a85ec53
  k ^^^ k >>> 33

/-- The number at `p`, the least significant byte first. -/
def load64 (p : Nat → UInt8) : UINT64 := BitVec.ofNat 64 (fromBytes p 8)

def c1 : UINT64 := 0x87c37b91114253d5
def c2 : UINT64 := 0x4cf5ad432745937f

def mixK1 (k1 : UINT64) : UINT64 := rotl64 (k1 * c1) 31 * c2

def mixK2 (k2 : UINT64) : UINT64 := rotl64 (k2 * c2) 33 * c1

/-- One pass of the loop over the blocks. -/
def round (h : Hash128) (k1 k2 : UINT64) : Hash128 :=
  let h1 := h.lo ^^^ mixK1 k1
  let h1 := (rotl64 h1 27 + h.hi) * 5 + 0x52dce729
  let h2 := h.hi ^^^ mixK2 k2
  let h2 := (rotl64 h2 31 + h1) * 5 + 0x38495ab5
  ⟨h1, h2⟩

/-- The loop over the first `nblocks` blocks. -/
def body (data : Nat → UInt8) (h : Hash128) : Nat → Hash128
  | 0 => h
  | i + 1 =>
    round (body data h i) (load64 fun j => data (i * 16 + 0 + j))
      (load64 fun j => data (i * 16 + 8 + j))

/-- The cases of the switch that add to `k2`, each a byte of the tail and its shift. Case `n`
reads byte `n - 1`. -/
def casesK2 : List (Nat × Nat) :=
  [(14, 48), (13, 40), (12, 32), (11, 24), (10, 16), (9, 8), (8, 0)]

/-- The cases that add to `k1`. -/
def casesK1 : List (Nat × Nat) :=
  [(7, 56), (6, 48), (5, 40), (4, 32), (3, 24), (2, 16), (1, 8), (0, 0)]

/-- The cases that run when the switch is entered at `residue`: that one and all that follow. -/
def fallThrough (cases : List (Nat × Nat)) (residue : Nat) : List (Nat × Nat) :=
  cases.filter fun place => place.1 + 1 ≤ residue

/-- The switch over `len & 15`. -/
def mixTail (tail : Nat → UInt8) (residue : Nat) (h : Hash128) : Hash128 :=
  let k2 := combine tail (fallThrough casesK2 residue) 0
  let h2 := if 9 ≤ residue then h.hi ^^^ mixK2 k2 else h.hi
  let k1 := combine tail (fallThrough casesK1 residue) 0
  let h1 := if 1 ≤ residue then h.lo ^^^ mixK1 k1 else h.lo
  ⟨h1, h2⟩

/-- The end of the computation, from the length on. -/
def finish (len : Nat) (h : Hash128) : Hash128 :=
  let h1 := h.lo ^^^ BitVec.ofNat 64 len
  let h2 := h.hi ^^^ BitVec.ofNat 64 len
  let h1 := h1 + h2
  let h2 := h2 + h1
  let h1 := fmix64 h1
  let h2 := fmix64 h2
  let h1 := h1 + h2
  let h2 := h2 + h1
  ⟨h1, h2⟩

def digestXxh128 (key : Nat → UInt8) (len : Nat) (seed : Hash128) : Hash128 :=
  let nblocks := len / 16
  let h := body key seed nblocks
  let h := mixTail (fun i => key (nblocks * 16 + i)) (len % 16) h
  finish len h

section Steps

/-- Rotating by fewer than 64 places loses nothing. -/
theorem rotl64_injective {x y : UINT64} {r : Nat} (hr : r < 64) (h : rotl64 x r = rotl64 y r) :
    x = y :=
  rotate_injective hr h

/-- The final mix of a half is a bijection. -/
theorem fmix64_injective {x y : UINT64} (h : fmix64 x = fmix64 y) : x = y := by
  apply xor_shift_injective (show 0 < 33 by omega)
  apply mul_odd_injective (c := 0xff51afd7ed558ccd) rfl
  apply xor_shift_injective (show 0 < 33 by omega)
  apply mul_odd_injective (c := 0xc4ceb9fe1a85ec53) rfl
  exact xor_shift_injective (show 0 < 33 by omega) h

/-- So is the mix of the first half of a block. -/
theorem mix_k1_injective {x y : UINT64} (h : mixK1 x = mixK1 y) : x = y := by
  have hrotated := mul_odd_injective (show c2.toNat % 2 = 1 from rfl) h
  have hproduct := rotl64_injective (by omega) hrotated
  exact mul_odd_injective (show c1.toNat % 2 = 1 from rfl) hproduct

/-- So is the mix of the second half. -/
theorem mix_k2_injective {x y : UINT64} (h : mixK2 x = mixK2 y) : x = y := by
  have hrotated := mul_odd_injective (show c1.toNat % 2 = 1 from rfl) h
  have hproduct := rotl64_injective (by omega) hrotated
  exact mul_odd_injective (show c2.toNat % 2 = 1 from rfl) hproduct

/-- Eight bytes can be read back from the number they make. -/
theorem load64_injective {p q : Nat → UInt8} (h : load64 p = load64 q) {i : Nat} (hi : i < 8) :
    p i = q i := by
  have hlt (r : Nat → UInt8) : fromBytes r 8 < 2 ^ 64 := from_bytes_lt r 8
  have hnum : fromBytes p 8 = fromBytes q 8 := by
    have h' := congrArg BitVec.toNat h
    simp only [load64, BitVec.toNat_ofNat] at h'
    rwa [Nat.mod_eq_of_lt (hlt p), Nat.mod_eq_of_lt (hlt q)] at h'
  rw [← to_byte_from_bytes p hi, hnum, to_byte_from_bytes q hi]

/-- A load reads the eight bytes at its place. -/
theorem load64_congr {p q : Nat → UInt8} (h : ∀ i < 8, p i = q i) : load64 p = load64 q := by
  rw [load64, load64, from_bytes_congr h]

/-- Both halves of a round can be undone: the lower first, from the upper half of the state. -/
theorem round_halves {h h' : Hash128} {k1 k1' k2 k2' : UINT64}
    (heq : round h k1 k2 = round h' k1' k2') :
    h.hi ^^^ mixK2 k2 = h'.hi ^^^ mixK2 k2' ∧
      rotl64 (h.lo ^^^ mixK1 k1) 27 + h.hi = rotl64 (h'.lo ^^^ mixK1 k1') 27 + h'.hi := by
  have hlo := congrArg Hash128.lo heq
  have hhi := congrArg Hash128.hi heq
  have hfive : (5 : UINT64).toNat % 2 = 1 := rfl
  have hsum := mul_odd_injective hfive ((BitVec.add_left_inj _).1 hlo)
  have hupper := mul_odd_injective hfive ((BitVec.add_left_inj _).1 hhi)
  refine ⟨?_, hsum⟩
  have hlow : (round h k1 k2).lo = (round h' k1' k2').lo := hlo
  change _ + (round h k1 k2).lo = _ + (round h' k1' k2').lo at hupper
  rw [hlow] at hupper
  exact rotl64_injective (by omega) ((BitVec.add_left_inj _).1 hupper)

/-- A round keeps different states different. -/
theorem round_injective_state {h h' : Hash128} {k1 k2 : UINT64}
    (heq : round h k1 k2 = round h' k1 k2) : h = h' := by
  obtain ⟨hupper, hsum⟩ := round_halves heq
  have hhi : h.hi = h'.hi := (BitVec.xor_left_inj _).1 hupper
  rw [hhi] at hsum
  have hmixed := rotl64_injective (by omega) ((BitVec.add_left_inj _).1 hsum)
  have hlo : h.lo = h'.lo := (BitVec.xor_left_inj _).1 hmixed
  exact Hash128.ext hlo hhi

/-- A round keeps different blocks different. -/
theorem round_injective_block {h : Hash128} {k1 k1' k2 k2' : UINT64}
    (heq : round h k1 k2 = round h k1' k2') : k1 = k1' ∧ k2 = k2' := by
  obtain ⟨hupper, hsum⟩ := round_halves heq
  have hk2 := mix_k2_injective ((BitVec.xor_right_inj _).1 hupper)
  have hmixed := rotl64_injective (by omega) ((BitVec.add_left_inj _).1 hsum)
  have hk1 := mix_k1_injective ((BitVec.xor_right_inj _).1 hmixed)
  exact ⟨hk1, hk2⟩

/-- The last steps keep different states different. -/
theorem finish_injective {len : Nat} {h h' : Hash128} (heq : finish len h = finish len h') :
    h = h' := by
  have hlo := congrArg Hash128.lo heq
  have hhi := congrArg Hash128.hi heq
  simp only [finish] at hlo hhi
  rw [hlo] at hhi
  have hmixedHi := (BitVec.add_left_inj _).1 hhi
  rw [hmixedHi] at hlo
  have hmixedLo := (BitVec.add_left_inj _).1 hlo
  have hsumHi := fmix64_injective hmixedHi
  have hsumLo := fmix64_injective hmixedLo
  rw [hsumLo] at hsumHi
  have hxorHi := (BitVec.add_left_inj _).1 hsumHi
  rw [hxorHi] at hsumLo
  have hxorLo := (BitVec.add_left_inj _).1 hsumLo
  exact Hash128.ext ((BitVec.xor_left_inj _).1 hxorLo) ((BitVec.xor_left_inj _).1 hxorHi)

end Steps

section Blocks

variable {data data' : Nat → UInt8}

/-- The loop reads only the blocks it goes over. -/
theorem body_congr {h : Hash128} {n : Nat} (hsame : ∀ i < n * 16, data i = data' i) :
    body data h n = body data' h n := by
  induction n with
  | zero => rfl
  | succ n ih =>
      have hblock (offset : Nat) (hoffset : offset ≤ 8) :
          load64 (fun j => data (n * 16 + offset + j)) =
            load64 (fun j => data' (n * 16 + offset + j)) := by
        apply load64_congr
        intro j hj
        exact hsame _ (by omega)
      rw [body, body, ih fun i hi => hsame i (by omega), hblock 0 (by omega), hblock 8 (by omega)]

/-- The loop keeps different states different. -/
theorem body_injective {h h' : Hash128} {n : Nat} (heq : body data h n = body data h' n) :
    h = h' := by
  induction n with
  | zero => exact heq
  | succ n ih => exact ih (round_injective_state heq)

/-- Two equal ends of the loop, over buffers that differ in one block at most, are ends over
the same bytes. -/
theorem body_determines_block {h : Hash128} {n b : Nat}
    (hconfined : ∀ i < n * 16, data i ≠ data' i → i / 16 = b)
    (heq : body data h n = body data' h n) : ∀ i < n * 16, data i = data' i := by
  induction n with
  | zero =>
      intro i hi
      omega
  | succ n ih =>
      have hbefore : ∀ i < n * 16, data i ≠ data' i → i / 16 = b :=
        fun i hi => hconfined i (by omega)
      -- the last block is the one they may differ in, or the difference is before it
      by_cases hlast : b = n
      · have hsame : ∀ i < n * 16, data i = data' i := by
          intro i hi
          by_contra hne
          have := hbefore i hi hne
          omega
        rw [body, body, body_congr hsame] at heq
        obtain ⟨hk1, hk2⟩ := round_injective_block heq
        intro i hi
        by_cases hlow : i < n * 16
        · exact hsame i hlow
        · by_cases hhalf : i < n * 16 + 8
          · have hbyte := load64_injective hk1 (show i - n * 16 < 8 by omega)
            have hindex : n * 16 + 0 + (i - n * 16) = i := by omega
            rwa [hindex] at hbyte
          · have hbyte := load64_injective hk2 (show i - (n * 16 + 8) < 8 by omega)
            have hindex : n * 16 + 8 + (i - (n * 16 + 8)) = i := by omega
            rwa [hindex] at hbyte
      · have hsame : ∀ i, n * 16 ≤ i → i < (n + 1) * 16 → data i = data' i := by
          intro i hlow hi
          by_contra hne
          have := hconfined i hi hne
          omega
        have hblock (offset : Nat) (hoffset : offset ≤ 8) :
            load64 (fun j => data (n * 16 + offset + j)) =
              load64 (fun j => data' (n * 16 + offset + j)) := by
          apply load64_congr
          intro j hj
          exact hsame _ (by omega) (by omega)
        rw [body, body, hblock 0 (by omega), hblock 8 (by omega)] at heq
        have hearlier := ih hbefore (round_injective_state heq)
        intro i hi
        by_cases hlow : i < n * 16
        · exact hearlier i hlow
        · exact hsame i (by omega) hi

end Blocks

section Tail

variable {tail tail' : Nat → UInt8} {residue : Nat}

/-- The bytes of a tail fall on different places of the first half. -/
theorem cases_k1_apart (residue : Nat) : Apart (fallThrough casesK1 residue) := by
  have hall : Apart casesK1 := by decide
  exact List.Pairwise.sublist List.filter_sublist hall

/-- And on different places of the second. -/
theorem cases_k2_apart (residue : Nat) : Apart (fallThrough casesK2 residue) := by
  have hall : Apart casesK2 := by decide
  exact List.Pairwise.sublist List.filter_sublist hall

/-- Every such place fits the first half. -/
theorem cases_k1_fit : ∀ place ∈ fallThrough casesK1 residue, place.2 + 8 ≤ 64 := by
  have hall : ∀ place ∈ casesK1, place.2 + 8 ≤ 64 := by decide
  exact fun place hmem => hall place (List.mem_of_mem_filter hmem)

/-- Every such place fits the second half. -/
theorem cases_k2_fit : ∀ place ∈ fallThrough casesK2 residue, place.2 + 8 ≤ 64 := by
  have hall : ∀ place ∈ casesK2, place.2 + 8 ≤ 64 := by decide
  exact fun place hmem => hall place (List.mem_of_mem_filter hmem)

/-- Every byte of the tail has a case that reads it. -/
theorem exists_case {i : Nat} (hi : i < residue) (hresidue : residue < 16) :
    (∃ shift, (i, shift) ∈ fallThrough casesK1 residue) ∨
      (9 ≤ residue ∧ ∃ shift, (i, shift) ∈ fallThrough casesK2 residue) := by
  have hall : ∀ j < 15, (∃ place ∈ casesK1, place.1 = j) ∨
      (9 ≤ j + 1 ∧ ∃ place ∈ casesK2, place.1 = j) := by decide
  rcases hall i (by omega) with ⟨place, hmem, rfl⟩ | ⟨hnine, place, hmem, rfl⟩
  · exact .inl ⟨place.2, List.mem_filter.2 ⟨hmem, decide_eq_true hi⟩⟩
  · exact .inr ⟨by omega, place.2, List.mem_filter.2 ⟨hmem, decide_eq_true hi⟩⟩

/-- No case reads past the tail. -/
theorem case_in_tail {cases : List (Nat × Nat)} {place : Nat × Nat}
    (hmem : place ∈ fallThrough cases residue) : place.1 < residue := by
  exact of_decide_eq_true (List.mem_filter.1 hmem).2

/-- The tail is mixed from its own bytes alone. -/
theorem mix_tail_congr {h : Hash128} (hsame : ∀ i < residue, tail i = tail' i) :
    mixTail tail residue h = mixTail tail' residue h := by
  have hcombine (cases : List (Nat × Nat)) :
      combine (w := 64) tail (fallThrough cases residue) 0 =
        combine tail' (fallThrough cases residue) 0 :=
    combine_congr 0 fun place hmem => hsame place.1 (case_in_tail hmem)
  simp only [mixTail, hcombine]

/-- The switch keeps different states different. -/
theorem mix_tail_injective_state {h h' : Hash128}
    (heq : mixTail tail residue h = mixTail tail residue h') : h = h' := by
  have hlo := congrArg Hash128.lo heq
  have hhi := congrArg Hash128.hi heq
  simp only [mixTail] at hlo hhi
  apply Hash128.ext
  · split at hlo
    · exact (BitVec.xor_left_inj _).1 hlo
    · exact hlo
  · split at hhi
    · exact (BitVec.xor_left_inj _).1 hhi
    · exact hhi

/-- The switch keeps different tails different. -/
theorem mix_tail_injective_tail {h : Hash128} (hresidue : residue < 16)
    (heq : mixTail tail residue h = mixTail tail' residue h) :
    ∀ i < residue, tail i = tail' i := by
  intro i hi
  have hlo := congrArg Hash128.lo heq
  have hhi := congrArg Hash128.hi heq
  simp only [mixTail] at hlo hhi
  rcases exists_case hi hresidue with ⟨shift, hmem⟩ | ⟨hnine, shift, hmem⟩
  · have hone : 1 ≤ residue := by omega
    rw [if_pos hone, if_pos hone] at hlo
    have hk1 := mix_k1_injective ((BitVec.xor_right_inj _).1 hlo)
    exact combine_injective (cases_k1_apart residue) cases_k1_fit hk1 (i, shift) hmem
  · rw [if_pos hnine, if_pos hnine] at hhi
    have hk2 := mix_k2_injective ((BitVec.xor_right_inj _).1 hhi)
    exact combine_injective (cases_k2_apart residue) cases_k2_fit hk2 (i, shift) hmem

end Tail

/-- Buffers that give the same digest and differ in one block at most, which may be the last
and partial one, do not differ. -/
theorem digest_determines_block {key key' : Nat → UInt8} {len b : Nat} {seed : Hash128}
    (hconfined : ∀ i < len, key i ≠ key' i → i / 16 = b)
    (heq : digestXxh128 key len seed = digestXxh128 key' len seed) :
    ∀ i < len, key i = key' i := by
  have hlen : len / 16 * 16 + len % 16 = len := Nat.div_add_mod' len 16
  have hmixed := finish_injective heq
  intro i hi
  by_cases hpartial : b = len / 16
  · -- the loops agree, and the tails are told apart by the switch
    have hblocks : ∀ j < len / 16 * 16, key j = key' j := by
      intro j hj
      by_contra hne
      have := hconfined j (by omega) hne
      omega
    rw [body_congr hblocks] at hmixed
    by_cases hlow : i < len / 16 * 16
    · exact hblocks i hlow
    · have hbyte := mix_tail_injective_tail (Nat.mod_lt len (by omega)) hmixed
        (i - len / 16 * 16) (by omega)
      have hindex : len / 16 * 16 + (i - len / 16 * 16) = i := by omega
      rwa [hindex] at hbyte
  · -- the tails agree, and the loops are told apart by the rounds
    have htail : ∀ j, len / 16 * 16 ≤ j → j < len → key j = key' j := by
      intro j hlow hj
      by_contra hne
      have := hconfined j hj hne
      omega
    rw [mix_tail_congr fun j hj => htail (len / 16 * 16 + j) (by omega) (by omega)] at hmixed
    have hbody := mix_tail_injective_state hmixed
    have hblocks := body_determines_block
      (fun j hj => hconfined j (by omega)) hbody
    by_cases hlow : i < len / 16 * 16
    · exact hblocks i hlow
    · exact htail i (by omega) hi

/-- Two buffers of one length that differ within one aligned block only, or within the final
partial block only, have different digests under every seed, and one buffer has different
digests under different seeds. -/
theorem digest_misses_no_local_difference :
    (∀ (seed : Hash128) (len b : Nat) (key key' : Nat → UInt8),
      (∃ i < len, key i ≠ key' i) → (∀ i < len, key i ≠ key' i → i / 16 = b) →
      digestXxh128 key len seed ≠ digestXxh128 key' len seed) ∧
    (∀ (key : Nat → UInt8) (len : Nat) (seed seed' : Hash128), seed ≠ seed' →
      digestXxh128 key len seed ≠ digestXxh128 key len seed') := by
  refine ⟨?_, ?_⟩
  · intro seed len b key key' ⟨i, hi, hne⟩ hconfined heq
    exact hne (digest_determines_block hconfined heq i hi)
  · intro key len seed seed' hne heq
    exact hne (body_injective (mix_tail_injective_state (finish_injective heq)))

/-- Seventeen bytes that differ in the last one, and the same bytes under two seeds. -/
theorem digest_of_seventeen_bytes :
    digestXxh128 (fun _ => 0) 17 ⟨0, 0⟩ ≠
        digestXxh128 (fun i => if i = 16 then 1 else 0) 17 ⟨0, 0⟩ ∧
      digestXxh128 (fun _ => 0) 17 ⟨1, 0⟩ ≠ digestXxh128 (fun _ => 0) 17 ⟨2, 0⟩ := by
  refine ⟨?_, ?_⟩
  · apply digest_misses_no_local_difference.1 ⟨0, 0⟩ 17 1
    · exact ⟨16, by decide, by decide⟩
    · decide
  · exact digest_misses_no_local_difference.2 (fun _ => 0) 17 ⟨1, 0⟩ ⟨2, 0⟩ (by decide)

-- the digests of the bytes `abc` and `abd` under the zero seed
example :
    digestXxh128 (fun i => [97, 98, 99].getD i 0) 3 ⟨0, 0⟩ =
        ⟨0xb4963f3f3fad7867, 0x3ba2744126ca2d52⟩ ∧
      digestXxh128 (fun i => [97, 98, 100].getD i 0) 3 ⟨0, 0⟩ =
        ⟨0x6e36f626f40a629a, 0xafe88dbd4af8ee67⟩ := by
  decide

end Codon.Hash
