import Codon.Library.Alignment
import Codon.Library.Run
import Codon.Library.Tiling

/-!
# The bump arena

A pool hands out aligned bytes from the end of its newest chunk, and from a new chunk if the
newest has no room. Addresses are 64-bit numbers and wrap around. Whatever is requested and
wherever the chunks are, the blocks are aligned, lie in the chunks and do not overlap.
-/

namespace Codon.Util

open Codon.Library

/-- Memory that the pool got from `malloc`, the first `used` bytes of it given away. -/
structure Chunk where
  base : Nat
  cap : Nat
  used : Nat
  deriving DecidableEq, Repr

/-- The chunks, the newest first. -/
structure MonotonicPool where
  chunks : List Chunk
  deriving DecidableEq, Repr

namespace Chunk

/-- The addresses of a chunk. -/
def span (c : Chunk) : Span := ⟨c.base, c.cap⟩

/-- The next aligned address, in 64-bit arithmetic. -/
def aligned (start alignment : Nat) : Nat :=
  (start + (alignment - 1)) % 2 ^ 64 &&& (2 ^ 64 - alignment)

/-- The address of the block, or 0 for the null pointer. The alignment is a power of two. -/
def tryAlloc (c : Chunk) (size alignment : Nat) : Nat × Chunk :=
  let origin := c.base
  let start := (origin + c.used) % 2 ^ 64
  let aligned := aligned start alignment
  let finish := ((aligned + (2 ^ 64 - origin)) % 2 ^ 64 + size) % 2 ^ 64
  if finish > c.cap then (0, c) else (aligned, { c with used := finish })

end Chunk

namespace MonotonicPool

def kDefaultChunk : Nat := 4096

/-- Why the program ends. -/
inductive Fatal where
  /-- `malloc` returned null. -/
  | outOfMemory
  /-- The assertion that a chunk sized for the request fits it failed. -/
  | doesNotFit
  deriving DecidableEq, Repr

/-- The size of a new chunk for a request. -/
def chunkSize (size alignment : Nat) : Nat :=
  let cap := (size + alignment) % 2 ^ 64
  if cap < kDefaultChunk then kDefaultChunk else cap

/-- The part of `allocate` that gets a new chunk. -/
def allocateChunk (malloc : Nat → Nat) (pool : MonotonicPool) (size alignment : Nat) :
    Except Fatal (Nat × MonotonicPool) :=
  let cap := chunkSize size alignment
  let base := malloc cap
  if base = 0 then .error .outOfMemory
  else
    let (p, c) := Chunk.tryAlloc ⟨base, cap, 0⟩ size alignment
    if p = 0 then .error .doesNotFit else .ok (p, ⟨c :: pool.chunks⟩)

def allocate (malloc : Nat → Nat) (pool : MonotonicPool) (size alignment : Nat) :
    Except Fatal (Nat × MonotonicPool) :=
  match pool.chunks with
  | [] => allocateChunk malloc pool size alignment
  | last :: others =>
    let (p, last) := last.tryAlloc size alignment
    if p ≠ 0 then .ok (p, ⟨last :: others⟩)
    else allocateChunk malloc ⟨last :: others⟩ size alignment

def release (_pool : MonotonicPool) : MonotonicPool := ⟨[]⟩

end MonotonicPool

section Addresses

variable {c : Chunk} {size k : Nat}

/-- A chunk lies in the address space, not at 0, and is not larger than a request can be. -/
structure Chunk.InSpace (c : Chunk) : Prop where
  base_pos : 0 < c.base
  base_add_cap_le : c.base + c.cap ≤ 2 ^ 64
  cap_le : c.cap ≤ 2 ^ 63
  used_le : c.used ≤ c.cap

/-- What a chunk has given out lies in it. -/
theorem Chunk.used_within (hc : c.InSpace) : (Span.mk c.base c.used).Within c.span :=
  ⟨Nat.le_refl _, Nat.add_le_add_left hc.used_le c.base⟩

/-- Aligning moves an address up to the next multiple, without a wrap. -/
theorem aligned_of_lt (start : Nat) (hk : k ≤ 62) (h : start + 2 ^ k ≤ 2 ^ 64) :
    2 ^ k ∣ Chunk.aligned start (2 ^ k) ∧ start ≤ Chunk.aligned start (2 ^ k) ∧
      Chunk.aligned start (2 ^ k) < start + 2 ^ k := by
  have hpos := Nat.two_pow_pos k
  have hmask : Chunk.aligned start (2 ^ k) = maskUp 64 start (2 ^ k) := by
    rw [Chunk.aligned, maskUp, Nat.mod_eq_of_lt (by omega), Nat.add_sub_assoc hpos]
  rw [hmask]
  exact mask_up_spec (by omega) h

/-- Where there is no aligned address left, the sum wraps around to 0. -/
theorem aligned_of_wrap {start : Nat} (hk : k ≤ 62) (hstart : start < 2 ^ 64)
    (h : 2 ^ 64 < start + 2 ^ k) : Chunk.aligned start (2 ^ k) = 0 := by
  have hpow : 2 ^ k ≤ 2 ^ 62 := Nat.pow_le_pow_right (by omega) hk
  have hwrapped : (start + (2 ^ k - 1)) % 2 ^ 64 = start + (2 ^ k - 1) - 2 ^ 64 := by omega
  rw [Chunk.aligned, hwrapped, and_complement (by omega) (by omega)]
  rw [Nat.div_eq_of_lt (by omega), Nat.zero_mul]

/-- What an attempt to allocate from a chunk can do. -/
theorem try_alloc_spec (hc : c.InSpace) (hsize : size < 2 ^ 62) (hk : k ≤ 62) :
    ∃ used p, c.tryAlloc size (2 ^ k) = (p, { c with used := used }) ∧
      c.used ≤ used ∧ used ≤ c.cap ∧
      (p ≠ 0 → 2 ^ k ∣ p ∧ c.base + c.used ≤ p ∧ p + size = c.base + used) := by
  obtain ⟨hbase, hspace, hcap, hused⟩ := hc
  have hpow : 2 ^ k ≤ 2 ^ 62 := Nat.pow_le_pow_right (by omega) hk
  have hpos := Nat.two_pow_pos k
  unfold Chunk.tryAlloc
  by_cases hwrap : c.base + c.used + 2 ^ k ≤ 2 ^ 64
  · have hstart : (c.base + c.used) % 2 ^ 64 = c.base + c.used := by omega
    obtain ⟨hdvd, hle, hlt⟩ := aligned_of_lt _ hk hwrap
    simp only [hstart]
    generalize Chunk.aligned (c.base + c.used) (2 ^ k) = p at hdvd hle hlt ⊢
    have hoffset : (p + (2 ^ 64 - c.base)) % 2 ^ 64 = p - c.base := by omega
    rw [hoffset]
    split
    · exact ⟨c.used, 0, rfl, by omega, by omega, fun hp => absurd rfl hp⟩
    · rename_i hfits
      by_cases hsum : p - c.base + size < 2 ^ 64
      · refine ⟨(p - c.base + size) % 2 ^ 64, p, rfl, by omega, by omega, fun _ => ?_⟩
        exact ⟨hdvd, hle, by omega⟩
      · omega
  · -- the aligned address is 0, so no block is handed out from here
    have hzero : Chunk.aligned ((c.base + c.used) % 2 ^ 64) (2 ^ k) = 0 := by
      by_cases hend : c.base + c.used = 2 ^ 64
      · rw [hend, Nat.mod_self, Chunk.aligned, Nat.zero_add, Nat.mod_eq_of_lt (by omega),
          and_complement (by omega) (by omega), Nat.div_eq_of_lt (by omega), Nat.zero_mul]
      · rw [Nat.mod_eq_of_lt (by omega)]
        exact aligned_of_wrap hk (by omega) (by omega)
    simp only [hzero]
    split
    · exact ⟨c.used, 0, rfl, by omega, by omega, fun hp => absurd rfl hp⟩
    · refine ⟨((0 + (2 ^ 64 - c.base)) % 2 ^ 64 + size) % 2 ^ 64, 0, rfl, ?_, by omega,
        fun hp => absurd rfl hp⟩
      omega

/-- A new chunk that is large enough for the size and the alignment fits the request. -/
theorem try_alloc_new (hc : c.InSpace) (hused : c.used = 0) (hsize : size < 2 ^ 62) (hk : k ≤ 62)
    (hfits : size + 2 ^ k ≤ c.cap) : (c.tryAlloc size (2 ^ k)).1 ≠ 0 := by
  obtain ⟨hbase, hspace, hcap, -⟩ := hc
  have hpos := Nat.two_pow_pos k
  have hstart : (c.base + c.used) % 2 ^ 64 = c.base := by omega
  obtain ⟨-, hle, hlt⟩ := aligned_of_lt c.base hk (by omega)
  unfold Chunk.tryAlloc
  simp only [hstart]
  generalize Chunk.aligned c.base (2 ^ k) = p at hle hlt ⊢
  rw [if_neg (by omega)]
  show p ≠ 0
  omega

end Addresses

namespace MonotonicPool

section Runs

/-- A block that was handed out, and the alignment it was requested with. -/
structure Block where
  span : Span
  alignment : Nat
  deriving DecidableEq

/-- A pool and the blocks that it has handed out since the last release. -/
structure Session where
  pool : MonotonicPool
  blocks : List Block

/-- A call by the pool's owner. What `malloc` returns is up to each call. -/
inductive Call where
  | allocate (size alignment : Nat) (malloc : Nat → Nat)
  | release

/-- A call on the pool. -/
def Session.perform (s : Session) : Call → Except Fatal Session
  | .allocate size alignment malloc =>
    match s.pool.allocate malloc size alignment with
    | .error e => .error e
    | .ok (p, pool) => .ok ⟨pool, ⟨⟨p, size⟩, alignment⟩ :: s.blocks⟩
  | .release => .ok ⟨s.pool.release, []⟩

/-- A call, unless the program has ended. -/
def step (s : Except Fatal Session) (call : Call) : Except Fatal Session :=
  s.bind (·.perform call)

/-- A fresh pool. -/
def start : Except Fatal Session := .ok ⟨⟨[]⟩, []⟩

/-- Memory that overlaps no chunk of the pool and does not go beyond the address space. -/
def Fresh (pool : MonotonicPool) (chunk : Span) : Prop :=
  chunk.start + chunk.size ≤ 2 ^ 64 ∧ ∀ c ∈ pool.chunks, chunk.Disjoint c.span

/-- A request within the limits, and a `malloc` that returns null or fresh memory. -/
def Call.Allowed (pool : MonotonicPool) : Call → Prop
  | .allocate size alignment malloc =>
    size < 2 ^ 62 ∧ (∃ k ≤ 62, alignment = 2 ^ k) ∧
      ∀ cap, malloc cap ≠ 0 → pool.Fresh ⟨malloc cap, cap⟩
  | .release => True

/-- The condition on a call in a run. -/
def AllowedIn (s : Except Fatal Session) (call : Call) : Prop :=
  ∀ t, s = .ok t → call.Allowed t.pool

/-- The block is aligned and lies in the part of a chunk that is given away. -/
def Session.Placed (pool : MonotonicPool) (b : Block) : Prop :=
  b.alignment ∣ b.span.start ∧ ∃ c ∈ pool.chunks, b.span.Within ⟨c.base, c.used⟩

/-- What holds between calls. -/
structure Session.Sound (s : Session) : Prop where
  inSpace : ∀ c ∈ s.pool.chunks, c.InSpace
  chunks_disjoint : s.pool.chunks.Pairwise fun c d => c.span.Disjoint d.span
  placed : ∀ b ∈ s.blocks, Session.Placed s.pool b
  blocks_disjoint : s.blocks.Pairwise fun a b => a.span.Disjoint b.span

end Runs

section Steps

variable {s s' : Session} {pool pool' : MonotonicPool} {call : Call} {size k p : Nat}
  {malloc : Nat → Nat} {others : List Chunk} {last : Chunk}

/-- A new chunk holds the request at any alignment and fits 63 bits. -/
theorem chunk_size_spec (hsize : size < 2 ^ 62) (hk : k ≤ 62) :
    size + 2 ^ k ≤ chunkSize size (2 ^ k) ∧ chunkSize size (2 ^ k) ≤ 2 ^ 63 := by
  have hpow : 2 ^ k ≤ 2 ^ 62 := Nat.pow_le_pow_right (by omega) hk
  unfold chunkSize kDefaultChunk
  simp only
  rw [Nat.mod_eq_of_lt (by omega)]
  split
  · omega
  · omega

/-- What holds of a pool whose newest chunk has just been allocated from, if `p` is the block:
blocks below the old cursor are below the new one, and the new block is above the old one. -/
structure Grown (pool pool' : MonotonicPool) (p size alignment : Nat) : Prop where
  inSpace : ∀ c ∈ pool'.chunks, c.InSpace
  disjoint : pool'.chunks.Pairwise fun c d => c.span.Disjoint d.span
  keeps : ∀ c ∈ pool.chunks, ∃ d ∈ pool'.chunks, d.base = c.base ∧ c.used ≤ d.used
  aligned : p ≠ 0 → alignment ∣ p
  inside : p ≠ 0 → ∃ d ∈ pool'.chunks, (Span.mk p size).Within ⟨d.base, d.used⟩
  apart : p ≠ 0 → ∀ c ∈ pool.chunks, (Span.mk p size).Disjoint ⟨c.base, c.used⟩

/-- Allocating from the newest chunk. -/
theorem grown_of_try_alloc (hspace : ∀ c ∈ last :: others, c.InSpace)
    (hdisjoint : (last :: others).Pairwise fun c d => c.span.Disjoint d.span)
    (hsize : size < 2 ^ 62) (hk : k ≤ 62) :
    Grown ⟨last :: others⟩ ⟨(last.tryAlloc size (2 ^ k)).2 :: others⟩
      (last.tryAlloc size (2 ^ k)).1 size (2 ^ k) := by
  have hlast := hspace last (List.mem_cons_self ..)
  obtain ⟨used, p, heq, hgrow, hcap, hblock⟩ := try_alloc_spec hlast hsize hk
  obtain ⟨hfirst, hrest⟩ := List.pairwise_cons.1 hdisjoint
  rw [heq]
  constructor
  case inSpace =>
    intro c hc
    rcases List.mem_cons.1 hc with rfl | hother
    · exact ⟨hlast.base_pos, hlast.base_add_cap_le, hlast.cap_le, hcap⟩
    · exact hspace c (List.mem_cons_of_mem _ hother)
  case disjoint => exact List.pairwise_cons.2 ⟨hfirst, hrest⟩
  case keeps =>
    intro c hc
    rcases List.mem_cons.1 hc with rfl | hother
    · exact ⟨_, List.mem_cons_self .., rfl, hgrow⟩
    · exact ⟨c, List.mem_cons_of_mem _ hother, rfl, Nat.le_refl _⟩
  case aligned => exact fun hp => (hblock hp).1
  case inside =>
    intro hp
    obtain ⟨-, hle, hend⟩ := hblock hp
    refine ⟨_, List.mem_cons_self .., ?_, ?_⟩
    · show last.base ≤ p
      omega
    · show p + size ≤ last.base + used
      omega
  case apart =>
    intro hp c hc b hb
    obtain ⟨-, hle, hend⟩ := hblock hp
    have hnew : p ≤ b ∧ b < p + size := hb.1
    have hold : c.base ≤ b ∧ b < c.base + c.used := hb.2
    rcases List.mem_cons.1 hc with rfl | hother
    · omega
    · -- the newest chunk does not overlap the others
      have hin : last.span.Contains b := by
        constructor
        · show last.base ≤ b
          omega
        · show b < last.base + last.cap
          omega
      have hother_space := hspace c (List.mem_cons_of_mem _ hother)
      exact hfirst c hother b ⟨hin, (Chunk.used_within hother_space).contains hold⟩

/-- Two growths are one, by what the second gave out. -/
theorem Grown.trans {pool₁ pool₂ pool₃ : MonotonicPool} {p size alignment q : Nat}
    (h₁ : Grown pool₁ pool₂ q size alignment) (h₂ : Grown pool₂ pool₃ p size alignment) :
    Grown pool₁ pool₃ p size alignment := by
  constructor
  case inSpace => exact h₂.inSpace
  case disjoint => exact h₂.disjoint
  case keeps =>
    intro c hc
    obtain ⟨d, hd, hbase, hused⟩ := h₁.keeps c hc
    obtain ⟨e, he, hbase', hused'⟩ := h₂.keeps d hd
    exact ⟨e, he, hbase'.trans hbase, Nat.le_trans hused hused'⟩
  case aligned => exact h₂.aligned
  case inside => exact h₂.inside
  case apart =>
    intro hp c hc b hb
    obtain ⟨d, hd, hbase, hused⟩ := h₁.keeps c hc
    have hold : c.base ≤ b ∧ b < c.base + c.used := hb.2
    apply h₂.apart hp d hd b
    refine ⟨hb.1, ?_, ?_⟩
    · show d.base ≤ b
      omega
    · show b < d.base + d.used
      omega

/-- A new chunk that is not used yet. -/
theorem grown_of_new (hspace : ∀ c ∈ pool.chunks, c.InSpace)
    (hdisjoint : pool.chunks.Pairwise fun c d => c.span.Disjoint d.span)
    {c : Chunk} (hc : c.InSpace) (hfresh : ∀ d ∈ pool.chunks, c.span.Disjoint d.span)
    (size alignment : Nat) : Grown pool ⟨c :: pool.chunks⟩ 0 size alignment := by
  constructor
  case inSpace =>
    intro d hd
    rcases List.mem_cons.1 hd with rfl | hother
    · exact hc
    · exact hspace d hother
  case disjoint => exact List.pairwise_cons.2 ⟨hfresh, hdisjoint⟩
  case keeps => exact fun d hd => ⟨d, List.mem_cons_of_mem _ hd, rfl, Nat.le_refl _⟩
  case aligned => exact fun h => absurd rfl h
  case inside => exact fun h => absurd rfl h
  case apart => exact fun h => absurd rfl h

/-- A new chunk fits the request it is made for. -/
theorem allocate_chunk_spec (hspace : ∀ c ∈ pool.chunks, c.InSpace)
    (hdisjoint : pool.chunks.Pairwise fun c d => c.span.Disjoint d.span)
    (hsize : size < 2 ^ 62) (hk : k ≤ 62)
    (hfresh : ∀ cap, malloc cap ≠ 0 → pool.Fresh ⟨malloc cap, cap⟩) :
    pool.allocateChunk malloc size (2 ^ k) = .error .outOfMemory ∨
      ∃ p pool', pool.allocateChunk malloc size (2 ^ k) = .ok (p, pool') ∧ p ≠ 0 ∧
        Grown pool pool' p size (2 ^ k) := by
  obtain ⟨hfits, hcap⟩ := chunk_size_spec hsize hk
  unfold allocateChunk
  generalize chunkSize size (2 ^ k) = cap at hfits hcap ⊢
  simp only
  split
  · exact .inl rfl
  · rename_i hbase
    obtain ⟨hend, hapart⟩ := hfresh cap hbase
    have hnew : Chunk.InSpace ⟨malloc cap, cap, 0⟩ :=
      ⟨Nat.pos_of_ne_zero hbase, hend, hcap, Nat.zero_le _⟩
    have hp := try_alloc_new hnew rfl hsize hk hfits
    rw [if_neg hp]
    have hadded := grown_of_new hspace hdisjoint hnew hapart size (2 ^ k)
    have hblock := grown_of_try_alloc hadded.inSpace hadded.disjoint hsize hk
    exact .inr ⟨_, _, rfl, hp, hadded.trans hblock⟩

/-- What a call of `allocate` can do. -/
theorem allocate_spec (hspace : ∀ c ∈ pool.chunks, c.InSpace)
    (hdisjoint : pool.chunks.Pairwise fun c d => c.span.Disjoint d.span)
    (hsize : size < 2 ^ 62) (hk : k ≤ 62)
    (hfresh : ∀ cap, malloc cap ≠ 0 → pool.Fresh ⟨malloc cap, cap⟩) :
    pool.allocate malloc size (2 ^ k) = .error .outOfMemory ∨
      ∃ p pool', pool.allocate malloc size (2 ^ k) = .ok (p, pool') ∧
        Grown pool pool' p size (2 ^ k) ∧ p ≠ 0 := by
  obtain ⟨chunks⟩ := pool
  unfold allocate
  cases chunks with
  | nil =>
      rcases allocate_chunk_spec hspace hdisjoint hsize hk hfresh with h | ⟨p, pool', h, hp, hg⟩
      · exact .inl h
      · exact .inr ⟨p, pool', h, hg, hp⟩
  | cons last others =>
      have htry := grown_of_try_alloc hspace hdisjoint hsize hk
      simp only
      split
      · rename_i hp
        exact .inr ⟨_, _, rfl, htry, hp⟩
      · -- the addresses of the chunks stay as they are, so fresh memory is still fresh
        obtain ⟨used, q, heq, -, -, -⟩ :=
          try_alloc_spec (hspace last (List.mem_cons_self ..)) hsize hk
        have hspans : ∀ cap, malloc cap ≠ 0 →
            Fresh ⟨(last.tryAlloc size (2 ^ k)).2 :: others⟩ ⟨malloc cap, cap⟩ := by
          intro cap hcap
          obtain ⟨hend, hapart⟩ := hfresh cap hcap
          refine ⟨hend, fun c hc => ?_⟩
          rcases List.mem_cons.1 hc with rfl | hother
          · rw [heq]
            exact hapart last (List.mem_cons_self ..)
          · exact hapart c (List.mem_cons_of_mem _ hother)
        rcases allocate_chunk_spec htry.inSpace htry.disjoint hsize hk hspans with
          h | ⟨p, pool', h, hp, hg⟩
        · exact .inl h
        · exact .inr ⟨p, pool', h, htry.trans hg, hp⟩

/-- What a block that was handed out earlier is worth after an allocation. -/
theorem Session.Placed.grown {b : Block} {q alignment : Nat} (h : Session.Placed pool b)
    (hg : Grown pool pool' q size alignment) : Session.Placed pool' b := by
  obtain ⟨hdvd, c, hc, hlow, hhigh⟩ := h
  obtain ⟨d, hd, hbase, hused⟩ := hg.keeps c hc
  have hlow' : c.base ≤ b.span.start := hlow
  have hhigh' : b.span.start + b.span.size ≤ c.base + c.used := hhigh
  refine ⟨hdvd, d, hd, ?_, ?_⟩
  · show d.base ≤ b.span.start
    omega
  · show b.span.start + b.span.size ≤ d.base + d.used
    omega

/-- A pool without chunks is sound. -/
theorem empty_sound : Session.Sound ⟨⟨[]⟩, []⟩ := by
  constructor
  case inSpace =>
    intro c hc
    cases hc
  case chunks_disjoint => exact List.Pairwise.nil
  case placed =>
    intro b hb
    cases hb
  case blocks_disjoint => exact List.Pairwise.nil

/-- A call keeps the session sound, and can only fail for want of memory. -/
theorem perform_sound (h : s.Sound) (hcall : call.Allowed s.pool) :
    s.perform call = .error .outOfMemory ∨ ∃ s', s.perform call = .ok s' ∧ s'.Sound := by
  cases call with
  | allocate size alignment malloc =>
      obtain ⟨hsize, ⟨k, hk, rfl⟩, hfresh⟩ := hcall
      simp only [Session.perform]
      rcases allocate_spec h.inSpace h.chunks_disjoint hsize hk hfresh with
        herror | ⟨p, pool', hok, hg, hp⟩
      · rw [herror]
        exact .inl rfl
      · rw [hok]
        refine .inr ⟨_, rfl, ?_⟩
        constructor
        case inSpace => exact hg.inSpace
        case chunks_disjoint => exact hg.disjoint
        case placed =>
          intro b hb
          rcases List.mem_cons.1 hb with rfl | hearlier
          · exact ⟨hg.aligned hp, hg.inside hp⟩
          · exact (h.placed b hearlier).grown hg
        case blocks_disjoint =>
          refine List.pairwise_cons.2 ⟨fun b hb => ?_, h.blocks_disjoint⟩
          obtain ⟨-, c, hc, hwithin⟩ := h.placed b hb
          exact fun x hx => hg.apart hp c hc x ⟨hx.1, hwithin.contains hx.2⟩
  | release =>
      exact .inr ⟨_, rfl, empty_sound⟩

end Steps

/-- What holds throughout a run: the program has not failed an assertion about a new chunk, and
what was handed out is sound. -/
def SoundSoFar (s : Except Fatal Session) : Prop :=
  s ≠ .error .doesNotFit ∧ ∀ t, s = .ok t → t.Sound

/-- A call keeps the pool sound. -/
theorem sound_step {s : Except Fatal Session} {call : Call} (h : SoundSoFar s)
    (hcall : AllowedIn s call) : SoundSoFar (step s call) := by
  cases s with
  | error e => exact h
  | ok t =>
      show SoundSoFar (t.perform call)
      rcases perform_sound (h.2 t rfl) (hcall t rfl) with herror | ⟨t', hok, hsound⟩
      · rw [herror]
        exact ⟨fun heq => (by cases heq), fun t' heq => (by cases heq)⟩
      · rw [hok]
        refine ⟨fun heq => (by cases heq), fun t'' heq => ?_⟩
        cases heq
        exact hsound

/-- Hence a run of allowed calls does. -/
theorem sound_so_far {calls : List Call} (hcalls : Along step AllowedIn start calls) :
    SoundSoFar (run step start calls) := by
  refine hcalls.invariant ?_ fun s call => sound_step
  refine ⟨fun heq => (by cases heq), fun t heq => ?_⟩
  cases heq
  exact empty_sound

/-- After every sequence of allocations and releases the blocks handed out since the last release
are aligned as requested, lie each in one chunk and do not overlap, and no new chunk was too
small for its request. -/
theorem blocks_sound {calls : List Call} (hcalls : Along step AllowedIn start calls) :
    run step start calls ≠ .error .doesNotFit ∧
      ∀ s, run step start calls = .ok s →
        (∀ b ∈ s.blocks, b.alignment ∣ b.span.start ∧ ∃ c ∈ s.pool.chunks, b.span.Within c.span) ∧
        s.blocks.Pairwise fun a b => a.span.Disjoint b.span := by
  obtain ⟨hfits, hsound⟩ := sound_so_far hcalls
  refine ⟨hfits, fun s hs => ?_⟩
  have h := hsound s hs
  refine ⟨fun b hb => ?_, h.blocks_disjoint⟩
  obtain ⟨hdvd, c, hc, hwithin⟩ := h.placed b hb
  exact ⟨hdvd, c, hc, hwithin.trans (Chunk.used_within (h.inSpace c hc))⟩

/-- Ten bytes, eight aligned ones behind them, and a block that needs a chunk of its own. -/
theorem three_blocks_sound :
    ∃ s, run step start [.allocate 10 1 fun cap => if cap = 4096 then 0x10000 else 0,
        .allocate 8 8 fun _ => 0,
        .allocate 65536 64 fun cap => if cap = 65600 then 0x20010 else 0] = .ok s ∧
      s.blocks.map Block.span = [⟨0x20040, 65536⟩, ⟨0x10010, 8⟩, ⟨0x10000, 10⟩] ∧
      s.blocks.Pairwise fun a b => a.span.Disjoint b.span := by
  refine ⟨_, rfl, by decide, ?_⟩
  refine ((@blocks_sound [.allocate 10 1 fun cap => if cap = 4096 then 0x10000 else 0,
    .allocate 8 8 fun _ => 0,
    .allocate 65536 64 fun cap => if cap = 65600 then 0x20010 else 0] ?_).2 _ rfl).2
  refine ⟨?_, ?_, ?_, trivial⟩
  · intro t ht
    cases ht
    refine ⟨by omega, ⟨0, by omega, rfl⟩, fun cap hcap => ?_⟩
    by_cases h : cap = 4096
    · subst h
      exact ⟨by decide, fun c hc => nomatch hc⟩
    · exact absurd (if_neg h) hcap
  · intro t ht
    cases ht
    exact ⟨by omega, ⟨3, by omega, rfl⟩, fun cap hcap => absurd rfl hcap⟩
  · intro t ht
    cases ht
    refine ⟨by omega, ⟨6, by omega, rfl⟩, fun cap hcap => ?_⟩
    by_cases h : cap = 65600
    · subst h
      refine ⟨by decide, fun c hc b hb => ?_⟩
      cases hc with
      | head =>
          have hnew : 0x20010 ≤ b := hb.1.1
          have hold : b < 0x10000 + 4096 := hb.2.2
          omega
      | tail _ hc => cases hc
    · exact absurd (if_neg h) hcap

end MonotonicPool

end Codon.Util
