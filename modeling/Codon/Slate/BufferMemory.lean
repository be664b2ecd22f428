import Codon.Library.FlatMemory
import Codon.Library.Run
import Codon.Slate.Layout

/-!
# Aligned buffers in memory

Buffers that grow, move and are cloned, with their pointers and the bytes that these lead to.
Whatever is done with them, a buffer holds what was last written to it and zeros elsewhere,
and no buffer shares memory with another.
-/

namespace Codon.Slate

open Codon.Library

/-- `AlignedBuffer` with its pointers. The null pointer is 0. -/
structure ManagedBuffer extends AlignedBuffer where
  ptr : Nat
  alignedPtr : Nat
  deriving DecidableEq

/-- What `new char[n]` returns: an address, and what the memory there happens to hold. -/
structure Allocation where
  ptr : Nat
  content : Nat → UInt8

/-- `alloc_buffer`: the memory, the pointer to the storage and the one to the aligned buffer. -/
def allocBuffer (memory : Memory) (size alignment : Nat) (new : Allocation) :
    Memory × Nat × Nat :=
  (splice memory ⟨new.ptr, size + alignment - 1⟩ new.content, new.ptr,
    maskUp 64 new.ptr alignment)

namespace ManagedBuffer

/-- A buffer that has been constructed or moved from. -/
def empty : ManagedBuffer := ⟨⟨0, 0⟩, 0, 0⟩

/-- The size of the new allocation, where one is needed. -/
def newTotal (b : ManagedBuffer) (amount : Nat) : Nat :=
  max (max ((b.total + b.total / 2) % 2 ^ 64) 3072) amount

/-- The part of `ensure` that copies the contents to the new buffer. -/
def copyTo (b : ManagedBuffer) (memory : Memory) (dst : Nat) : Memory :=
  if b.alignedPtr ≠ 0 then memcpy memory dst b.alignedPtr b.length else memory

/-- `AlignedBuffer::ensure`. It is refused without any change. -/
def ensure (b : ManagedBuffer) (memory : Memory) (amount alignment : Nat) (new : Allocation) :
    Option (Memory × ManagedBuffer) :=
  if notPowerOfTwo alignment then none
  else if maxAlignment < alignment then none
  else if b.total ≥ amount then some (memory, { b with length := max b.length amount })
  else
    let newTotal := b.newTotal amount
    let (memory, newPtr, newAlignedPtr) := allocBuffer memory newTotal maxAlignment new
    let memory := b.copyTo memory newAlignedPtr
    let memory := memset memory (newAlignedPtr + b.length) 0 (newTotal - b.length)
    some (memory, ⟨⟨amount, newTotal⟩, newPtr, newAlignedPtr⟩)

/-- `AlignedBuffer::clone`. -/
def clone (b : ManagedBuffer) (memory : Memory) (new : Allocation) : Memory × ManagedBuffer :=
  if b.alignedPtr ≠ 0 then
    let (memory, newPtr, newAlignedPtr) := allocBuffer memory b.length maxAlignment new
    (memcpy memory newAlignedPtr b.alignedPtr b.length,
      ⟨⟨b.length, b.length⟩, newPtr, newAlignedPtr⟩)
  else (memory, empty)

/-- The memory that a buffer owns. -/
def storage (b : ManagedBuffer) : Span :=
  ⟨b.ptr, if b.ptr = 0 then 0 else b.total + maxAlignment - 1⟩

end ManagedBuffer

/-- The memory and the buffers. -/
structure BufferWorld where
  memory : Memory
  buffer : Nat → ManagedBuffer

/-- What a client does with its buffers. -/
inductive BufferOp where
  | ensure (id amount alignment : Nat) (new : Allocation)
  | write (id i : Nat) (value : UInt8)
  | move (dst src : Nat)
  | clone (dst src : Nat) (new : Allocation)

namespace BufferWorld

/-- `AlignedBuffer::assign`: frees what the destination holds, takes over the source's buffer and
leaves the source empty. -/
def assign (w : BufferWorld) (dst src : Nat) : BufferWorld :=
  { w with
    buffer := Function.update (Function.update w.buffer dst (w.buffer src)) src .empty }

def step (w : BufferWorld) : BufferOp → BufferWorld
  | .ensure id amount alignment new =>
    match (w.buffer id).ensure w.memory amount alignment new with
    | none => w
    | some (memory, b) => ⟨memory, Function.update w.buffer id b⟩
  | .write id i value => { w with memory := store w.memory ((w.buffer id).alignedPtr + i) value }
  | .move dst src => w.assign dst src
  | .clone dst src new =>
    let (memory, b) := (w.buffer src).clone w.memory new
    ⟨memory, Function.update w.buffer dst b⟩

/-- Nothing is allocated yet. -/
def start (memory : Memory) : BufferWorld := ⟨memory, fun _ => ManagedBuffer.empty⟩

/-- Memory of `size` bytes that does not reach beyond the address space and that no buffer owns. -/
def Fresh (w : BufferWorld) (new : Allocation) (size : Nat) : Prop :=
  0 < new.ptr ∧ new.ptr + size ≤ 2 ^ 64 ∧
    ∀ id, (Span.mk new.ptr size).Disjoint (w.buffer id).storage

/-- What a client may do: alignments are powers of two up to the maximum, writes are below the
length, moves are between distinct buffers, and what needs memory gets it. -/
def Allowed (w : BufferWorld) : BufferOp → Prop
  | .ensure id amount alignment new =>
    (∃ k ≤ 5, alignment = 2 ^ k) ∧
      ((w.buffer id).total < amount →
        w.Fresh new ((w.buffer id).newTotal amount + maxAlignment - 1))
  | .write id i _ => i < (w.buffer id).length
  | .move dst src => dst ≠ src
  | .clone _ src new =>
    (w.buffer src).alignedPtr ≠ 0 → w.Fresh new ((w.buffer src).length + maxAlignment - 1)

end BufferWorld

/-- What a buffer is for: the largest amount requested, and the last value written to each byte, if
any was. -/
structure BufferHistory where
  largest : Nat
  written : Nat → Option UInt8

namespace BufferHistory

def empty : BufferHistory := ⟨0, fun _ => none⟩

/-- The value a byte is to have. -/
def value (h : BufferHistory) (i : Nat) : UInt8 := (h.written i).getD 0

/-- The histories after an operation. That of a moved buffer goes with it, and a clone gets a
copy. -/
def record (h : Nat → BufferHistory) : BufferOp → Nat → BufferHistory
  | .ensure id amount _ _ =>
    Function.update h id { h id with largest := max (h id).largest amount }
  | .write id i value =>
    Function.update h id { h id with written := Function.update (h id).written i (some value) }
  | .move dst src => Function.update (Function.update h dst (h src)) src empty
  | .clone dst src _ => Function.update h dst (h src)

end BufferHistory

section Buffers

variable {b : ManagedBuffer} {memory memory' : Memory} {h : BufferHistory} {new : Allocation}
  {size amount alignment : Nat}

/-- What a buffer holds is what its history asks for, also in the space that it does not show
yet. -/
structure Holds (b : ManagedBuffer) (memory : Memory) (h : BufferHistory) : Prop where
  length_eq : b.length = h.largest
  length_le : b.length ≤ b.total
  aligned : maxAlignment ∣ b.alignedPtr
  inside : (Span.mk b.alignedPtr b.total).Within b.storage
  null : b.alignedPtr = 0 → b.total = 0
  allocated : b.alignedPtr ≠ 0 → 0 < b.length
  data : ∀ i < b.total, memory (b.alignedPtr + i) = h.value i
  unwritten : ∀ i, b.length ≤ i → h.written i = none

/-- An empty buffer holds what nothing was asked for and nothing was written to. -/
theorem holds_of_nothing (hlargest : h.largest = 0) (hwritten : ∀ i, h.written i = none) :
    Holds .empty memory h := by
  constructor
  case length_eq => exact hlargest.symm
  case length_le => exact Nat.le_refl 0
  case aligned => exact Nat.dvd_zero _
  case inside => exact ⟨Nat.le_refl 0, Nat.le_refl 0⟩
  case null => exact fun _ => rfl
  case allocated => exact fun hne => absurd rfl hne
  case data => exact fun i hi => absurd hi (Nat.not_lt_zero i)
  case unwritten => exact fun i _ => hwritten i

/-- An empty buffer holds what nothing was asked for. -/
theorem holds_empty (memory : Memory) : Holds .empty memory .empty :=
  holds_of_nothing rfl fun _ => rfl

/-- The bytes of a buffer are in its storage. -/
theorem Holds.contains (hb : Holds b memory h) {i : Nat} (hi : i < b.total) :
    b.storage.Contains (b.alignedPtr + i) :=
  hb.inside.contains ⟨Nat.le_add_right _ _, Nat.add_lt_add_left hi _⟩

/-- Only the storage of a buffer matters for what it holds. -/
theorem Holds.congr (hb : Holds b memory h)
    (hsame : ∀ a, b.storage.Contains a → memory' a = memory a) : Holds b memory' h :=
  { hb with data := fun i hi => (hsame _ (hb.contains hi)).trans (hb.data i hi) }

/-- Behind what was ensured there are zeros. -/
theorem Holds.value_above (hb : Holds b memory h) {i : Nat} (hi : b.length ≤ i) :
    h.value i = 0 := by
  rw [BufferHistory.value, hb.unwritten i hi]
  rfl

/-- A new allocation has room for the aligned buffer. -/
theorem alloc_buffer_spec (memory : Memory) (hptr : 0 < new.ptr) (hsize : 0 < size)
    (hspace : new.ptr + (size + maxAlignment - 1) ≤ 2 ^ 64) :
    ∃ aligned, allocBuffer memory size maxAlignment new =
        (splice memory ⟨new.ptr, size + maxAlignment - 1⟩ new.content, new.ptr, aligned) ∧
      maxAlignment ∣ aligned ∧ 0 < aligned ∧
      (Span.mk aligned size).Within ⟨new.ptr, size + maxAlignment - 1⟩ := by
  have hmax : maxAlignment = 2 ^ 5 := rfl
  have hroom : new.ptr + 2 ^ 5 ≤ 2 ^ 64 := by omega
  obtain ⟨hdvd, hle, hlt⟩ := mask_up_spec (w := 64) (by omega) hroom
  refine ⟨_, rfl, hdvd, Nat.lt_of_lt_of_le hptr hle, hle, ?_⟩
  show maskUp 64 new.ptr maxAlignment + size ≤ new.ptr + (size + maxAlignment - 1)
  rw [hmax]
  omega

/-- The storage of a buffer that has been allocated. -/
theorem storage_of_ptr_pos {length total ptr aligned : Nat} (hptr : 0 < ptr) :
    (ManagedBuffer.mk ⟨length, total⟩ ptr aligned).storage = ⟨ptr, total + maxAlignment - 1⟩ := by
  rw [ManagedBuffer.storage, if_neg (Nat.ne_of_gt hptr)]

/-- Alignments that are powers of two up to the maximum pass the checks. -/
theorem alignment_passes {k : Nat} (hk : k ≤ 5) :
    notPowerOfTwo (2 ^ k) = false ∧ ¬maxAlignment < 2 ^ k := by
  have hall : ∀ j ≤ 5, notPowerOfTwo (2 ^ j) = false ∧ ¬maxAlignment < 2 ^ j := by decide
  exact hall k hk

/-- A request that fits only makes the length larger. -/
theorem ensure_fits {k : Nat} (hk : k ≤ 5) (hfits : amount ≤ b.total) :
    b.ensure memory amount (2 ^ k) new =
      some (memory, { b with length := max b.length amount }) := by
  obtain ⟨hpower, hmax⟩ := alignment_passes hk
  unfold ManagedBuffer.ensure
  rw [hpower, if_neg Bool.false_ne_true, if_neg hmax, if_pos hfits]

/-- Without its pointers, the buffer is the one that the layout keeps. -/
theorem ensure_sizes (hfits : b.total + b.total / 2 < 2 ^ 64) :
    (b.ensure memory amount alignment new).map (fun grown => grown.2.toAlignedBuffer) =
      b.toAlignedBuffer.ensure amount alignment := by
  have hnew : b.newTotal amount = max (max (b.total + b.total / 2) 3072) amount := by
    rw [ManagedBuffer.newTotal, Nat.mod_eq_of_lt hfits]
  unfold ManagedBuffer.ensure AlignedBuffer.ensure
  by_cases hpower : notPowerOfTwo alignment = true
  · simp [hpower]
  · by_cases hmax : maxAlignment < alignment
    · simp [hmax]
    · by_cases htotal : amount ≤ b.total
      · simp [hpower, hmax, htotal]
      · simp [hpower, hmax, htotal, allocBuffer, hnew]

/-- A copy leaves the rest of the memory. -/
theorem copy_to_outside {dst a : Nat} (ha : ¬(Span.mk dst b.length).Contains a) :
    b.copyTo memory dst a = memory a := by
  unfold ManagedBuffer.copyTo
  split
  · exact splice_outside ha
  · rfl

/-- A copy brings the bytes of the buffer. -/
theorem copy_to_inside (hb : Holds b memory h) {dst i : Nat} (hi : i < b.length) :
    b.copyTo memory' dst (dst + i) = memory' (b.alignedPtr + i) := by
  have hne : b.alignedPtr ≠ 0 := by
    intro hnull
    have htotal := hb.null hnull
    have hlength := hb.length_le
    omega
  rw [ManagedBuffer.copyTo, if_pos hne, memcpy, splice_inside (s := ⟨dst, b.length⟩) hi]

/-- A buffer in a new allocation holds what is asked for if its bytes are in place. -/
theorem holds_allocated {length total aligned : Nat} (hptr : 0 < new.ptr)
    (hlength : length = h.largest) (hle : length ≤ total) (hlarge : 0 < length)
    (hdvd : maxAlignment ∣ aligned) (haligned : 0 < aligned)
    (hwithin : (Span.mk aligned total).Within ⟨new.ptr, total + maxAlignment - 1⟩)
    (hdata : ∀ i < total, memory (aligned + i) = h.value i)
    (hunwritten : ∀ i, length ≤ i → h.written i = none) :
    Holds ⟨⟨length, total⟩, new.ptr, aligned⟩ memory h := by
  constructor
  case length_eq => exact hlength
  case length_le => exact hle
  case aligned => exact hdvd
  case inside =>
    rw [storage_of_ptr_pos hptr]
    exact hwithin
  case null =>
    intro hnull
    exact absurd hnull (Nat.ne_of_gt haligned)
  case allocated => exact fun _ => hlarge
  case data => exact hdata
  case unwritten => exact hunwritten

/-- An allocation away from a buffer leaves what the buffer shows. -/
theorem Holds.splice_fresh (hb : Holds b memory h) {s : Span} (hfresh : s.Disjoint b.storage)
    (content : Nat → UInt8) {i : Nat} (hi : i < b.total) :
    splice memory s content (b.alignedPtr + i) = h.value i := by
  have hsource : ¬s.Contains (b.alignedPtr + i) := fun hin => hfresh _ ⟨hin, hb.contains hi⟩
  rw [splice_outside hsource, hb.data i hi]

/-- The memory after the contents have been copied to a new allocation and the rest of it has been
cleared. -/
def growTo (b : ManagedBuffer) (memory : Memory) (dst total : Nat) : Memory :=
  memset (b.copyTo memory dst) (dst + b.length) 0 (total - b.length)

/-- A buffer that grows leaves the rest of the memory. -/
theorem grow_to_outside {dst total a : Nat} (hle : b.length ≤ total)
    (ha : ¬(Span.mk dst total).Contains a) : growTo b memory dst total a = memory a := by
  have hout : ¬(dst ≤ a ∧ a < dst + total) := ha
  have hcopy : ¬(Span.mk dst b.length).Contains a := by
    intro hin
    have hin' : dst ≤ a ∧ a < dst + b.length := hin
    omega
  have hrest : ¬(Span.mk (dst + b.length) (total - b.length)).Contains a := by
    intro hin
    have hin' : dst + b.length ≤ a ∧ a < dst + b.length + (total - b.length) := hin
    omega
  rw [growTo, memset, splice_outside hrest, copy_to_outside hcopy]

/-- The old contents are in place, and above them are zeros. -/
theorem Holds.grow_to_inside (hb : Holds b memory h) {s : Span} (hfresh : s.Disjoint b.storage)
    (content : Nat → UInt8) {dst total i : Nat} (hi : i < total) :
    growTo b (splice memory s content) dst total (dst + i) = h.value i := by
  have hlength := hb.length_le
  by_cases hold : i < b.length
  · have hrest : ¬(Span.mk (dst + b.length) (total - b.length)).Contains (dst + i) := by
      intro hin
      have hin' : dst + b.length ≤ dst + i := hin.1
      omega
    rw [growTo, memset, splice_outside hrest, copy_to_inside hb hold]
    exact hb.splice_fresh hfresh content (by omega)
  · have hindex : dst + i = dst + b.length + (i - b.length) := by omega
    have hrest : i - b.length < total - b.length := by omega
    rw [growTo, hindex, memset, splice_inside (s := ⟨dst + b.length, total - b.length⟩) hrest,
      hb.value_above (by omega)]

/-- A request that does not fit moves the contents to a new allocation and clears the rest of
it. Nothing else is written to. -/
theorem ensure_grows {k : Nat} (hk : k ≤ 5) (hb : Holds b memory h) (hgrow : b.total < amount)
    (hptr : 0 < new.ptr) (hspace : new.ptr + (b.newTotal amount + maxAlignment - 1) ≤ 2 ^ 64)
    (hfresh : (Span.mk new.ptr (b.newTotal amount + maxAlignment - 1)).Disjoint b.storage) :
    ∃ memory' b', b.ensure memory amount (2 ^ k) new = some (memory', b') ∧
      b'.storage = ⟨new.ptr, b.newTotal amount + maxAlignment - 1⟩ ∧
      (∀ a, ¬b'.storage.Contains a → memory' a = memory a) ∧
      Holds b' memory' { h with largest := max h.largest amount } := by
  obtain ⟨hpower, hmax⟩ := alignment_passes hk
  have hle : amount ≤ b.newTotal amount := Nat.le_max_right _ _
  have hlength := hb.length_le
  have heq := hb.length_eq
  obtain ⟨aligned, halloc, hdvd, hpos, hwithin⟩ :=
    alloc_buffer_spec memory hptr (by omega) hspace
  have hensure : b.ensure memory amount (2 ^ k) new =
      some (growTo b (splice memory ⟨new.ptr, b.newTotal amount + maxAlignment - 1⟩ new.content)
        aligned (b.newTotal amount), ⟨⟨amount, b.newTotal amount⟩, new.ptr, aligned⟩) := by
    unfold ManagedBuffer.ensure
    rw [hpower, if_neg Bool.false_ne_true, if_neg hmax, if_neg (by omega)]
    simp only [halloc, growTo]
  refine ⟨_, _, hensure, storage_of_ptr_pos hptr, ?_, ?_⟩
  · intro a ha
    rw [storage_of_ptr_pos hptr] at ha
    rw [grow_to_outside (by omega) fun hin => ha (hwithin.contains hin), splice_outside ha]
  · have hlargest : amount = max h.largest amount := by omega
    have hunwritten : ∀ i, amount ≤ i → h.written i = none :=
      fun i hi => hb.unwritten i (by omega)
    exact holds_allocated hptr hlargest hle (by omega) hdvd hpos hwithin
      (fun i hi => hb.grow_to_inside hfresh new.content hi) hunwritten

/-- A clone is a copy in memory of its own. -/
theorem clone_spec (hb : Holds b memory h)
    (hnew : b.alignedPtr ≠ 0 → 0 < new.ptr ∧
      new.ptr + (b.length + maxAlignment - 1) ≤ 2 ^ 64 ∧
      (Span.mk new.ptr (b.length + maxAlignment - 1)).Disjoint b.storage) :
    ∃ memory' b', b.clone memory new = (memory', b') ∧
      (b.alignedPtr ≠ 0 → b'.storage = ⟨new.ptr, b.length + maxAlignment - 1⟩) ∧
      (b.alignedPtr = 0 → b'.storage = ⟨0, 0⟩) ∧
      (∀ a, ¬b'.storage.Contains a → memory' a = memory a) ∧ Holds b' memory' h := by
  have hlength := hb.length_le
  unfold ManagedBuffer.clone
  by_cases hnull : b.alignedPtr = 0
  · rw [if_neg (not_not.2 hnull)]
    have htotal := hb.null hnull
    have hlargest : h.largest = 0 := by
      have heq := hb.length_eq
      omega
    exact ⟨_, _, rfl, fun hne => absurd hnull hne, fun _ => rfl, fun _ _ => rfl,
      holds_of_nothing hlargest fun i => hb.unwritten i (by omega)⟩
  · obtain ⟨hptr, hspace, hfresh⟩ := hnew hnull
    have hpositive := hb.allocated hnull
    obtain ⟨aligned, halloc, hdvd, hpos, hwithin⟩ :=
      alloc_buffer_spec memory hptr hpositive hspace
    rw [if_pos hnull, halloc]
    refine ⟨_, _, rfl, fun _ => storage_of_ptr_pos hptr, fun hne => absurd hne hnull, ?_, ?_⟩
    · intro a ha
      rw [storage_of_ptr_pos hptr] at ha
      have hcopy : ¬(Span.mk aligned b.length).Contains a :=
        fun hin => ha (hwithin.contains hin)
      rw [memcpy, splice_outside hcopy, splice_outside ha]
    · refine holds_allocated hptr hb.length_eq (Nat.le_refl _) hpositive hdvd hpos hwithin ?_
        hb.unwritten
      intro i hi
      rw [memcpy, splice_inside (s := ⟨aligned, b.length⟩) hi]
      exact hb.splice_fresh hfresh new.content (by omega)

/-- A write below the length changes the one byte. -/
theorem holds_store (hb : Holds b memory h) {i : Nat} (hi : i < b.length) (value : UInt8) :
    Holds b (store memory (b.alignedPtr + i) value)
      { h with written := Function.update h.written i (some value) } := by
  refine { hb with data := ?_, unwritten := ?_ }
  · intro j hj
    show _ = (Function.update h.written i (some value) j).getD 0
    by_cases hji : j = i
    · rw [hji, store_same, Function.update_self]
      rfl
    · rw [store_other (by omega), Function.update_of_ne hji]
      exact hb.data j hj
  · intro j hj
    show Function.update h.written i (some value) j = none
    rw [Function.update_of_ne (by omega)]
    exact hb.unwritten j hj

end Buffers

namespace BufferWorld

variable {w : BufferWorld} {h : Nat → BufferHistory} {op : BufferOp} {memory : Memory}

/-- Every buffer holds what its history asks for, in memory of its own. -/
structure Sound (w : BufferWorld) (h : Nat → BufferHistory) : Prop where
  holds : ∀ id, Holds (w.buffer id) w.memory (h id)
  apart : ∀ id id', id ≠ id' → (w.buffer id).storage.Disjoint (w.buffer id').storage

/-- One buffer may change as long as the memory of the others does not, and is not taken. -/
theorem Sound.replace (hw : Sound w h) (id : Nat) {b : ManagedBuffer} {history : BufferHistory}
    (hb : Holds b memory history)
    (hsame : ∀ other, other ≠ id → ∀ a, (w.buffer other).storage.Contains a →
      memory a = w.memory a)
    (hapart : ∀ other, other ≠ id → b.storage.Disjoint (w.buffer other).storage) :
    Sound ⟨memory, Function.update w.buffer id b⟩ (Function.update h id history) := by
  constructor
  case holds =>
    intro other
    show Holds (Function.update w.buffer id b other) memory (Function.update h id history other)
    by_cases hother : other = id
    · subst hother
      rw [Function.update_self, Function.update_self]
      exact hb
    · rw [Function.update_of_ne hother, Function.update_of_ne hother]
      exact (hw.holds other).congr (hsame other hother)
  case apart =>
    intro i j hij
    show (Function.update w.buffer id b i).storage.Disjoint
      (Function.update w.buffer id b j).storage
    by_cases hi : i = id
    · subst hi
      rw [Function.update_self, Function.update_of_ne hij.symm]
      exact hapart j hij.symm
    · by_cases hj : j = id
      · subst hj
        rw [Function.update_self, Function.update_of_ne hi]
        exact (hapart i hi).symm
      · rw [Function.update_of_ne hi, Function.update_of_ne hj]
        exact hw.apart i j hij

/-- What is written to memory that no buffer owns does not show in any of them. -/
theorem same_of_fresh {memory' : Memory} {s : Span}
    (hfresh : ∀ id, s.Disjoint (w.buffer id).storage)
    (houtside : ∀ a, ¬s.Contains a → memory' a = w.memory a) (id : Nat) :
    ∀ a, (w.buffer id).storage.Contains a → memory' a = w.memory a :=
  fun a ha => houtside a fun hin => hfresh id a ⟨hin, ha⟩

/-- `ensure` keeps what was written. -/
theorem sound_ensure (hw : Sound w h) {id amount alignment : Nat} {new : Allocation}
    (hop : w.Allowed (.ensure id amount alignment new)) :
    Sound (w.step (.ensure id amount alignment new))
      (BufferHistory.record h (.ensure id amount alignment new)) := by
  obtain ⟨⟨k, hk, rfl⟩, hnew⟩ := hop
  have hb := hw.holds id
  unfold step
  -- a buffer that is large enough only grows in length
  by_cases hfits : amount ≤ (w.buffer id).total
  · simp only [ensure_fits hk hfits]
    apply hw.replace
    · have hlength := hb.length_eq
      have hle := hb.length_le
      constructor
      case length_eq =>
        show max (w.buffer id).length amount = max (h id).largest amount
        omega
      case length_le =>
        show max (w.buffer id).length amount ≤ (w.buffer id).total
        omega
      case aligned => exact hb.aligned
      case inside => exact hb.inside
      case null => exact hb.null
      case allocated =>
        intro hne
        have hpositive : 0 < (w.buffer id).length := hb.allocated hne
        show 0 < max (w.buffer id).length amount
        omega
      case data => exact hb.data
      case unwritten =>
        intro i hi
        have hi' : max (w.buffer id).length amount ≤ i := hi
        exact hb.unwritten i (by omega)
    · exact fun _ _ _ _ => rfl
    · exact fun other hother => hw.apart id other hother.symm
  · obtain ⟨hptr, hspace, hfresh⟩ := hnew (by omega)
    -- the new memory is apart from that of the other buffers, which is left alone
    obtain ⟨memory', b', heq, hstorage, houtside, hholds⟩ :=
      ensure_grows hk hb (by omega) hptr hspace (hfresh id)
    rw [hstorage] at houtside
    simp only [heq]
    apply hw.replace _ hholds
    · exact fun other _ => same_of_fresh hfresh houtside other
    · intro other _
      rw [hstorage]
      exact hfresh other

/-- A write changes one byte of one buffer. -/
theorem sound_write (hw : Sound w h) {id i : Nat} {value : UInt8}
    (hop : w.Allowed (.write id i value)) :
    Sound (w.step (.write id i value)) (BufferHistory.record h (.write id i value)) := by
  have hi : i < (w.buffer id).length := hop
  have hb := hw.holds id
  have hsound := hw.replace id (holds_store hb hi value)
    (fun other hother a ha => ?_) fun other hother => hw.apart id other hother.symm
  · rwa [Function.update_eq_self] at hsound
  · -- the byte is the buffer's own
    apply store_other
    rintro rfl
    have hlength := hb.length_le
    exact hw.apart id other hother.symm _ ⟨hb.contains (by omega), ha⟩

/-- A move takes the bytes to another buffer. -/
theorem sound_move (hw : Sound w h) {dst src : Nat} (hop : w.Allowed (.move dst src)) :
    Sound (w.step (.move dst src)) (BufferHistory.record h (.move dst src)) := by
  have hne : dst ≠ src := hop
  -- first the source is left empty, then the destination takes over what it held
  have hempty : Sound ⟨w.memory, Function.update w.buffer src .empty⟩
      (Function.update h src .empty) := by
    apply hw.replace _ (holds_empty w.memory)
    · exact fun _ _ _ _ => rfl
    · intro other _ a ha
      exact absurd ha.1.2 (Nat.not_lt_zero a)
  have hmoved := hempty.replace dst (hw.holds src) (fun _ _ _ _ => rfl)
    fun other hother => ?_
  · show Sound ⟨w.memory, Function.update (Function.update w.buffer dst (w.buffer src)) src .empty⟩
      (Function.update (Function.update h dst (h src)) src .empty)
    rwa [Function.update_comm hne, Function.update_comm hne]
  · show (w.buffer src).storage.Disjoint (Function.update w.buffer src .empty other).storage
    by_cases hsrc : other = src
    · subst hsrc
      rw [Function.update_self]
      intro a ha
      exact absurd ha.2.2 (Nat.not_lt_zero a)
    · rw [Function.update_of_ne hsrc]
      exact hw.apart src other fun h => hsrc h.symm

/-- A clone has the bytes of the buffer. -/
theorem sound_clone (hw : Sound w h) {dst src : Nat} {new : Allocation}
    (hop : w.Allowed (.clone dst src new)) :
    Sound (w.step (.clone dst src new)) (BufferHistory.record h (.clone dst src new)) := by
  have hb := hw.holds src
  obtain ⟨memory', b', heq, hstorage, hnull, houtside, hholds⟩ :=
    clone_spec hb fun hne => ⟨(hop hne).1, (hop hne).2.1, (hop hne).2.2 src⟩
  have hfresh : ∀ id, b'.storage.Disjoint (w.buffer id).storage := by
    intro id
    by_cases halloc : (w.buffer src).alignedPtr = 0
    · rw [hnull halloc]
      intro a ha
      exact absurd ha.1.2 (Nat.not_lt_zero a)
    · rw [hstorage halloc]
      exact (hop halloc).2.2 id
  unfold step
  simp only [heq]
  apply hw.replace _ hholds
  · exact fun other _ => same_of_fresh hfresh houtside other
  · exact fun other _ => hfresh other

/-- Every operation keeps what was written. -/
theorem sound_step (hw : Sound w h) (hop : w.Allowed op) :
    Sound (w.step op) (BufferHistory.record h op) := by
  cases op with
  | ensure id amount alignment new => exact sound_ensure hw hop
  | write id i value => exact sound_write hw hop
  | move dst src => exact sound_move hw hop
  | clone dst src new => exact sound_clone hw hop

/-- At the start nothing was written. -/
theorem sound_start (memory : Memory) : Sound (start memory) fun _ => .empty := by
  constructor
  case holds => exact fun _ => holds_empty memory
  case apart =>
    intro id id' _ a ha
    exact absurd ha.1.2 (Nat.not_lt_zero a)

/-- Every run keeps what was written. -/
theorem sound_run {ops : List BufferOp} (hops : Along step Allowed w ops) (hw : Sound w h) :
    Sound (run step w ops) (run BufferHistory.record h ops) := by
  induction ops generalizing w h with
  | nil => exact hw
  | cons op ops ih => exact ih hops.2 (sound_step hw hops.1)

/-- After every sequence of operations each buffer is as long as the largest amount requested of
it, has that much memory, starts at a multiple of the maximum alignment and holds the last value
written to each byte below its length, or 0 if there is none. No two buffers share a byte. -/
theorem buffers_hold_what_was_written (memory : Memory) {ops : List BufferOp}
    (hops : Along step Allowed (start memory) ops) :
    let w := run step (start memory) ops
    let h := run BufferHistory.record (fun _ => .empty) ops
    (∀ id, (w.buffer id).length = (h id).largest ∧
      (w.buffer id).length ≤ (w.buffer id).total ∧
      maxAlignment ∣ (w.buffer id).alignedPtr ∧
      ∀ i < (w.buffer id).length,
        w.memory ((w.buffer id).alignedPtr + i) = ((h id).written i).getD 0) ∧
    ∀ id id' i j, id ≠ id' → i < (w.buffer id).total → j < (w.buffer id').total →
      (w.buffer id).alignedPtr + i ≠ (w.buffer id').alignedPtr + j := by
  intro w h
  have hw : Sound w h := sound_run hops (sound_start memory)
  refine ⟨fun id => ?_, ?_⟩
  · have hb := hw.holds id
    have hle := hb.length_le
    exact ⟨hb.length_eq, hle, hb.aligned, fun i hi => hb.data i (by omega)⟩
  · intro id id' i j hne hi hj heq
    apply hw.apart id id' hne ((w.buffer id).alignedPtr + i)
    refine ⟨(hw.holds id).contains hi, ?_⟩
    rw [heq]
    exact (hw.holds id').contains hj

/-- Memory above all buffers is free. -/
theorem fresh_above {new : Allocation} {size : Nat}
    (hbelow : ∀ id, (w.buffer id).storage.start + (w.buffer id).storage.size ≤ new.ptr)
    (hptr : 0 < new.ptr) (hspace : new.ptr + size ≤ 2 ^ 64) : w.Fresh new size := by
  refine ⟨hptr, hspace, fun id a ha => ?_⟩
  have hin : new.ptr ≤ a := ha.1.1
  have hown : a < (w.buffer id).storage.start + (w.buffer id).storage.size := ha.2.2
  have hend := hbelow id
  omega

/-- Ten bytes in memory that holds something else, one of them written to. The buffer grows and is
moved, and the byte is written to again after the buffer has been cloned. -/
def grownAndCloned : List BufferOp :=
  [.ensure 0 10 8 ⟨4100, fun _ => 255⟩, .write 0 3 7, .ensure 0 4000 8 ⟨8196, fun _ => 254⟩,
    .move 1 0, .clone 2 1 ⟨16500, fun _ => 253⟩, .write 1 3 9]

/-- The operations of the sample are allowed. -/
theorem grown_and_cloned_allowed : Along step Allowed (start fun _ => 1) grownAndCloned := by
  have height : ∃ k ≤ 5, 8 = 2 ^ k := ⟨3, by decide, rfl⟩
  have hshown : 3 < 10 := by decide
  have hgrown : 3 < 4000 := by decide
  refine ⟨⟨height, fun _ => fresh_above (fun id => ?_) (by decide) (by decide)⟩, hshown,
    ⟨height, fun _ => fresh_above (fun id => ?_) (by decide) (by decide)⟩, Nat.one_ne_zero,
    fun _ => fresh_above (fun id => ?_) (by decide) (by decide), hgrown, trivial⟩
  · exact Nat.zero_le 4100
  · rcases id with _ | id
    · decide
    · exact Nat.zero_le 8196
  · rcases id with _ | _ | id
    · decide
    · decide
    · exact Nat.zero_le 16500

/-- Ten bytes are written, and are still there after the buffer has grown, was moved and was cloned.
-/
theorem ten_bytes_hold_what_was_written :
    let w := run step (start fun _ => 1) grownAndCloned
    (w.buffer 0).length = 0 ∧ (w.buffer 1).alignedPtr = 8224 ∧ w.memory 8227 = 9 ∧
      w.memory 8228 = 0 ∧ (w.buffer 2).alignedPtr = 16512 ∧ w.memory 16515 = 7 := by
  intro w
  have hholds := (buffers_hold_what_was_written (fun _ => 1) grown_and_cloned_allowed).1
  obtain ⟨-, -, -, hmoved⟩ := hholds 1
  obtain ⟨-, -, -, hcloned⟩ := hholds 2
  exact ⟨(hholds 0).1, rfl, hmoved 3 (by decide), hmoved 4 (by decide), rfl,
    hcloned 3 (by decide)⟩

end BufferWorld

end Codon.Slate
