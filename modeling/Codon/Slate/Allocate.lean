import Codon.Slate.FreeList

/-!
# What allocate_element can do

`Chunked` holds of a layout in every run, whether or not requests are refused. For such a
layout `Allocates` lists everything that `allocate_element` can do with a request:
where it refuses and what it has changed by then, and how it finds the space for the
element. The results about partitions and about refused requests are read off it.
-/

namespace Codon.Slate

open Codon.Library

variable {V : Type} {o : Outside V} {l l' : SlateLayout V} {r : Request V}

/-! ## Arguments -/

/-- An alignment that passes the checks is a power of two. -/
theorem exists_two_pow {alignment : Nat} (h : notPowerOfTwo alignment = false)
    (hle : alignment ≤ maxAlignment) : ∃ k ≤ 5, alignment = 2 ^ k := by
  have hall : ∀ a < 33, notPowerOfTwo a = false → ∃ k ≤ 5, a = 2 ^ k := by decide
  exact hall alignment (Nat.lt_succ_of_le hle) h

/-- What the argument checks establish. -/
theorem refusal_eq_none (h : r.refusal? = none) :
    0 < r.valueSize ∧ notPowerOfTwo r.alignment = false ∧ r.alignment ≤ maxAlignment ∧
      r.alignment ≤ r.valueSize := by
  unfold Request.refusal? at h
  split_ifs at h with hzero hpower hmax hsize
  exact ⟨Nat.pos_of_ne_zero hzero, by simpa using hpower, by omega, by omega⟩

/-- A request is never refused for leftover space. -/
theorem refusal_ne_free_size : r.refusal? ≠ some .freeSizeNotZero := by
  unfold Request.refusal?
  split_ifs <;> simp

/-- A buffer grows whenever the alignment is one that passes the checks. -/
theorem ensure_some (buffer : AlignedBuffer) (amount : Nat) {alignment : Nat}
    (h : notPowerOfTwo alignment = false) (hle : alignment ≤ maxAlignment) :
    ∃ buffer', buffer.ensure amount alignment = some buffer' := by
  unfold AlignedBuffer.ensure
  rw [if_neg (by simp [h, hle])]
  split_ifs
  · exact ⟨_, rfl⟩
  · exact ⟨_, rfl⟩

namespace SlateLayout

/-! ## Chunks and sizes -/

/-- What every run keeps of the free lists and the sizes, even when requests are refused. -/
structure Chunked (l : SlateLayout V) : Prop where
  aligned : ∀ shard, ∀ chunk ∈ l.shardFreeList shard, chunk.Aligned
  below : ∀ shard, ∀ chunk ∈ l.shardFreeList shard, chunk.offset + chunk.size ≤ 2 ^ 32
  size_lt : ∀ shard, l.shardSize shard < 2 ^ 32

/-- Whether the shard has no room for another alignment. -/
def Full (l : SlateLayout V) (r : Request V) : Prop :=
  maxOffset - maxAlignment + 1 < l.shardSize r.shard

/-- Where `allocate_element` arrives before it registers the element. -/
inductive Reserves (l : SlateLayout V) (r : Request V) : SlateLayout V → Nat → Prop where
  | reuses {chunk : FreeChunk} {freeList : List FreeChunk} (hchunk : l.chunkFor r = some chunk)
      (hsize : r.valueSize ≤ chunk.size) (haligned : r.alignment ∣ chunk.offset)
      (hcarves : Carves ((l.shardFreeList r.shard).erase chunk) freeList
        (chunk.offset + r.valueSize) (chunk.offset + chunk.size)) :
      Reserves l r (l.setFreeList r.shard freeList) chunk.offset
  | grows {freeList : List FreeChunk} {buffer : AlignedBuffer} (hnone : l.chunkFor r = none)
      (hroom : ¬l.Full r) (hsize : l.alignedEnd r + r.valueSize < 2 ^ 32)
      (hlow : l.shardSize r.shard ≤ l.alignedEnd r) (haligned : r.alignment ∣ l.alignedEnd r)
      (hcarves : Carves (l.shardFreeList r.shard) freeList (l.shardSize r.shard) (l.alignedEnd r)) :
      Reserves l r
        (((l.setShardSize r.shard (l.alignedEnd r + r.valueSize)).setInitialValues r.shard
          buffer).setFreeList r.shard freeList) (l.alignedEnd r)

/-- Everything that `allocate_element` can do. -/
inductive Allocates (o : Outside V) (l : SlateLayout V) (r : Request V) :
    Except Refusal (Nat × Nat) × SlateLayout V → Prop where
  | refused {refusal : Refusal} (h : r.refusal? = some refusal) :
      Allocates o l r (.error refusal, l)
  | full (hok : r.refusal? = none) (hnone : l.chunkFor r = none) (hfull : l.Full r) :
      Allocates o l r (.error .shardFull, l)
  | tooBig (hok : r.refusal? = none) (hnone : l.chunkFor r = none) (hroom : ¬l.Full r)
      (hbig : maxOffset < r.valueSize) : Allocates o l r (.error .sizeAboveMaximum, l)
  | overflows (hok : r.refusal? = none) (hnone : l.chunkFor r = none) (hroom : ¬l.Full r)
      (hsize : r.valueSize ≤ maxOffset) (hlimit : l.alignedEnd r < 2 ^ 32)
      (hover : 2 ^ 32 ≤ l.alignedEnd r + r.valueSize) :
      Allocates o l r (.error .shardOverflow,
        l.setShardSize r.shard (l.alignedEnd r + r.valueSize - 2 ^ 32))
  | wraps {chunk : FreeChunk} (hok : r.refusal? = none) (hchunk : l.chunkFor r = some chunk)
      (hbig : 2 ^ 32 ≤ r.valueSize) :
      Allocates o l r (.error .freeSizeTooBig,
        l.setFreeList r.shard ((l.shardFreeList r.shard).erase chunk))
  | reserves {m : SlateLayout V} {valueOffset : Nat} (hok : r.refusal? = none)
      (hreserves : l.Reserves r m valueOffset) :
      Allocates o l r (m.registerAt o r valueOffset)

/-- The space of a gap becomes chunks that cover it. -/
theorem carve_space_spec (l : SlateLayout V) (shard : Shard) (space : Space) {k : Nat} (hk : k ≤ 5)
    (hend : 2 ^ k ∣ space.freeOffset + space.freeSize) (hsize : space.freeSize < 2 ^ k)
    (hlimit : space.freeOffset + space.freeSize ≤ 2 ^ 32) :
    ∃ freeList, l.carveSpace shard space = (.ok (), l.setFreeList shard freeList) ∧
      Carves (l.shardFreeList shard) freeList space.freeOffset
        (space.freeOffset + space.freeSize) := by
  unfold carveSpace
  by_cases hzero : space.freeSize = 0
  · rw [if_pos hzero, hzero]
    exact ⟨l.shardFreeList shard, by simp [setFreeList], .refl _ _⟩
  · have hmax : 2 ^ k ≤ maxAlignment := Nat.pow_le_pow_right (n := 2) (by omega) hk
    obtain ⟨freeList, hcarve, hcarves⟩ : ∃ freeList,
        carve 6 (2 ^ 0) space.freeOffset space.freeSize (l.shardFreeList shard) = (0, freeList) ∧
          Carves (l.shardFreeList shard) freeList space.freeOffset
            (space.freeOffset + space.freeSize) :=
      carve_spec (l.shardFreeList shard) hk (one_dvd _) hend hsize (by omega) hlimit
    rw [pow_zero] at hcarve
    rw [if_neg hzero, if_neg (hsize.trans_le hmax).not_ge]
    exact ⟨freeList, by simp [hcarve], hcarves⟩

/-- A chunk that is found is free and at least as large as the size asked for, in 32 bits. -/
theorem chunk_for_some {chunk : FreeChunk} (h : l.chunkFor r = some chunk) :
    chunk ∈ l.shardFreeList r.shard ∧ r.valueSize % 2 ^ 32 ≤ chunk.size :=
  ⟨List.mem_of_find?_eq_some h, by simpa using List.find?_some h⟩

/-- The aligned end of a shard that has room. -/
theorem aligned_end_spec {k : Nat} (hk : k ≤ 5) (halign : r.alignment = 2 ^ k)
    (hroom : ¬l.Full r) :
    2 ^ k ∣ l.alignedEnd r ∧ l.shardSize r.shard ≤ l.alignedEnd r ∧
      l.alignedEnd r < l.shardSize r.shard + 2 ^ k ∧ l.alignedEnd r < 2 ^ 32 := by
  have hle : 2 ^ k ≤ 2 ^ 5 := Nat.pow_le_pow_right (by omega) hk
  simp only [Full, maxOffset, maxAlignment] at hroom
  obtain ⟨hdvd, hlow, hhigh⟩ := mask_up_spec (w := 64) (n := l.shardSize r.shard) (k := k)
    (by omega) (by omega)
  rw [alignedEnd, halign]
  exact ⟨hdvd, hlow, hhigh, by omega⟩

@[simp] theorem set_free_list_self (shard : Shard) (freeList : List FreeChunk) :
    (l.setFreeList shard freeList).shardFreeList shard = freeList :=
  Function.update_self ..

@[simp] theorem set_shard_size_self (shard : Shard) (size : Nat) :
    (l.setShardSize shard size).shardSize shard = size :=
  Function.update_self ..

/-- The size of a shard that has grown by an element and the chunks in front of it. -/
theorem shard_size_grown (shard : Shard) (size : Nat) (buffer : AlignedBuffer)
    (freeList : List FreeChunk) :
    (((l.setShardSize shard size).setInitialValues shard buffer).setFreeList shard
      freeList).shardSize shard = size :=
  Function.update_self ..

/-- The free list of another shard stays as it is. -/
theorem set_free_list_of_ne {shard s : Shard} (hs : s ≠ shard) (freeList : List FreeChunk) :
    (l.setFreeList shard freeList).shardFreeList s = l.shardFreeList s :=
  Function.update_of_ne hs ..

@[simp] theorem set_free_list_twice (shard : Shard) (freeList freeList' : List FreeChunk) :
    (l.setFreeList shard freeList).setFreeList shard freeList' = l.setFreeList shard freeList' := by
  simp [setFreeList]

/-- A request that takes a free chunk. -/
theorem allocates_of_chunk (hl : l.Chunked) (hok : r.refusal? = none) {chunk : FreeChunk}
    (hchunk : l.chunkFor r = some chunk) : Allocates o l r (l.allocateElement o r) := by
  obtain ⟨hpos, hpower, hmaximum, hle⟩ := refusal_eq_none hok
  obtain ⟨hmem, hfits⟩ := chunk_for_some hchunk
  obtain ⟨j, hsize, hsmall, hdvd⟩ := hl.aligned _ _ hmem
  have hbelow := hl.below _ _ hmem
  have hvalue := r.valueSize_lt
  have hmax : maxAlignment = 32 := rfl
  simp only [allocateElement, hok, findSpace, hchunk]
  by_cases hbig : 2 ^ 32 ≤ r.valueSize
  · -- the subtraction of the sizes wraps
    have hfree : (chunk.size + (2 ^ 64 - r.valueSize)) % 2 ^ 64 =
        chunk.size + (2 ^ 64 - r.valueSize) := Nat.mod_eq_of_lt (by omega)
    simp only [carveSpace, hfree]
    rw [if_neg (by omega), if_pos (by omega)]
    exact .wraps hok hchunk hbig
  · have hfree : (chunk.size + (2 ^ 64 - r.valueSize)) % 2 ^ 64 = chunk.size - r.valueSize := by
      omega
    have hoffset : (chunk.offset + r.valueSize) % 2 ^ 64 = chunk.offset + r.valueSize :=
      Nat.mod_eq_of_lt (by omega)
    have hsum : chunk.offset + r.valueSize + (chunk.size - r.valueSize) =
        chunk.offset + chunk.size := by omega
    have hj : j ≤ 5 := by
      rw [hsize] at hsmall
      exact (two_pow_lt_max_alignment.1 hsmall).le
    have hend : 2 ^ j ∣ chunk.offset + chunk.size := by
      rw [← hsize]
      exact Nat.dvd_add hdvd (Nat.dvd_refl _)
    obtain ⟨freeList, hcarve, hcarves⟩ := carve_space_spec
      (l.setFreeList r.shard ((l.shardFreeList r.shard).erase chunk)) r.shard
      ⟨chunk.offset, chunk.offset + r.valueSize, chunk.size - r.valueSize⟩ hj
      (by rwa [hsum]) (by simp only; omega) (by simp only; omega)
    simp only [hfree, hoffset, hcarve]
    rw [set_free_list_twice]
    rw [hsum, set_free_list_self] at hcarves
    have haligned : r.alignment ∣ chunk.offset := by
      obtain ⟨k, -, halign⟩ := exists_two_pow hpower hmaximum
      have hkj : k ≤ j := by
        rw [← Nat.pow_le_pow_iff_right (show 1 < 2 by omega), ← halign, ← hsize]
        omega
      rw [halign]
      exact (pow_dvd_pow 2 hkj).trans (hsize ▸ hdvd)
    exact .reserves hok (.reuses hchunk (by omega) haligned hcarves)

/-- A request that is served from the end of the shard. -/
theorem allocates_of_none (hok : r.refusal? = none) (hnone : l.chunkFor r = none) :
    Allocates o l r (l.allocateElement o r) := by
  obtain ⟨hpos, hpower, hmaximum, -⟩ := refusal_eq_none hok
  obtain ⟨k, hk, halign⟩ := exists_two_pow hpower hmaximum
  simp only [allocateElement, hok, findSpace, hnone]
  by_cases hroom : l.Full r
  · rw [if_pos (show maxOffset - maxAlignment + 1 < l.shardSize r.shard from hroom)]
    exact .full hok hnone hroom
  obtain ⟨hdvd, hlow, hhigh, hlimit⟩ := aligned_end_spec hk halign hroom
  rw [if_neg (show ¬maxOffset - maxAlignment + 1 < l.shardSize r.shard from hroom)]
  have hmaxOffset : maxOffset = 2 ^ 32 - 1 := rfl
  by_cases hbig : maxOffset < r.valueSize
  · rw [if_pos hbig]
    exact .tooBig hok hnone hroom hbig
  rw [if_neg hbig]
  -- the new size of the shard is computed in 32 bits
  by_cases hover : 2 ^ 32 ≤ l.alignedEnd r + r.valueSize
  · have hsize : (l.alignedEnd r + r.valueSize) % 2 ^ 32 =
        l.alignedEnd r + r.valueSize - 2 ^ 32 := by omega
    rw [hsize, if_pos (by omega)]
    exact .overflows hok hnone hroom (by omega) hlimit hover
  · have hsize : (l.alignedEnd r + r.valueSize) % 2 ^ 32 = l.alignedEnd r + r.valueSize :=
      Nat.mod_eq_of_lt (by omega)
    obtain ⟨buffer, hbuffer⟩ := ensure_some (l.initialValues r.shard)
      (l.alignedEnd r + r.valueSize) hpower hmaximum
    have hsum : l.shardSize r.shard + (l.alignedEnd r - l.shardSize r.shard) = l.alignedEnd r := by
      omega
    obtain ⟨freeList, hcarve, hcarves⟩ := carve_space_spec
      ((l.setShardSize r.shard (l.alignedEnd r + r.valueSize)).setInitialValues r.shard buffer)
      r.shard ⟨l.alignedEnd r, l.shardSize r.shard, l.alignedEnd r - l.shardSize r.shard⟩ hk
      (by rwa [hsum]) (by simp only; omega) (by simp only; omega)
    rw [hsize, if_neg (by omega)]
    simp only [hbuffer, hcarve]
    rw [hsum] at hcarves
    exact .reserves hok (.grows hnone hroom (by omega) hlow (halign ▸ hdvd) hcarves)

/-- Everything that `allocate_element` does with a layout of a run is listed in `Allocates`. -/
theorem allocate_element_allocates (o : Outside V) (hl : l.Chunked) (r : Request V) :
    Allocates o l r (l.allocateElement o r) := by
  cases hok : r.refusal? with
  | some refusal =>
      simp only [allocateElement, hok]
      exact .refused hok
  | none =>
      cases hchunk : l.chunkFor r with
      | some chunk => exact allocates_of_chunk hl hok hchunk
      | none => exact allocates_of_none hok hchunk

/-! ## Registering the element -/

/-- The condition under which an element that is in the table gets its id. -/
def BuildsId (o : Outside V) (l : SlateLayout V) (path : String) (metadata : SlateElementMetadata)
    (validator : V) : Prop :=
  ∃ id, slateIdFor o l path metadata validator = some id ∧ o.slateIdIsValid id ∧
    (o.isNoop validator ∨ hasValidator o l path = false)

/-- The condition under which an element is registered. -/
def Adds (o : Outside V) (l : SlateLayout V) (path : String) (metadata : SlateElementMetadata)
    (validator : V) : Prop :=
  path ≠ "" ∧ o.validateSlatePath path ∧ o.poolAllocates l.stringPool path ∧
    (∀ element ∈ l.elements, element.path ≠ path) ∧
    BuildsId o { l with elements := l.elements ++ [⟨path, metadata⟩] } path metadata validator

/-- The condition under which a request's element is registered. -/
def Registers (o : Outside V) (l : SlateLayout V) (r : Request V) (valueOffset : Nat) : Prop :=
  l.Adds o r.path (metadataAt r valueOffset) r.validator

/-- What building the id does: it changes the validators at most, and refuses for reasons of its
own. -/
theorem build_id_spec (o : Outside V) (l : SlateLayout V) (path : String)
    (metadata : SlateElementMetadata) (validator : V) :
    ∃ answer validators,
      buildId o l path metadata validator = (answer, { l with idxToValidator := validators }) ∧
      answer ≠ .error .freeSizeNotZero ∧
      ((∃ id, answer = .ok id) ↔ BuildsId o l path metadata validator) := by
  unfold buildId BuildsId
  cases hid : slateIdFor o l path metadata validator with
  | none => exact ⟨.error .idBuildup, l.idxToValidator, rfl, by simp, by simp⟩
  | some id =>
      by_cases hvalid : o.slateIdIsValid id = true
      · by_cases hnoop : o.isNoop validator = true
        · exact ⟨.ok id, l.idxToValidator, by simp [hvalid, hnoop], by simp,
            by simp [hvalid, hnoop]⟩
        · by_cases hfree : hasValidator o l path = true
          · exact ⟨.error .validatorTaken, l.idxToValidator, by simp [hvalid, hnoop, hfree],
              by simp, by simp [hnoop, hfree]⟩
          · exact ⟨.ok id, _, by simp [hvalid, hnoop, hfree]; rfl, by simp,
              by simp [hvalid, hfree]⟩
      · exact ⟨.error .invalidId, l.idxToValidator, by simp [hvalid], by simp, by simp [hvalid]⟩

/-- What registering an element does to the tables, and the id that it answers with. An element
whose id cannot be built, or whose validator cannot be registered, stays in the table. -/
inductive TablesStep (o : Outside V) (l : SlateLayout V) (path : String)
    (metadata : SlateElementMetadata) (validator : V) : Option Nat → SlateLayout V → Prop where
  | unchanged {l' : SlateLayout V} (helements : l'.elements = l.elements)
      (hvalidators : l'.idxToValidator = l.idxToValidator) :
      TablesStep o l path metadata validator none l'
  | stranded {l' : SlateLayout V} (hnew : ∀ element ∈ l.elements, element.path ≠ path)
      (helements : l'.elements = l.elements ++ [⟨path, metadata⟩])
      (hvalidators : l'.idxToValidator = l.idxToValidator) :
      TablesStep o l path metadata validator none l'
  | added {l' : SlateLayout V} {id : Nat} (hnew : ∀ element ∈ l.elements, element.path ≠ path)
      (helements : l'.elements = l.elements ++ [⟨path, metadata⟩])
      (hid : slateIdFor o l' path metadata validator = some id)
      (hvalidators : l'.idxToValidator = l.idxToValidator ++
        if o.isNoop validator then [] else [(o.iteratorToId l'.elements path, validator)]) :
      TablesStep o l path metadata validator (some id) l'

/-- Building the id of an element adds its validator, if it has one, and nothing else. -/
theorem build_id_tables {path : String} {metadata : SlateElementMetadata} {validator : V}
    {answer : Except Refusal Nat} (h : buildId o l path metadata validator = (answer, l')) :
    l'.elements = l.elements ∧
      ((answer.toOption = none ∧ l'.idxToValidator = l.idxToValidator) ∨
        ∃ id, answer.toOption = some id ∧ slateIdFor o l path metadata validator = some id ∧
          l'.idxToValidator = l.idxToValidator ++
            if o.isNoop validator then [] else [(o.iteratorToId l.elements path, validator)]) := by
  unfold buildId at h
  cases hid : slateIdFor o l path metadata validator with
  | none =>
      rw [hid] at h
      cases h
      exact ⟨rfl, .inl ⟨rfl, rfl⟩⟩
  | some id =>
      simp only [hid] at h
      split_ifs at h with hvalid hnoop htaken
      · cases h
        exact ⟨rfl, .inl ⟨rfl, rfl⟩⟩
      · cases h
        exact ⟨rfl, .inr ⟨id, rfl, rfl, by rw [if_pos hnoop, List.append_nil]⟩⟩
      · cases h
        exact ⟨rfl, .inl ⟨rfl, rfl⟩⟩
      · cases h
        exact ⟨rfl, .inr ⟨id, rfl, rfl, by rw [if_neg hnoop]⟩⟩

/-- Registering an element is a step of the tables. -/
theorem add_element_tables {path : String} {metadata : SlateElementMetadata} {validator : V}
    {answer : Except Refusal Nat}
    (h : l.addElementAndBuildId o path metadata validator = (answer, l')) :
    TablesStep o l path metadata validator answer.toOption l' := by
  unfold addElementAndBuildId allocatePath at h
  by_cases hempty : path = ""
  · rw [if_pos hempty] at h
    cases h
    exact .unchanged rfl rfl
  by_cases hvalid : o.validateSlatePath path = true
  swap
  · rw [if_neg hempty, if_pos (by simpa using hvalid)] at h
    cases h
    exact .unchanged rfl rfl
  by_cases hpool : o.poolAllocates l.stringPool path = true
  swap
  · rw [if_neg hempty, if_neg (by simpa using hvalid), if_pos (by simpa using hpool)] at h
    cases h
    exact .unchanged rfl rfl
  rw [if_neg hempty, if_neg (by simpa using hvalid), if_neg (by simpa using hpool)] at h
  simp only at h
  split at h
  next =>
    cases h
    exact .unchanged rfl rfl
  next hany =>
    have hnew : ∀ element ∈ l.elements, element.path ≠ path := by simpa using hany
    obtain ⟨helements, ⟨hnone, hvalidators⟩ | ⟨id, hsome, hid, hvalidators⟩⟩ := build_id_tables h
    · rw [hnone]
      exact .stranded hnew helements hvalidators
    · rw [hsome]
      refine .added hnew helements ?_ ?_
      · rw [← hid, slateIdFor, helements, slateIdFor]
      · rw [hvalidators, helements]

/-- What registering an element does: it leaves the shards and their free lists alone, and it
succeeds, adding the element, under exactly the condition that `Adds` states. Where it fails, the
element may have been added nevertheless. -/
theorem add_element_spec (o : Outside V) (l : SlateLayout V) (path : String)
    (metadata : SlateElementMetadata) (validator : V) :
    ∃ answer m, l.addElementAndBuildId o path metadata validator = (answer, m) ∧
      m.shardSize = l.shardSize ∧ m.shardFreeList = l.shardFreeList ∧
      answer ≠ .error .freeSizeNotZero ∧
      ((∃ id, answer = .ok id) ↔ l.Adds o path metadata validator) ∧
      ((∃ id, answer = .ok id) → m.elements = l.elements ++ [⟨path, metadata⟩]) ∧
      (m.elements = l.elements ∨ m.elements = l.elements ++ [⟨path, metadata⟩]) := by
  unfold addElementAndBuildId allocatePath Adds
  by_cases hempty : path = ""
  · exact ⟨.error .emptyPath, l, by simp [hempty], rfl, rfl, by simp, by simp [hempty], by simp,
      .inl rfl⟩
  by_cases hvalid : o.validateSlatePath path = true
  swap
  · exact ⟨.error .invalidPath, l, by simp [hempty, hvalid], rfl, rfl, by simp, by simp [hvalid],
      by simp, .inl rfl⟩
  by_cases hpool : o.poolAllocates l.stringPool path = true
  swap
  · exact ⟨.error .poolExhausted, l, by simp [hempty, hvalid, hpool], rfl, rfl, by simp,
      by simp [hpool], by simp, .inl rfl⟩
  by_cases hnew : ∀ element ∈ l.elements, element.path ≠ path
  swap
  · refine ⟨.error .duplicatePath, { l with stringPool := l.stringPool ++ [path] }, ?_, rfl, rfl,
      by simp, by simp [hnew], by simp, .inl rfl⟩
    have hany : (l.elements.any fun element => element.path = path) = true := by simpa using hnew
    simp [hempty, hvalid, hpool, hany]
  have hany : (l.elements.any fun element => element.path = path) = false := by simpa using hnew
  obtain ⟨answer, validators, hbuild, hne, hiff⟩ := build_id_spec o
    { l with
      stringPool := l.stringPool ++ [path]
      elements := l.elements ++ [⟨path, metadata⟩] }
    path metadata validator
  have hids : (∃ id, answer = .ok id) ↔ BuildsId o
      { l with elements := l.elements ++ [⟨path, metadata⟩] } path metadata validator := hiff
  simp only [hempty, hvalid, hpool, Bool.not_true, Bool.false_eq_true, if_false, hany, hbuild]
  refine ⟨answer, _, rfl, rfl, rfl, hne, ?_, fun _ => rfl, .inr rfl⟩
  rw [hids]
  exact ⟨fun hbuilds => ⟨by simpa using hempty, trivial, trivial, hnew, hbuilds⟩,
    fun hadds => hadds.2.2.2.2⟩

/-- What registering a request's element does. -/
theorem register_at_spec (o : Outside V) (l : SlateLayout V) (r : Request V) (valueOffset : Nat) :
    ∃ answer m, l.registerAt o r valueOffset = (answer, m) ∧
      m.shardSize = l.shardSize ∧ m.shardFreeList = l.shardFreeList ∧
      answer ≠ .error .freeSizeNotZero ∧
      ((∃ a, answer = .ok a) ↔ l.Registers o r valueOffset) ∧
      ((∃ a, answer = .ok a) →
        m.elements = l.elements ++ [⟨r.path, metadataAt r valueOffset⟩]) := by
  obtain ⟨answer, m, hadd, hsize, hfree, hne, hadds, helements, -⟩ :=
    add_element_spec o l r.path (metadataAt r valueOffset) r.validator
  unfold registerAt Registers
  rw [hadd, ← hadds]
  cases answer with
  | error refusal =>
      exact ⟨.error refusal, m, rfl, hsize, hfree, by simpa using hne, by simp, by simp⟩
  | ok id =>
      exact ⟨.ok (id, valueOffset), m, rfl, hsize, hfree, by simp, by simp,
        fun _ => helements ⟨id, rfl⟩⟩

/-- What creating a view does: it leaves the shards and their free lists alone, and adds an element
at most, which is a view. -/
theorem create_view_spec (o : Outside V) (l : SlateLayout V) (v : ViewRequest) :
    ∃ answer m, l.createViewElement o v = (answer, m) ∧
      m.shardSize = l.shardSize ∧ m.shardFreeList = l.shardFreeList ∧
      (m.elements = l.elements ∨
        ∃ element, element.metadata.isViewElement = true ∧
          m.elements = l.elements ++ [element]) := by
  unfold createViewElement
  by_cases hzero : v.valueSize = 0
  · exact ⟨_, l, if_pos hzero, rfl, rfl, .inl rfl⟩
  rw [if_neg hzero]
  by_cases hpower : notPowerOfTwo v.alignment = true
  · exact ⟨_, l, if_pos hpower, rfl, rfl, .inl rfl⟩
  rw [if_neg hpower]
  by_cases hmax : maxAlignment < v.alignment
  · exact ⟨_, l, if_pos hmax, rfl, rfl, .inl rfl⟩
  rw [if_neg hmax]
  cases hparent : getElement o l v.parentId v.parentTypeId with
  | error refusal => exact ⟨_, l, rfl, rfl, rfl, .inl rfl⟩
  | ok parent =>
      cases hchecks : viewRefusal? o l v parent.metadata with
      | some refusal => exact ⟨.error refusal, l, by simp only [hchecks], rfl, rfl, .inl rfl⟩
      | none =>
          obtain ⟨answer, m, hadd, hsize, hfree, -, -, -, helements⟩ :=
            add_element_spec o l v.path (viewMetadata v parent.metadata) o.noValidator
          have hview : m.elements = l.elements ∨ ∃ element : SlateElement,
              element.metadata.isViewElement = true ∧ m.elements = l.elements ++ [element] :=
            helements.imp_right fun h => ⟨_, rfl, h⟩
          simp only [hchecks, hadd]
          cases answer with
          | error refusal => exact ⟨_, m, rfl, hsize, hfree, hview⟩
          | ok id => exact ⟨_, m, rfl, hsize, hfree, hview⟩

end SlateLayout

end Codon.Slate
