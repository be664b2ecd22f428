import Mathlib.Logic.Function.Basic
import Codon.Library.Alignment

/-!
# Laying out the slate

`SlateLayout::allocate_element` and the functions it is built from. Offsets are 32-bit
(`slate_offset_t`) and sizes 64-bit (`size_t`); both are natural numbers here, reduced
wherever the source lets them wrap.

A refused request can leave its mark on the layout, so every function gives back the layout
as well as its answer. `Refusal` names the check that refused.

Not in the source tree are the path rules (`validate_slate_path`), the string pool, the
element ids (`slate_id_buildup` and the rest), the numbering of `SlatePathMap` and the
validators. `Outside` holds what `SlateLayout` uses of them. `SlatePathMap` itself is the
list of its entries in the order of insertion.
-/

namespace Codon.Slate

open Codon.Library

/-- `slate_shard_t`. -/
inductive Shard where
  | static
  | sync
  | nonsync
  | cyclic
  | syncNoTelem
  | nonsyncNoTelem
  | cyclicNoTelem
deriving DecidableEq

/-- `slate_elem_access_t`, from the least to the most access. -/
inductive ElemAccess where
  | slatePrivate
  | slateReadOnly
  | slateReadWrite
deriving DecidableEq

/-- The value of an access level. -/
def ElemAccess.level : ElemAccess → Nat
  | .slatePrivate => 0
  | .slateReadOnly => 1
  | .slateReadWrite => 2

/-- `shard_policy`, as the constructor of `SlateLayout` fills it. -/
def shardPolicy : Shard → ElemAccess
  | .static => .slateReadOnly
  | _ => .slateReadWrite

/-- `AlignedBuffer::max_alignment`. -/
def maxAlignment : Nat := 32

/-- The largest `slate_offset_t`. -/
def maxOffset : Nat := 2 ^ 32 - 1

/-- `SlateElementMetadata`. -/
structure SlateElementMetadata where
  typeId : Nat
  shard : Shard
  valueOffset : Nat
  valueSize : Nat
  accessPolicy : ElemAccess
  subsystemId : Nat
  isViewElement : Bool
deriving DecidableEq

/-- An entry of `elements`. -/
structure SlateElement where
  path : String
  metadata : SlateElementMetadata
deriving DecidableEq

/-- A free block, an entry of a `free_chunk_map_t`. -/
structure FreeChunk where
  size : Nat
  offset : Nat
deriving DecidableEq

/-- `AlignedBuffer`, without its contents: the space requested so far and the space allocated. -/
structure AlignedBuffer where
  length : Nat
  total : Nat
deriving DecidableEq

/-- `SlateLayout`, over the type `V` of validators. A free list is a multimap from sizes to offsets:
its entries are ordered by size, and entries of one size by age. -/
structure SlateLayout (V : Type) where
  elements : List SlateElement
  stringPool : List String
  idxToValidator : List (Nat × V)
  initialValues : Shard → AlignedBuffer
  shardSize : Shard → Nat
  shardFreeList : Shard → List FreeChunk

/-- What `SlateLayout` uses of code that is not in the source tree. `isNoop` is
`slate_validator_t::is_noop`, `noValidator` is a validator that has been given nothing, and
`poolAllocates` says whether the string pool, given what it holds, has room for another path. -/
structure Outside (V : Type) where
  validateSlatePath : String → Bool
  poolAllocates : List String → String → Bool
  iteratorToId : List SlateElement → String → Nat
  idToIterator : List SlateElement → Nat → Option SlateElement
  slateIdBuildup : (mayWrite hasValidator : Bool) → Shard → (valueOffset idx : Nat) → Option Nat
  slateIdIsValid : Nat → Bool
  slateIdIndex : Nat → Nat
  slateIdCanWrite : Nat → Bool
  slateIdHasValidator : Nat → Bool
  slateIdRo : Nat → Nat
  slateTypeInvalid : Nat
  isNoop : V → Bool
  noValidator : V

/-- The arguments of `allocate_element`. The sizes are `size_t`. -/
structure Request (V : Type) where
  path : String
  typeId : Nat
  valueSize : Nat
  alignment : Nat
  shard : Shard
  accessPolicy : ElemAccess
  validator : V
  subsystemId : Nat
  valueSize_lt : valueSize < 2 ^ 64
  alignment_lt : alignment < 2 ^ 64

/-- The arguments of `create_view_element`. -/
structure ViewRequest where
  parentId : Nat
  parentTypeId : Nat
  elementOffset : Nat
  path : String
  typeId : Nat
  valueSize : Nat
  alignment : Nat
  subsystemId : Nat

/-- The check that refuses a request. -/
inductive Refusal where
  | zeroSize
  | alignmentNotPowerOfTwo
  | alignmentAboveMaximum
  | alignmentAboveSize
  | accessPolicy
  | shardFull
  | sizeAboveMaximum
  | shardOverflow
  | bufferAlignment
  | freeSizeTooBig
  | freeSizeNotZero
  | emptyPath
  | invalidPath
  | poolExhausted
  | duplicatePath
  | idBuildup
  | invalidId
  | validatorTaken
  | invalidType
  | noElement
  | typeMismatch
  | parentHasValidator
  | offsetAboveParent
  | sizeAboveParent
  | endAboveParent
  | viewMisaligned
  | privateElement
deriving DecidableEq

/-- The space found for an element, and the space next to it that it does not use. -/
structure Space where
  valueOffset : Nat
  freeOffset : Nat
  freeSize : Nat
deriving DecidableEq

/-- A layout without elements. -/
def SlateLayout.fresh (V : Type) : SlateLayout V where
  elements := []
  stringPool := []
  idxToValidator := []
  initialValues _ := ⟨0, 0⟩
  shardSize _ := 0
  shardFreeList _ := []

variable {V : Type}

/-- Whether a number is zero or no power of two, as the sources test it. -/
def notPowerOfTwo (alignment : Nat) : Bool :=
  alignment == 0 || (alignment &&& ((2 ^ 64 - alignment) % 2 ^ 64)) != alignment

/-- The checks of the arguments, in order. -/
def Request.refusal? (r : Request V) : Option Refusal :=
  if r.valueSize = 0 then some .zeroSize
  else if notPowerOfTwo r.alignment then some .alignmentNotPowerOfTwo
  else if maxAlignment < r.alignment then some .alignmentAboveMaximum
  else if r.valueSize < r.alignment then some .alignmentAboveSize
  else if (shardPolicy r.shard).level < r.accessPolicy.level then some .accessPolicy
  else none

/-- `AlignedBuffer::ensure`. -/
def AlignedBuffer.ensure (buffer : AlignedBuffer) (amount alignment : Nat) :
    Option AlignedBuffer :=
  if notPowerOfTwo alignment ∨ maxAlignment < alignment then none
  else if amount ≤ buffer.total then some { buffer with length := max buffer.length amount }
  else some ⟨amount, max (max (buffer.total + buffer.total / 2) 3072) amount⟩

/-- `multimap::insert`: after all entries that are not larger. -/
def insertChunk (chunk : FreeChunk) : List FreeChunk → List FreeChunk
  | [] => [chunk]
  | c :: freeList =>
      if c.size ≤ chunk.size then c :: insertChunk chunk freeList else chunk :: c :: freeList

/-- The loop that carves free space into chunks: what it leaves of the free space and the free list.
The size doubles until it exceeds the free space, which is below 32. -/
def carve : Nat → Nat → Nat → Nat → List FreeChunk → Nat × List FreeChunk
  | 0, _, _, freeSize, freeList => (freeSize, freeList)
  | fuel + 1, size, freeOffset, freeSize, freeList =>
      if size ≤ freeSize then
        if freeOffset &&& size ≠ 0 then
          carve fuel (2 * size) (freeOffset + size) (freeSize - size)
            (insertChunk ⟨size, freeOffset % 2 ^ 32⟩ freeList)
        else carve fuel (2 * size) freeOffset freeSize freeList
      else (freeSize, freeList)

namespace SlateLayout

/-- A layout with another free list for one shard. -/
def setFreeList (l : SlateLayout V) (shard : Shard) (freeList : List FreeChunk) : SlateLayout V :=
  { l with shardFreeList := Function.update l.shardFreeList shard freeList }

/-- A layout with another size for one shard. -/
def setShardSize (l : SlateLayout V) (shard : Shard) (size : Nat) : SlateLayout V :=
  { l with shardSize := Function.update l.shardSize shard size }

/-- A layout with another buffer for one shard. -/
def setInitialValues (l : SlateLayout V) (shard : Shard) (buffer : AlignedBuffer) : SlateLayout V :=
  { l with initialValues := Function.update l.initialValues shard buffer }

/-- `free_list.lower_bound(value_size)`. The key is a `slate_offset_t`. -/
def chunkFor (l : SlateLayout V) (r : Request V) : Option FreeChunk :=
  (l.shardFreeList r.shard).find? fun chunk => decide (r.valueSize % 2 ^ 32 ≤ chunk.size)

/-- The aligned end of the shard. -/
def alignedEnd (l : SlateLayout V) (r : Request V) : Nat :=
  maskUp 64 (l.shardSize r.shard) r.alignment

/-- Finds space: the smallest free chunk that is large enough, or else the end of the shard, which
grows. -/
def findSpace (l : SlateLayout V) (r : Request V) : Except Refusal Space × SlateLayout V :=
  match l.chunkFor r with
  | some chunk =>
      (.ok
        { valueOffset := chunk.offset
          freeOffset := (chunk.offset + r.valueSize) % 2 ^ 64
          freeSize := (chunk.size + (2 ^ 64 - r.valueSize)) % 2 ^ 64 },
        l.setFreeList r.shard ((l.shardFreeList r.shard).erase chunk))
  | none =>
      if maxOffset - maxAlignment + 1 < l.shardSize r.shard then (.error .shardFull, l)
      else
        let valueOffset := l.alignedEnd r
        if maxOffset < r.valueSize then (.error .sizeAboveMaximum, l)
        else
          let size := (valueOffset + r.valueSize) % 2 ^ 32
          -- the new size is stored before it is checked
          let grown := l.setShardSize r.shard size
          if size ≤ valueOffset then (.error .shardOverflow, grown)
          else
            match (l.initialValues r.shard).ensure size r.alignment with
            | none => (.error .bufferAlignment, grown)
            | some buffer =>
                (.ok
                  { valueOffset
                    freeOffset := l.shardSize r.shard
                    freeSize := valueOffset - l.shardSize r.shard },
                  grown.setInitialValues r.shard buffer)

/-- Puts the unused space into the free list, in chunks that are aligned to their sizes. -/
def carveSpace (l : SlateLayout V) (shard : Shard) (space : Space) :
    Except Refusal Unit × SlateLayout V :=
  if space.freeSize = 0 then (.ok (), l)
  else if maxAlignment ≤ space.freeSize then (.error .freeSizeTooBig, l)
  else
    let (left, freeList) := carve 6 1 space.freeOffset space.freeSize (l.shardFreeList shard)
    (if left = 0 then .ok () else .error .freeSizeNotZero, l.setFreeList shard freeList)

/-- `allocate_path`: copies the path into the string pool. -/
def allocatePath (o : Outside V) (l : SlateLayout V) (path : String) :
    Except Refusal Unit × SlateLayout V :=
  if path = "" then (.error .emptyPath, l)
  else if !o.validateSlatePath path then (.error .invalidPath, l)
  else if !o.poolAllocates l.stringPool path then (.error .poolExhausted, l)
  else (.ok (), { l with stringPool := l.stringPool ++ [path] })

/-- The id of an element in the table: writable unless the element is in the static shard. -/
def slateIdFor (o : Outside V) (l : SlateLayout V) (path : String)
    (metadata : SlateElementMetadata) (validator : V) : Option Nat :=
  o.slateIdBuildup (metadata.shard ≠ .static) (!o.isNoop validator) metadata.shard
    metadata.valueOffset (o.iteratorToId l.elements path)

/-- Whether the table of validators has an entry for an element already. -/
def hasValidator (o : Outside V) (l : SlateLayout V) (path : String) : Bool :=
  l.idxToValidator.any fun entry => entry.1 = o.iteratorToId l.elements path

/-- `build_element_id`: the id of the element at a path, with at least the access asked for. -/
def buildElementId (o : Outside V) (l : SlateLayout V) (path : String)
    (metadata : SlateElementMetadata) (accessElevation : ElemAccess) : Except Refusal Nat :=
  if ¬l.elements.any fun element => element.path = path then .error .noElement
  else
    let idx := o.iteratorToId l.elements path
    let access :=
      if metadata.accessPolicy.level < accessElevation.level then accessElevation
      else metadata.accessPolicy
    let build (mayWrite validated : Bool) :=
      o.slateIdBuildup mayWrite validated metadata.shard metadata.valueOffset idx
    match build false false with
    | none => .error .idBuildup
    | some _ =>
        match access with
        | .slatePrivate => .error .privateElement
        | .slateReadOnly => (build false (hasValidator o l path)).elim (.error .idBuildup) .ok
        | .slateReadWrite => (build true (hasValidator o l path)).elim (.error .idBuildup) .ok

/-- The part of `add_element_and_build_id` after the element has been registered. -/
def buildId (o : Outside V) (l : SlateLayout V) (path : String) (metadata : SlateElementMetadata)
    (validator : V) : Except Refusal Nat × SlateLayout V :=
  match slateIdFor o l path metadata validator with
  | none => (.error .idBuildup, l)
  | some id =>
      if !o.slateIdIsValid id then (.error .invalidId, l)
      else if o.isNoop validator then (.ok id, l)
      else if hasValidator o l path then (.error .validatorTaken, l)
      else
        let idx := o.iteratorToId l.elements path
        (.ok id, { l with idxToValidator := l.idxToValidator ++ [(idx, validator)] })

/-- `add_element_and_build_id`: registers the element and gives its id. -/
def addElementAndBuildId (o : Outside V) (l : SlateLayout V) (path : String)
    (metadata : SlateElementMetadata) (validator : V) : Except Refusal Nat × SlateLayout V :=
  match l.allocatePath o path with
  | (.error refusal, l) => (.error refusal, l)
  | (.ok (), l) =>
      if l.elements.any fun element => element.path = path then (.error .duplicatePath, l)
      else buildId o { l with elements := l.elements ++ [⟨path, metadata⟩] } path metadata validator

/-- The metadata that a request is registered with. -/
def metadataAt (r : Request V) (valueOffset : Nat) : SlateElementMetadata where
  typeId := r.typeId
  shard := r.shard
  valueOffset := valueOffset % 2 ^ 32
  valueSize := r.valueSize % 2 ^ 32
  accessPolicy := r.accessPolicy
  subsystemId := r.subsystemId
  isViewElement := false

/-- The end of `allocate_element`: registers the element and answers with its id and with where in
the shard its memory is. -/
def registerAt (o : Outside V) (l : SlateLayout V) (r : Request V) (valueOffset : Nat) :
    Except Refusal (Nat × Nat) × SlateLayout V :=
  match l.addElementAndBuildId o r.path (metadataAt r valueOffset) r.validator with
  | (.error refusal, l) => (.error refusal, l)
  | (.ok id, l) => (.ok (id, valueOffset), l)

/-- `allocate_element`. -/
def allocateElement (o : Outside V) (l : SlateLayout V) (r : Request V) :
    Except Refusal (Nat × Nat) × SlateLayout V :=
  match r.refusal? with
  | some refusal => (.error refusal, l)
  | none =>
      match l.findSpace r with
      | (.error refusal, l) => (.error refusal, l)
      | (.ok space, l) =>
          match l.carveSpace r.shard space with
          | (.error refusal, l) => (.error refusal, l)
          | (.ok (), l) => l.registerAt o r space.valueOffset

/-- `get_element` by id and type. -/
def getElement (o : Outside V) (l : SlateLayout V) (elementId typeId : Nat) :
    Except Refusal SlateElement :=
  if !o.slateIdIsValid elementId then .error .invalidId
  else if typeId = o.slateTypeInvalid then .error .invalidType
  else
    match o.idToIterator l.elements (o.slateIdIndex elementId) with
    | none => .error .noElement
    | some element =>
        if element.metadata.typeId = typeId then .ok element else .error .typeMismatch

/-- The checks of a view against its parent, in order. -/
def viewRefusal? (o : Outside V) (l : SlateLayout V) (v : ViewRequest)
    (parent : SlateElementMetadata) : Option Refusal :=
  if l.idxToValidator.any (fun entry => entry.1 = o.slateIdIndex v.parentId) ∧
      ElemAccess.slateReadOnly.level < parent.accessPolicy.level then some .parentHasValidator
  else if parent.valueSize < v.elementOffset then some .offsetAboveParent
  else if parent.valueSize < v.valueSize then some .sizeAboveParent
  else if parent.valueSize < v.elementOffset + v.valueSize then some .endAboveParent
  else if (parent.valueOffset + v.elementOffset) &&& (v.alignment - 1) ≠ 0 then
    some .viewMisaligned
  else none

/-- The metadata that a view is registered with: it inherits its parent's shard and access. -/
def viewMetadata (v : ViewRequest) (parent : SlateElementMetadata) : SlateElementMetadata where
  typeId := v.typeId
  shard := parent.shard
  valueOffset := (parent.valueOffset + v.elementOffset) % 2 ^ 32
  valueSize := v.valueSize % 2 ^ 32
  accessPolicy := parent.accessPolicy
  subsystemId := v.subsystemId
  isViewElement := true

/-- `create_view_element`. A view can only be written if its parent can. -/
def createViewElement (o : Outside V) (l : SlateLayout V) (v : ViewRequest) :
    Except Refusal Nat × SlateLayout V :=
  if v.valueSize = 0 then (.error .zeroSize, l)
  else if notPowerOfTwo v.alignment then (.error .alignmentNotPowerOfTwo, l)
  else if maxAlignment < v.alignment then (.error .alignmentAboveMaximum, l)
  else
    match getElement o l v.parentId v.parentTypeId with
    | .error refusal => (.error refusal, l)
    | .ok parent =>
        match viewRefusal? o l v parent.metadata with
        | some refusal => (.error refusal, l)
        | none =>
            match l.addElementAndBuildId o v.path (viewMetadata v parent.metadata)
              o.noValidator with
            | (.error refusal, l) => (.error refusal, l)
            | (.ok id, l) => (.ok (if o.slateIdCanWrite v.parentId then id else o.slateIdRo id), l)

/-- A call that may add an element. There are no more of them once the layout is final. -/
inductive Call (V : Type) where
  | allocate (r : Request V)
  | view (v : ViewRequest)

/-- The layout after a call, whether it was granted or refused. -/
def call (o : Outside V) (l : SlateLayout V) : Call V → SlateLayout V
  | .allocate r => (l.allocateElement o r).2
  | .view v => (l.createViewElement o v).2

/-- The layout after a sequence of calls. -/
def callAll (o : Outside V) (calls : List (Call V)) (l : SlateLayout V) : SlateLayout V :=
  calls.foldl (call o) l

/-- A sequence of requests that are all granted. -/
def allocates (o : Outside V) : List (Request V) → SlateLayout V → Option (SlateLayout V)
  | [], l => some l
  | r :: rs, l =>
      match l.allocateElement o r with
      | (.ok _, l) => allocates o rs l
      | (.error _, _) => none

end SlateLayout

/-! ## A layout of a few elements

Used below where a statement needs concrete requests. -/

namespace Sample

/-- Outside code that refuses nothing. An id is four times an index and two flags, and a validator
is whether it is a no-op. -/
def outside : Outside Bool where
  validateSlatePath _ := true
  poolAllocates _ _ := true
  iteratorToId elements path := elements.findIdx fun element => element.path == path
  idToIterator elements idx := elements[idx]?
  slateIdBuildup mayWrite hasValidator _ _ idx :=
    some (4 * idx + 2 * hasValidator.toNat + mayWrite.toNat)
  slateIdIsValid _ := true
  slateIdIndex id := id / 4
  slateIdCanWrite id := id % 2 = 1
  slateIdHasValidator id := id / 2 % 2 = 1
  slateIdRo id := id - id % 2
  slateTypeInvalid := 0
  isNoop validator := validator
  noValidator := true

/-- A size of one byte fits 64 bits. -/
theorem one_lt_size : 1 < 2 ^ 64 := by decide

/-- So does one of four bytes. -/
theorem four_lt_size : 4 < 2 ^ 64 := by decide

/-- So does one of eight bytes. -/
theorem eight_lt_size : 8 < 2 ^ 64 := by decide

/-- A request for a writable element of the sync shard without validator. -/
def request (path : String) (valueSize alignment : Nat) (hsize : valueSize < 2 ^ 64)
    (halign : alignment < 2 ^ 64) : Request Bool where
  path
  typeId := 1
  valueSize
  alignment
  shard := .sync
  accessPolicy := .slateReadWrite
  validator := true
  subsystemId := 0
  valueSize_lt := hsize
  alignment_lt := halign

/-- A flag, a double and an integer. -/
def flagRateMode : List (Request Bool) :=
  [request "nav.flag" 1 1 one_lt_size one_lt_size,
    request "nav.rate" 8 8 eight_lt_size eight_lt_size,
    request "nav.mode" 4 4 four_lt_size four_lt_size]

/-- The slate of the flag, the rate and the mode. -/
def navSlate : SlateLayout Bool :=
  SlateLayout.callAll outside (flagRateMode.map .allocate) (.fresh Bool)

end Sample

end Codon.Slate
