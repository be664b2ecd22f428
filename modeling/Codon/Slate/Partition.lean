import Codon.Slate.Allocate

/-!
# Elements and free chunks partition each shard

In a run of granted requests the bytes of the root elements and of the free chunks of a
shard tile it (`Partitioned`): an element that reuses a chunk takes the front of it and
leaves the rest in smaller chunks, one that makes the shard grow leaves the padding in
front of it. So elements never overlap and no byte of a shard is lost.
-/

namespace Codon.Slate

open Codon.Library

/-- The bytes of an element. -/
def SlateElementMetadata.span (metadata : SlateElementMetadata) : Span :=
  ⟨metadata.valueOffset, metadata.valueSize⟩

/-- Whether an element is a root element of a shard, one that is not a view of another. -/
def SlateElement.isRootOf (element : SlateElement) (shard : Shard) : Bool :=
  element.metadata.shard = shard && !element.metadata.isViewElement

variable {V : Type} {o : Outside V} {l l' m : SlateLayout V} {r : Request V} {valueOffset : Nat}

namespace SlateLayout

/-- The bytes of the root elements of a shard. -/
def rootSpans (l : SlateLayout V) (shard : Shard) : List Span :=
  (l.elements.filter fun element => element.isRootOf shard).map fun element => element.metadata.span

/-- The bytes of the free chunks of a shard. -/
def freeSpans (l : SlateLayout V) (shard : Shard) : List Span :=
  (l.shardFreeList shard).map FreeChunk.span

/-- The root elements and the free chunks of every shard tile it. -/
structure Partitioned (l : SlateLayout V) : Prop extends Chunked l where
  tiles : ∀ shard, Tiles (l.rootSpans shard ++ l.freeSpans shard) 0 (l.shardSize shard)

/-! ## What every allocation keeps -/

/-- An empty layout is partitioned. -/
theorem fresh_partitioned (V : Type) : (fresh V).Partitioned where
  aligned _ _ h := by cases h
  below _ _ h := by cases h
  size_lt _ := by simp [fresh]
  tiles _ := .nil 0

/-- Carving keeps chunks aligned and below the limit. -/
theorem carves_chunked {freeList freeList' : List FreeChunk} {lo hi : Nat}
    (h : Carves freeList freeList' lo hi) (hhi : hi ≤ 2 ^ 32)
    (hold : ∀ chunk ∈ freeList, chunk.Aligned ∧ chunk.offset + chunk.size ≤ 2 ^ 32) :
    ∀ chunk ∈ freeList', chunk.Aligned ∧ chunk.offset + chunk.size ≤ 2 ^ 32 := by
  obtain ⟨pieces, hperm, haligned, htiles⟩ := h
  intro chunk hchunk
  rcases List.mem_append.1 (hperm.subset hchunk) with hpiece | hrest
  · obtain ⟨k, hsize, -⟩ := haligned chunk hpiece
    have hpos : 0 < chunk.size := by
      rw [hsize]
      exact Nat.two_pow_pos k
    have hwithin := htiles.within (List.mem_map_of_mem hpiece) hpos
    exact ⟨haligned chunk hpiece, hwithin.2.trans hhi⟩
  · exact hold chunk hrest

/-- Where a shard has a new free list or size, and where it has not. -/
theorem Chunked.update (hl : l.Chunked) (shard : Shard) {freeList : List FreeChunk} {size : Nat}
    (hchunks : ∀ chunk ∈ freeList, chunk.Aligned ∧ chunk.offset + chunk.size ≤ 2 ^ 32)
    (hsize : size < 2 ^ 32)
    (hfree : l'.shardFreeList = Function.update l.shardFreeList shard freeList)
    (hshard : l'.shardSize = Function.update l.shardSize shard size) : l'.Chunked := by
  have hall (s : Shard) : (∀ chunk ∈ l'.shardFreeList s,
      chunk.Aligned ∧ chunk.offset + chunk.size ≤ 2 ^ 32) ∧ l'.shardSize s < 2 ^ 32 := by
    rw [hfree, hshard]
    by_cases hs : s = shard
    · subst hs
      rw [Function.update_self, Function.update_self]
      exact ⟨hchunks, hsize⟩
    · rw [Function.update_of_ne hs, Function.update_of_ne hs]
      exact ⟨fun chunk hchunk => ⟨hl.aligned s chunk hchunk, hl.below s chunk hchunk⟩, hl.size_lt s⟩
  exact ⟨fun s chunk hchunk => ((hall s).1 chunk hchunk).1,
    fun s chunk hchunk => ((hall s).1 chunk hchunk).2, fun s => (hall s).2⟩

/-- Space is found in one shard: its free list and its size change, and nothing is registered
yet. -/
theorem Reserves.update (hl : l.Chunked) (h : l.Reserves r m valueOffset) :
    ∃ freeList size, (∀ chunk ∈ freeList, chunk.Aligned ∧ chunk.offset + chunk.size ≤ 2 ^ 32) ∧
      size < 2 ^ 32 ∧ m.shardFreeList = Function.update l.shardFreeList r.shard freeList ∧
      m.shardSize = Function.update l.shardSize r.shard size ∧ m.elements = l.elements := by
  have hold : ∀ chunk ∈ l.shardFreeList r.shard,
      chunk.Aligned ∧ chunk.offset + chunk.size ≤ 2 ^ 32 :=
    fun chunk hchunk => ⟨hl.aligned _ chunk hchunk, hl.below _ chunk hchunk⟩
  cases h with
  | @reuses chunk freeList hchunk hsize haligned hcarves =>
      obtain ⟨hmem, -⟩ := chunk_for_some hchunk
      refine ⟨freeList, l.shardSize r.shard, carves_chunked hcarves (hold _ hmem).2 ?_,
        hl.size_lt _, rfl, (Function.update_eq_self ..).symm, rfl⟩
      exact fun c hc => hold c (List.mem_of_mem_erase hc)
  | @grows freeList buffer hnone hroom hsize hlow haligned hcarves =>
      exact ⟨freeList, l.alignedEnd r + r.valueSize, carves_chunked hcarves (by omega) hold, hsize,
        rfl, rfl, rfl⟩

/-- Whatever `allocate_element` answers, chunks stay aligned and sizes in range. -/
theorem chunked_allocate (o : Outside V) (hl : l.Chunked) (r : Request V) :
    (l.allocateElement o r).2.Chunked := by
  have hold : ∀ chunk ∈ l.shardFreeList r.shard,
      chunk.Aligned ∧ chunk.offset + chunk.size ≤ 2 ^ 32 :=
    fun chunk hchunk => ⟨hl.aligned _ chunk hchunk, hl.below _ chunk hchunk⟩
  have hallocates := allocate_element_allocates o hl r
  generalize l.allocateElement o r = result at hallocates ⊢
  cases hallocates with
  | refused h => exact hl
  | full hok hnone hfull => exact hl
  | tooBig hok hnone hroom hbig => exact hl
  | overflows hok hnone hroom hsize hlimit hover =>
      have hmax : maxOffset = 2 ^ 32 - 1 := rfl
      exact hl.update r.shard hold (by omega) (Function.update_eq_self ..).symm rfl
  | @wraps chunk hok hchunk hbig =>
      exact hl.update r.shard (fun c hc => hold c (List.mem_of_mem_erase hc)) (hl.size_lt _) rfl
        (Function.update_eq_self ..).symm
  | @reserves m valueOffset hok hreserves =>
      obtain ⟨freeList, size, hchunks, hsize, hfree, hshard, -⟩ := hreserves.update hl
      obtain ⟨answer, m', hregister, hsize', hfree', -⟩ := register_at_spec o m r valueOffset
      rw [hregister]
      exact hl.update r.shard hchunks hsize (hfree'.trans hfree) (hsize'.trans hshard)

/-! ## What a granted request keeps -/

/-- The element that a granted request gets. -/
def Granted (r : Request V) (element : SlateElement) : Prop :=
  element.path = r.path ∧ element.metadata.shard = r.shard ∧
    element.metadata.valueSize = r.valueSize ∧ r.alignment ∣ element.metadata.valueOffset ∧
    element.metadata.isViewElement = false

/-- The spans of the roots are those of the elements. -/
theorem root_spans_congr (h : l'.elements = l.elements) (shard : Shard) :
    l'.rootSpans shard = l.rootSpans shard := by
  rw [rootSpans, h, rootSpans]

/-- Registering an element adds its bytes to those of its shard. -/
theorem root_spans_append {element : SlateElement} (h : l'.elements = l.elements ++ [element])
    (shard : Shard) :
    l'.rootSpans shard =
      l.rootSpans shard ++ if element.isRootOf shard then [element.metadata.span] else [] := by
  rw [rootSpans, h, List.filter_append, List.map_append, rootSpans]
  by_cases hroot : element.isRootOf shard
  · simp [hroot]
  · simp [hroot]

/-- The space that is found fits into 32 bits and is aligned. -/
theorem Reserves.fits (hl : l.Chunked) (hpos : 0 < r.valueSize) (h : l.Reserves r m valueOffset) :
    valueOffset + r.valueSize ≤ 2 ^ 32 ∧ valueOffset < 2 ^ 32 ∧ r.valueSize < 2 ^ 32 ∧
      r.alignment ∣ valueOffset := by
  cases h with
  | @reuses chunk freeList hchunk hsize haligned hcarves =>
      obtain ⟨hmem, -⟩ := chunk_for_some hchunk
      have hbelow := hl.below _ _ hmem
      obtain ⟨k, -, hsmall, -⟩ := hl.aligned _ _ hmem
      have hmax : maxAlignment = 32 := rfl
      exact ⟨by omega, by omega, by omega, haligned⟩
  | @grows freeList buffer hnone hroom hsize hlow haligned hcarves =>
      exact ⟨hsize.le, by omega, by omega, haligned⟩

/-- A view is no root element. -/
theorem root_spans_view {element : SlateElement} (h : l'.elements = l.elements ++ [element])
    (hview : element.metadata.isViewElement = true) (shard : Shard) :
    l'.rootSpans shard = l.rootSpans shard := by
  have hroot : ¬element.isRootOf shard = true := by simp [SlateElement.isRootOf, hview]
  rw [root_spans_append h, if_neg hroot, List.append_nil]

/-- The element that is registered for a request adds the bytes of the request to its shard. -/
theorem root_spans_registered (h : l'.elements = l.elements ++ [⟨r.path, metadataAt r valueOffset⟩])
    (hlimit : valueOffset < 2 ^ 32) (hlt : r.valueSize < 2 ^ 32) :
    l'.rootSpans r.shard = l.rootSpans r.shard ++ [⟨valueOffset, r.valueSize⟩] := by
  have hroot : SlateElement.isRootOf ⟨r.path, metadataAt r valueOffset⟩ r.shard = true := by
    simp [SlateElement.isRootOf, metadataAt]
  have hspan : (metadataAt r valueOffset).span = ⟨valueOffset, r.valueSize⟩ := by
    rw [SlateElementMetadata.span, metadataAt, Nat.mod_eq_of_lt hlimit, Nat.mod_eq_of_lt hlt]
  rw [root_spans_append h, if_pos hroot, hspan]

/-- The element that is registered for a request is no root element of another shard. -/
theorem root_spans_registered_of_ne
    (h : l'.elements = l.elements ++ [⟨r.path, metadataAt r valueOffset⟩]) {shard : Shard}
    (hshard : shard ≠ r.shard) : l'.rootSpans shard = l.rootSpans shard := by
  have hroot : ¬SlateElement.isRootOf ⟨r.path, metadataAt r valueOffset⟩ shard = true := by
    simp [SlateElement.isRootOf, metadataAt, Ne.symm hshard]
  rw [root_spans_append h, if_neg hroot, List.append_nil]

/-- The shard of the request stays tiled, whatever else it is tiled with. -/
theorem Reserves.tiles {roots lost : List Span}
    (htiles : Tiles (roots ++ (l.freeSpans r.shard ++ lost)) 0 (l.shardSize r.shard))
    (h : l.Reserves r m valueOffset) :
    Tiles (roots ++ [⟨valueOffset, r.valueSize⟩] ++ (m.freeSpans r.shard ++ lost)) 0
      (m.shardSize r.shard) := by
  cases h with
  | @reuses chunk freeList hchunk hsize haligned hcarves =>
      obtain ⟨hmem, -⟩ := chunk_for_some hchunk
      obtain ⟨pieces, hperm, -, hpieces⟩ := hcarves
      have hback : (l.freeSpans r.shard ++ lost).Perm
          (chunk.span :: (((l.shardFreeList r.shard).erase chunk).map FreeChunk.span ++ lost)) :=
        ((List.perm_cons_erase hmem).map FreeChunk.span).append_right lost
      have hgiven : Tiles (⟨chunk.offset, r.valueSize⟩ :: pieces.map FreeChunk.span)
          chunk.span.start (chunk.span.start + chunk.span.size) :=
        (Tiles.single ⟨chunk.offset, r.valueSize⟩).append hpieces (Nat.le_add_right _ _)
          (Nat.add_le_add_left hsize _)
      have hfree : ((l.setFreeList r.shard freeList).freeSpans r.shard ++ lost).Perm
          (pieces.map FreeChunk.span ++
            (((l.shardFreeList r.shard).erase chunk).map FreeChunk.span ++ lost)) := by
        rw [freeSpans, set_free_list_self, ← List.append_assoc, ← List.map_append]
        exact (hperm.map FreeChunk.span).append_right lost
      exact htiles.give hback hgiven hfree
  | @grows freeList buffer hnone hroom hsize hlow haligned hcarves =>
      obtain ⟨pieces, hperm, -, hpieces⟩ := hcarves
      have hnew := hpieces.append (Tiles.single ⟨l.alignedEnd r, r.valueSize⟩) hlow
        (Nat.le_add_right _ _)
      rw [shard_size_grown, freeSpans, set_free_list_self]
      refine htiles.extend hnew (Nat.zero_le _) (by omega) ?_
      rw [freeSpans, ← List.append_assoc, ← List.map_append]
      exact (hperm.map FreeChunk.span).append_right lost

/-- A granted request gets an element of its own, and the shards stay partitioned. -/
theorem partitioned_allocate (hl : l.Partitioned) {a : Nat × Nat}
    (h : l.allocateElement o r = (.ok a, l')) :
    l'.Partitioned ∧ ∃ element, l'.elements = l.elements ++ [element] ∧ Granted r element := by
  have hallocates := allocate_element_allocates o hl.toChunked r
  have hchunked := chunked_allocate o hl.toChunked r
  rw [h] at hallocates hchunked
  generalize hresult : (Except.ok a, l') = result at hallocates
  cases hallocates with
  | @reserves m valueOffset hok hreserves =>
      obtain ⟨answer, m', hregister, hsize, hfree, -, -, hadds⟩ :=
        register_at_spec o m r valueOffset
      rw [hregister] at hresult
      cases hresult
      obtain ⟨freeList, size, -, -, hfree₁, hsize₁, helements⟩ := hreserves.update hl.toChunked
      have hadded := hadds ⟨a, rfl⟩
      rw [helements] at hadded
      obtain ⟨hpos, -⟩ := refusal_eq_none hok
      obtain ⟨-, hlimit, hlt, haligned⟩ := hreserves.fits hl.toChunked hpos
      -- the space that is reserved is one of the tiles, and its rest stays free
      have hbefore : Tiles (l.rootSpans r.shard ++ (l.freeSpans r.shard ++ [])) 0
          (l.shardSize r.shard) := by
        rw [List.append_nil]
        exact hl.tiles r.shard
      have htiles := hreserves.tiles hbefore
      rw [List.append_nil] at htiles
      have hoffset : valueOffset % 2 ^ 32 = valueOffset := Nat.mod_eq_of_lt hlimit
      have hvalue : r.valueSize % 2 ^ 32 = r.valueSize := Nat.mod_eq_of_lt hlt
      refine ⟨⟨hchunked, fun shard => ?_⟩, _, hadded, rfl, rfl, hvalue, ?_, rfl⟩
      · rw [freeSpans, hfree, hsize]
        by_cases hshard : shard = r.shard
        · subst hshard
          rw [root_spans_registered hadded hlimit hlt]
          exact htiles
        · rw [root_spans_registered_of_ne hadded hshard, hfree₁, hsize₁,
            Function.update_of_ne hshard, Function.update_of_ne hshard]
          exact hl.tiles shard
      · rw [metadataAt, hoffset]
        exact haligned
  | _ => cases hresult

/-- What every granted request keeps holds after a run of them. -/
theorem allocates_partitioned {rs : List (Request V)} (hl : l.Partitioned)
    (h : l.allocates o rs = some l') :
    l'.Partitioned ∧
      ∃ added, l'.elements = l.elements ++ added ∧ List.Forall₂ Granted rs added := by
  induction rs generalizing l with
  | nil =>
      cases h
      exact ⟨hl, [], by simp, .nil⟩
  | cons r rs ih =>
      unfold allocates at h
      split at h
      next a m hstep =>
        obtain ⟨hm, element, helements, hgranted⟩ := partitioned_allocate hl hstep
        obtain ⟨hl', added, hadded, hall⟩ := ih hm h
        exact ⟨hl', element :: added, by simp [hadded, helements], .cons hgranted hall⟩
      next => cases h

/-- The check that all free space has been carved never fails. -/
theorem free_size_is_zero (o : Outside V) (hl : l.Chunked) (r : Request V) :
    (l.allocateElement o r).1 ≠ .error .freeSizeNotZero := by
  have hallocates := allocate_element_allocates o hl r
  generalize l.allocateElement o r = result at hallocates ⊢
  cases hallocates with
  | @reserves m valueOffset hok hreserves =>
      obtain ⟨answer, m', hregister, -, -, hne, -⟩ := register_at_spec o m r valueOffset
      rw [hregister]
      exact hne
  | refused h =>
      rintro ⟨⟩
      exact refusal_ne_free_size h
  | _ => simp

end SlateLayout

/-- After any sequence of granted requests on a fresh layout there is one element for each request,
with the size and in the shard asked for and at an offset that is aligned. In every shard the root
elements are pairwise disjoint, root elements and free chunks tile the shard, and every free chunk
is a power of two below the maximum alignment and aligned to its size. The next request, granted or
not, finds all of the free space carved. -/
theorem layout_partitioned (o : Outside V) {rs : List (Request V)}
    (h : (SlateLayout.fresh V).allocates o rs = some l) :
    List.Forall₂ SlateLayout.Granted rs l.elements ∧
      (∀ shard, (l.rootSpans shard).Pairwise Span.Disjoint ∧
        Tiles (l.rootSpans shard ++ l.freeSpans shard) 0 (l.shardSize shard) ∧
        ∀ chunk ∈ l.shardFreeList shard, chunk.Aligned) ∧
      ∀ r, (l.allocateElement o r).1 ≠ .error .freeSizeNotZero := by
  obtain ⟨hl, added, hadded, hgranted⟩ :=
    SlateLayout.allocates_partitioned (SlateLayout.fresh_partitioned V) h
  refine ⟨?_, fun shard => ⟨?_, hl.tiles shard, hl.aligned shard⟩,
    SlateLayout.free_size_is_zero o hl.toChunked⟩
  · rw [hadded]
    exact hgranted
  · exact (List.pairwise_append.1 (hl.tiles shard).pairwise).1

/-- A flag, a double behind it, and an integer in the padding between the two. -/
theorem layout_partitioned_sample :
    ∃ l ∈ (SlateLayout.fresh Bool).allocates Sample.outside Sample.flagRateMode,
      l.rootSpans .sync = [⟨0, 1⟩, ⟨8, 8⟩, ⟨4, 4⟩] ∧
        Tiles (l.rootSpans .sync ++ l.freeSpans .sync) 0 (l.shardSize .sync) := by
  obtain ⟨l, hl⟩ := Option.isSome_iff_exists.1
    (show ((SlateLayout.fresh Bool).allocates Sample.outside Sample.flagRateMode).isSome by decide)
  have hspans : ∀ l ∈ (SlateLayout.fresh Bool).allocates Sample.outside Sample.flagRateMode,
      l.rootSpans .sync = [⟨0, 1⟩, ⟨8, 8⟩, ⟨4, 4⟩] := by decide
  exact ⟨l, hl, hspans l hl, ((layout_partitioned Sample.outside hl).2.1 .sync).2.1⟩

end Codon.Slate
