import Codon.Slate.Partition

/-!
# Root elements in runs with refused requests

A refused request may lose space, but only one that overflows and sets the size of a shard
back lets elements overlap (`Shrinks`). While no request does that, the root elements, the
free chunks and the bytes that have been lost tile each shard (`Placed`). The tables change
with every call by one step of `TablesStep`.
-/

namespace Codon.Slate

open Codon.Library

variable {V : Type} {o : Outside V} {l l' m : SlateLayout V} {r : Request V} {v : ViewRequest}
  {valueOffset : Nat}

namespace SlateLayout

/-! ## The tables -/

/-- A step from the same tables is the same step. -/
theorem TablesStep.of_eq {path : String} {metadata : SlateElementMetadata} {validator : V}
    {id : Option Nat} (helements : m.elements = l.elements)
    (hvalidators : m.idxToValidator = l.idxToValidator)
    (h : TablesStep o m path metadata validator id l') :
    TablesStep o l path metadata validator id l' := by
  cases h with
  | unchanged he hv => exact .unchanged (he.trans helements) (hv.trans hvalidators)
  | stranded hnew he hv =>
      rw [helements] at hnew he
      exact .stranded hnew he (hv.trans hvalidators)
  | added hnew he hid hv =>
      rw [helements] at hnew he
      rw [hvalidators] at hv
      exact .added hnew he hid hv

/-- Finding space leaves the tables alone. -/
theorem Reserves.tables (h : l.Reserves r m valueOffset) :
    m.elements = l.elements ∧ m.idxToValidator = l.idxToValidator := by
  cases h <;> exact ⟨rfl, rfl⟩

/-- An allocation is a step of the tables. -/
theorem allocate_tables (o : Outside V) (hl : l.Chunked) (r : Request V) :
    ∃ valueOffset, TablesStep o l r.path (metadataAt r valueOffset) r.validator
      ((l.allocateElement o r).1.toOption.map Prod.fst) (l.allocateElement o r).2 := by
  have hallocates := allocate_element_allocates o hl r
  generalize l.allocateElement o r = result at hallocates ⊢
  cases hallocates with
  | @reserves m valueOffset hok hreserves =>
      obtain ⟨helements, hvalidators⟩ := hreserves.tables
      refine ⟨valueOffset, .of_eq helements hvalidators ?_⟩
      unfold registerAt
      cases hadd : m.addElementAndBuildId o r.path (metadataAt r valueOffset) r.validator with
      | mk answer m' =>
          have hstep := add_element_tables hadd
          cases answer with
          | error refusal => exact hstep
          | ok id => exact hstep
  | _ => exact ⟨0, .unchanged rfl rfl⟩

/-- Creating a view is a step of the tables, for metadata that its parent gives. -/
theorem view_tables (o : Outside V) (l : SlateLayout V) (v : ViewRequest) :
    ((l.createViewElement o v).1.toOption = none ∧ (l.createViewElement o v).2 = l) ∨
      ∃ parent id, v.valueSize ≠ 0 ∧ notPowerOfTwo v.alignment = false ∧
        v.alignment ≤ maxAlignment ∧ getElement o l v.parentId v.parentTypeId = .ok parent ∧
        viewRefusal? o l v parent.metadata = none ∧
        (l.createViewElement o v).1.toOption =
          id.map (fun id => if o.slateIdCanWrite v.parentId then id else o.slateIdRo id) ∧
        TablesStep o l v.path (viewMetadata v parent.metadata) o.noValidator id
          (l.createViewElement o v).2 := by
  unfold createViewElement
  by_cases hzero : v.valueSize = 0
  · rw [if_pos hzero]
    exact .inl ⟨rfl, rfl⟩
  rw [if_neg hzero]
  by_cases hpower : notPowerOfTwo v.alignment = true
  · rw [if_pos hpower]
    exact .inl ⟨rfl, rfl⟩
  rw [if_neg hpower]
  by_cases hmax : maxAlignment < v.alignment
  · rw [if_pos hmax]
    exact .inl ⟨rfl, rfl⟩
  rw [if_neg hmax]
  cases hparent : getElement o l v.parentId v.parentTypeId with
  | error refusal => exact .inl ⟨rfl, rfl⟩
  | ok parent =>
      cases hchecks : viewRefusal? o l v parent.metadata with
      | some refusal =>
          simp only [hchecks]
          exact .inl ⟨rfl, trivial⟩
      | none =>
          simp only [hchecks]
          cases hadd : l.addElementAndBuildId o v.path (viewMetadata v parent.metadata)
              o.noValidator with
          | mk answer m =>
              have hstep := add_element_tables hadd
              refine .inr ⟨parent, answer.toOption, hzero, Bool.eq_false_of_not_eq_true hpower,
                Nat.le_of_not_lt hmax, rfl, hchecks, ?_⟩
              cases answer with
              | error refusal => exact ⟨rfl, hstep⟩
              | ok id => exact ⟨rfl, hstep⟩

/-! ## The shards -/

/-- The request is refused because its end does not fit into 32 bits, and the size of the shard is
set back below what it was. -/
structure Shrinks (l : SlateLayout V) (r : Request V) : Prop where
  ok : r.refusal? = none
  noChunk : l.chunkFor r = none
  room : ¬l.Full r
  size_le : r.valueSize ≤ maxOffset
  overflows : 2 ^ 32 ≤ l.alignedEnd r + r.valueSize
  shrinks : l.alignedEnd r + r.valueSize - 2 ^ 32 < l.shardSize r.shard

/-- The root elements and the free chunks of each shard tile it, together with bytes that are
lost. -/
structure Placed (l : SlateLayout V) : Prop extends Chunked l where
  tiles : ∃ lost : Shard → List Span, ∀ shard,
    Tiles (l.rootSpans shard ++ (l.freeSpans shard ++ lost shard)) 0 (l.shardSize shard)

/-- An empty layout has nothing to place. -/
theorem fresh_placed (V : Type) : (fresh V).Placed where
  toChunked := (fresh_partitioned V).toChunked
  tiles := ⟨fun _ => [], fun _ => .nil 0⟩

/-- Root elements do not overlap. -/
theorem Placed.pairwise (hl : l.Placed) (shard : Shard) :
    (l.rootSpans shard).Pairwise Span.Disjoint := by
  obtain ⟨lost, htiles⟩ := hl.tiles
  exact (List.pairwise_append.1 (htiles shard).pairwise).1

/-- A root element fits into 32 bits. -/
theorem Placed.root_end_lt (hl : l.Placed) {root : SlateElement} (h : root ∈ l.elements)
    (hview : root.metadata.isViewElement = false) (hsize : 0 < root.metadata.span.size) :
    root.metadata.span.start + root.metadata.span.size < 2 ^ 32 := by
  obtain ⟨lost, htiles⟩ := hl.tiles
  have hmem : root.metadata.span ∈ l.rootSpans root.metadata.shard :=
    List.mem_map_of_mem (List.mem_filter.2 ⟨h, by simp [SlateElement.isRootOf, hview]⟩)
  have hend := ((htiles root.metadata.shard).within (List.mem_append_left _ hmem) hsize).2
  exact hend.trans_lt (hl.size_lt _)

/-- One shard changes, and its bytes are still tiled. -/
theorem Placed.update (hl : l.Placed) (shard : Shard) (hchunked : l'.Chunked)
    (hothers : ∀ s ≠ shard, l'.rootSpans s = l.rootSpans s ∧ l'.freeSpans s = l.freeSpans s ∧
      l'.shardSize s = l.shardSize s)
    (hshard : ∀ lost, Tiles (l.rootSpans shard ++ (l.freeSpans shard ++ lost)) 0
        (l.shardSize shard) →
      ∃ lost', Tiles (l'.rootSpans shard ++ (l'.freeSpans shard ++ lost')) 0
        (l'.shardSize shard)) : l'.Placed := by
  obtain ⟨lost, htiles⟩ := hl.tiles
  obtain ⟨lost', htiles'⟩ := hshard (lost shard) (htiles shard)
  refine ⟨hchunked, Function.update lost shard lost', fun s => ?_⟩
  by_cases hs : s = shard
  · subst hs
    rwa [Function.update_self]
  · obtain ⟨hroots, hfree, hsize⟩ := hothers s hs
    rw [Function.update_of_ne hs, hroots, hfree, hsize]
    exact htiles s

/-- A shard whose size grows without an element loses the bytes in between. -/
theorem placed_grown (hl : l.Placed) {size : Nat} (hchunked : (l.setShardSize r.shard size).Chunked)
    (hgrows : l.shardSize r.shard ≤ size) : (l.setShardSize r.shard size).Placed := by
  refine hl.update r.shard hchunked
    (fun s hs => ⟨rfl, rfl, Function.update_of_ne hs ..⟩) fun lost htiles => ?_
  have hend : l.shardSize r.shard + (size - l.shardSize r.shard) =
      (l.setShardSize r.shard size).shardSize r.shard := by
    rw [set_shard_size_self]
    exact Nat.add_sub_cancel' hgrows
  have hlonger := htiles.append (Tiles.single ⟨l.shardSize r.shard, size - l.shardSize r.shard⟩)
    (Nat.zero_le _) (Nat.le_add_right _ _)
  rw [hend, List.append_assoc, List.append_assoc] at hlonger
  exact ⟨_, hlonger⟩

/-- A chunk that is erased without an element is lost. -/
theorem placed_erased (hl : l.Placed) {chunk : FreeChunk} (hmem : chunk ∈ l.shardFreeList r.shard)
    (hchunked : (l.setFreeList r.shard ((l.shardFreeList r.shard).erase chunk)).Chunked) :
    (l.setFreeList r.shard ((l.shardFreeList r.shard).erase chunk)).Placed := by
  refine hl.update r.shard hchunked
    (fun s hs => ⟨rfl, ?_, rfl⟩) fun lost htiles => ⟨chunk.span :: lost, htiles.perm ?_⟩
  · exact congrArg (List.map FreeChunk.span) (set_free_list_of_ne hs _)
  · rw [freeSpans, freeSpans, set_free_list_self]
    refine List.Perm.append_left _ ?_
    exact (((List.perm_cons_erase hmem).map FreeChunk.span).append_right lost).trans
      List.perm_middle.symm

/-- Space that is reserved becomes a root element, or is lost if the tables refuse it. -/
theorem placed_reserved (o : Outside V) (hl : l.Placed) (hok : r.refusal? = none)
    (hreserves : l.Reserves r m valueOffset) (hchunked : (m.registerAt o r valueOffset).2.Chunked) :
    (m.registerAt o r valueOffset).2.Placed := by
  obtain ⟨answer, m', hadd, hsize, hfree, -, -, -, helements⟩ :=
    add_element_spec o m r.path (metadataAt r valueOffset) r.validator
  have hlayout : (m.registerAt o r valueOffset).2 = m' := by
    rw [registerAt, hadd]
    cases answer <;> rfl
  rw [hlayout] at hchunked ⊢
  obtain ⟨hpos, -⟩ := refusal_eq_none hok
  obtain ⟨-, hlimit, hlt, -⟩ := hreserves.fits hl.toChunked hpos
  obtain ⟨freeList, size, -, -, hfree₁, hsize₁, helements₁⟩ := hreserves.update hl.toChunked
  rw [helements₁] at helements
  refine hl.update r.shard hchunked (fun s hs => ⟨?_, ?_, ?_⟩) fun lost htiles => ?_
  · rcases helements with hsame | hadded
    · exact root_spans_congr hsame s
    · exact root_spans_registered_of_ne hadded hs
  · rw [freeSpans, hfree, hfree₁, Function.update_of_ne hs, freeSpans]
  · rw [hsize, hsize₁, Function.update_of_ne hs]
  · have hnew := hreserves.tiles htiles
    have hfreeSpans : m'.freeSpans r.shard = m.freeSpans r.shard :=
      congrArg (List.map FreeChunk.span) (congrFun hfree r.shard)
    rw [← hfreeSpans, ← hsize] at hnew
    rcases helements with hsame | hadded
    · refine ⟨⟨valueOffset, r.valueSize⟩ :: lost, hnew.perm ?_⟩
      rw [root_spans_congr hsame, List.append_assoc, List.singleton_append]
      exact List.perm_middle.symm.append_left _
    · refine ⟨lost, ?_⟩
      rw [root_spans_registered hadded hlimit hlt]
      exact hnew

/-- Unless it sets the size of the shard back, a request keeps the root elements apart, whether it
is granted or refused. -/
theorem placed_allocate (o : Outside V) (hl : l.Placed) (hshrinks : ¬l.Shrinks r) :
    (l.allocateElement o r).2.Placed := by
  have hchunked := chunked_allocate o hl.toChunked r
  have hallocates := allocate_element_allocates o hl.toChunked r
  generalize l.allocateElement o r = result at hchunked hallocates ⊢
  cases hallocates with
  | refused | full | tooBig => exact hl
  | overflows hok hnone hroom hsize hlimit hover =>
      exact placed_grown hl hchunked
        (Nat.le_of_not_lt fun hlt => hshrinks ⟨hok, hnone, hroom, hsize, hover, hlt⟩)
  | wraps hok hchunk hbig => exact placed_erased hl (chunk_for_some hchunk).1 hchunked
  | reserves hok hreserves => exact placed_reserved o hl hok hreserves hchunked

/-- Creating a view leaves the root elements alone. -/
theorem placed_view (o : Outside V) (hl : l.Placed) (v : ViewRequest) :
    (l.createViewElement o v).2.Placed := by
  obtain ⟨answer, m, hview, hsize, hfree, helements⟩ := create_view_spec o l v
  rw [hview]
  have hroots (shard : Shard) : m.rootSpans shard = l.rootSpans shard := by
    rcases helements with hsame | ⟨element, hisView, hadded⟩
    · exact root_spans_congr hsame shard
    · exact root_spans_view hadded hisView shard
  obtain ⟨lost, htiles⟩ := hl.tiles
  refine ⟨⟨by simpa [hfree] using hl.aligned, by simpa [hfree] using hl.below,
    by simpa [hsize] using hl.size_lt⟩, lost, fun shard => ?_⟩
  rw [hroots, freeSpans, hfree, hsize]
  exact htiles shard

end SlateLayout

end Codon.Slate
