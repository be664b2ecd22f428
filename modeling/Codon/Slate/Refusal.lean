import Codon.Slate.Partition

/-!
# What a refused request leaves behind

`allocate_element` takes its space before it is sure of the element: it erases the free
chunk or stores the new shard size, and only then checks the size for overflow and
registers the path. `Harmless` is the condition on a layout and a request under which a
refusal leaves the sizes, the free lists and the tables alone
(`refused_unchanged_iff`).
-/

namespace Codon.Slate

open Codon.Library

variable {V : Type} {o : Outside V} {l l' m : SlateLayout V} {r : Request V} {valueOffset : Nat}

namespace SlateLayout

/-- The shard sizes, the free lists and the element tables are the same. -/
def SameTables (l l' : SlateLayout V) : Prop :=
  l'.shardSize = l.shardSize ∧ l'.shardFreeList = l.shardFreeList ∧ l'.elements = l.elements ∧
    l'.idxToValidator = l.idxToValidator

/-- The request is refused by its arguments, or it is refused because the shard is full or the
size too big, or it will not be refused: its element will be registered where a free chunk or the
end of the shard offers space. The only other harmless case is a size that makes the end of the
shard wrap to where it was. -/
def Harmless (o : Outside V) (l : SlateLayout V) (r : Request V) : Prop :=
  r.refusal? = none →
    match l.chunkFor r with
    | some chunk => r.valueSize < 2 ^ 32 ∧ l.Registers o r chunk.offset
    | none =>
        l.Full r ∨ maxOffset < r.valueSize ∨
          if l.alignedEnd r + r.valueSize < 2 ^ 32 then l.Registers o r (l.alignedEnd r)
          else l.alignedEnd r + r.valueSize - 2 ^ 32 = l.shardSize r.shard

/-- Whether the element will be registered does not depend on the space found for it. -/
theorem Reserves.registers_iff (h : l.Reserves r m valueOffset) :
    m.Registers o r valueOffset ↔ l.Registers o r valueOffset := by
  cases h <;> exact Iff.rfl

/-- Finding space changes the free list or the size of the shard. -/
theorem Reserves.changes (hpos : 0 < r.valueSize) (h : l.Reserves r m valueOffset) :
    ¬(m.shardSize = l.shardSize ∧ m.shardFreeList = l.shardFreeList) := by
  rintro ⟨hsizes, hlists⟩
  cases h with
  | @reuses chunk freeList hchunk hsize haligned hcarves =>
      obtain ⟨hmem, -⟩ := chunk_for_some hchunk
      obtain ⟨pieces, hperm, -, hpieces⟩ := hcarves
      -- the pieces would have to be the whole chunk, but its first byte has been given away
      rw [← set_free_list_self (l := l) r.shard freeList, hlists] at hperm
      have hwhole : [chunk].Perm pieces := by
        refine (List.perm_append_right_iff ((l.shardFreeList r.shard).erase chunk)).1 ?_
        exact (List.perm_cons_erase hmem).symm.trans hperm
      have hfirst := (hpieces.mem_iff chunk.offset).1
        ⟨chunk.span, List.mem_map_of_mem (hwhole.subset (by simp)), by
          simp [Span.Contains, FreeChunk.span]; omega⟩
      omega
  | @grows freeList buffer hnone hroom hsize hlow haligned hcarves =>
      have hgrown := congrFun hsizes r.shard
      rw [shard_size_grown] at hgrown
      omega

/-- Where space is found, a request is harmless if its element will be registered. -/
theorem harmless_reserves_iff (hl : l.Chunked) (hok : r.refusal? = none)
    (h : l.Reserves r m valueOffset) : l.Registers o r valueOffset ↔ l.Harmless o r := by
  unfold Harmless
  cases h with
  | @reuses chunk freeList hchunk hsize haligned hcarves =>
      obtain ⟨hmem, -⟩ := chunk_for_some hchunk
      obtain ⟨k, -, hsmall, -⟩ := hl.aligned _ _ hmem
      have hmax : maxAlignment = 32 := rfl
      have hlt : r.valueSize < 2 ^ 32 := by omega
      simp only [hok, hchunk, hlt, true_and, forall_const]
  | @grows freeList buffer hnone hroom hsize hlow haligned hcarves =>
      have hmax : maxOffset = 2 ^ 32 - 1 := rfl
      have hlt : ¬maxOffset < r.valueSize := by omega
      simp only [hok, hnone, hroom, hlt, hsize, if_true, false_or, forall_const]

/-- A refusal that changes nothing leaves the tables. -/
theorem same_tables_of_unchanged {answer : Except Refusal (Nat × Nat)} {refusal : Refusal}
    (h : (answer, l) = (.error refusal, l')) : l.SameTables l' := by
  cases h
  exact ⟨rfl, rfl, rfl, rfl⟩

/-- Setting the size of a shard leaves the tables alone exactly if it was that size. -/
theorem same_tables_resized_iff {shard : Shard} {size : Nat} :
    l.SameTables (l.setShardSize shard size) ↔ size = l.shardSize shard := by
  constructor
  · intro hsame
    have hsizes := congrFun hsame.1 shard
    rwa [set_shard_size_self] at hsizes
  · rintro rfl
    exact ⟨Function.update_eq_self .., rfl, rfl, rfl⟩

/-- Erasing a free chunk changes the free list. -/
theorem not_same_tables_erased {shard : Shard} {chunk : FreeChunk}
    (hmem : chunk ∈ l.shardFreeList shard) :
    ¬l.SameTables (l.setFreeList shard ((l.shardFreeList shard).erase chunk)) := by
  intro hsame
  have hlist := congrFun hsame.2.1 shard
  rw [set_free_list_self] at hlist
  have hlength := List.length_erase_of_mem hmem
  have hpos := List.length_pos_of_mem hmem
  rw [hlist] at hlength
  omega

/-- A refusal leaves the tables alone exactly if the request is harmless. -/
theorem refused_unchanged_iff (o : Outside V) (hl : l.Chunked) (r : Request V) :
    (∀ refusal l', l.allocateElement o r = (.error refusal, l') → l.SameTables l') ↔
      l.Harmless o r := by
  have hallocates := allocate_element_allocates o hl r
  generalize l.allocateElement o r = result at hallocates ⊢
  unfold Harmless
  cases hallocates with
  | refused h =>
      refine iff_of_true (fun _ _ => same_tables_of_unchanged) fun hok => ?_
      rw [h] at hok
      cases hok
  | full hok hnone hfull =>
      refine iff_of_true (fun _ _ => same_tables_of_unchanged) fun _ => ?_
      rw [hnone]
      exact .inl hfull
  | tooBig hok hnone hroom hbig =>
      refine iff_of_true (fun _ _ => same_tables_of_unchanged) fun _ => ?_
      rw [hnone]
      exact .inr (.inl hbig)
  -- the size of the shard is set before this is noticed
  | overflows hok hnone hroom hsize hlimit hover =>
      simp only [hok, hnone, hroom, hsize.not_gt, hover.not_gt, if_false, false_or, forall_const]
      rw [← same_tables_resized_iff]
      constructor
      · intro hrefused
        exact hrefused _ _ rfl
      · intro hsame _ _ hresult
        cases hresult
        exact hsame
  | @wraps chunk hok hchunk hbig =>
      refine iff_of_false (fun hrefused => ?_) fun hharmless => ?_
      · exact not_same_tables_erased (chunk_for_some hchunk).1 (hrefused _ _ rfl)
      · have hsmall := hharmless hok
        rw [hchunk] at hsmall
        exact absurd hsmall.1 hbig.not_gt
  | @reserves m valueOffset hok hreserves =>
      -- once memory is reserved, a refusal cannot leave the tables as they were
      obtain ⟨hpos, -⟩ := refusal_eq_none hok
      obtain ⟨answer, m', hregister, hsize, hfree, -, hgranted, -⟩ :=
        register_at_spec o m r valueOffset
      rw [hregister]
      refine Iff.trans ?_ (harmless_reserves_iff hl hok hreserves)
      rw [← hreserves.registers_iff, ← hgranted]
      cases answer with
      | ok a => exact iff_of_true (fun _ _ heq => by cases heq) ⟨a, rfl⟩
      | error refusal =>
          refine iff_of_false (fun hrefused => ?_) fun ⟨_, heq⟩ => by cases heq
          obtain ⟨hsizes, hlists, -⟩ := hrefused _ _ rfl
          exact hreserves.changes hpos ⟨hsize.symm.trans hsizes, hfree.symm.trans hlists⟩

/-- A request that is granted is harmless. -/
theorem harmless_of_granted (hl : l.Chunked) {a : Nat × Nat}
    (h : (l.allocateElement o r).1 = .ok a) : l.Harmless o r := by
  refine (refused_unchanged_iff o hl r).1 fun refusal l' hrefused => ?_
  rw [hrefused] at h
  cases h

/-! ## Runs -/

/-- Whether a call leaves the tables alone if it is refused. A refused view always does. -/
def HarmlessCall (o : Outside V) (l : SlateLayout V) : Call V → Prop
  | .allocate r => l.Harmless o r
  | .view _ => True

/-- Every call of a run is harmless when it is made. -/
def HarmlessRun (o : Outside V) : List (Call V) → SlateLayout V → Prop
  | [], _ => True
  | c :: calls, l => l.HarmlessCall o c ∧ HarmlessRun o calls (l.call o c)

/-- Calls keep chunks aligned and sizes in range. -/
theorem chunked_call (hl : l.Chunked) (c : Call V) : (l.call o c).Chunked := by
  cases c with
  | allocate r => exact chunked_allocate o hl r
  | view v =>
      obtain ⟨answer, m, hview, hsize, hfree, -⟩ := create_view_spec o l v
      rw [call, hview]
      exact ⟨by simpa [hfree] using hl.aligned, by simpa [hfree] using hl.below,
        by simpa [hsize] using hl.size_lt⟩

/-- A run of calls keeps the free lists in chunks. -/
theorem chunked_call_all (hl : l.Chunked) (calls : List (Call V)) :
    (l.callAll o calls).Chunked := by
  induction calls generalizing l with
  | nil => exact hl
  | cons c calls ih => exact ih (chunked_call hl c)

/-- A partition only depends on the sizes, the free lists and the root elements. -/
theorem Partitioned.congr (hl : l.Partitioned) (hsize : m.shardSize = l.shardSize)
    (hfree : m.shardFreeList = l.shardFreeList)
    (hroots : ∀ shard, m.rootSpans shard = l.rootSpans shard) : m.Partitioned where
  aligned := by simpa [hfree] using hl.aligned
  below := by simpa [hfree] using hl.below
  size_lt := by simpa [hsize] using hl.size_lt
  tiles shard := by
    rw [hroots, freeSpans, hfree, hsize]
    exact hl.tiles shard

/-- A harmless call keeps the shards partitioned, whether it is granted or refused. -/
theorem partitioned_call (hl : l.Partitioned) {c : Call V} (hc : l.HarmlessCall o c) :
    (l.call o c).Partitioned := by
  cases c with
  | allocate r =>
      cases hresult : l.allocateElement o r with
      | mk answer m =>
          rw [call, hresult]
          cases answer with
          | ok a => exact (partitioned_allocate hl hresult).1
          | error refusal =>
              obtain ⟨hsize, hfree, helements, -⟩ :=
                (refused_unchanged_iff o hl.toChunked r).2 hc refusal m hresult
              exact hl.congr hsize hfree (root_spans_congr helements)
  | view v =>
      obtain ⟨answer, m, hview, hsize, hfree, helements⟩ := create_view_spec o l v
      rw [call, hview]
      refine hl.congr hsize hfree fun shard => ?_
      rcases helements with hsame | ⟨element, hisView, hadded⟩
      · exact root_spans_congr hsame shard
      · exact root_spans_view hadded hisView shard

/-- A harmless run keeps the layout partitioned. -/
theorem partitioned_call_all {calls : List (Call V)} (hl : l.Partitioned)
    (h : HarmlessRun o calls l) : (l.callAll o calls).Partitioned := by
  induction calls generalizing l with
  | nil => exact hl
  | cons c calls ih => exact ih (partitioned_call hl h.1) h.2

end SlateLayout

/-- In every layout that calls can reach, refusing a request leaves the sizes, the free lists and
the tables alone exactly if the request is harmless. If every call of the run was harmless, the
root elements of each shard are pairwise disjoint. -/
theorem refusals_unchanged_iff (o : Outside V) (calls : List (SlateLayout.Call V)) :
    (∀ r, (∀ refusal l',
        ((SlateLayout.fresh V).callAll o calls).allocateElement o r = (.error refusal, l') →
          ((SlateLayout.fresh V).callAll o calls).SameTables l') ↔
        ((SlateLayout.fresh V).callAll o calls).Harmless o r) ∧
      (SlateLayout.HarmlessRun o calls (SlateLayout.fresh V) → ∀ shard,
        (((SlateLayout.fresh V).callAll o calls).rootSpans shard).Pairwise Span.Disjoint) := by
  have hfresh := SlateLayout.fresh_partitioned V
  refine ⟨SlateLayout.refused_unchanged_iff o
    (SlateLayout.chunked_call_all hfresh.toChunked calls), fun h shard => ?_⟩
  exact (List.pairwise_append.1
    ((SlateLayout.partitioned_call_all hfresh h).tiles shard).pairwise).1

namespace Sample

/-- An element of the sync shard. -/
def log : Request Bool := request "nav.log" 100 1 (by decide) one_lt_size

/-- A request that reaches beyond the 32-bit limit once the shard has 100 bytes. -/
def dump : Request Bool := request "nav.dump" (2 ^ 32 - 50) 1 (by decide) one_lt_size

/-- Another element of the sync shard. -/
def trace : Request Bool := request "nav.trace" 60 1 (by decide) one_lt_size

/-- The layout with the first element. -/
def logged : SlateLayout Bool := ((SlateLayout.fresh Bool).allocateElement outside log).2

/-- The layout after all three requests. -/
def traced : SlateLayout Bool :=
  (SlateLayout.fresh Bool).callAll outside [.allocate log, .allocate dump, .allocate trace]

end Sample

/-- The refused request sets the size of the shard back, so the next element overlaps the one
before. -/
theorem refused_request_overlaps :
    (Sample.logged.allocateElement Sample.outside Sample.dump).1 = .error .shardOverflow ∧
      Sample.logged.shardSize .sync = 100 ∧
      (Sample.logged.allocateElement Sample.outside Sample.dump).2.shardSize .sync = 50 ∧
      Sample.traced.rootSpans .sync = [⟨0, 100⟩, ⟨50, 60⟩] ∧
      ¬(Sample.traced.rootSpans .sync).Pairwise Span.Disjoint := by
  have hspans : Sample.traced.rootSpans .sync = [⟨0, 100⟩, ⟨50, 60⟩] := by decide
  refine ⟨by decide, by decide, by decide, hspans, ?_⟩
  -- byte 60 belongs to both
  rw [hspans, List.pairwise_pair]
  intro hdisjoint
  exact hdisjoint 60 ⟨by decide, by decide⟩

/-- Without the request that overflows, the run is harmless. -/
theorem refusals_unchanged_iff_sample :
    (((SlateLayout.fresh Bool).callAll Sample.outside
      [.allocate Sample.log, .allocate Sample.trace]).rootSpans .sync).Pairwise Span.Disjoint := by
  have hfresh := (SlateLayout.fresh_partitioned Bool).toChunked
  have hlog :
      ((SlateLayout.fresh Bool).allocateElement Sample.outside Sample.log).1 = .ok (1, 0) := by
    decide
  have htrace : (Sample.logged.allocateElement Sample.outside Sample.trace).1 = .ok (5, 100) := by
    decide
  exact (refusals_unchanged_iff Sample.outside [.allocate Sample.log, .allocate Sample.trace]).2
    ⟨SlateLayout.harmless_of_granted hfresh hlog, SlateLayout.harmless_of_granted
      (SlateLayout.chunked_allocate Sample.outside hfresh Sample.log) htrace, trivial⟩ .sync

end Codon.Slate
