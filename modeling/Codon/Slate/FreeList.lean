import Codon.Library.Tiling
import Codon.Slate.Layout

/-!
# Free chunks

Every free chunk is aligned to its size, which is a power of two below the maximum
alignment. The loop that carves free space into chunks uses all of the space because its
end is aligned to a power of two that the space does not reach: going up in powers of two,
each chunk takes the lowest set bit of the offset (`carve_spec`).
-/

namespace Codon.Slate

open Codon.Library

/-- The bytes of a free chunk. -/
def FreeChunk.span (chunk : FreeChunk) : Span := ⟨chunk.offset, chunk.size⟩

/-- The size of a chunk is a power of two below the maximum alignment and divides its offset. -/
def FreeChunk.Aligned (chunk : FreeChunk) : Prop :=
  ∃ k, chunk.size = 2 ^ k ∧ chunk.size < maxAlignment ∧ chunk.size ∣ chunk.offset

/-- The powers of two below the greatest alignment have exponents below five. -/
theorem two_pow_lt_max_alignment {k : Nat} : 2 ^ k < maxAlignment ↔ k < 5 :=
  Nat.pow_lt_pow_iff_right (by omega) (m := 5)

/-- Inserting a chunk adds that chunk only. -/
theorem insert_chunk_perm (chunk : FreeChunk) (freeList : List FreeChunk) :
    (insertChunk chunk freeList).Perm (chunk :: freeList) := by
  induction freeList with
  | nil => exact .refl _
  | cons c freeList ih =>
      unfold insertChunk
      split_ifs
      · exact (ih.cons c).trans (.swap _ _ _)
      · exact .refl _

/-- Free space that is smaller than a power of two dividing both of its ends is no space. -/
theorem free_size_eq_zero {j freeOffset freeSize : Nat} (hoffset : 2 ^ j ∣ freeOffset)
    (hend : 2 ^ j ∣ freeOffset + freeSize) (hlt : freeSize < 2 ^ j) : freeSize = 0 :=
  Nat.eq_zero_of_dvd_of_lt ((Nat.dvd_add_right hoffset).1 hend) hlt

/-- `freeList'` is `freeList` with aligned chunks added that tile the bytes from `lo` up to `hi`. -/
def Carves (freeList freeList' : List FreeChunk) (lo hi : Nat) : Prop :=
  ∃ pieces, freeList'.Perm (pieces ++ freeList) ∧ (∀ chunk ∈ pieces, chunk.Aligned) ∧
    Tiles (pieces.map FreeChunk.span) lo hi

/-- Nothing is carved from an empty gap. -/
theorem Carves.refl (freeList : List FreeChunk) (lo : Nat) : Carves freeList freeList lo lo :=
  ⟨[], .refl _, by simp, .nil lo⟩

/-- A chunk is put in front of what is carved next. -/
theorem Carves.insert {freeList freeList' : List FreeChunk} {chunk : FreeChunk} {hi : Nat}
    (h : Carves (insertChunk chunk freeList) freeList' (chunk.offset + chunk.size) hi)
    (haligned : chunk.Aligned) (hhi : chunk.offset + chunk.size ≤ hi) :
    Carves freeList freeList' chunk.offset hi := by
  obtain ⟨pieces, hperm, hpieces, htiles⟩ := h
  refine ⟨chunk :: pieces, hperm.trans ?_, ?_, ?_⟩
  · exact (((insert_chunk_perm chunk freeList).append_left pieces).trans List.perm_middle)
  · exact List.forall_mem_cons.2 ⟨haligned, hpieces⟩
  · exact (Tiles.single chunk.span).append htiles (Nat.le_add_right _ _) hhi

/-- What carving does: it leaves no free space and adds aligned chunks that tile it. -/
theorem carve_spec {fuel j k freeOffset freeSize : Nat} (freeList : List FreeChunk) (hk : k ≤ 5)
    (hoffset : 2 ^ j ∣ freeOffset) (hend : 2 ^ k ∣ freeOffset + freeSize)
    (hsize : freeSize < 2 ^ k) (hfuel : k < fuel + j) (hlimit : freeOffset + freeSize ≤ 2 ^ 32) :
    ∃ freeList', carve fuel (2 ^ j) freeOffset freeSize freeList = (0, freeList') ∧
      Carves freeList freeList' freeOffset (freeOffset + freeSize) := by
  induction fuel generalizing j freeOffset freeSize freeList with
  | zero =>
      have hstart : 2 ^ k ∣ freeOffset := (pow_dvd_pow 2 (by omega)).trans hoffset
      obtain rfl := free_size_eq_zero hstart hend hsize
      exact ⟨freeList, rfl, .refl _ _⟩
  | succ fuel ih =>
      unfold carve
      by_cases hfits : 2 ^ j ≤ freeSize
      · have hjk : j < k := (Nat.pow_lt_pow_iff_right (by omega)).1 (hfits.trans_lt hsize)
        have hnext := dvd_of_and_two_pow hoffset
        rw [if_pos hfits, ← Nat.pow_succ']
        split_ifs at hnext ⊢ with hset
        · -- the lowest set bit of the offset: a chunk of this size is aligned here
          rw [Nat.mod_eq_of_lt (by omega)]
          have hsum : freeOffset + 2 ^ j + (freeSize - 2 ^ j) = freeOffset + freeSize := by omega
          obtain ⟨freeList', hcarve, hcarves⟩ := ih (insertChunk ⟨2 ^ j, freeOffset⟩ freeList) hnext
            (by rwa [hsum]) (by omega) (by omega) (by omega)
          rw [hsum] at hcarves
          refine ⟨freeList', hcarve, hcarves.insert ⟨j, rfl, ?_, hoffset⟩ (by simp; omega)⟩
          exact two_pow_lt_max_alignment.2 (by omega)
        · exact ih freeList hnext hend hsize (by omega) hlimit
      · rw [if_neg hfits]
        have hzero : freeSize = 0 := by
          rcases Nat.le_total j k with hjk | hkj
          · exact free_size_eq_zero hoffset ((pow_dvd_pow 2 hjk).trans hend) (by omega)
          · exact free_size_eq_zero ((pow_dvd_pow 2 hkj).trans hoffset) hend hsize
        subst hzero
        exact ⟨freeList, rfl, .refl _ _⟩

end Codon.Slate
