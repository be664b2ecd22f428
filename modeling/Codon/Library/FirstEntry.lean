import Mathlib.Data.List.Nodup

/-!
# Maps that keep their first entries

A map into which the entries of a list are inserted one after the other, without replacing any,
holds the first entry of each key.
-/

namespace Codon.Library

open Std

variable {κ ν : Type} [BEq κ] [LawfulBEq κ]

/-- The first value for a key of the map is its own, and then that of the list. -/
theorem get_insert_if_new [Ord κ] [TransOrd κ] [LawfulEqOrd κ] (entries : List (κ × ν))
    (m : ExtTreeMap κ ν) (k : κ) :
    (entries.foldl (fun m entry => m.insertIfNew entry.1 entry.2) m)[k]? =
      m[k]?.or (entries.lookup k) := by
  induction entries generalizing m with
  | nil => simp
  | cons entry entries ih =>
      obtain ⟨k', v⟩ := entry
      rw [List.foldl_cons, ih, ExtTreeMap.getElem?_insertIfNew, List.lookup_cons]
      by_cases heq : k' = k
      · subst heq
        by_cases hmem : k' ∈ m
        · obtain ⟨v', hv'⟩ :=
            Option.isSome_iff_exists.1 (ExtTreeMap.mem_iff_isSome_getElem?.1 hmem)
          simp [hmem]
        · simp [hmem]
      · have hne : (k == k') = false := by simpa using Ne.symm heq
        simp [heq, hne]

/-- The first entry of a key is one of the list. -/
theorem mem_of_lookup {entries : List (κ × ν)} {k : κ} {v : ν} (h : entries.lookup k = some v) :
    (k, v) ∈ entries := by
  rw [List.lookup_eq_some_iff] at h
  obtain ⟨before, after, rfl, -⟩ := h
  exact List.mem_append_right _ List.mem_cons_self

/-- A key with an entry has a first one. -/
theorem exists_lookup_of_mem {entries : List (κ × ν)} {k : κ} {v : ν} (h : (k, v) ∈ entries) :
    ∃ v', entries.lookup k = some v' := by
  rw [← Option.isSome_iff_exists, ← Option.ne_none_iff_isSome]
  intro hnone
  have hne := List.lookup_eq_none_iff.1 hnone (k, v) h
  simp at hne

/-- Where every key has one entry, this is the first. -/
theorem lookup_eq_some_iff_mem {entries : List (κ × ν)} (h : (entries.map Prod.fst).Nodup) {k : κ}
    {v : ν} : entries.lookup k = some v ↔ (k, v) ∈ entries := by
  refine ⟨mem_of_lookup, fun hmem => ?_⟩
  obtain ⟨v', hv'⟩ := exists_lookup_of_mem hmem
  have hsame := List.inj_on_of_nodup_map h (mem_of_lookup hv') hmem rfl
  rw [hv', (Prod.mk.inj hsame).2]

end Codon.Library
