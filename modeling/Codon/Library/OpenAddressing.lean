import Mathlib.Data.List.AList
import Mathlib.Logic.Function.Basic

/-!
# Tables with open addressing

Every slot of a table is free or holds an entry. A key is looked for in one group of slots after
the other, `probes k 0`, `probes k 1` and so on, until a group holds it or has a free slot. This
finds every entry of a table in which an entry is only put where such a search has ended
(`Placed.put`), so that a search which ends without it shows that the key is not there
(`Placed.absent`). `Represents` relates a table to the finite map it stands for.
-/

namespace Codon.Library.OpenAddressing

variable {ι κ ν : Type}

/-- The entry of each slot. -/
abbrev Table (ι κ ν : Type) : Type := ι → Option (κ × ν)

/-- The first `n` groups have no free slot and do not hold the key. -/
def Passed (probes : κ → Nat → List ι) (t : Table ι κ ν) (k : κ) (n : Nat) : Prop :=
  ∀ j < n, ∀ i ∈ probes k j, ∃ e, t i = some e ∧ e.1 ≠ k

/-- The key is in no slot. -/
def Absent (t : Table ι κ ν) (k : κ) : Prop := ∀ i v, t i ≠ some (k, v)

/-- Every entry is where a search for its key ends, and no key has two. -/
structure Placed (probes : κ → Nat → List ι) (bound : Nat) (t : Table ι κ ν) : Prop where
  reached : ∀ i k v, t i = some (k, v) → ∃ n < bound, i ∈ probes k n ∧ Passed probes t k n
  unique : ∀ i j k v w, t i = some (k, v) → t j = some (k, w) → i = j

/-- The table stands for the finite map. -/
def Represents (t : Table ι κ ν) [DecidableEq κ] (a : AList fun _ : κ => ν) : Prop :=
  ∀ k v, a.lookup k = some v ↔ ∃ i, t i = some (k, v)

variable {probes : κ → Nat → List ι} {bound n : Nat} {t : Table ι κ ν} {i : ι} {k k' : κ} {v : ν}

/-- An empty table is placed. -/
theorem placed_empty (h : ∀ i, t i = none) : Placed probes bound t where
  reached i k v hi := by simp [h] at hi
  unique i j k v w hi := by simp [h] at hi

/-- The key is nowhere if a search for it ends at a free slot, and if it never ends. -/
theorem Placed.absent (h : Placed probes bound t) (hpassed : Passed probes t k n)
    (hend : bound ≤ n ∨ (∃ i ∈ probes k n, t i = none) ∧ ∀ i ∈ probes k n, ∀ v, t i ≠ some (k, v)) :
    Absent t k := by
  intro i v hi
  obtain ⟨m, hm, himem, hmpassed⟩ := h.reached i k v hi
  -- the entry lies before the group where the search ends, in it or behind it
  rcases Nat.lt_trichotomy m n with hlt | rfl | hgt
  · obtain ⟨e, he, hne⟩ := hpassed m hlt i himem
    rw [hi] at he
    cases he
    exact hne rfl
  · rcases hend with hle | ⟨-, hother⟩
    · exact absurd hm (Nat.not_lt_of_le hle)
    · exact hother i himem v hi
  · rcases hend with hle | ⟨⟨f, hf, hfree⟩, -⟩
    · exact absurd (Nat.lt_of_lt_of_le hm hle) (Nat.not_lt_of_lt hgt)
    · obtain ⟨e, he, -⟩ := hmpassed n hgt f hf
      rw [hfree] at he
      cases he

variable [DecidableEq ι]

/-- What is written to a slot that is free or holds the same key does not end any search earlier. -/
theorem Passed.put (h : Passed probes t k' n) (hslot : ∀ e, t i = some e → e.1 = k) :
    Passed probes (Function.update t i (some (k, v))) k' n := by
  intro j hj i' hi'
  obtain ⟨e, he, hne⟩ := h j hj i' hi'
  by_cases heq : i' = i
  · subst heq
    exact ⟨(k, v), Function.update_self .., (hslot e he).symm ▸ hne⟩
  · exact ⟨e, by rwa [Function.update_of_ne heq], hne⟩

/-- An entry may be put where a search for its key has ended. -/
theorem Placed.put (h : Placed probes bound t) (hn : n < bound) (hpassed : Passed probes t k n)
    (hi : i ∈ probes k n) (hslot : ∀ e, t i = some e → e.1 = k)
    (hother : ∀ j w, t j = some (k, w) → j = i) :
    Placed probes bound (Function.update t i (some (k, v))) where
  reached j k' w hj := by
    by_cases heq : j = i
    · subst heq
      rw [Function.update_self] at hj
      cases hj
      exact ⟨n, hn, hi, hpassed.put hslot⟩
    · rw [Function.update_of_ne heq] at hj
      obtain ⟨m, hm, hjmem, hmpassed⟩ := h.reached j k' w hj
      exact ⟨m, hm, hjmem, hmpassed.put hslot⟩
  unique j j' k' w w' hj hj' := by
    by_cases heq : j = i <;> by_cases heq' : j' = i
    · rw [heq, heq']
    · rw [heq, Function.update_self] at hj
      rw [Function.update_of_ne heq'] at hj'
      cases hj
      exact heq.trans (hother j' w' hj').symm
    · rw [heq', Function.update_self] at hj'
      rw [Function.update_of_ne heq] at hj
      cases hj'
      exact (hother j w hj).trans heq'.symm
    · rw [Function.update_of_ne heq] at hj
      rw [Function.update_of_ne heq'] at hj'
      exact h.unique j j' k' w w' hj hj'

variable [DecidableEq κ] {a : AList fun _ : κ => ν}

omit [DecidableEq ι] in
/-- It represents the empty map. -/
theorem represents_empty (h : ∀ i, t i = none) : Represents t (∅ : AList fun _ : κ => ν) := by
  intro k v
  simp [h]

omit [DecidableEq ι] in
/-- A key is in the map when the table has it. -/
theorem Represents.mem_iff (h : Represents t a) : k ∈ a ↔ ¬ Absent t k := by
  rw [← AList.lookup_isSome, Option.isSome_iff_exists]
  simp only [Absent, not_forall, not_not, h k]
  exact exists_comm

omit [DecidableEq ι] in
/-- A key that the table lacks has no value. -/
theorem Represents.lookup_eq_none (h : Represents t a) (habsent : Absent t k) :
    a.lookup k = none := by
  rw [AList.lookup_eq_none, h.mem_iff]
  exact not_not_intro habsent

/-- The entry that is put is inserted into the map. -/
theorem Represents.put (h : Represents t a) (hslot : ∀ e, t i = some e → e.1 = k)
    (hother : ∀ j w, t j = some (k, w) → j = i) :
    Represents (Function.update t i (some (k, v))) (a.insert k v) := by
  intro k' w
  by_cases heq : k' = k
  · subst heq
    rw [AList.lookup_insert]
    constructor
    · rintro hw
      cases hw
      exact ⟨i, Function.update_self ..⟩
    · rintro ⟨j, hj⟩
      by_cases hij : j = i
      · rw [hij, Function.update_self] at hj
        cases hj
        rfl
      · rw [Function.update_of_ne hij] at hj
        exact absurd (hother j w hj) hij
  · rw [AList.lookup_insert_ne heq, h k' w]
    refine exists_congr fun j => ?_
    by_cases hij : j = i
    · subst hij
      rw [Function.update_self]
      constructor
      · intro hj
        exact absurd (hslot _ hj) heq
      · intro hj
        cases hj
        exact absurd rfl heq
    · rw [Function.update_of_ne hij]

omit [DecidableEq ι] in
/-- The number of keys grows with a key that was not there. -/
theorem length_keys_insert (a : AList fun _ : κ => ν) (k : κ) (v : ν) :
    (a.insert k v).keys.length = if k ∈ a then a.keys.length else a.keys.length + 1 := by
  rw [AList.keys_insert, List.length_cons]
  split_ifs with hmem
  · have hpos := List.length_pos_of_mem (AList.mem_keys.1 hmem)
    rw [List.length_erase_of_mem (AList.mem_keys.1 hmem)]
    omega
  · rw [List.erase_of_not_mem (fun hk => hmem (AList.mem_keys.2 hk))]

end Codon.Library.OpenAddressing
