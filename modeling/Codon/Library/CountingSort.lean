import Mathlib.Data.List.Perm.Subperm
import Mathlib.Data.Nat.Count
import Mathlib.Logic.Function.Basic

/-!
# One pass of a counting sort

The items `0, …, n - 1` have keys. A pass writes item `m` to its place, which is the number of
items with a smaller key and of earlier items with the same key. The places are those of a stable
sort (`place_lt_place`), and what is written there is a rearrangement of the items (`map_perm`).
`scatter` is the writing, to whatever places: later items overwrite earlier ones.
-/

namespace Codon.Library.CountingSort

variable {α : Type} {key : Nat → Nat} {n m m' : Nat}

/-- The number of items with a key below `b`. -/
def below (key : Nat → Nat) (n b : Nat) : Nat := Nat.count (fun m => key m < b) n

/-- The number of the first `n` items with the key `b`. -/
def having (key : Nat → Nat) (n b : Nat) : Nat := Nat.count (fun m => key m = b) n

/-- The place of an item. -/
def place (key : Nat → Nat) (n m : Nat) : Nat := below key n (key m) + having key m (key m)

/-- No key is below zero. -/
theorem below_zero (key : Nat → Nat) (n : Nat) : below key n 0 = 0 := by simp [below]

/-- The keys below `b + 1` are those below `b` and those that are `b`. -/
theorem below_succ (key : Nat → Nat) (n b : Nat) :
    below key n (b + 1) = below key n b + having key n b := by
  simp only [below, having]
  induction n with
  | zero => rfl
  | succ n ih =>
      simp only [Nat.count_succ, ih]
      split_ifs <;> omega

/-- Counting one index more. -/
theorem having_succ (key : Nat → Nat) (n b : Nat) :
    having key (n + 1) b = having key n b + if key n = b then 1 else 0 :=
  Nat.count_succ ..

/-- The places of the items with a key come before those of the items with a greater key. -/
theorem place_lt_below {b : Nat} (hm : m < n) (hb : key m < b) :
    place key n m < below key n b := by
  have hsame : having key m (key m) < having key n (key m) := Nat.count_strict_mono rfl hm
  have hmono : below key n (key m + 1) ≤ below key n b :=
    Nat.count_mono_left fun _ _ h => Nat.lt_of_lt_of_le h hb
  rw [below_succ] at hmono
  rw [place]
  omega

/-- Every index has a place in range. -/
theorem place_lt (hm : m < n) : place key n m < n :=
  Nat.lt_of_lt_of_le (place_lt_below hm (Nat.lt_succ_self _)) (Nat.count_le _)

/-- The order of the places is that of the keys, and that of the items among those with one key. -/
theorem place_lt_place (hm : m < n) (h : key m < key m' ∨ key m = key m' ∧ m < m') :
    place key n m < place key n m' := by
  rcases h with hlt | ⟨heq, hlt⟩
  · exact Nat.lt_of_lt_of_le (place_lt_below hm hlt) (Nat.le_add_right _ _)
  · have hsame : having key m (key m) < having key m' (key m) := Nat.count_strict_mono rfl hlt
    rw [place, place, ← heq]
    omega

/-- No two indices share a place. -/
theorem place_inj (hm : m < n) (hm' : m' < n) (h : place key n m = place key n m') : m = m' := by
  by_contra hne
  rcases Nat.lt_trichotomy (key m) (key m') with hlt | heq | hgt
  · exact absurd h (Nat.ne_of_lt (place_lt_place hm (.inl hlt)))
  · rcases Nat.lt_or_gt_of_ne hne with hlt | hgt
    · exact absurd h (Nat.ne_of_lt (place_lt_place hm (.inr ⟨heq, hlt⟩)))
    · exact absurd h (Nat.ne_of_gt (place_lt_place hm' (.inr ⟨heq.symm, hgt⟩)))
  · exact absurd h (Nat.ne_of_gt (place_lt_place hm' (.inl hgt)))

/-- The places are all there are. -/
theorem map_place_perm (key : Nat → Nat) (n : Nat) :
    ((List.range n).map (place key n)).Perm (List.range n) := by
  have hnodup : ((List.range n).map (place key n)).Nodup :=
    List.Nodup.map_on (fun m hm m' hm' => place_inj (List.mem_range.1 hm) (List.mem_range.1 hm'))
      List.nodup_range
  refine (hnodup.subperm fun i hi => ?_).perm_of_length_le (by simp)
  obtain ⟨m, hm, rfl⟩ := List.mem_map.1 hi
  exact List.mem_range.2 (place_lt (List.mem_range.1 hm))

/-- Every place is that of some index. -/
theorem exists_place (key : Nat → Nat) {i : Nat} (hi : i < n) : ∃ m < n, place key n m = i := by
  have hmem := (map_place_perm key n).mem_iff.2 (List.mem_range.2 hi)
  obtain ⟨m, hm, heq⟩ := List.mem_map.1 hmem
  exact ⟨m, List.mem_range.1 hm, heq⟩

variable {input output : Nat → α}

/-- What stands at the places of the items is a rearrangement of them. -/
theorem map_perm (h : ∀ m < n, output (place key n m) = input m) :
    ((List.range n).map output).Perm ((List.range n).map input) := by
  have hmap : (List.range n).map input = ((List.range n).map (place key n)).map output := by
    rw [List.map_map]
    exact List.map_congr_left fun m hm => (h m (List.mem_range.1 hm)).symm
  rw [hmap]
  exact ((map_place_perm key n).map output).symm

/-- Items that were in order among those with the same key are in order of their keys first. -/
theorem sorted {r : α → α → Prop} (h : ∀ m < n, output (place key n m) = input m)
    (hsame : ∀ m < n, ∀ m' < n, m < m' → key m = key m' → r (input m) (input m'))
    (hless : ∀ m < n, ∀ m' < n, key m < key m' → r (input m) (input m')) :
    ∀ j < n, ∀ i < j, r (output i) (output j) := by
  intro j hj i hi
  obtain ⟨m, hm, rfl⟩ := exists_place key (hi.trans hj)
  obtain ⟨m', hm', rfl⟩ := exists_place key hj
  rw [h m hm, h m' hm']
  rcases Nat.lt_trichotomy (key m) (key m') with hlt | heq | hgt
  · exact hless m hm m' hm' hlt
  · rcases Nat.lt_trichotomy m m' with hlt | rfl | hgt
    · exact hsame m hm m' hm' hlt heq
    · exact absurd hi (Nat.lt_irrefl _)
    · exact absurd (place_lt_place hm' (.inr ⟨heq.symm, hgt⟩)) (Nat.not_lt_of_lt hi)
  · exact absurd (place_lt_place hm' (.inl hgt)) (Nat.not_lt_of_lt hi)

/-! ## Writing -/

/-- The first `m` items are written one after the other, each to the place that `dest` tells. -/
def scatter (dest : Nat → Nat) (input output : Nat → α) : Nat → Nat → α
  | 0 => output
  | m + 1 => Function.update (scatter dest input output m) (dest m) (input m)

variable {dest : Nat → Nat}

/-- The last item that is written is there. -/
theorem scatter_last (dest : Nat → Nat) (m : Nat) :
    scatter dest input output (m + 1) (dest m) = input m :=
  Function.update_self ..

/-- A scatter writes its destinations only. -/
theorem scatter_of_ne {i : Nat} (h : ∀ m' < m, dest m' ≠ i) :
    scatter dest input output m i = output i := by
  induction m with
  | zero => rfl
  | succ m ih =>
      rw [scatter, Function.update_of_ne (h m (Nat.lt_succ_self m)).symm,
        ih fun m' hm' => h m' (Nat.lt_succ_of_lt hm')]

/-- Items with places of their own are all there. -/
theorem scatter_of_inj (dest : Nat → Nat) (h : ∀ i < m, ∀ j < m, dest i = dest j → i = j) :
    ∀ i < m, scatter dest input output m (dest i) = input i := by
  induction m with
  | zero => exact nofun
  | succ m ih =>
      intro i hi
      rcases Nat.lt_succ_iff_lt_or_eq.1 hi with hlt | rfl
      · have hne : dest i ≠ dest m := fun heq =>
          Nat.ne_of_lt hlt (h i hi m (Nat.lt_succ_self m) heq)
        rw [scatter, Function.update_of_ne hne]
        exact ih (fun i hi j hj => h i (Nat.lt_succ_of_lt hi) j (Nat.lt_succ_of_lt hj)) i hlt
      · exact scatter_last dest i

/-- Two inputs that are related item by item are written into related outputs. -/
theorem scatter_related {r : α → α → Prop} {input' output' : Nat → α}
    (hin : ∀ i < m, r (input i) (input' i)) (hout : ∀ i, r (output i) (output' i)) (i : Nat) :
    r (scatter dest input output m i) (scatter dest input' output' m i) := by
  induction m with
  | zero => exact hout i
  | succ m ih =>
      rw [scatter, scatter]
      by_cases heq : i = dest m
      · rw [heq, Function.update_self, Function.update_self]
        exact hin m (Nat.lt_succ_self m)
      · rw [Function.update_of_ne heq, Function.update_of_ne heq]
        exact ih fun i hi => hin i (Nat.lt_succ_of_lt hi)

end Codon.Library.CountingSort
