import Mathlib.Tactic.Common
import Mathlib.Logic.Function.Basic

/-!
# Dense slots with back-pointers

The first `count` slots of a list hold the members of a collection, and every member knows its slot;
what is behind them does not matter. A new member takes the first slot behind the others
(`Dense.push`), and a member that goes changes places with the last one (`Dense.swap_remove`).
-/

namespace Codon.Library

variable {α : Type}

/-- The entries in two slots change places. -/
def swapSlots (l : List α) (i j : Nat) : List α :=
  match l[i]?, l[j]? with
  | some a, some b => (l.set i b).set j a
  | _, _ => l

@[simp] theorem length_swap_slots (l : List α) (i j : Nat) :
    (swapSlots l i j).length = l.length := by
  rw [swapSlots]
  split <;> simp

/-- What stands at each index after a swap. -/
theorem getElem?_swap_slots {l : List α} {i j : Nat} (hi : i < l.length) (hj : j < l.length)
    (k : Nat) :
    (swapSlots l i j)[k]? = if k = j then l[i]? else if k = i then l[j]? else l[k]? := by
  rw [swapSlots, List.getElem?_eq_getElem hi, List.getElem?_eq_getElem hj]
  simp only [List.getElem?_set, List.length_set]
  by_cases hkj : k = j
  · rw [if_pos hkj.symm, if_pos hj, if_pos hkj]
  · rw [if_neg (Ne.symm hkj), if_neg hkj]
    by_cases hki : k = i
    · rw [if_pos hki.symm, if_pos hi, if_pos hki]
    · rw [if_neg (Ne.symm hki), if_neg hki]

/-- Swapping an index with itself changes nothing. -/
theorem swap_slots_self (l : List α) (i : Nat) : swapSlots l i i = l := by
  rw [swapSlots]
  split
  next a b ha hb =>
    rw [ha] at hb
    cases hb
    obtain ⟨hi, rfl⟩ := List.getElem?_eq_some_iff.1 ha
    simp
  next => rfl

/-- Entries that change places stay in the list. -/
theorem perm_swap_slots (l : List α) (i j : Nat) : (swapSlots l i j).Perm l := by
  rw [swapSlots]
  split
  next a b ha hb =>
    obtain ⟨hi, rfl⟩ := List.getElem?_eq_some_iff.1 ha
    obtain ⟨hj, rfl⟩ := List.getElem?_eq_some_iff.1 hb
    exact List.set_set_perm hi hj
  next => exact .refl l

/-- What is behind the first slots. -/
theorem mem_drop_iff {l : List α} {count : Nat} {a : α} :
    a ∈ l.drop count ↔ ∃ i, count ≤ i ∧ l[i]? = some a := by
  rw [List.mem_iff_getElem?]
  constructor
  · rintro ⟨i, hi⟩
    exact ⟨count + i, Nat.le_add_right count i, by rw [← hi, List.getElem?_drop]⟩
  · rintro ⟨i, hle, hi⟩
    exact ⟨i - count, by rw [List.getElem?_drop, Nat.add_sub_cancel' hle, hi]⟩

/-- A new member pushes nothing behind the slots. -/
theorem mem_drop_push {l : List α} {count : Nat} {a b : α} (hle : count ≤ l.length)
    (hb : b ∈ (swapSlots (l ++ [a]) l.length count).drop (count + 1)) : b ∈ l.drop count := by
  obtain ⟨k, hk, hkb⟩ := mem_drop_iff.1 hb
  have hlen : k < l.length + 1 := by
    obtain ⟨hlt, -⟩ := List.getElem?_eq_some_iff.1 hkb
    simpa using hlt
  rw [getElem?_swap_slots (by simp) (by simp; omega), if_neg (by omega)] at hkb
  by_cases hlast : k = l.length
  · -- the one that made room
    rw [if_pos hlast, List.getElem?_append_left (by omega)] at hkb
    exact mem_drop_iff.2 ⟨count, Nat.le_refl count, hkb⟩
  · rw [if_neg hlast, List.getElem?_append_left (by omega)] at hkb
    exact mem_drop_iff.2 ⟨k, by omega, hkb⟩

/-- Only the member that goes gets behind the slots. -/
theorem mem_drop_swap_remove {l : List α} {count i : Nat} {a b : α} (hle : count ≤ l.length)
    (hi : i < count) (ha : l[i]? = some a)
    (hb : b ∈ (swapSlots l i (count - 1)).drop (count - 1)) : b = a ∨ b ∈ l.drop count := by
  obtain ⟨k, hk, hkb⟩ := mem_drop_iff.1 hb
  rw [getElem?_swap_slots (by omega) (by omega)] at hkb
  by_cases hlast : k = count - 1
  · rw [if_pos hlast, ha] at hkb
    exact .inl (Option.some.inj hkb).symm
  · rw [if_neg hlast, if_neg (by omega)] at hkb
    exact .inr (mem_drop_iff.2 ⟨k, by omega, hkb⟩)
/-- `slot` gives the slot of each member: the first `count` slots hold all members, each in its
slot. -/
structure Dense (l : List α) (count : Nat) (slot : α → Option Nat) : Prop where
  count_le : count ≤ l.length
  slot_iff (a : α) (i : Nat) : slot a = some i ↔ i < count ∧ l[i]? = some a

namespace Dense

variable {l : List α} {count i : Nat} {slot : α → Option Nat} {a b : α}

/-- The empty list is dense. -/
theorem nil : Dense ([] : List α) 0 (fun _ => none) := ⟨Nat.le_refl 0, by simp⟩

/-- Only the slots of the members matter. -/
theorem congr {l' : List α} {slot' : α → Option Nat} (h : Dense l count slot)
    (hl : count ≤ l'.length) (hl' : ∀ i < count, l'[i]? = l[i]?) (hslot : ∀ a, slot' a = slot a) :
    Dense l' count slot' where
  count_le := hl
  slot_iff a i := by
    rw [hslot a, h.slot_iff a i]
    exact and_congr_right fun hi => by rw [hl' i hi]

/-- What stands in a slot knows it. -/
theorem slot_of_getElem? (h : Dense l count slot) (hi : i < count) (ha : l[i]? = some a) :
    slot a = some i :=
  (h.slot_iff a i).2 ⟨hi, ha⟩

/-- No slot has two members. -/
theorem eq_of_slot (h : Dense l count slot) (ha : slot a = some i) (hb : slot b = some i) :
    a = b := by
  have hia := ((h.slot_iff a i).1 ha).2
  have hib := ((h.slot_iff b i).1 hb).2
  exact Option.some.inj (hia.symm.trans hib)

variable [DecidableEq α]

/-- What is behind the members makes room for a new one. -/
theorem push (h : Dense l count slot) (ha : slot a = none) :
    Dense (swapSlots (l ++ [a]) l.length count) (count + 1)
      (Function.update slot a (some count)) := by
  have hle := h.count_le
  have hget (k : Nat) (hk : k < count + 1) :
      (swapSlots (l ++ [a]) l.length count)[k]? = if k = count then some a else l[k]? := by
    rw [getElem?_swap_slots (by simp) (by simp; omega)]
    by_cases hkc : k = count
    · simp [hkc]
    · rw [if_neg hkc, if_neg hkc, if_neg (by omega), List.getElem?_append_left (by omega)]
  refine ⟨by simpa using hle, fun b k => ⟨fun hb => ?_, ?_⟩⟩
  · by_cases hba : b = a
    · subst hba
      rw [Function.update_self] at hb
      cases hb
      exact ⟨Nat.lt_succ_self _, by rw [hget _ (Nat.lt_succ_self _), if_pos rfl]⟩
    · rw [Function.update_of_ne hba] at hb
      obtain ⟨hk, hkb⟩ := (h.slot_iff b k).1 hb
      exact ⟨Nat.lt_succ_of_lt hk, by rw [hget k (by omega), if_neg (by omega), hkb]⟩
  · rintro ⟨hk, hkb⟩
    rw [hget k hk] at hkb
    by_cases hkc : k = count
    · rw [if_pos hkc] at hkb
      cases hkb
      rw [Function.update_self, hkc]
    · -- the new member is in no other slot
      rw [if_neg hkc] at hkb
      have hslot := h.slot_of_getElem? (by omega) hkb
      have hba : b ≠ a := by
        rintro rfl
        rw [ha] at hslot
        cases hslot
      rw [Function.update_of_ne hba, hslot]

/-- A member that goes changes places with the last member, which is told of its new slot. -/
theorem swap_remove (h : Dense l count slot) (ha : slot a = some i) :
    Dense (swapSlots l i (count - 1)) (count - 1) fun b =>
      if b = a then none else if slot b = some (count - 1) then some i else slot b := by
  have hle := h.count_le
  obtain ⟨hi, hia⟩ := (h.slot_iff a i).1 ha
  have hget (k : Nat) (hk : k < count - 1) :
      (swapSlots l i (count - 1))[k]? = if k = i then l[count - 1]? else l[k]? := by
    rw [getElem?_swap_slots (by omega) (by omega), if_neg (by omega)]
  refine ⟨by rw [length_swap_slots]; omega, fun b k => ⟨fun hb => ?_, ?_⟩⟩
  · split_ifs at hb with hba hlast
    · -- the last member is in the slot that has become free
      cases hb
      have hne : i ≠ count - 1 := by
        rintro rfl
        exact hba (h.eq_of_slot hlast ha)
      refine ⟨by omega, ?_⟩
      rw [hget i (by omega), if_pos rfl]
      exact ((h.slot_iff b (count - 1)).1 hlast).2
    · obtain ⟨hk, hkb⟩ := (h.slot_iff b k).1 hb
      have hklast : k ≠ count - 1 := by
        rintro rfl
        exact hlast hb
      have hki : k ≠ i := by
        rintro rfl
        exact hba (h.eq_of_slot hb ha)
      exact ⟨by omega, by rw [hget k (by omega), if_neg hki, hkb]⟩
  · rintro ⟨hk, hkb⟩
    rw [hget k hk] at hkb
    split_ifs at hkb with hki
    · have hlast := h.slot_of_getElem? (by omega) hkb
      have hba : b ≠ a := by
        rintro rfl
        rw [ha, Option.some.injEq] at hlast
        omega
      rw [if_neg hba, if_pos hlast, hki]
    · have hslot := h.slot_of_getElem? (by omega) hkb
      have hba : b ≠ a := by
        rintro rfl
        exact hki (Option.some.inj (hslot.symm.trans ha))
      have hlast : slot b ≠ some (count - 1) := by
        rw [hslot, Ne, Option.some.injEq]
        omega
      rw [if_neg hba, if_neg hlast, hslot]

end Dense

end Codon.Library
