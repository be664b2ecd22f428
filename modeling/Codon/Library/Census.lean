import Mathlib.Data.List.Nodup

/-!
# Counting the members of a list

How the number of members with a property changes when one member gains or loses it, and
when one is removed, and what it is where one of several lists has them all.
-/

namespace Codon.Library

variable {α : Type} {p q : α → Bool} {l : List α} {x : α}

/-- Removing a member takes it out of the count. -/
theorem count_erase [DecidableEq α] (hmem : x ∈ l) :
    (l.erase x).countP p + (p x).toNat = l.countP p := by
  rw [(List.perm_cons_erase hmem).countP_eq p, List.countP_cons]
  cases p x <;> rfl

/-- Where only one member changes, the count changes by that member. -/
theorem count_change [DecidableEq α] (hnodup : l.Nodup) (hmem : x ∈ l)
    (hsame : ∀ y ∈ l, y ≠ x → q y = p y) :
    l.countP q + (p x).toNat = l.countP p + (q x).toNat := by
  have hrest : (l.erase x).countP q = (l.erase x).countP p := by
    refine List.countP_congr fun y hy => ?_
    obtain ⟨hne, hmem'⟩ := hnodup.mem_erase_iff.1 hy
    rw [hsame y hmem' hne]
  have hp := count_erase (p := p) hmem
  have hq := count_erase (p := q) hmem
  omega

/-- Where only the list of one item has members with the property, these are counted. -/
theorem count_flatMap_single {β : Type} {p : β → Bool} {f : α → List β} (hnodup : l.Nodup)
    (hmem : x ∈ l) (hother : ∀ y ∈ l, y ≠ x → (f y).countP p = 0) :
    (l.flatMap f).countP p = (f x).countP p := by
  induction l with
  | nil => cases hmem
  | cons y l ih =>
      obtain ⟨hnew, hrest⟩ := List.nodup_cons.1 hnodup
      rw [List.flatMap_cons, List.countP_append]
      rcases List.mem_cons.1 hmem with rfl | hin
      · have hnone : (l.flatMap f).countP p = 0 := by
          rw [List.countP_eq_zero]
          intro b hb
          obtain ⟨z, hz, hb⟩ := List.mem_flatMap.1 hb
          have hzero := hother z (List.mem_cons_of_mem _ hz) fun heq => hnew (heq ▸ hz)
          exact List.countP_eq_zero.1 hzero b hb
        rw [hnone, Nat.add_zero]
      · have hne : y ≠ x := fun heq => hnew (heq ▸ hin)
        rw [hother y List.mem_cons_self hne, Nat.zero_add]
        exact ih hrest hin fun z hz => hother z (List.mem_cons_of_mem _ hz)

end Codon.Library
