import Mathlib.Data.List.Permutation
import Mathlib.Order.MinMax

/-!
# Votes of up to three

The vote of three values is their median, that of two the greater, and that of one the
value itself. It does not depend on the order of the values (`vote_perm`), and the median
lies between any two of the three (`median_between` and the two after it).
-/

namespace Codon.Library

variable {A : Type} [LinearOrder A] {x y z : A}

/-- The median of three values. -/
def median (x y z : A) : A := max (min x y) (min (max x y) z)

/-- The vote of up to three values. -/
def vote : List A → Option A
  | [x] => some x
  | [x, y] => some (max x y)
  | [x, y, z] => some (median x y z)
  | _ => none

/-- The median is one of the three. -/
theorem median_mem (x y z : A) : median x y z = x ∨ median x y z = y ∨ median x y z = z := by
  rw [median]
  rcases max_choice (min x y) (min (max x y) z) with h | h
  · rw [h]
    exact (min_choice x y).imp_right .inl
  · rw [h]
    rcases min_choice (max x y) z with h' | h'
    · rw [h']
      exact (max_choice x y).imp_right .inl
    · exact .inr (.inr h')

/-- It does not depend on the order of the first two. -/
theorem median_comm (x y z : A) : median x y z = median y x z := by
  rw [median, median, min_comm, max_comm x]

/-- Nor on that of the last two. -/
theorem median_right_comm (x y z : A) : median x y z = median x z y := by
  rw [median, median, min_max_distrib_right, min_max_distrib_right, max_left_comm, min_comm y z]

/-- The median lies between the first two values. -/
theorem median_between (x y z : A) : min x y ≤ median x y z ∧ median x y z ≤ max x y :=
  ⟨le_max_left _ _, max_le min_le_max (min_le_left _ _)⟩

/-- The median lies between the outer two values. -/
theorem median_between_outer (x y z : A) : min x z ≤ median x y z ∧ median x y z ≤ max x z := by
  rw [median_right_comm]
  exact median_between x z y

/-- The median lies between the last two values. -/
theorem median_between_last (x y z : A) : min y z ≤ median x y z ∧ median x y z ≤ max y z := by
  rw [median_comm]
  exact median_between_outer y x z

/-- More than three values have no vote. -/
theorem vote_eq_none {values : List A} (h : 3 < values.length) : vote values = none := by
  match values with
  | _ :: _ :: _ :: _ :: _ => rfl

/-- The vote does not depend on the order of the values. -/
theorem vote_perm {values values' : List A} (h : values.Perm values') :
    vote values = vote values' := by
  induction h with
  | nil => rfl
  | @cons x values values' h _ =>
      match values with
      | [] => rw [List.nil_perm.1 h]
      | [y] => rw [List.singleton_perm.1 h]
      | [y, z] =>
          rcases List.pair_perm.1 h with rfl | rfl
          · rfl
          · exact congrArg some (median_right_comm x y z)
      | y :: z :: w :: rest =>
          have hlength := h.length_eq
          simp only [List.length_cons] at hlength
          rw [vote_eq_none (by simp), vote_eq_none (by rw [List.length_cons]; omega)]
  | swap x y values =>
      match values with
      | [] => exact congrArg some (max_comm y x)
      | [z] => exact congrArg some (median_comm y x z)
      | _ :: _ :: _ => rfl
  | trans _ _ ih ih' => exact ih.trans ih'

end Codon.Library
