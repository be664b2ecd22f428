import Mathlib.Data.List.Nodup
import Mathlib.Data.List.Pairwise

/-!
# Trees of names

Names with several components span a tree, whose nodes are their prefixes. Different names
are leaves of the tree exactly if none of them lies above another (`leaves_iff_pairwise`).
-/

namespace Codon.Library

variable {α : Type} {names : List (List α)} {name : List α}

/-- A name lies properly above another. -/
def Above (name below : List α) : Prop := name <+: below ∧ name ≠ below

instance [DecidableEq α] (name below : List α) : Decidable (Above name below) :=
  inferInstanceAs (Decidable (_ ∧ _))

/-- A node of the tree that the names span. -/
def IsNode (names : List (List α)) (path : List α) : Prop := ∃ name ∈ names, path <+: name

/-- A node with no other node below it. -/
def IsLeaf (names : List (List α)) (path : List α) : Prop :=
  IsNode names path ∧ ∀ below, IsNode names below → ¬Above path below

/-- The names are different leaves of the tree that they span. -/
def Leaves (names : List (List α)) : Prop := names.Nodup ∧ ∀ name ∈ names, IsLeaf names name

/-- A name is a leaf exactly if it does not lie above another name. -/
theorem is_leaf_iff (hmem : name ∈ names) :
    IsLeaf names name ↔ ∀ other ∈ names, ¬Above name other := by
  constructor
  · intro hleaf other hother
    exact hleaf.2 other ⟨other, hother, List.prefix_rfl⟩
  · intro hnone
    refine ⟨⟨name, hmem, List.prefix_rfl⟩, fun below ⟨other, hother, hle⟩ ⟨hbelow, hne⟩ => ?_⟩
    -- the name that the node belongs to lies below as well
    refine hnone other hother ⟨hbelow.trans hle, ?_⟩
    rintro rfl
    exact hne (hbelow.eq_of_length_le hle.length_le)

/-- Different names are leaves exactly if of no two of them one lies above the other. -/
theorem leaves_iff_pairwise (hnodup : names.Nodup) :
    Leaves names ↔ names.Pairwise fun name name' => ¬Above name name' ∧ ¬Above name' name := by
  constructor
  · intro ⟨_, hleaf⟩
    refine List.pairwise_of_forall_mem_list fun name hmem name' hmem' => ?_
    exact ⟨(is_leaf_iff hmem).1 (hleaf name hmem) name' hmem',
      (is_leaf_iff hmem').1 (hleaf name' hmem') name hmem⟩
  · intro hpairwise
    have : Std.Symm fun name name' : List α => ¬Above name name' ∧ ¬Above name' name :=
      ⟨fun _ _ => And.symm⟩
    refine ⟨hnodup, fun name hmem => (is_leaf_iff hmem).2 fun other hother habove => ?_⟩
    exact (hpairwise.forall hmem hother habove.2).1 habove

end Codon.Library
