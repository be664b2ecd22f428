/-!
# Edits and their undoing

A memory is changed by a sequence of edits, each of which is recorded with what its
addresses held before. Undoing goes through the record from first to last, and may fail for
some edits. Since an address that several edits touch gets back what the last of the undone
ones recorded, that is what decides about it: `standing` gives the edits that came before
that one, and undoing restores the memory exactly if the last of them at each address left
there what had been there all along (`revert_all_eq_iff`).
-/

namespace Codon.Library

variable {A B : Type}

/-- A change of some addresses, and whether it is undone. -/
structure Edit (A B : Type) where
  change : A → Option B
  undone : Bool

/-- The memory after a change. -/
def overwrite (change : A → Option B) (memory : A → B) : A → B := fun a =>
  (change a).getD (memory a)

/-- The memory after a sequence of edits. -/
def applyAll (edits : List (Edit A B)) (memory : A → B) : A → B :=
  edits.foldl (fun memory edit => overwrite edit.change memory) memory

/-- Puts back what the addresses of an edit held before. -/
def Edit.revert (edit : Edit A B) (before memory : A → B) : A → B := fun a =>
  if (edit.change a).isSome then before a else memory a

/-- Undoes edits from the first to the last. `before` is the memory that the first was made in. -/
def revertAll : List (Edit A B) → (before memory : A → B) → A → B
  | [], _, memory => memory
  | edit :: edits, before, memory =>
      revertAll edits (overwrite edit.change before)
        (if edit.undone then edit.revert before memory else memory)

/-- Undoing the edit restores the address. -/
def Edit.restores (edit : Edit A B) (a : A) : Bool := edit.undone && (edit.change a).isSome

/-- The edits before the last one that restores the address, or all of them if there is none. -/
def standing (a : A) : List (Edit A B) → List (Edit A B)
  | [] => []
  | edit :: edits =>
      if edits.any fun edit => edit.restores a then edit :: standing a edits
      else if edit.restores a then [] else edit :: edits

/-- What the last edit that touches the address leaves there. -/
def lastChange (a : A) : List (Edit A B) → Option B
  | [] => none
  | edit :: edits => (lastChange a edits).or (edit.change a)

/-- A place has its last change, or what it had. -/
theorem apply_all_apply (edits : List (Edit A B)) (memory : A → B) (a : A) :
    applyAll edits memory a = (lastChange a edits).getD (memory a) := by
  induction edits generalizing memory with
  | nil => rfl
  | cons edit edits ih =>
      have hrest : applyAll (edit :: edits) memory a =
          applyAll edits (overwrite edit.change memory) a := rfl
      rw [hrest, ih, overwrite, lastChange]
      cases lastChange a edits with
      | none => rfl
      | some b => rfl

/-- Where nothing restores a place, its edits stand. -/
theorem standing_of_none {a : A} {edits : List (Edit A B)}
    (h : (edits.any fun edit => edit.restores a) = false) : standing a edits = edits := by
  cases edits with
  | nil => rfl
  | cons edit edits =>
      rw [List.any_cons, Bool.or_eq_false_iff] at h
      simp [standing, h.1, h.2]

/-- What undoing leaves at an address. -/
theorem revert_all_apply (edits : List (Edit A B)) (before memory : A → B) (a : A) :
    revertAll edits before memory a =
      if edits.any fun edit => edit.restores a then applyAll (standing a edits) before a
      else memory a := by
  induction edits generalizing before memory with
  | nil => rfl
  | cons edit edits ih =>
      rw [revertAll, ih, List.any_cons, standing]
      by_cases hlater : (edits.any fun edit => edit.restores a) = true
      · simp only [hlater, Bool.or_true, if_true]
        rfl
      · by_cases hthis : edit.restores a = true
        · obtain ⟨hundone, htouched⟩ := Bool.and_eq_true_iff.1 hthis
          simp [hlater, hthis, hundone, Edit.revert, htouched, applyAll]
        · have hkept :
              (if edit.undone then edit.revert before memory else memory) a = memory a := by
            cases hundone : edit.undone with
            | false => rfl
            | true =>
                have htouched : (edit.change a).isSome = false := by
                  simpa [Edit.restores, hundone] using hthis
                simp [Edit.revert, htouched]
          simp [hlater, hthis, hkept]

/-- If all edits are undone and no two touch the same address, nothing stands. -/
theorem last_change_standing_of_disjoint {edits : List (Edit A B)}
    (hundone : ∀ edit ∈ edits, edit.undone = true)
    (hdisjoint : edits.Pairwise fun edit edit' =>
      ∀ a, ¬((edit.change a).isSome ∧ (edit'.change a).isSome)) (a : A) :
    lastChange a (standing a edits) = none := by
  induction edits with
  | nil => rfl
  | cons edit edits ih =>
      obtain ⟨hhead, htail⟩ := List.pairwise_cons.1 hdisjoint
      have hrest := ih (fun edit hmem => hundone edit (List.mem_cons_of_mem _ hmem)) htail
      rw [standing]
      split
      next hlater =>
        obtain ⟨edit', hmem, hrestores⟩ := List.any_eq_true.1 hlater
        have hfree : edit.change a = none := by
          cases htouched : edit.change a with
          | none => rfl
          | some b =>
              have hboth := hhead edit' hmem a
              rw [htouched] at hboth
              exact absurd ⟨rfl, (Bool.and_eq_true_iff.1 hrestores).2⟩ hboth
        rw [lastChange, hrest, hfree]
        rfl
      next hlater =>
        split
        next => rfl
        next hthis =>
          have hfree : edit.change a = none := by
            simpa [Edit.restores, hundone edit List.mem_cons_self] using hthis
          rw [standing_of_none (by simpa using hlater)] at hrest
          rw [lastChange, hrest, hfree]
          rfl

/-- Undoing restores the memory exactly if, at every address, the last of the edits before the last
one that restores it left there what had been there all along. -/
theorem revert_all_eq_iff (edits : List (Edit A B)) (memory : A → B) :
    revertAll edits memory (applyAll edits memory) = memory ↔
      ∀ a, ∀ b ∈ lastChange a (standing a edits), b = memory a := by
  have hat (a : A) : revertAll edits memory (applyAll edits memory) a =
      (lastChange a (standing a edits)).getD (memory a) := by
    rw [revert_all_apply, ← apply_all_apply]
    split
    next => rfl
    next hnone => rw [standing_of_none (by simpa using hnone)]
  constructor
  · intro h a b hb
    rw [← congrFun h a, hat a, hb, Option.getD_some]
  · intro h
    funext a
    rw [hat a]
    cases hlast : lastChange a (standing a edits) with
    | none => rfl
    | some b => exact h a b hlast

end Codon.Library
