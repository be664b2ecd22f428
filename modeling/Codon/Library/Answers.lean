/-!
# Runs with answers

A run in which every action gives an answer. If an abstraction of the states agrees with
each action, on its answer and on the state after it, it agrees with whole runs.
-/

namespace Codon.Library

variable {S S' A R : Type}

/-- The answers to the actions and the state after them. -/
def answers (step : A → S → R × S) : List A → S → List R × S
  | [], s => ([], s)
  | a :: actions, s =>
      ((step a s).1 :: (answers step actions (step a s).2).1, (answers step actions (step a s).2).2)

/-- The abstraction agrees with an action on its answer and on the state after it. -/
def Agrees (abstraction : S → S') (step : A → S → R × S) (step' : A → S' → R × S') (a : A) : Prop :=
  ∀ s, step' a (abstraction s) = ((step a s).1, abstraction (step a s).2)

/-- An abstraction that agrees with every action of a run agrees with the run. -/
theorem answers_abstraction {abstraction : S → S'} {step : A → S → R × S}
    {step' : A → S' → R × S'} {actions : List A}
    (h : ∀ a ∈ actions, Agrees abstraction step step' a) (s : S) :
    answers step' actions (abstraction s) =
      ((answers step actions s).1, abstraction (answers step actions s).2) := by
  induction actions generalizing s with
  | nil => rfl
  | cons a actions ih =>
      have hstep := h a List.mem_cons_self s
      have hrest := ih (fun b hb => h b (List.mem_cons_of_mem _ hb)) (step a s).2
      rw [answers, hstep, hrest]
      rfl

/-- What each action of a run keeps, the run keeps. -/
theorem answers_invariant {step : A → S → R × S} {P : S → Prop} {actions : List A}
    (h : ∀ a ∈ actions, ∀ s, P s → P (step a s).2) {s : S} (hs : P s) :
    P (answers step actions s).2 := by
  induction actions generalizing s with
  | nil => exact hs
  | cons a actions ih =>
      exact ih (fun b hb => h b (List.mem_cons_of_mem _ hb)) (h a List.mem_cons_self s hs)

end Codon.Library
