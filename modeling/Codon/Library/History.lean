import Codon.Library.Run

/-!
# Runs that write a history

Every action writes some lines. What holds of the empty history at the start, and is kept by each
action together with the lines that it writes, holds of every run and its history
(`history_invariant`).
-/

namespace Codon.Library

variable {S A L : Type} {step : S → A → S} {lines : S → A → List L}

/-- The lines that the actions write, in order. -/
def history (step : S → A → S) (lines : S → A → List L) : S → List A → List L
  | _, [] => []
  | s, a :: actions => lines s a ++ history step lines (step s a) actions

@[simp] theorem history_nil (s : S) : history step lines s [] = [] := rfl

@[simp] theorem history_cons (s : S) (a : A) (actions : List A) :
    history step lines s (a :: actions) = lines s a ++ history step lines (step s a) actions := rfl

/-- What each action keeps, with the lines that it adds, holds of the run and its history. -/
theorem history_invariant {P : List L → S → Prop} {s : S} (hs : P [] s)
    (hstep : ∀ earlier s a, P earlier s → P (earlier ++ lines s a) (step s a))
    (actions : List A) : P (history step lines s actions) (run step s actions) := by
  suffices hall : ∀ earlier s, P earlier s →
      P (earlier ++ history step lines s actions) (run step s actions) from hall [] s hs
  clear hs
  intro earlier s hs
  induction actions generalizing earlier s with
  | nil => simpa using hs
  | cons a actions ih =>
      have hrest := ih (earlier ++ lines s a) (step s a) (hstep earlier s a hs)
      rwa [List.append_assoc] at hrest

end Codon.Library
