import Mathlib.Tactic.Common

/-!
# Executions without end

A step function that may refuse an action says what is possible. An execution is an unending
sequence of states and of the actions between them, of whichever part of the system is next, with
moments at which nothing happens. What every step keeps holds from then on (`Execution.kept`), and
what all other actions keep still holds when an awaited action first comes (`Execution.first`).
-/

namespace Codon.Library

variable {S A : Type} {step : S → A → Option S} {init : S}

/-- From `s` the action leads to `s'`; no action leaves the state as it is. -/
def Follows (step : S → A → Option S) (s : S) : Option A → S → Prop
  | none, s' => s' = s
  | some a, s' => step s a = some s'

/-- An execution without end. -/
structure Execution (step : S → A → Option S) (init : S) where
  state : Nat → S
  action : Nat → Option A
  state_zero : state 0 = init
  follows (n : Nat) : Follows step (state n) (action n) (state (n + 1))

namespace Execution

variable {e : Execution step init} {P : S → Prop} {B : A → Prop} {n m : Nat} {a : A}

/-- An action that is taken is a step. -/
theorem step_of_action (h : e.action n = some a) : step (e.state n) a = some (e.state (n + 1)) := by
  have hfollows := e.follows n
  rwa [h] at hfollows

/-- One moment keeps what the actions of that moment keep. -/
theorem kept_succ (hs : P (e.state n))
    (hkeep : ∀ a s', e.action n = some a → step (e.state n) a = some s' → P s') :
    P (e.state (n + 1)) := by
  cases haction : e.action n with
  | none =>
      have hfollows := e.follows n
      rw [haction] at hfollows
      exact hfollows.symm ▸ hs
  | some a => exact hkeep a _ haction (step_of_action haction)

/-- What every action from some moment on keeps holds from then on. -/
theorem kept (hs : P (e.state n)) (hle : n ≤ m)
    (hkeep : ∀ k a s s', n ≤ k → e.action k = some a → P s → step s a = some s' → P s') :
    P (e.state m) := by
  induction hle with
  | refl => exact hs
  | step hle ih => exact kept_succ ih fun a s' haction => hkeep _ a _ s' hle haction ih

/-- What every step keeps holds at all times. -/
theorem invariant (hinit : P init) (hstep : ∀ s a s', P s → step s a = some s' → P s') (n : Nat) :
    P (e.state n) :=
  kept (e.state_zero.symm ▸ hinit) (Nat.zero_le n) fun _ a s s' _ _ => hstep s a s'

/-- What all other actions keep still holds when an awaited action first comes. -/
theorem first (hs : P (e.state n)) (hkeep : ∀ s a s', ¬ B a → P s → step s a = some s' → P s')
    (hle : n ≤ m) (haction : e.action m = some a) (ha : B a) :
    ∃ k b, n ≤ k ∧ e.action k = some b ∧ B b ∧ P (e.state k) := by
  -- on the number of moments until the awaited action is known to come
  induction h : m - n generalizing n with
  | zero =>
      obtain rfl : n = m := Nat.le_antisymm hle (Nat.le_of_sub_eq_zero h)
      exact ⟨n, a, Nat.le_refl n, haction, ha, hs⟩
  | succ d ih =>
      by_cases hnow : ∃ b, e.action n = some b ∧ B b
      · obtain ⟨b, hb, hB⟩ := hnow
        exact ⟨n, b, Nat.le_refl n, hb, hB, hs⟩
      · have hnext : P (e.state (n + 1)) := kept_succ hs fun b s' hb =>
          hkeep _ b s' (fun hB => hnow ⟨b, hb, hB⟩) hs
        obtain ⟨k, b, hk, hrest⟩ := ih hnext (by omega) (by omega)
        exact ⟨k, b, Nat.le_of_succ_le hk, hrest⟩

/-- The execution that a part of the system, or an abstraction of it, takes part in. -/
def map {S' A' : Type} {step' : S' → A' → Option S'} (e : Execution step init) (f : S → S')
    (g : S → A → Option A')
    (h : ∀ s a s', step s a = some s' → Follows step' (f s) (g s a) (f s')) :
    Execution step' (f init) where
  state n := f (e.state n)
  action n := (e.action n).bind (g (e.state n))
  state_zero := congrArg f e.state_zero
  follows n := by
    have hfollows := e.follows n
    cases haction : e.action n with
    | none =>
        rw [haction] at hfollows
        exact congrArg f hfollows
    | some a => exact h _ a _ (step_of_action haction)

/-- The first steps of a run succeed if the run does. -/
theorem foldlM_take {actions : List A} {s s' : S} (h : actions.foldlM step s = some s') (n : Nat) :
    ∃ s'', (actions.take n).foldlM step s = some s'' := by
  rw [← List.take_append_drop n actions, List.foldlM_append] at h
  obtain ⟨s'', hfirst, -⟩ := Option.bind_eq_some_iff.1 h
  exact ⟨s'', hfirst⟩

/-- The execution that carries out some actions, after which nothing happens any more. -/
def ofActions (actions : List A) (last : S) (h : actions.foldlM step init = some last) :
    Execution step init where
  state n := ((actions.take n).foldlM step init).getD last
  action n := actions[n]?
  state_zero := rfl
  follows n := by
    by_cases hn : n < actions.length
    · obtain ⟨s', hfirst⟩ := foldlM_take h n
      obtain ⟨s'', hsecond⟩ := foldlM_take h (n + 1)
      rw [List.getElem?_eq_getElem hn, hfirst, hsecond]
      rw [List.take_succ_eq_append_getElem hn, List.foldlM_append, hfirst] at hsecond
      simpa [Follows] using hsecond
    · rw [List.getElem?_eq_none (Nat.le_of_not_lt hn), List.take_of_length_le (by omega),
        List.take_of_length_le (by omega)]
      rfl

/-- After its actions it stays where it is. -/
theorem ofActions_state_of_le {actions : List A} {last : S}
    {h : actions.foldlM step init = some last} (hle : actions.length ≤ n) :
    (ofActions actions last h).state n = last := by
  show ((actions.take n).foldlM step init).getD last = last
  rw [List.take_of_length_le hle, h, Option.getD_some]

end Execution

end Codon.Library
