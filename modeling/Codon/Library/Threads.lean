import Mathlib.Algebra.BigOperators.Group.Finset.Piecewise
import Mathlib.Data.Fintype.Basic
import Mathlib.Algebra.Order.BigOperators.Group.Finset

/-!
# Threads that share a memory

Any number of threads, each with a state of its own, take turns in any order. A step of a thread
is atomic: it reads and writes the shared memory and changes the state of that thread only. What
every step keeps holds of every state that is reached (`Reachable.invariant`). The total of a
number that each thread has changes as that of the thread that takes the step (`total_step`), and
what some thread did before the step, some thread still does after it, unless that one stops
(`exists_step`).
-/

namespace Codon.Library

open scoped BigOperators

/-- The shared memory and the states of the threads. -/
structure Threads (M L T : Type) where
  shared : M
  thread : T → L

variable {M L T : Type} [DecidableEq T] {move : M → L → M → L → Prop} {init s s' : Threads M L T}

/-- One thread takes a step. -/
inductive Interleaves (move : M → L → M → L → Prop) (s : Threads M L T) : Threads M L T → Prop where
  | step (t : T) {shared : M} {local' : L} (h : move s.shared (s.thread t) shared local') :
      Interleaves move s ⟨shared, Function.update s.thread t local'⟩

/-- The states that the threads reach. -/
inductive Reachable (move : M → L → M → L → Prop) (init : Threads M L T) :
    Threads M L T → Prop where
  | init : Reachable move init init
  | step {s s' : Threads M L T} (h : Reachable move init s) (hstep : Interleaves move s s') :
      Reachable move init s'

/-- What every step keeps holds of every state that is reached. -/
theorem Reachable.invariant {P : Threads M L T → Prop} (h : Reachable move init s)
    (hinit : P init) (hstep : ∀ s s', P s → Interleaves move s s' → P s') : P s := by
  induction h with
  | init => exact hinit
  | step _ hstep' ih => exact hstep _ _ ih hstep'

/-- A part of the shared memory and of each thread. -/
def Threads.map {M' L' : Type} (f : M → M') (g : L → L') (s : Threads M L T) : Threads M' L' T :=
  ⟨f s.shared, fun t => g (s.thread t)⟩

/-- If every step is a step of the part or leaves the part alone, the part reaches only what it
reaches on its own. -/
theorem Reachable.map {M' L' : Type} {move' : M' → L' → M' → L' → Prop} {f : M → M'} {g : L → L'}
    (h : Reachable move init s) (hmove : ∀ m l m' l', move m l m' l' →
      move' (f m) (g l) (f m') (g l') ∨ f m' = f m ∧ g l' = g l) :
    Reachable move' (init.map f g) (s.map f g) := by
  induction h with
  | init => exact .init
  | @step s _ _ hstep ih =>
      cases hstep with
      | @step t shared local' h =>
          have hthread : (fun u => g (Function.update s.thread t local' u)) =
              Function.update (fun u => g (s.thread u)) t (g local') := by
            funext u
            exact Function.apply_update (fun _ => g) s.thread t local' u
          show Reachable move' _ ⟨f shared, fun u => g (Function.update s.thread t local' u)⟩
          rw [hthread]
          obtain hstep | ⟨hshared, hlocal⟩ := hmove _ _ _ _ h
          · exact ih.step (.step t hstep)
          · have hkept : Function.update (fun u => g (s.thread u)) t (g local') =
                fun u => g (s.thread u) := by
              rw [hlocal]
              exact Function.update_eq_self t _
            rw [hshared, hkept]
            exact ih

/-- The states that the threads reach with steps of a total cost. What a step costs depends on the
thread that takes it. -/
inductive ReachableAt (move : M → L → M → L → Prop) (cost : L → Nat) (init : Threads M L T) :
    Nat → Threads M L T → Prop where
  | init : ReachableAt move cost init 0 init
  | step {n : Nat} {s : Threads M L T} (h : ReachableAt move cost init n s) (t : T) {shared : M}
      {local' : L} (hmove : move s.shared (s.thread t) shared local') :
      ReachableAt move cost init (n + cost (s.thread t)) ⟨shared, Function.update s.thread t local'⟩

/-- Counting the cost does not matter for what is reached. -/
theorem ReachableAt.reachable {cost : L → Nat} {n : Nat} (h : ReachableAt move cost init n s) :
    Reachable move init s := by
  induction h with
  | init => exact .init
  | step _ t hmove ih => exact ih.step (.step t hmove)

/-! ## Two threads -/

/-- Two threads, the first one with its state before that of the other. -/
def Threads.two (shared : M) (a b : L) : Threads M L Bool := ⟨shared, fun t => if t then a else b⟩

section Two

variable {cost : L → Nat} {init : Threads M L Bool} {n : Nat} {shared shared' : M} {a a' b b' : L}

/-- The first of two threads takes a step. -/
theorem ReachableAt.first (h : ReachableAt move cost init n (.two shared a b))
    (hmove : move shared a shared' a') :
    ReachableAt move cost init (n + cost a) (.two shared' a' b) := by
  have hupdate : Function.update (Threads.two shared a b).thread true a' =
      (Threads.two shared' a' b).thread := by
    funext t
    cases t <;> rfl
  have hnext := h.step true hmove
  rw [hupdate] at hnext
  exact hnext

/-- The second of two threads takes a step. -/
theorem ReachableAt.second (h : ReachableAt move cost init n (.two shared a b))
    (hmove : move shared b shared' b') :
    ReachableAt move cost init (n + cost b) (.two shared' a b') := by
  have hupdate : Function.update (Threads.two shared a b).thread false b' =
      (Threads.two shared' a b').thread := by
    funext t
    cases t <;> rfl
  have hnext := h.step false hmove
  rw [hupdate] at hnext
  exact hnext

end Two

/-! ## Totals -/

/-- The total of a number that each thread has. -/
def Threads.total [Fintype T] (s : Threads M L T) (f : L → Nat) : Nat := ∑ t, f (s.thread t)

omit [DecidableEq T] in
/-- A thread's part is no more than the total. -/
theorem le_total [Fintype T] (s : Threads M L T) (f : L → Nat) (t : T) :
    f (s.thread t) ≤ s.total f :=
  Finset.single_le_sum (f := fun t => f (s.thread t)) (fun _ _ => Nat.zero_le _)
    (Finset.mem_univ t)

omit [DecidableEq T] in
/-- Two threads have at most the total together. -/
theorem add_le_total [Fintype T] (s : Threads M L T) (f : L → Nat) {t u : T} (h : t ≠ u) :
    f (s.thread t) + f (s.thread u) ≤ s.total f :=
  Finset.add_le_sum (f := fun t => f (s.thread t)) (fun _ _ => Nat.zero_le _) (Finset.mem_univ t)
    (Finset.mem_univ u) h

/-- The total changes as the number of the thread that takes the step. -/
theorem total_step [Fintype T] (s : Threads M L T) (f : L → Nat) (t : T) (shared : M)
    (local' : L) :
    (⟨shared, Function.update s.thread t local'⟩ : Threads M L T).total f + f (s.thread t) =
      s.total f + f local' := by
  have hupdate : (fun u => f (Function.update s.thread t local' u)) =
      Function.update (fun u => f (s.thread u)) t (f local') := by
    funext u
    exact Function.apply_update (fun _ => f) s.thread t local' u
  have hrest := Finset.add_sum_erase Finset.univ (fun u => f (s.thread u)) (Finset.mem_univ t)
  simp only [Threads.total] at *
  rw [hupdate, Finset.sum_update_of_mem (Finset.mem_univ t), ← hrest,
    Finset.sdiff_singleton_eq_erase]
  omega

/-- What some thread did is still done after a step of another one that does not do it. -/
theorem exists_step {p : L → Prop} {t : T} {local' : L} (h : ∃ u, p (s.thread u))
    (hkeep : p local' ∨ ¬ p (s.thread t)) : ∃ u, p (Function.update s.thread t local' u) := by
  obtain ⟨u, hu⟩ := h
  by_cases heq : u = t
  · subst heq
    exact ⟨u, by rw [Function.update_self]; exact hkeep.resolve_right (not_not_intro hu)⟩
  · exact ⟨u, by rwa [Function.update_of_ne heq]⟩

end Codon.Library
