import Mathlib.Data.List.Basic

/-!
# Runs of a step function

A run carries out actions one after the other. `Along` says that every action of a run meets
a condition on itself and on the state it is carried out in; what each such step keeps, the
run keeps (`Along.invariant`).
-/

namespace Codon.Library

variable {S A : Type} {step : S → A → S}

/-- The state after the actions. -/
def run (step : S → A → S) (s : S) (actions : List A) : S := actions.foldl step s

@[simp] theorem run_nil (s : S) : run step s [] = s := rfl

@[simp] theorem run_cons (s : S) (a : A) (actions : List A) :
    run step s (a :: actions) = run step (step s a) actions := rfl

@[simp] theorem run_append (s : S) (actions actions' : List A) :
    run step s (actions ++ actions') = run step (run step s actions) actions' :=
  List.foldl_append

/-- Every action meets the condition in the state it is carried out in. -/
def Along (step : S → A → S) (C : S → A → Prop) : S → List A → Prop
  | _, [] => True
  | s, a :: actions => C s a ∧ Along step C (step s a) actions

instance decidableAlong (step : S → A → S) (C : S → A → Prop) [∀ s a, Decidable (C s a)] :
    (s : S) → (actions : List A) → Decidable (Along step C s actions)
  | _, [] => inferInstanceAs (Decidable True)
  | s, a :: actions =>
      have := decidableAlong step C (step s a) actions
      inferInstanceAs (Decidable (C s a ∧ Along step C (step s a) actions))

variable {C : S → A → Prop} {P : S → Prop} {s : S} {actions : List A}

/-- A condition that holds for the actions in every state holds along the run. -/
theorem along_of_mem (h : ∀ a ∈ actions, ∀ s, C s a) (s : S) : Along step C s actions := by
  induction actions generalizing s with
  | nil => trivial
  | cons a actions ih =>
      exact ⟨h a List.mem_cons_self s, ih (fun a ha => h a (List.mem_cons_of_mem _ ha)) _⟩

/-- What every step that meets the condition keeps holds at the end of the run. -/
theorem Along.invariant (h : Along step C s actions) (hs : P s)
    (hstep : ∀ s a, P s → C s a → P (step s a)) : P (run step s actions) := by
  induction actions generalizing s with
  | nil => exact hs
  | cons a actions ih => exact ih h.2 (hstep s a hs h.1)

/-- What the steps of these actions keep holds at the end of the run. -/
theorem run_invariant_of_mem (hs : P s) (hstep : ∀ a ∈ actions, ∀ s, P s → P (step s a)) :
    P (run step s actions) :=
  (along_of_mem (C := fun s a => P s → P (step s a)) hstep s).invariant hs fun _ _ hs h => h hs

/-- What every step keeps holds at the end of the run. -/
theorem run_invariant (hs : P s) (hstep : ∀ s a, P s → P (step s a)) : P (run step s actions) :=
  run_invariant_of_mem hs fun a _ s => hstep s a

/-- Where every step is right exactly if it meets the condition, a run is right throughout exactly
if every step of it meets the condition. What the argument needs is only kept by such steps. -/
theorem along_iff_along {R : S → A → Prop} {I : S → Prop}
    (hI : ∀ s a, I s → C s a → I (step s a)) (hstep : ∀ s a, I s → (R s a ↔ C s a)) (hi : I s) :
    Along step R s actions ↔ Along step C s actions := by
  induction actions generalizing s with
  | nil => exact Iff.rfl
  | cons a actions ih =>
      constructor
      · rintro ⟨ha, hrest⟩
        have hmeets := (hstep s a hi).1 ha
        exact ⟨hmeets, (ih (hI s a hi hmeets)).1 hrest⟩
      · rintro ⟨ha, hrest⟩
        exact ⟨(hstep s a hi).2 ha, (ih (hI s a hi ha)).2 hrest⟩

/-- Two conditions hold along a run if each does. -/
theorem along_and_iff {C' : S → A → Prop} :
    Along step (fun s a => C s a ∧ C' s a) s actions ↔
      Along step C s actions ∧ Along step C' s actions := by
  induction actions generalizing s with
  | nil => exact (and_self_iff).symm
  | cons a actions ih => exact (and_congr_right' ih).trans and_and_and_comm

/-- In a run whose actions are all allowed, every step is right exactly if every step meets the
condition, if that is so for each allowed step. -/
theorem Along.iff_of_allowed {A' R : S → A → Prop} {I : S → Prop} (h : Along step A' s actions)
    (hI : ∀ s a, I s → A' s a → I (step s a)) (hstep : ∀ s a, I s → A' s a → (R s a ↔ C s a))
    (hi : I s) : Along step R s actions ↔ Along step C s actions := by
  induction actions generalizing s with
  | nil => exact Iff.rfl
  | cons a actions ih =>
      have hrest := ih h.2 (hI s a hi h.1)
      exact and_congr (hstep s a hi h.1) hrest

/-- Where a step keeps `P` exactly if it meets the condition, `P` holds throughout a run exactly if
every step of the run meets it. What the argument needs besides `P` is only kept by such steps. -/
theorem forall_prefix_iff_along {I : S → Prop} (hI : ∀ s a, I s → C s a → I (step s a))
    (hstep : ∀ s a, I s → P s → (P (step s a) ↔ C s a)) (hi : I s) (hs : P s) :
    (∀ earlier, earlier <+: actions → P (run step s earlier)) ↔ Along step C s actions := by
  induction actions generalizing s with
  | nil => simpa [Along] using hs
  | cons a actions ih =>
      constructor
      · intro h
        have hnext : P (step s a) := h [a] ⟨actions, rfl⟩
        have ha := (hstep s a hi hs).1 hnext
        refine ⟨ha, (ih (hI s a hi ha) hnext).1 fun earlier hearlier => ?_⟩
        exact h (a :: earlier) ((List.prefix_cons_inj a).2 hearlier)
      · rintro ⟨ha, h⟩ earlier hearlier
        have hnext := (hstep s a hi hs).2 ha
        cases earlier with
        | nil => exact hs
        | cons b earlier =>
            obtain ⟨rfl, hrest⟩ := List.cons_prefix_cons.1 hearlier
            exact (ih (hI s b hi ha) hnext).2 h earlier hrest

end Codon.Library
