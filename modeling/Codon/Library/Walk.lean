import Mathlib.Dynamics.PeriodicPts.Defs
import Mathlib.Data.Finset.Card
import Mathlib.Data.Finset.Range

/-!
# Walks of a function that have to leave a set

`Escapes step inside a` says that repeated application of `step` to `a` reaches a
point outside `inside`. A walk that stays inside visits no point twice when its
start escapes, so its length is bounded by the number of points available. Read
`Escapes.length_lt_card` first.
-/

namespace Codon.Library

variable {α : Type*} {step : α → α} {inside : α → Prop}

/-- Applying `step` to `a` often enough leads out of `inside`. -/
def Escapes (step : α → α) (inside : α → Prop) (a : α) : Prop :=
  ∃ n, ¬ inside (step^[n] a)

/-- A point outside has escaped already. -/
theorem Escapes.of_not {a : α} (h : ¬ inside a) : Escapes step inside a :=
  ⟨0, h⟩

/-- A point escapes when its successor does. -/
theorem Escapes.of_successor {a : α} (h : Escapes step inside (step a)) :
    Escapes step inside a := by
  obtain ⟨n, hn⟩ := h
  exact ⟨n + 1, by simpa only [Function.iterate_succ_apply] using hn⟩

/-- The successor of an inside point that escapes does so too. -/
theorem Escapes.successor {a : α} (h : Escapes step inside a) (ha : inside a) :
    Escapes step inside (step a) := by
  obtain ⟨n, hn⟩ := h
  cases n with
  | zero => exact absurd ha hn
  | succ n => exact ⟨n, by simpa only [Function.iterate_succ_apply] using hn⟩

/-- Every point of an inside walk escapes when its start does. -/
theorem Escapes.iterate {a : α} (h : Escapes step inside a) {k : Nat}
    (hin : ∀ i < k, inside (step^[i] a)) : Escapes step inside (step^[k] a) := by
  induction k with
  | zero => exact h
  | succ k ih =>
      rw [Function.iterate_succ_apply']
      exact (ih fun i hi => hin i (by omega)).successor (hin k (by omega))

/-- A point on a cycle that lies inside does not escape. -/
theorem not_escapes_of_cycle {a : α} {p : Nat} (hp : 0 < p) (hcycle : step^[p] a = a)
    (hin : ∀ i < p, inside (step^[i] a)) : ¬ Escapes step inside a := by
  rintro ⟨n, hn⟩
  apply hn
  have hperiodic : Function.IsPeriodicPt step p a := hcycle
  rw [← hperiodic.iterate_mod_apply n]
  exact hin _ (Nat.mod_lt n hp)

/-- One or more steps lead from `a` to `b`, and every point before `b` lies inside. -/
def Leads (step : α → α) (inside : α → Prop) (a b : α) : Prop :=
  ∃ p, 0 < p ∧ step^[p] a = b ∧ ∀ i < p, inside (step^[i] a)

/-- A point inside leads to its successor. -/
theorem Leads.of_inside {a : α} (ha : inside a) : Leads step inside a (step a) := by
  refine ⟨1, Nat.one_pos, rfl, fun i hi => ?_⟩
  rw [Nat.lt_one_iff.1 hi]
  exact ha

/-- What leads to a point inside leads to its successor. -/
theorem Leads.successor {a b : α} (h : Leads step inside a b) (hb : inside b) :
    Leads step inside a (step b) := by
  obtain ⟨p, hp, hend, hin⟩ := h
  refine ⟨p + 1, Nat.succ_pos p, by rw [Function.iterate_succ_apply', hend], fun i hi => ?_⟩
  rcases Nat.lt_succ_iff_lt_or_eq.1 hi with hlt | rfl
  · exact hin i hlt
  · rwa [hend]

/-- A point that leads back to itself does not escape. -/
theorem Leads.not_escapes {a : α} (h : Leads step inside a a) : ¬ Escapes step inside a := by
  obtain ⟨p, hp, hcycle, hin⟩ := h
  exact not_escapes_of_cycle hp hcycle hin

/-- A walk whose start escapes and whose points but the last lie inside repeats no point. -/
theorem Escapes.injOn {a : α} (h : Escapes step inside a) {k : Nat}
    (hin : ∀ i < k, inside (step^[i] a)) :
    Set.InjOn (fun i => step^[i] a) {i | i ≤ k} := by
  have hlt : ∀ i j, i < j → j ≤ k → step^[i] a ≠ step^[j] a := by
    intro i j hij hj heq
    refine not_escapes_of_cycle (p := j - i) (by omega) ?_ ?_
      (h.iterate (k := i) fun m hm => hin m (by omega))
    · rw [← Function.iterate_add_apply, Nat.sub_add_cancel hij.le, heq]
    · intro m hm
      rw [← Function.iterate_add_apply]
      exact hin _ (by omega)
  intro i hi j hj heq
  rcases Nat.lt_trichotomy i j with hij | hij | hij
  · exact absurd heq (hlt i j hij hj)
  · exact hij
  · exact absurd heq.symm (hlt j i hij hi)

/-- A walk of `k` steps whose start escapes and whose points but the last lie inside stays
shorter than any finite set that contains all its points. -/
theorem Escapes.length_lt_card {a : α} (h : Escapes step inside a) {k : Nat} {points : Finset α}
    (hin : ∀ i < k, inside (step^[i] a)) (hmem : ∀ i ≤ k, step^[i] a ∈ points) :
    k < points.card := by
  have hcard := Finset.card_le_card_of_injOn (s := Finset.range (k + 1)) (t := points)
    (fun i => step^[i] a)
    (fun i hi => hmem i (Nat.lt_succ_iff.mp (Finset.mem_range.mp hi)))
    (fun i hi j hj => h.injOn hin (Nat.lt_succ_iff.mp (Finset.mem_range.mp hi))
      (Nat.lt_succ_iff.mp (Finset.mem_range.mp hj)))
  simpa [Nat.succ_le_iff] using hcard

end Codon.Library
