import Mathlib.Data.List.Basic

/-!
# Loops that may fail

What each round of a loop keeps, the loop keeps (`foldlM_invariant`), and what holds of the
rounds so far holds of all of them in the end (`foldlM_prefix`). A loop may also fail with a
message (`bind_eq_ok`, `foldlM_ok_prefix`).
-/

namespace Codon.Library

variable {S A : Type} {f : S → A → Option S} {s s' : S} {items : List A}

/-- A property that every round keeps holds after the loop. -/
theorem foldlM_invariant {P : S → Prop} (h : items.foldlM f s = some s') (hs : P s)
    (hround : ∀ s s' a, a ∈ items → P s → f s a = some s' → P s') : P s' := by
  induction items generalizing s with
  | nil =>
      cases h
      exact hs
  | cons a items ih =>
      obtain ⟨next, hnext, hrest⟩ := Option.bind_eq_some_iff.1 h
      exact ih hrest (hround s next a List.mem_cons_self hs hnext)
        fun s s' a hmem => hround s s' a (List.mem_cons_of_mem _ hmem)

/-- What holds before a loop and not after it is ended by one of its rounds. -/
theorem foldlM_exists_round {P : S → Prop} (h : items.foldlM f s = some s') (hs : P s)
    (hs' : ¬ P s') :
    ∃ earlier a s₁ s₂, earlier ++ [a] <+: items ∧ earlier.foldlM f s = some s₁ ∧
      f s₁ a = some s₂ ∧ P s₁ ∧ ¬ P s₂ := by
  induction items generalizing s with
  | nil =>
      cases h
      exact absurd hs hs'
  | cons a items ih =>
      obtain ⟨next, hnext, hrest⟩ := Option.bind_eq_some_iff.1 h
      by_cases hkept : P next
      · obtain ⟨earlier, b, s₁, s₂, hfirst, hearlier, hends⟩ := ih hrest hkept
        refine ⟨a :: earlier, b, s₁, s₂, (List.prefix_cons_inj a).2 hfirst, ?_, hends⟩
        rw [List.foldlM_cons, hnext]
        exact hearlier
      · exact ⟨[], a, s, next, ⟨items, rfl⟩, rfl, hnext, hs, hkept⟩

/-- Loops whose rounds agree on their items. -/
theorem foldlM_congr {g : S → A → Option S} (h : ∀ s a, a ∈ items → f s a = g s a) :
    items.foldlM f s = items.foldlM g s := by
  induction items generalizing s with
  | nil => rfl
  | cons a items ih =>
      rw [List.foldlM_cons, List.foldlM_cons, h s a List.mem_cons_self]
      exact congrArg _ (funext fun s => ih fun s a hmem => h s a (List.mem_cons_of_mem _ hmem))

/-- What holds of the rounds so far holds of all of them after the loop. -/
theorem foldlM_prefix {P : List A → S → Prop} (h : items.foldlM f s = some s') (hs : P [] s)
    (hround : ∀ earlier s s' a, P earlier s → f s a = some s' → P (earlier ++ [a]) s') :
    P items s' := by
  suffices hall : ∀ (earlier : List A) (s : S), P earlier s → items.foldlM f s = some s' →
      P (earlier ++ items) s' from hall [] s hs h
  clear hs h
  induction items with
  | nil =>
      intro earlier s hs h
      cases h
      rwa [List.append_nil]
  | cons a items ih =>
      intro earlier s hs h
      obtain ⟨next, hnext, hrest⟩ := Option.bind_eq_some_iff.1 h
      have hlast := ih (earlier ++ [a]) next (hround earlier s next a hs hnext) hrest
      rwa [List.append_assoc] at hlast

/-- A sequence of two steps that may fail with a message. -/
theorem bind_eq_ok {E T U : Type} {x : Except E T} {g : T → Except E U} {u : U} :
    (x >>= g) = .ok u ↔ ∃ t, x = .ok t ∧ g t = .ok u := by
  cases x with
  | error message =>
      refine ⟨fun h => (by cases h), ?_⟩
      rintro ⟨_, heq, _⟩
      cases heq
  | ok t =>
      refine ⟨fun h => ⟨t, rfl, h⟩, ?_⟩
      rintro ⟨_, heq, h⟩
      cases heq
      exact h

/-- A result is there when there is no error. -/
theorem to_option_eq_some {E T : Type} {x : Except E T} {t : T} :
    x.toOption = some t ↔ x = .ok t := by
  cases x with
  | error message => exact ⟨fun h => (by cases h), fun h => (by cases h)⟩
  | ok other => exact ⟨fun h => congrArg _ (Option.some.inj h), fun h => (by cases h; rfl)⟩

/-- What holds of the rounds so far of a loop that may fail with a message holds of all of them
after it. -/
theorem foldlM_ok_prefix {E : Type} {g : S → A → Except E S} {P : List A → S → Prop}
    (h : items.foldlM g s = .ok s') (hs : P [] s)
    (hround : ∀ earlier s s' a, P earlier s → g s a = .ok s' → P (earlier ++ [a]) s') :
    P items s' := by
  suffices hall : ∀ (earlier : List A) (s : S), P earlier s → items.foldlM g s = .ok s' →
      P (earlier ++ items) s' from hall [] s hs h
  clear hs h
  induction items with
  | nil =>
      intro earlier s hs h
      cases h
      rwa [List.append_nil]
  | cons a items ih =>
      intro earlier s hs h
      obtain ⟨next, hnext, hrest⟩ := bind_eq_ok.1 h
      have hlast := ih (earlier ++ [a]) next (hround earlier s next a hs hnext) hrest
      rwa [List.append_assoc] at hlast

end Codon.Library
