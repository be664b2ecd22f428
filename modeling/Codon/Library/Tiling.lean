import Mathlib.Data.List.Count
import Mathlib.Data.List.Perm.Basic

/-!
# Spans that tile an interval

`Tiles spans lo hi` says that every number from `lo` up to `hi` lies in exactly one of the
listed spans and no other number lies in any. Adjacent tilings compose (`Tiles.append`).
An allocator that keeps its spans in a tiling keeps it when it gives away part of a span
(`Tiles.give`) and when it takes a span from behind the end (`Tiles.extend`), in whatever
order it lists the spans.
-/

namespace Codon.Library

/-- The numbers from `start` on, `size` of them. -/
structure Span where
  start : Nat
  size : Nat
deriving DecidableEq

/-- A number lies in a span. -/
def Span.Contains (s : Span) (b : Nat) : Prop := s.start ≤ b ∧ b < s.start + s.size

instance (s : Span) (b : Nat) : Decidable (s.Contains b) :=
  inferInstanceAs (Decidable (s.start ≤ b ∧ b < s.start + s.size))

/-- Two spans have no number in common. -/
def Span.Disjoint (s t : Span) : Prop := ∀ b, ¬(s.Contains b ∧ t.Contains b)

/-- One span lies within another. -/
def Span.Within (s t : Span) : Prop := t.start ≤ s.start ∧ s.start + s.size ≤ t.start + t.size

/-- The number of spans that contain `b`. -/
def coverage (spans : List Span) (b : Nat) : Nat := spans.countP fun s => decide (s.Contains b)

/-- Every number from `lo` up to `hi` lies in exactly one of the spans, and no other number does. -/
def Tiles (spans : List Span) (lo hi : Nat) : Prop :=
  ∀ b, coverage spans b = if lo ≤ b ∧ b < hi then 1 else 0

/-- A span lies within itself. -/
theorem Span.Within.refl (s : Span) : s.Within s :=
  ⟨Nat.le_refl _, Nat.le_refl _⟩

/-- Lying within composes. -/
theorem Span.Within.trans {s t u : Span} (h : s.Within t) (h' : t.Within u) : s.Within u :=
  ⟨Nat.le_trans h'.1 h.1, Nat.le_trans h.2 h'.2⟩

/-- A byte of an inner span is one of the outer. -/
theorem Span.Within.contains {s t : Span} (h : s.Within t) {b : Nat} (hb : s.Contains b) :
    t.Contains b :=
  ⟨Nat.le_trans h.1 hb.1, Nat.lt_of_lt_of_le hb.2 h.2⟩

/-- Disjointness is symmetric. -/
theorem Span.Disjoint.symm {s t : Span} (h : s.Disjoint t) : t.Disjoint s :=
  fun b hb => h b hb.symm

/-- What overlaps part of a span overlaps the span. -/
theorem Span.Within.overlap {s t u : Span} (h : s.Within t) (hoverlap : ¬s.Disjoint u) :
    ¬t.Disjoint u :=
  fun hdisjoint => hoverlap fun b hb => hdisjoint b ⟨h.contains hb.1, hb.2⟩

/-- A span covers a byte once more when it contains the byte. -/
theorem coverage_cons (s : Span) (spans : List Span) (b : Nat) :
    coverage (s :: spans) b = coverage spans b + if s.Contains b then 1 else 0 := by
  simp [coverage, List.countP_cons]

/-- The coverage of two lists adds up. -/
theorem coverage_append (spans spans' : List Span) (b : Nat) :
    coverage (spans ++ spans') b = coverage spans b + coverage spans' b :=
  List.countP_append

/-- One span covers its own bytes once. -/
theorem coverage_single (s : Span) (b : Nat) :
    coverage [s] b = if s.Contains b then 1 else 0 :=
  (coverage_cons s [] b).trans (Nat.zero_add _)

/-- The order of spans does not matter. -/
theorem coverage_perm {spans spans' : List Span} (h : spans.Perm spans') (b : Nat) :
    coverage spans b = coverage spans' b :=
  h.countP_eq _

/-- A byte is covered exactly when some span contains it. -/
theorem coverage_pos {spans : List Span} {b : Nat} :
    0 < coverage spans b ↔ ∃ s ∈ spans, s.Contains b := by
  simp [coverage, List.countP_pos_iff]

/-- The empty interval needs no span. -/
theorem Tiles.nil (a : Nat) : Tiles [] a a := by
  intro b
  rw [if_neg (by omega)]
  rfl

/-- A span tiles its own interval. -/
theorem Tiles.single (s : Span) : Tiles [s] s.start (s.start + s.size) :=
  coverage_single s

/-- The order of the spans does not matter. -/
theorem Tiles.perm {spans spans' : List Span} {lo hi : Nat} (h : Tiles spans lo hi)
    (hperm : spans.Perm spans') : Tiles spans' lo hi := by
  intro b
  rw [← coverage_perm hperm]
  exact h b

/-- Two adjacent tilings make one. -/
theorem Tiles.append {spans spans' : List Span} {lo mid hi : Nat} (h : Tiles spans lo mid)
    (h' : Tiles spans' mid hi) (hlo : lo ≤ mid) (hhi : mid ≤ hi) :
    Tiles (spans ++ spans') lo hi := by
  intro b
  rw [coverage_append, h b, h' b]
  split_ifs <;> omega

/-- A span of a tiling is given away in part: `given` goes to the front, and the pieces that are
left over replace the span. -/
theorem Tiles.give {front back back' rest pieces : List Span} {s given : Span} {lo hi : Nat}
    (h : Tiles (front ++ back) lo hi) (hback : back.Perm (s :: rest))
    (hgiven : Tiles (given :: pieces) s.start (s.start + s.size))
    (hback' : back'.Perm (pieces ++ rest)) : Tiles (front ++ [given] ++ back') lo hi := by
  intro b
  have hold := h b
  have hpart := hgiven b
  rw [coverage_append, coverage_perm hback, coverage_cons] at hold
  rw [coverage_cons] at hpart
  rw [coverage_append, coverage_append, coverage_perm hback', coverage_append, coverage_single,
    ← hold, show (if s.Contains b then 1 else 0) = _ from hpart.symm]
  omega

/-- A tiling grows at its end: some pieces and then `given`, which goes to the front. -/
theorem Tiles.extend {front back back' pieces : List Span} {given : Span} {lo mid hi : Nat}
    (h : Tiles (front ++ back) lo mid) (hnew : Tiles (pieces ++ [given]) mid hi) (hlo : lo ≤ mid)
    (hhi : mid ≤ hi) (hback' : back'.Perm (pieces ++ back)) :
    Tiles (front ++ [given] ++ back') lo hi := by
  intro b
  rw [← h.append hnew hlo hhi b]
  simp only [coverage_append, coverage_perm hback']
  omega

/-- The numbers of the interval are those that lie in a span. -/
theorem Tiles.mem_iff {spans : List Span} {lo hi : Nat} (h : Tiles spans lo hi) (b : Nat) :
    (∃ s ∈ spans, s.Contains b) ↔ lo ≤ b ∧ b < hi := by
  rw [← coverage_pos, h b]
  split_ifs with hb
  · exact iff_of_true Nat.one_pos hb
  · exact iff_of_false (Nat.lt_irrefl 0) hb

/-- A span that contains a number lies within the interval. -/
theorem Tiles.within {spans : List Span} {lo hi : Nat} (h : Tiles spans lo hi) {s : Span}
    (hs : s ∈ spans) (hsize : 0 < s.size) : lo ≤ s.start ∧ s.start + s.size ≤ hi := by
  have hfirst := (h.mem_iff s.start).1 ⟨s, hs, by simp [Span.Contains]; omega⟩
  have hlast := (h.mem_iff (s.start + s.size - 1)).1 ⟨s, hs, by simp [Span.Contains]; omega⟩
  omega

/-- The spans of a tiling are pairwise disjoint. -/
theorem Tiles.pairwise {spans : List Span} {lo hi : Nat} (h : Tiles spans lo hi) :
    spans.Pairwise Span.Disjoint := by
  have hone (b : Nat) : coverage spans b ≤ 1 := by
    rw [h b]
    split_ifs <;> omega
  clear h
  induction spans with
  | nil => exact .nil
  | cons s spans ih =>
      refine .cons (fun t ht b hb => ?_) (ih fun b => ?_)
      · have hcover := hone b
        have hmore : 0 < coverage spans b := coverage_pos.2 ⟨t, ht, hb.2⟩
        rw [coverage_cons, if_pos hb.1] at hcover
        omega
      · have hcover := hone b
        rw [coverage_cons] at hcover
        omega

end Codon.Library
