import Codon.Library.Run
import Codon.Signals.Signal

/-!
# Signals as plain lists

What a signal is for, without marks and deferred removal: the list of the connections whose handler
is alive, numbered as they were made. Disconnecting and the destruction of a handler take
connections out at once. An emission takes its turns in the order of the numbers, and the next turn
is that of the first connection in the list as it is then. Read `turns_in_order`: what an emission
has called are, once each and in order, the connections that were there when their turn came.
-/

namespace Codon.Signals

open Codon.Library

variable {K F H A R : Type}

/-- The connections in order, each with its number, and how many were made so far. -/
structure Connections (F : Type) where
  connected : List (Nat × F)
  made : Nat

/-- An emission that has called some connections, by their numbers, and whose next turn is that of
the first connection from the number `next` on. -/
structure Turns (K A R : Type) where
  signal : K
  called : List Nat
  next : Nat
  args : A
  results : List R

structure Plain (K F A R : Type) where
  lists : K → Connections F
  callable : F → Bool
  emissions : List (Turns K A R)
  trace : List (Event K F A R)

namespace Connections

def nothing : Connections F := ⟨[], 0⟩

def connect (l : Connections F) (fsptr : F) : Connections F :=
  ⟨l.connected ++ [(l.made, fsptr)], l.made + 1⟩

/-- The connections that meet a condition stay. -/
def keep (l : Connections F) (cond : Nat × F → Bool) : Connections F :=
  { l with connected := l.connected.filter cond }

def turn (l : Connections F) (next : Nat) : Option (Nat × F) :=
  l.connected.find? fun c => next ≤ c.1

end Connections

namespace Plain

variable [DecidableEq K] [DecidableEq H]

def start : Plain K F A R := ⟨fun _ => .nothing, fun _ => true, [], []⟩

def setList (p : Plain K F A R) (signal : K) (l : Connections F) : Plain K F A R :=
  { p with lists := Function.update p.lists signal l }

/-- The innermost emission takes its next turn, or is over. -/
def proceed (p : Plain K F A R) (turns : Turns K A R) (outer : List (Turns K A R)) :
    Plain K F A R :=
  match (p.lists turns.signal).turn turns.next with
  | some (n, fsptr) =>
      { p with
        emissions := { turns with called := turns.called ++ [n], next := n + 1 } :: outer
        trace := p.trace ++ [.called turns.signal (UInt64.ofNat n) fsptr turns.args] }
  | none =>
      { p with
        emissions := outer
        trace := p.trace ++ [.emitted turns.signal turns.results] }

/-- A handle names the connection with its number. -/
def step (attachedHandler : F → Option H) (p : Plain K F A R) : Op K F H A R → Plain K F A R
  | .connect signal slot =>
      match slot.filter p.callable with
      | none => { p with trace := p.trace ++ [.connected signal none] }
      | some fsptr =>
          let l := p.lists signal
          { p.setList signal (l.connect fsptr) with
            trace := p.trace ++ [.connected signal (some (UInt64.ofNat l.made))] }
  | .disconnect _ none => p
  | .disconnect signal (some id) =>
      p.setList signal ((p.lists signal).keep fun c => c.1 ≠ id.toNat)
  | .clear signal => p.setList signal ((p.lists signal).keep fun _ => false)
  | .destroy handler =>
      let callable := invalidate attachedHandler p.callable handler
      { p with lists := fun signal => (p.lists signal).keep fun c => callable c.2, callable }
  | .emit signal args => p.proceed ⟨signal, [], 0, args, []⟩ p.emissions
  | .ret result =>
      match p.emissions with
      | [] => p
      | turns :: outer => p.proceed { turns with results := result :: turns.results } outer

end Plain

namespace Connections

variable {l : Connections F} {c : Nat × F} {next : Nat}

/-- The numbers of the connections ascend and have been given. -/
structure Numbered (l : Connections F) : Prop where
  ascending : l.connected.Pairwise (·.1 < ·.1)
  below : ∀ c ∈ l.connected, c.1 < l.made

/-- An empty list is numbered. -/
theorem nothing_numbered : (nothing : Connections F).Numbered := ⟨.nil, nofun⟩

/-- A connection gets the next number. -/
theorem Numbered.connect (h : l.Numbered) (fsptr : F) : (l.connect fsptr).Numbered where
  ascending := by
    refine List.pairwise_append.2 ⟨h.ascending, List.pairwise_singleton _ _, fun c hc c' hc' => ?_⟩
    rw [List.mem_singleton.1 hc']
    exact h.below c hc
  below c hc := by
    rcases List.mem_append.1 hc with hold | hnew
    · exact Nat.lt_succ_of_lt (h.below c hold)
    · rw [List.mem_singleton.1 hnew]
      exact Nat.lt_succ_self _

/-- Removing connections leaves the others numbered. -/
theorem Numbered.keep (h : l.Numbered) (cond : Nat × F → Bool) : (l.keep cond).Numbered where
  ascending := h.ascending.sublist List.filter_sublist
  below c hc := h.below c (List.mem_of_mem_filter hc)

/-- The turn goes to a connection in the list, and none that still waits has a smaller number. -/
theorem turn_first (h : l.Numbered) (hturn : l.turn next = some c) :
    c ∈ l.connected ∧ next ≤ c.1 ∧ ∀ c' ∈ l.connected, next ≤ c'.1 → c.1 ≤ c'.1 := by
  obtain ⟨hnext, before, after, hlist, hbefore⟩ := List.find?_eq_some_iff_append.1 hturn
  refine ⟨by simp [hlist], of_decide_eq_true hnext, fun c' hc' hwaits => ?_⟩
  have hascending := h.ascending
  rw [hlist] at hc' hascending
  rcases List.mem_append.1 hc' with hc' | hc'
  · exact absurd (hbefore c' hc') (by simpa using hwaits)
  · rcases List.mem_cons.1 hc' with rfl | hc'
    · exact Nat.le_refl _
    · exact Nat.le_of_lt (List.rel_of_pairwise_cons (List.pairwise_append.1 hascending).2.1 hc')

end Connections

/-- The connections that an emission has called are in order, and it has called every connection
of its signal whose turn is over. -/
structure Turns.InOrder (turns : Turns K A R) (l : Connections F) : Prop where
  ascending : turns.called.Pairwise (· < ·)
  below : ∀ n ∈ turns.called, n < turns.next
  next_le : turns.next ≤ l.made
  all_called : ∀ c ∈ l.connected, c.1 < turns.next → c.1 ∈ turns.called

namespace Turns.InOrder

variable {turns : Turns K A R} {l : Connections F}

/-- A slot that is connected during an emission comes after its last turn. -/
theorem connect (h : turns.InOrder l) (fsptr : F) : turns.InOrder (l.connect fsptr) where
  ascending := h.ascending
  below := h.below
  next_le := Nat.le_succ_of_le h.next_le
  all_called c hc hnext := by
    rcases List.mem_append.1 hc with hold | hnew
    · exact h.all_called c hold hnext
    · rw [List.mem_singleton.1 hnew] at hnext
      exact absurd h.next_le (Nat.not_le_of_lt hnext)

/-- The turns stay in order when connections are removed. -/
theorem keep (h : turns.InOrder l) (cond : Nat × F → Bool) : turns.InOrder (l.keep cond) where
  ascending := h.ascending
  below := h.below
  next_le := h.next_le
  all_called c hc := h.all_called c (List.mem_of_mem_filter hc)

/-- The slot whose turn it is comes after those that have had theirs. -/
theorem take_turn (h : turns.InOrder l) (hl : l.Numbered) {c : Nat × F}
    (hturn : l.turn turns.next = some c) :
    Turns.InOrder { turns with called := turns.called ++ [c.1], next := c.1 + 1 } l := by
  obtain ⟨hmem, hnext, hfirst⟩ := Connections.turn_first hl hturn
  refine ⟨?_, ?_, hl.below c hmem, fun c' hc' hturned => ?_⟩
  · refine List.pairwise_append.2 ⟨h.ascending, List.pairwise_singleton _ _, fun n hn m hm => ?_⟩
    rw [List.mem_singleton.1 hm]
    exact Nat.lt_of_lt_of_le (h.below n hn) hnext
  · intro n hn
    rcases List.mem_append.1 hn with hold | hnew
    · exact Nat.lt_succ_of_lt (Nat.lt_of_lt_of_le (h.below n hold) hnext)
    · rw [List.mem_singleton.1 hnew]
      exact Nat.lt_succ_self _
  · -- its turn was over before, or it is the one whose turn it is
    by_cases hold : c'.1 < turns.next
    · exact List.mem_append_left _ (h.all_called c' hc' hold)
    · have heq : c'.1 = c.1 := Nat.le_antisymm (Nat.le_of_lt_succ hturned)
        (hfirst c' hc' (Nat.le_of_not_lt hold))
      exact List.mem_append_right _ (List.mem_singleton.2 heq)

end Turns.InOrder

namespace Plain

variable [DecidableEq K] [DecidableEq H] {p : Plain K F A R}

/-- Every list is numbered, and every emission takes its turns in order. -/
structure Ordered (p : Plain K F A R) : Prop where
  numbered (signal : K) : (p.lists signal).Numbered
  in_order : ∀ turns ∈ p.emissions, turns.InOrder (p.lists turns.signal)

omit [DecidableEq K] in
/-- The turns are in order while nothing is connected or emitted. -/
theorem start_ordered : (start : Plain K F A R).Ordered :=
  ⟨fun _ => Connections.nothing_numbered, nofun⟩

/-- A change of one list keeps the order if it keeps that of every emission of its signal. -/
theorem Ordered.set_list (h : p.Ordered) {signal : K} {l : Connections F} (hl : l.Numbered)
    (hturns : ∀ turns : Turns K A R, turns.InOrder (p.lists signal) → turns.InOrder l) :
    (p.setList signal l).Ordered where
  numbered other := by
    by_cases heq : other = signal
    · subst heq
      simpa [setList] using hl
    · simpa [setList, heq] using h.numbered other
  in_order turns hmem := by
    have hturn := h.in_order turns hmem
    by_cases heq : turns.signal = signal
    · rw [heq] at hturn
      simpa [setList, heq] using hturns turns hturn
    · simpa [setList, heq] using hturn

omit [DecidableEq K] in
/-- The turns are in order when the innermost emission goes on. -/
theorem Ordered.proceed (h : p.Ordered) {turns : Turns K A R} {outer : List (Turns K A R)}
    (hturns : turns.InOrder (p.lists turns.signal)) (houter : ∀ t ∈ outer, t ∈ p.emissions) :
    (p.proceed turns outer).Ordered := by
  simp only [Plain.proceed]
  split
  next n fsptr hturn =>
    refine ⟨h.numbered, fun t ht => ?_⟩
    rcases List.mem_cons.1 ht with rfl | hmem
    · exact hturns.take_turn (h.numbered _) hturn
    · exact h.in_order t (houter t hmem)
  next _ => exact ⟨h.numbered, fun t ht => h.in_order t (houter t ht)⟩

/-- Every operation keeps the turns in order. -/
theorem Ordered.step (h : p.Ordered) (attachedHandler : F → Option H) (op : Op K F H A R) :
    (p.step attachedHandler op).Ordered := by
  cases op with
  | connect signal slot =>
      simp only [Plain.step]
      split
      · exact ⟨h.numbered, h.in_order⟩
      next fsptr _ =>
        have hset : (p.setList signal ((p.lists signal).connect fsptr)).Ordered :=
          h.set_list ((h.numbered signal).connect fsptr) fun _ ht => ht.connect fsptr
        exact ⟨hset.numbered, hset.in_order⟩
  | disconnect signal connection =>
      cases connection with
      | none => exact h
      | some id => exact h.set_list ((h.numbered signal).keep _) fun _ ht => ht.keep _
  | clear signal => exact h.set_list ((h.numbered signal).keep _) fun _ ht => ht.keep _
  | destroy handler =>
      exact ⟨fun signal => (h.numbered signal).keep _,
        fun turns hmem => (h.in_order turns hmem).keep _⟩
  | emit signal args =>
      refine h.proceed ⟨.nil, nofun, Nat.zero_le _, fun _ _ hnext => ?_⟩ fun _ => id
      exact absurd hnext (Nat.not_lt_zero _)
  | ret result =>
      simp only [Plain.step]
      split
      · exact h
      next turns outer hemissions =>
        have hturns := h.in_order turns (by simp [hemissions])
        refine h.proceed ⟨hturns.ascending, hturns.below, hturns.next_le, hturns.all_called⟩ ?_
        intro t ht
        simp [hemissions, ht]

/-- In every run every emission takes its turns in order. -/
theorem turns_in_order (attachedHandler : F → Option H) (ops : List (Op K F H A R)) :
    (run (Plain.step attachedHandler) start ops).Ordered :=
  run_invariant start_ordered fun _ op h => h.step attachedHandler op

end Plain

end Codon.Signals
