import Codon.Slate.Cells

/-!
# Latched extremes

An element that is only latched, with a sentinel that it starts from, holds the best of the
values that it was latched to, whatever is done with other elements in between
(`latched_extreme`). No value may compare equal to the sentinel: the next value would
replace it, however much worse it is.
-/

namespace Codon.Slate

open Codon.Library

/-- `latch_min` or `latch_max`. -/
inductive LatchKind where
  | min
  | max

/-- The operation. -/
def LatchKind.op (kind : LatchKind) (value : Nat) (sentinel : Option Nat) : ElementOp :=
  match kind with
  | .min => .latchMin value sentinel
  | .max => .latchMax value sentinel

/-- The comparison that it makes. -/
def LatchKind.better (kind : LatchKind) (type : ValueType) : Nat → Nat → Bool :=
  match kind with
  | .min => type.less
  | .max => type.greater

/-- The value of a latch of either kind. -/
def ElementOp.latched? : ElementOp → Option Nat
  | .latchMin value _ | .latchMax value _ => some value
  | _ => none

/-- The values that the calls latch the element of a path to. -/
def latchedValues (path : String) (ops : List ElementCall) : List Nat :=
  ops.filterMap fun c => if c.element.path = path then c.op.latched? else none

section

variable {α : Type} [LinearOrder α] {rank : Nat → α}

/-- The best of the values, or the sentinel if there are none. -/
structure Extreme (rank : Nat → α) (sentinel : Nat) (values : List Nat) (best : Nat) : Prop where
  start : values = [] → best = sentinel
  mem : values ≠ [] → best ∈ values
  le : ∀ value ∈ values, rank best ≤ rank value

/-- One more value. -/
theorem Extreme.latch {sentinel best value : Nat} {values : List Nat}
    (h : Extreme rank sentinel values best)
    (hsentinel : ∀ value ∈ values, rank value ≠ rank sentinel) :
    Extreme rank sentinel (values ++ [value])
      (if rank value < rank best ∨ rank sentinel = rank best then value else best) := by
  by_cases hnone : values = []
  · have hbest := h.start hnone
    subst hnone
    rw [if_pos (.inr (congrArg rank hbest).symm)]
    refine ⟨fun hnil => by simp at hnil, fun _ => by simp, fun other hother => ?_⟩
    rw [List.nil_append, List.mem_singleton] at hother
    rw [hother]
  · have hmem := h.mem hnone
    have hne : rank sentinel ≠ rank best := fun heq => hsentinel best hmem heq.symm
    refine ⟨fun hnil => by simp at hnil, fun _ => ?_, fun other hother => ?_⟩
    · split_ifs
      · simp
      · exact List.mem_append_left _ hmem
    · rw [List.mem_append, List.mem_singleton] at hother
      by_cases hless : rank value < rank best
      · rw [if_pos (.inl hless)]
        rcases hother with hold | rfl
        · exact hless.le.trans (h.le other hold)
        · exact le_refl _
      · rw [if_neg (by simp [hless, hne])]
        rcases hother with hold | rfl
        · exact h.le other hold
        · exact not_lt.1 hless

end

namespace Access

variable {M : Type} (a : Access M) (m : M)

/-- An operation leaves the memory or writes some bits. -/
theorem perform_cases (parts : IdParts) (accepts : Nat → Nat → Bool) (type : ValueType)
    (op : ElementOp) : (a.perform parts accepts type op m).2 = m ∨
      ∃ bits, (a.perform parts accepts type op m).2 = a.write bits m := by
  cases op with
  | load => exact .inl rfl
  | write bits => exact .inr ⟨bits, rfl⟩
  | store bits =>
      show (a.store _ _ _ _ _).2 = m ∨ ∃ written, (a.store _ _ _ _ _).2 = a.write written m
      unfold Access.store
      split_ifs
      · exact .inl rfl
      · exact .inr ⟨bits, rfl⟩
      · exact .inr ⟨bits, rfl⟩
      · exact .inl rfl
  | latchMin value sentinel =>
      show a.latch _ _ _ _ _ = m ∨ ∃ written, a.latch _ _ _ _ _ = a.write written m
      unfold Access.latch
      split_ifs
      · exact .inr ⟨value, rfl⟩
      · exact .inl rfl
  | latchMax value sentinel =>
      show a.latch _ _ _ _ _ = m ∨ ∃ written, a.latch _ _ _ _ _ = a.write written m
      unfold Access.latch
      split_ifs
      · exact .inr ⟨value, rfl⟩
      · exact .inl rfl

end Access

namespace Window

variable {w w' : Window}

/-- What was written is loaded again. -/
theorem load_write (w : Window) {bits : Nat} (h : bits < 256 ^ w.size) (cells : Cells) :
    w.access.load (w.access.write bits cells) = bits := by
  have hbytes : w.access.load (w.access.write bits cells) = fromBytes (toByte bits) w.size := by
    refine from_bytes_congr fun i hi => ?_
    show (if _ then _ else _) = _
    rw [if_pos ⟨rfl, Nat.le_add_right _ _, Nat.add_lt_add_left hi _⟩, Nat.add_sub_cancel_left]
  rw [hbytes, from_bytes_to_byte, Nat.mod_eq_of_lt h]

/-- Another root element is not written to. -/
theorem load_write_other (h : w.root ≠ w'.root) (bits : Nat) (cells : Cells) :
    w.access.load (w'.access.write bits cells) = w.access.load cells := by
  refine from_bytes_congr fun i _ => ?_
  show (if _ then _ else _) = _
  rw [if_neg fun hin => h hin.1]

end Window

section

variable {α : Type} {rank : Nat → α} {V : Type} {o : Outside V} {rt : Runtime}
  {l : SlateLayout V} {path : String} {sentinel : Nat} {type : ValueType} {kind : LatchKind}
  {w : Window}

/-- On the element it is a load or a latch with the sentinel, to a value that fits the type and does
not compare equal to the sentinel. -/
def LatchesOnly (rank : Nat → α) (type : ValueType) (kind : LatchKind) (sentinel : Nat)
    (c : ElementCall) : Prop :=
  c.type = type ∧ (c.op = .load ∨ ∃ value, c.op = kind.op value (some sentinel) ∧
    value < 256 ^ type.size ∧ rank value ≠ rank sentinel)

/-- Every call is on the element, where it loads or latches, or on a part of another root element.
-/
def Latches (rank : Nat → α) (l : SlateLayout V) (path : String) (type : ValueType)
    (kind : LatchKind) (sentinel : Nat) (w : Window) (c : ElementCall) : Prop :=
  if c.element.path = path then LatchesOnly rank type kind sentinel c
  else ∀ other, l.windowAt c.element.path = some other → w.root ≠ other.root

/-- A call that is not a latch of the element leaves its value. -/
theorem load_not_latched (hwindow : l.windowAt path = some w) {c : ElementCall}
    (hc : Latches rank l path type kind sentinel w c)
    (hnone : latchedValues path [c] = []) (cells : Cells) :
    w.access.load (l.cellCall rt c cells).2 = w.access.load cells := by
  unfold Latches at hc
  rw [SlateLayout.cellCall]
  split_ifs at hc with hpath
  · obtain ⟨htype, hload | ⟨value, hop, -⟩⟩ := hc
    · rw [hpath, hwindow, hload]
      rfl
    · rw [latchedValues, List.filterMap_cons, if_pos hpath, hop] at hnone
      cases kind <;> cases hnone
  · cases hother : l.windowAt c.element.path with
    | none => rfl
    | some other =>
        dsimp only
        rcases other.access.perform_cases cells (rt.breakdown c.element.id)
          (rt.accepts c.element.id) c.type c.op with hsame | ⟨bits, hwrite⟩
        · rw [hsame]
        · rw [hwrite]
          exact Window.load_write_other (hc other hother) bits cells

/-- A call latches the element, or nothing is latched. -/
theorem latched_cases {c : ElementCall} (hc : Latches rank l path type kind sentinel w c) :
    latchedValues path [c] = [] ∨
      ∃ value, latchedValues path [c] = [value] ∧ c.element.path = path ∧ c.type = type ∧
        c.op = kind.op value (some sentinel) ∧ value < 256 ^ type.size ∧
        rank value ≠ rank sentinel := by
  unfold Latches at hc
  split_ifs at hc with hpath
  · obtain ⟨htype, hload | ⟨value, hop, hfits, hne⟩⟩ := hc
    · left
      simp [latchedValues, hload, ElementOp.latched?]
    · right
      refine ⟨value, ?_, hpath, htype, hop, hfits, hne⟩
      rw [latchedValues, List.filterMap_cons, if_pos hpath, hop]
      cases kind <;> rfl
  · left
    simp [latchedValues, hpath]

variable [LinearOrder α]

/-- A latch of the element. -/
theorem load_latched (hless : ∀ a b, kind.better type a b = decide (rank a < rank b))
    (hequal : ∀ a b, type.equal a b = decide (rank a = rank b)) (hsize : w.size = type.size)
    (sentinel : Nat) (parts : IdParts) (accepts : Nat → Nat → Bool) {value : Nat}
    (hfits : value < 256 ^ type.size) (cells : Cells) :
    w.access.load (w.access.perform parts accepts type (kind.op value (some sentinel)) cells).2 =
      if rank value < rank (w.access.load cells) ∨ rank sentinel = rank (w.access.load cells) then
        value
      else w.access.load cells := by
  have hlatch : (w.access.perform parts accepts type (kind.op value (some sentinel)) cells).2 =
      w.access.latch (kind.better type) type.equal value (some sentinel) cells := by
    cases kind <;> rfl
  rw [hlatch, Access.latch, hless, Option.any_some, hequal]
  by_cases hbetter : rank value < rank (w.access.load cells) ∨
      rank sentinel = rank (w.access.load cells)
  · rw [if_pos (by simpa using hbetter), if_pos hbetter]
    exact w.load_write (by rwa [hsize]) cells
  · rw [if_neg (by simpa using hbetter), if_neg hbetter]

/-- The element holds the best of the values so far. -/
theorem extreme_of_calls (hwindow : l.windowAt path = some w) (hsize : w.size = type.size)
    (hless : ∀ a b, kind.better type a b = decide (rank a < rank b))
    (hequal : ∀ a b, type.equal a b = decide (rank a = rank b)) {ops : List ElementCall}
    (hops : ∀ c ∈ ops, Latches rank l path type kind sentinel w c) {cells : Cells}
    {values : List Nat} (hvalues : ∀ value ∈ values, rank value ≠ rank sentinel)
    (h : Extreme rank sentinel values (w.access.load cells)) :
    Extreme rank sentinel (values ++ latchedValues path ops)
      (w.access.load (answers (l.cellCall rt) ops cells).2) := by
  induction ops generalizing cells values with
  | nil => simpa [latchedValues, answers] using h
  | cons c ops ih =>
      have hc := hops c List.mem_cons_self
      have hsplit : latchedValues path (c :: ops) =
          latchedValues path [c] ++ latchedValues path ops := List.filterMap_append (l := [c])
      rw [hsplit, ← List.append_assoc]
      rcases latched_cases hc with hnone | ⟨value, hvalue, hpath, htype, hop, hfits, hne⟩
      · rw [hnone, List.append_nil]
        refine ih (fun d hd => hops d (List.mem_cons_of_mem _ hd)) hvalues ?_
        rw [load_not_latched hwindow hc hnone]
        exact h
      · rw [hvalue]
        refine ih (fun d hd => hops d (List.mem_cons_of_mem _ hd)) (fun other hother => ?_) ?_
        · rcases List.mem_append.1 hother with hold | hnew
          · exact hvalues other hold
          · rwa [List.mem_singleton.1 hnew]
        · have hlatched := load_latched hless hequal hsize sentinel
            (rt.breakdown c.element.id) (rt.accepts c.element.id) hfits cells
          rw [← hop] at hlatched
          rw [SlateLayout.cellCall, hpath, hwindow, htype]
          dsimp only
          rw [hlatched]
          exact h.latch hvalues

/-- On a slate whose layout no request has set back, an element that starts as the sentinel and is
only loaded and latched holds the best of the values it was latched to, by the order that the latch
compares with, whatever is done with parts of other root elements in between. -/
theorem latched_extreme (hlaws : LookupLaws o) (hbreak : BreakdownLaws o rt)
    {calls : List (BuildCall V)} (hcalls : Along (Built.step o) Built.Grows (.fresh V) calls)
    (hless : ∀ a b, kind.better type a b = decide (rank a < rank b))
    (hequal : ∀ a b, type.equal a b = decide (rank a = rank b)) {element : Issued}
    (hwindow : (Built.run o calls (.fresh V)).layout.windowAt element.path = some w)
    (hload : (⟨element, type, .load⟩ : ElementCall).Typed (Built.run o calls (.fresh V)))
    {ops : List ElementCall} (htyped : ∀ c ∈ ops, c.Typed (Built.run o calls (.fresh V)))
    (hops : ∀ c ∈ ops, Latches rank (Built.run o calls (.fresh V)).layout element.path type kind
      sentinel w c) {slate : SlateMemory}
    (hstart : (rt.access element.id type.size).load slate = sentinel) :
    Extreme rank sentinel (latchedValues element.path ops)
      ((rt.access element.id type.size).load (answers rt.slateCall ops slate).2) := by
  have hs := Built.run_based hlaws hcalls
  generalize Built.run o calls (.fresh V) = s at hs hwindow hload htyped hops
  have hagrees := answers_abstraction (fun c hc => hs.call_agrees hbreak (htyped c hc)) slate
  -- a load of the element is a load of its window
  have hloads (slate : SlateMemory) : w.access.load (s.layout.cells slate) =
      (rt.access element.id type.size).load slate := by
    have hcall := hs.call_agrees hbreak hload slate
    rw [SlateLayout.cellCall, hwindow] at hcall
    exact ElementAnswer.loaded.inj (congrArg Prod.fst hcall)
  have hsize : w.size = type.size := by
    obtain ⟨hissued, hsized⟩ := hload
    obtain ⟨found, hmem, hpath, -⟩ := hs.issued element hissued
    obtain ⟨root, -, hfound⟩ := hs.window hmem
    rw [hpath, hwindow] at hfound
    rw [Option.some.inj hfound]
    exact hsized found hmem hpath
  have hextreme : Extreme rank sentinel ([] ++ latchedValues element.path ops)
      (w.access.load (answers (s.layout.cellCall rt) ops (s.layout.cells slate)).2) := by
    refine extreme_of_calls hwindow hsize hless hequal hops (fun value h => by cases h) ?_
    exact ⟨fun _ => (hloads slate).trans hstart, fun h => absurd rfl h, fun value h => by cases h⟩
  rw [List.nil_append, hagrees, hloads] at hextreme
  exact hextreme

end

namespace Sample

/-- The parameter is latched to three values, while the flag is written to. -/
def latchLimit : List ElementCall :=
  [⟨limit, numbers 8, .latchMin 9 (some 0)⟩, ⟨flag, numbers 8, .write 7⟩,
    ⟨limit, numbers 8, .latchMin 4 (some 0)⟩, ⟨high, numbers 4, .store 1⟩,
    ⟨limit, numbers 8, .latchMin 6 (some 0)⟩]

/-- Every call of the sample is a latch of the limit. -/
theorem latch_limit_latches :
    ∀ c ∈ latchLimit, Latches id (Built.run packed flagViewLimit (.fresh Bool)).layout
      limit.path (numbers 8) .min 0 ⟨"nav.limit", 0, 8⟩ c := by
  have hwindows : (Built.run packed flagViewLimit (.fresh Bool)).layout.windowAt "nav.flag" =
        some ⟨"nav.flag", 0, 8⟩ ∧
      (Built.run packed flagViewLimit (.fresh Bool)).layout.windowAt "nav.high" =
        some ⟨"nav.flag", 4, 4⟩ := by decide +kernel
  have hlatch (value : Nat) (hvalue : value ≠ 0) (hfits : value < 256 ^ 8) :
      Latches id (Built.run packed flagViewLimit (.fresh Bool)).layout limit.path (numbers 8) .min
        0 ⟨"nav.limit", 0, 8⟩ ⟨limit, numbers 8, .latchMin value (some 0)⟩ := by
    rw [Latches, if_pos rfl]
    exact ⟨rfl, .inr ⟨value, rfl, hfits, hvalue⟩⟩
  have hother {c : ElementCall} {other : Window} (hne : c.element.path ≠ limit.path)
      (hwindow : (Built.run packed flagViewLimit (.fresh Bool)).layout.windowAt c.element.path =
        some other) (hroot : other.root = "nav.flag") :
      Latches id (Built.run packed flagViewLimit (.fresh Bool)).layout limit.path (numbers 8) .min
        0 ⟨"nav.limit", 0, 8⟩ c := by
    rw [Latches, if_neg hne]
    intro found hfound
    rw [hwindow] at hfound
    rw [← Option.some.inj hfound, hroot]
    decide
  refine List.forall_mem_cons.2 ⟨hlatch 9 (by decide) (by decide), List.forall_mem_cons.2
    ⟨hother (by decide) hwindows.1 rfl, List.forall_mem_cons.2 ⟨hlatch 4 (by decide) (by decide),
      List.forall_mem_cons.2 ⟨hother (by decide) hwindows.2 rfl, List.forall_mem_cons.2
        ⟨hlatch 6 (by decide) (by decide), fun c hc => by cases hc⟩⟩⟩⟩⟩

end Sample

/-- The parameter holds the least of the values. -/
theorem limit_latched :
    Extreme id 0 (latchedValues "nav.limit" Sample.latchLimit) 4 ∧
      latchedValues "nav.limit" Sample.latchLimit = [9, 4, 6] := by
  have hload : (Sample.packedRuntime.access Sample.limit.id 8).load
      (answers Sample.packedRuntime.slateCall Sample.latchLimit Sample.zeros).2 = 4 := by
    decide +kernel
  have htyped : ∀ c ∈ Sample.latchLimit,
      c.Typed (Built.run Sample.packed Sample.flagViewLimit (.fresh Bool)) := by
    unfold ElementCall.Typed
    decide +kernel
  have hwindow : (Built.run Sample.packed Sample.flagViewLimit (.fresh Bool)).layout.windowAt
      Sample.limit.path = some ⟨"nav.limit", 0, 8⟩ := by decide +kernel
  have hlimit : (⟨Sample.limit, Sample.numbers 8, .load⟩ : ElementCall).Typed
      (Built.run Sample.packed Sample.flagViewLimit (.fresh Bool)) := by
    unfold ElementCall.Typed
    decide +kernel
  have hextreme : Extreme id 0 (latchedValues Sample.limit.path Sample.latchLimit)
      ((Sample.packedRuntime.access Sample.limit.id 8).load
        (answers Sample.packedRuntime.slateCall Sample.latchLimit Sample.zeros).2) :=
    latched_extreme Sample.packed_laws Sample.packed_breakdown Sample.flag_view_limit_grows
      (fun _ _ => rfl) (fun _ _ => rfl) hwindow hlimit htyped Sample.latch_limit_latches
      (by decide +kernel)
  exact ⟨hload ▸ hextreme, by decide⟩

end Codon.Slate
