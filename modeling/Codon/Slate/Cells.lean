import Codon.Library.Answers
import Codon.Slate.CommandInterface
import Codon.Slate.Lookups

/-!
# The slate as independent values

What `Slate` does with an element: it loads it, stores a value, gives out a reference to
write through, or latches an extreme. The slate is its bytes, at the places that the ids
carry.

The abstract slate has one value for each path of a root element (`Cells`); a view is a
window of the value of its root. Unless a request has set the size of a shard back, the
slate behaves like it (`slate_refines_cells`).
-/

namespace Codon.Slate

open Codon.Library

/-! ## Elements and what is done with them -/

/-- What gives access to an element in a memory. -/
structure Access (M : Type) where
  load : M → Nat
  write : Nat → M → M

/-- The type of an element: its size, and how it compares the bits of values. -/
structure ValueType where
  size : Nat
  less : Nat → Nat → Bool
  greater : Nat → Nat → Bool
  equal : Nat → Nat → Bool

/-- What is done with an element. Without a sentinel it is the overload that has none. -/
inductive ElementOp where
  | load
  | write (bits : Nat)
  | store (bits : Nat)
  | latchMin (value : Nat) (sentinel : Option Nat)
  | latchMax (value : Nat) (sentinel : Option Nat)

/-- The value that a load gives, or whether a store succeeds. Nothing else answers. -/
inductive ElementAnswer where
  | loaded (bits : Nat)
  | stored (successful : Bool)
  | done
deriving DecidableEq

/-- An operation on the element of an id that was given out, as a value of a type. -/
structure ElementCall where
  element : Issued
  type : ValueType
  op : ElementOp

namespace Access

variable {M : Type} (a : Access M)

/-- `Slate::store`. `accepts` is the validator, given the new and the current value. -/
def store (mayWrite hasValidator : Bool) (accepts : Nat → Nat → Bool) (bits : Nat) (m : M) :
    Bool × M :=
  if !mayWrite then (false, m)
  else if !hasValidator then (true, a.write bits m)
  else if accepts bits (a.load m) then (true, a.write bits m)
  else (false, m)

/-- Replaces the current value if the new one is better, or if the current one is the sentinel. -/
def latch (better equal : Nat → Nat → Bool) (value : Nat) (sentinel : Option Nat) (m : M) : M :=
  if better value (a.load m) || sentinel.any (equal · (a.load m)) then a.write value m else m

/-- `Slate::latch_min`. -/
def latchMin (type : ValueType) : Nat → Option Nat → M → M := a.latch type.less type.equal

/-- `Slate::latch_max`. -/
def latchMax (type : ValueType) : Nat → Option Nat → M → M := a.latch type.greater type.equal

/-- One operation, with the parts of the id and the validator. -/
def perform (parts : IdParts) (accepts : Nat → Nat → Bool) (type : ValueType) :
    ElementOp → M → ElementAnswer × M
  | .load, m => (.loaded (a.load m), m)
  | .write bits, m => (.done, a.write bits m)
  | .store bits, m =>
      let (successful, m) := a.store parts.mayWrite parts.hasValidator accepts bits m
      (.stored successful, m)
  | .latchMin value sentinel, m => (.done, a.latchMin type value sentinel m)
  | .latchMax value sentinel, m => (.done, a.latchMax type value sentinel m)

/-- The abstraction agrees with both kinds of access. -/
structure Represents {N : Type} (abstraction : M → N) (a : Access M) (b : Access N) : Prop where
  load : ∀ m, b.load (abstraction m) = a.load m
  write : ∀ bits m, b.write bits (abstraction m) = abstraction (a.write bits m)

section

variable {N : Type} {abstraction : M → N} {a : Access M} {b : Access N}

/-- A store into the bytes of an element is a store into its cell. -/
theorem Represents.store (h : Represents abstraction a b) (mayWrite hasValidator : Bool)
    (accepts : Nat → Nat → Bool) (bits : Nat) (m : M) :
    b.store mayWrite hasValidator accepts bits (abstraction m) =
      ((a.store mayWrite hasValidator accepts bits m).1,
        abstraction (a.store mayWrite hasValidator accepts bits m).2) := by
  unfold Access.store
  rw [h.load, h.write]
  split_ifs <;> rfl

/-- A latch on the bytes of an element is a latch on its cell. -/
theorem Represents.latch (h : Represents abstraction a b) (better equal : Nat → Nat → Bool)
    (value : Nat) (sentinel : Option Nat) (m : M) :
    b.latch better equal value sentinel (abstraction m) =
      abstraction (a.latch better equal value sentinel m) := by
  unfold Access.latch
  rw [h.load, h.write]
  split_ifs <;> rfl

/-- Operations only use the two. -/
theorem Represents.perform (h : Represents abstraction a b) (parts : IdParts)
    (accepts : Nat → Nat → Bool) (type : ValueType) (op : ElementOp) :
    Agrees abstraction (a.perform parts accepts type) (b.perform parts accepts type) op := by
  intro m
  cases op with
  | load => exact congrArg (fun bits => (ElementAnswer.loaded bits, abstraction m)) (h.load m)
  | write bits => exact congrArg (Prod.mk ElementAnswer.done) (h.write bits m)
  | store bits =>
      have hstore := h.store parts.mayWrite parts.hasValidator accepts bits m
      show (ElementAnswer.stored (b.store _ _ _ _ _).1, (b.store _ _ _ _ _).2) = _
      rw [hstore]
      rfl
  | latchMin value sentinel =>
      exact congrArg (Prod.mk ElementAnswer.done) (h.latch type.less type.equal value sentinel m)
  | latchMax value sentinel =>
      exact congrArg (Prod.mk ElementAnswer.done) (h.latch type.greater type.equal value sentinel m)

end

end Access

/-! ## The slate -/

namespace Runtime

variable (rt : Runtime)

/-- The bytes of an element. -/
def access (id size : Nat) : Access SlateMemory where
  load slate :=
    fromBytes (fun i => slate ((rt.breakdown id).shard, (rt.breakdown id).offset + i)) size
  write bits slate :=
    overwrite (valueChange (rt.breakdown id).shard (rt.breakdown id).offset size bits) slate

/-- A call on the slate. -/
def slateCall (c : ElementCall) (slate : SlateMemory) : ElementAnswer × SlateMemory :=
  (rt.access c.element.id c.type.size).perform (rt.breakdown c.element.id)
    (rt.accepts c.element.id) c.type c.op slate

/-- Elements that are set by command are stored in the same way. -/
theorem store_eq_access (elem : Element) (bits : Nat) (slate : SlateMemory) :
    rt.store elem bits slate =
      let (successful, stored) := (rt.access elem.id (rt.size elem)).store
        (rt.breakdown elem.id).mayWrite (rt.breakdown elem.id).hasValidator
        (rt.accepts elem.id) bits slate
      if successful then some stored else none := by
  unfold store Access.store load change access
  dsimp only
  split_ifs <;> simp_all

end Runtime

/-! ## Cells -/

/-- The bytes of each root element, by its path. -/
abbrev Cells := String → Nat → UInt8

/-- A part of the value of a root element. -/
structure Window where
  root : String
  start : Nat
  size : Nat
deriving DecidableEq

/-- The bytes of a window. -/
def Window.access (w : Window) : Access Cells where
  load cells := fromBytes (fun i => cells w.root (w.start + i)) w.size
  write bits cells := fun path i =>
    if path = w.root ∧ w.start ≤ i ∧ i < w.start + w.size then toByte bits (i - w.start)
    else cells path i

namespace SlateLayout

variable {V : Type} {o : Outside V} {l : SlateLayout V}

variable (l) in
/-- The root element at a path. -/
def rootAt (path : String) : Option SlateElement :=
  l.elements.find? fun element => element.path = path ∧ element.metadata.isViewElement = false

variable (l) in
/-- A root element that the element is a part of. -/
def rootOf (element : SlateElement) : Option SlateElement :=
  l.elements.find? fun root =>
    root.metadata.isViewElement = false ∧ root.metadata.shard = element.metadata.shard ∧
      root.metadata.valueOffset ≤ element.metadata.valueOffset ∧
      element.metadata.valueOffset + element.metadata.valueSize ≤
        root.metadata.valueOffset + root.metadata.valueSize

variable (l) in
/-- The element at a path, as a part of the value of its root. -/
def windowAt (path : String) : Option Window :=
  match l.getElementAt path with
  | .error _ => none
  | .ok element =>
      (l.rootOf element).map fun root =>
        ⟨root.path, element.metadata.valueOffset - root.metadata.valueOffset,
          element.metadata.valueSize⟩

variable (l) in
/-- The values in a slate. -/
def cells (slate : SlateMemory) : Cells := fun path i =>
  match l.rootAt path with
  | none => 0
  | some root =>
      if i < root.metadata.valueSize then
        slate (root.metadata.shard, root.metadata.valueOffset + i)
      else 0

variable (l) in
/-- A call on the cells. The parts of the id are only asked for the permissions. -/
def cellCall (rt : Runtime) (c : ElementCall) (cells : Cells) : ElementAnswer × Cells :=
  match l.windowAt c.element.path with
  | none => (.done, cells)
  | some w =>
      w.access.perform (rt.breakdown c.element.id) (rt.accepts c.element.id) c.type c.op cells

/-- Looking up the path of a root element finds it. -/
theorem root_at_eq (hl : l.Tables o) {root : SlateElement} (h : root ∈ l.elements)
    (hroot : root.metadata.isViewElement = false) : l.rootAt root.path = some root := by
  have hexists : (l.rootAt root.path).isSome = true := by
    rw [rootAt, List.find?_isSome]
    exact ⟨root, h, by simp [hroot]⟩
  obtain ⟨found, hfound⟩ := Option.isSome_iff_exists.1 hexists
  have hpath : found.path = root.path ∧ found.metadata.isViewElement = false := by
    simpa using List.find?_some hfound
  rw [hfound, hl.eq_of_path (List.mem_of_find?_eq_some hfound) h hpath.1]

/-- What a lookup of roots finds is a root of the layout. -/
theorem root_at_some {path : String} {root : SlateElement} (h : l.rootAt path = some root) :
    root ∈ l.elements ∧ root.path = path ∧ root.metadata.isViewElement = false := by
  have hpath : root.path = path ∧ root.metadata.isViewElement = false := by
    simpa using List.find?_some h
  exact ⟨List.mem_of_find?_eq_some h, hpath⟩

/-- The root of an element lies in the same shard and holds the element's bytes. -/
theorem root_of_some {element root : SlateElement} (h : l.rootOf element = some root) :
    root ∈ l.elements ∧ root.metadata.isViewElement = false ∧
      root.metadata.shard = element.metadata.shard ∧
      element.metadata.span.Within root.metadata.span := by
  have hroot : root.metadata.isViewElement = false ∧
      root.metadata.shard = element.metadata.shard ∧
      root.metadata.valueOffset ≤ element.metadata.valueOffset ∧
      element.metadata.valueOffset + element.metadata.valueSize ≤
        root.metadata.valueOffset + root.metadata.valueSize := by
    simpa using List.find?_some h
  exact ⟨List.mem_of_find?_eq_some h, hroot⟩

/-- The bytes of an element are those of its window. -/
theorem window_represents (hplaced : l.Placed) (hl : l.Tables o) {rt : Runtime}
    {element root : SlateElement} (hroot : l.rootOf element = some root) {id : Nat}
    (hshard : (rt.breakdown id).shard = element.metadata.shard)
    (hoffset : (rt.breakdown id).offset = element.metadata.valueOffset) :
    Access.Represents l.cells (rt.access id element.metadata.valueSize)
      (Window.access ⟨root.path, element.metadata.valueOffset - root.metadata.valueOffset,
        element.metadata.valueSize⟩) := by
  obtain ⟨hmem, hnoView, hsame, hlo, hhi⟩ := root_of_some hroot
  have hlo' : root.metadata.valueOffset ≤ element.metadata.valueOffset := hlo
  have hhi' : element.metadata.valueOffset + element.metadata.valueSize ≤
      root.metadata.valueOffset + root.metadata.valueSize := hhi
  have hat := root_at_eq hl hmem hnoView
  constructor
  case load =>
    intro slate
    refine from_bytes_congr fun i hi => ?_
    have hi' : i < element.metadata.valueSize := hi
    rw [cells, hat]
    dsimp only
    rw [if_pos (by omega), hshard, hoffset, hsame]
    congr 2
    omega
  case write =>
    intro bits slate
    funext path i
    show (if _ then _ else l.cells slate path i) = l.cells _ path i
    cases hpath : l.rootAt path with
    | none =>
        have hne : path ≠ root.path := by
          intro heq
          rw [heq, hat] at hpath
          cases hpath
        rw [if_neg fun h => hne h.1, cells, cells, hpath]
    | some other =>
        obtain ⟨hother, rfl, hotherRoot⟩ := root_at_some hpath
        rw [cells, cells, hpath]
        dsimp only [Runtime.access]
        by_cases hi : i < other.metadata.valueSize
        · rw [if_pos hi, if_pos hi, overwrite, valueChange, hshard, hoffset]
          by_cases heq : other = root
          · subst heq
            by_cases hin : element.metadata.valueOffset - other.metadata.valueOffset ≤ i ∧
                i < element.metadata.valueOffset - other.metadata.valueOffset +
                  element.metadata.valueSize
            · rw [if_pos ⟨rfl, hin⟩, if_pos ⟨hsame, by omega, by omega⟩, Option.getD_some]
              congr 1
              omega
            · rw [if_neg fun h => hin h.2, if_neg fun h => hin (by omega), Option.getD_none]
          · -- the bytes of other root elements are not touched
            have hpathNe : other.path ≠ root.path := fun hpathEq =>
              heq (hl.eq_of_path hother hmem hpathEq)
            have hout : ¬(other.metadata.shard = element.metadata.shard ∧
                element.metadata.valueOffset ≤ other.metadata.valueOffset + i ∧
                other.metadata.valueOffset + i <
                  element.metadata.valueOffset + element.metadata.valueSize) := by
              rintro ⟨hshard', hge, hlt⟩
              refine heq (Built.root_eq_of_overlap hplaced hother hmem hotherRoot hnoView
                (hshard'.trans hsame.symm) fun hdisjoint => ?_)
              refine hdisjoint (other.metadata.valueOffset + i) ⟨⟨?_, ?_⟩, ?_, ?_⟩
              · exact Nat.le_add_right _ _
              · exact Nat.add_lt_add_left hi _
              · exact hlo'.trans hge
              · exact hlt.trans_le hhi'
            rw [if_neg fun h => hpathNe h.1, if_neg hout, Option.getD_none]
        · rw [if_neg hi, if_neg hi]
          by_cases heq : other.path = root.path
          · have hsameRoot : other = root := hl.eq_of_path hother hmem heq
            subst hsameRoot
            rw [if_neg fun h => hi (by omega)]
          · rw [if_neg fun h => heq h.1]

/-- An allocation adds a root element that is not empty, if it adds one. -/
theorem allocate_adds_root (o : Outside V) (hl : l.Chunked) (r : Request V) :
    (l.allocateElement o r).2.elements = l.elements ∨
      ∃ metadata, metadata.isViewElement = false ∧ 0 < metadata.valueSize ∧
        (l.allocateElement o r).2.elements = l.elements ++ [⟨r.path, metadata⟩] := by
  have hallocates := allocate_element_allocates o hl r
  generalize l.allocateElement o r = result at hallocates ⊢
  cases hallocates with
  | @reserves m valueOffset hok hreserves =>
      have hpos := (refusal_eq_none hok).1
      obtain ⟨-, -, hsize, -⟩ := hreserves.fits hl hpos
      obtain ⟨answer, m', hadd, -, -, -, -, -, helements⟩ :=
        add_element_spec o m r.path (metadataAt r valueOffset) r.validator
      have hregistered : (m.registerAt o r valueOffset).2 = m' := by
        rw [registerAt, hadd]
        cases answer <;> rfl
      have hkept : 0 < (metadataAt r valueOffset).valueSize := by
        rw [metadataAt, Nat.mod_eq_of_lt hsize]
        exact hpos
      rw [hregistered, ← hreserves.tables.1]
      exact helements.imp_right fun hadded => ⟨_, rfl, hkept, hadded⟩
  | _ => exact .inl rfl

end SlateLayout

/-! ## Runs -/

namespace Built

variable {V : Type} {o : Outside V} {s : Built V} {element : SlateElement}

/-- No request sets the size of a shard back. -/
def Grows (s : Built V) : BuildCall V → Prop
  | .call (.allocate r) => ¬s.layout.Shrinks r
  | .call (.view _) => True
  | .elementId _ _ => True

/-- What such runs keep: root elements do not overlap and are not empty, and every element lies in
one. -/
structure Based (o : Outside V) (s : Built V) : Prop extends Resolving o s where
  placed : s.layout.Placed
  positive : ∀ root ∈ s.layout.elements, root.metadata.isViewElement = false →
    0 < root.metadata.valueSize
  based : ∀ element ∈ s.layout.elements, ∃ root ∈ s.layout.elements,
    root.metadata.isViewElement = false ∧ root.metadata.shard = element.metadata.shard ∧
      element.metadata.span.Within root.metadata.span

/-- An empty layout is based. -/
theorem fresh_based (o : Outside V) : Based o (fresh V) where
  toResolving := fresh_resolving o
  placed := SlateLayout.fresh_placed V
  positive _ h := by cases h
  based _ h := by cases h

/-- A call that adds an element within a root element keeps it. -/
theorem Based.grow (hs : Based o s) (element : SlateElement) {c : BuildCall V}
    (hnext : Resolving o (step o s c))
    (hplaced : (layoutAfter o s.layout c).Placed)
    (helements : (layoutAfter o s.layout c).elements = s.layout.elements ∨
      (layoutAfter o s.layout c).elements = s.layout.elements ++ [element])
    (hpositive : element.metadata.isViewElement = false → 0 < element.metadata.valueSize)
    (hbased : element.metadata.isViewElement = true → ∃ root ∈ s.layout.elements,
      root.metadata.isViewElement = false ∧ root.metadata.shard = element.metadata.shard ∧
        element.metadata.span.Within root.metadata.span) : Based o (step o s c) := by
  rcases helements with hsame | hadded
  · refine ⟨hnext, hplaced, ?_, ?_⟩
    · show ∀ root ∈ (layoutAfter o s.layout c).elements, _
      rw [hsame]
      exact hs.positive
    · show ∀ element ∈ (layoutAfter o s.layout c).elements,
        ∃ root ∈ (layoutAfter o s.layout c).elements, _
      rw [hsame]
      exact hs.based
  · have hmem : ∀ old ∈ s.layout.elements, old ∈ (layoutAfter o s.layout c).elements := by
      intro old hold
      rw [hadded]
      exact List.mem_append_left _ hold
    have hcases (other : SlateElement) (h : other ∈ (layoutAfter o s.layout c).elements) :
        other ∈ s.layout.elements ∨ other = element := by
      rw [hadded, List.mem_append, List.mem_singleton] at h
      exact h
    refine ⟨hnext, hplaced, fun root hroot hnoView => ?_, fun other hother => ?_⟩
    · rcases hcases root hroot with hold | rfl
      · exact hs.positive root hold hnoView
      · exact hpositive hnoView
    · rcases hcases other hother with hold | rfl
      · obtain ⟨root, hroot, hrest⟩ := hs.based other hold
        exact ⟨root, hmem root hroot, hrest⟩
      · cases hview : other.metadata.isViewElement with
        | false => exact ⟨other, hother, hview, rfl, .refl _⟩
        | true =>
            obtain ⟨root, hroot, hrest⟩ := hbased hview
            exact ⟨root, hmem root hroot, hrest⟩

/-- A call that grows the layout keeps every view based on a root. -/
theorem Based.step (hlaws : LookupLaws o) (hs : Based o s) {c : BuildCall V} (hc : Grows s c) :
    Based o (step o s c) := by
  have hnext := hs.toResolving.step hlaws c
  cases c with
  | elementId path access => exact ⟨hnext, hs.placed, hs.positive, hs.based⟩
  | call c =>
      cases c with
      | allocate r =>
          have hplaced := SlateLayout.placed_allocate o hs.placed hc
          rcases SlateLayout.allocate_adds_root o hs.chunked r with
            hsame | ⟨metadata, hnoView, hpos, hadded⟩
          · exact hs.grow ⟨r.path, ⟨0, .sync, 0, 1, .slatePrivate, 0, false⟩⟩ hnext hplaced
              (.inl hsame) (fun _ => Nat.one_pos) fun hview => by cases hview
          · refine hs.grow ⟨r.path, metadata⟩ hnext hplaced (.inr hadded) (fun _ => hpos)
              fun hview => ?_
            exact absurd (hview.symm.trans hnoView) Bool.noConfusion
      | view v =>
          have hplaced := SlateLayout.placed_view o hs.placed v
          rcases SlateLayout.view_tables o s.layout v with
            ⟨-, hsame⟩ | ⟨parent, id, hsize, -, -, hparent, hchecks, -, hstep⟩
          · have hsame' : layoutAfter o s.layout (.call (.view v)) = s.layout := hsame
            refine ⟨hnext, hplaced, ?_, ?_⟩
            · show ∀ root ∈ (layoutAfter o s.layout (.call (.view v))).elements, _
              rw [hsame']
              exact hs.positive
            · show ∀ element ∈ (layoutAfter o s.layout (.call (.view v))).elements,
                ∃ root ∈ (layoutAfter o s.layout (.call (.view v))).elements, _
              rw [hsame']
              exact hs.based
          · -- the parent has a root, which holds the view too
            have hmem := SlateLayout.parent_found hlaws.toPathMapLaws hparent
            obtain ⟨root, hroot, hnoView, hshard, hwithin⟩ := hs.based parent hmem
            have helements := (hstep.tables hlaws.toPathMapLaws hs.tables
              (.inl hlaws.noValidator)).2.2.imp And.left And.left
            refine hs.grow _ hnext hplaced helements (fun hview => by cases hview) fun _ => ?_
            exact ⟨root, hroot, hnoView, hshard,
              view_within hsize hchecks hwithin (hs.placed.root_end_lt hroot hnoView)⟩

/-- Hence a whole run of such calls does. -/
theorem run_based (hlaws : LookupLaws o) {calls : List (BuildCall V)}
    (h : Along (Built.step o) Grows (fresh V) calls) : Based o (run o calls (fresh V)) :=
  h.invariant (fresh_based o) fun _ _ hs hc => hs.step hlaws hc

end Built

/-- A packed id carries the shard and the offset of its element, whether it may write or not. -/
structure BreakdownLaws {V : Type} (o : Outside V) (rt : Runtime) : Prop where
  built : ∀ {mayWrite hasValidator : Bool} {shard : Shard} {valueOffset idx id : Nat},
    o.slateIdBuildup mayWrite hasValidator shard valueOffset idx = some id →
      (rt.breakdown id).shard = shard ∧ (rt.breakdown id).offset = valueOffset
  readOnly : ∀ id, (rt.breakdown (o.slateIdRo id)).shard = (rt.breakdown id).shard ∧
    (rt.breakdown (o.slateIdRo id)).offset = (rt.breakdown id).offset

section

variable {V : Type} {o : Outside V} {rt : Runtime} {s : Built V} {element : SlateElement}

/-- The id of an element carries its place. -/
theorem Built.BuiltFrom.place (hbreak : BreakdownLaws o rt) {l : SlateLayout V} {id : Nat}
    (h : Built.BuiltFrom o l element id) :
    (rt.breakdown id).shard = element.metadata.shard ∧
      (rt.breakdown id).offset = element.metadata.valueOffset := by
  obtain ⟨mayWrite, built, hbuildup, rfl | rfl⟩ := h
  · exact hbreak.built hbuildup
  · rw [(hbreak.readOnly built).1, (hbreak.readOnly built).2]
    exact hbreak.built hbuildup

/-- An element that was given an id is a part of the value of a root element. -/
theorem Built.Based.window (hs : Built.Based o s) (hmem : element ∈ s.layout.elements) :
    ∃ root, s.layout.rootOf element = some root ∧ s.layout.windowAt element.path =
      some ⟨root.path, element.metadata.valueOffset - root.metadata.valueOffset,
        element.metadata.valueSize⟩ := by
  have hexists : (s.layout.rootOf element).isSome = true := by
    rw [SlateLayout.rootOf, List.find?_isSome]
    obtain ⟨root, hroot, hnoView, hshard, hlo, hhi⟩ := hs.based element hmem
    have hlo' : root.metadata.valueOffset ≤ element.metadata.valueOffset := hlo
    have hhi' : element.metadata.valueOffset + element.metadata.valueSize ≤
        root.metadata.valueOffset + root.metadata.valueSize := hhi
    exact ⟨root, hroot, by simp [hnoView, hshard, hlo', hhi']⟩
  obtain ⟨root, hroot⟩ := Option.isSome_iff_exists.1 hexists
  refine ⟨root, hroot, ?_⟩
  rw [SlateLayout.windowAt, SlateLayout.get_element_at_of_mem hs.tables hmem]
  dsimp only
  rw [hroot]
  rfl

/-- The window of a root element is its whole value. -/
theorem Built.Based.window_of_root (hs : Built.Based o s) (hmem : element ∈ s.layout.elements)
    (hnoView : element.metadata.isViewElement = false) :
    s.layout.windowAt element.path = some ⟨element.path, 0, element.metadata.valueSize⟩ := by
  obtain ⟨root, hroot, hwindow⟩ := hs.window hmem
  obtain ⟨hrootMem, hrootNoView, hshard, hwithin⟩ := SlateLayout.root_of_some hroot
  have hpos := hs.positive element hmem hnoView
  have hsame : element = root := by
    refine Built.root_eq_of_overlap hs.placed hmem hrootMem hnoView hrootNoView hshard.symm
      fun hdisjoint => ?_
    have hin : element.metadata.span.Contains element.metadata.valueOffset :=
      ⟨Nat.le_refl _, Nat.lt_add_of_pos_right hpos⟩
    exact hdisjoint _ ⟨hin, hwithin.contains hin⟩
  rw [hwindow, ← hsame, Nat.sub_self]

/-- The element call uses an id that was given out, with the size that the element has. -/
def ElementCall.Typed (s : Built V) (c : ElementCall) : Prop :=
  c.element ∈ s.issued ∧ ∀ element ∈ s.layout.elements, element.path = c.element.path →
    element.metadata.valueSize = c.type.size

/-- A call on the slate does what it does on the cells. -/
theorem Built.Based.call_agrees (hs : Built.Based o s) (hbreak : BreakdownLaws o rt)
    {c : ElementCall} (hc : c.Typed s) :
    Agrees s.layout.cells rt.slateCall (s.layout.cellCall rt) c := by
  obtain ⟨hissued, htyped⟩ := hc
  obtain ⟨element, hmem, hpath, hfrom⟩ := hs.issued c.element hissued
  obtain ⟨hshard, hoffset⟩ := hfrom.place hbreak
  obtain ⟨root, hroot, hwindow⟩ := hs.window hmem
  have hrepresents := SlateLayout.window_represents hs.placed hs.tables hroot hshard hoffset
  intro slate
  rw [SlateLayout.cellCall, ← hpath, hwindow, Runtime.slateCall, ← htyped element hmem hpath]
  exact hrepresents.perform _ _ c.type c.op slate

/-- In a layout in which no request has set the size of a shard back, the slate has an independent
value for each root element, of which views are windows: whatever is loaded, stored, written through
references and latched, by any ids that were given out, all answers are those of the cells. -/
theorem slate_refines_cells (hlaws : LookupLaws o) (hbreak : BreakdownLaws o rt)
    {calls : List (BuildCall V)} (h : Along (Built.step o) Built.Grows (.fresh V) calls) :
    let s := Built.run o calls (.fresh V)
    (∀ root ∈ s.layout.elements, root.metadata.isViewElement = false →
      s.layout.windowAt root.path = some ⟨root.path, 0, root.metadata.valueSize⟩) ∧
    (∀ element ∈ s.layout.elements, (s.layout.windowAt element.path).isSome = true) ∧
    ∀ (ops : List ElementCall), (∀ c ∈ ops, c.Typed s) → ∀ slate,
      answers (s.layout.cellCall rt) ops (s.layout.cells slate) =
        ((answers rt.slateCall ops slate).1,
          s.layout.cells (answers rt.slateCall ops slate).2) := by
  have hs := Built.run_based hlaws h
  refine ⟨fun root => hs.window_of_root, fun element hmem => ?_, fun ops hops slate => ?_⟩
  · obtain ⟨root, -, hwindow⟩ := hs.window hmem
    show (Option.isSome (SlateLayout.windowAt _ _)) = true
    rw [hwindow]
    rfl
  · exact answers_abstraction (fun c hc => hs.call_agrees hbreak (hops c hc)) slate

end

namespace Sample

def shardNumber : Shard → Nat
  | .static => 0
  | .sync => 1
  | .nonsync => 2
  | .cyclic => 3
  | .syncNoTelem => 4
  | .nonsyncNoTelem => 5
  | .cyclicNoTelem => 6

def shardOfNumber : Nat → Shard
  | 0 => .static
  | 1 => .sync
  | 2 => .nonsync
  | 3 => .cyclic
  | 4 => .syncNoTelem
  | 5 => .nonsyncNoTelem
  | _ => .cyclicNoTelem

/-- Outside code whose ids carry two flags, an offset of 32 bits, a shard and an index. -/
def packed : Outside Bool :=
  { outside with
    slateIdBuildup := fun mayWrite hasValidator shard valueOffset idx =>
      if valueOffset < 4294967296 then
        some (4 * (4294967296 * (8 * idx + shardNumber shard) + valueOffset) +
          2 * hasValidator.toNat + mayWrite.toNat)
      else none
    slateIdIndex := fun id => id / 137438953472 }

/-- A runtime for these ids. The only validator refuses values above 100. -/
def packedRuntime : Runtime where
  ulongIs64 := true
  breakdown id :=
    { mayWrite := id % 2 = 1
      hasValidator := id / 2 % 2 = 1
      shard := shardOfNumber (id / 17179869184 % 8)
      offset := id / 4 % 4294967296 }
  accepts _ newBits _ := newBits ≤ 100

/-- The numbers of the shards fit three bits and read back. -/
theorem shard_number_lt (shard : Shard) :
    shardNumber shard < 8 ∧ shardOfNumber (shardNumber shard) = shard := by
  cases shard <;> exact ⟨by decide, rfl⟩

/-- What an id that is built consists of. -/
theorem packed_buildup {mayWrite hasValidator : Bool} {shard : Shard} {valueOffset idx id : Nat}
    (h : packed.slateIdBuildup mayWrite hasValidator shard valueOffset idx = some id) :
    valueOffset < 4294967296 ∧ hasValidator.toNat ≤ 1 ∧ mayWrite.toNat ≤ 1 ∧
      id = 4 * (4294967296 * (8 * idx + shardNumber shard) + valueOffset) +
        2 * hasValidator.toNat + mayWrite.toNat := by
  simp only [packed] at h
  split_ifs at h with hlt
  exact ⟨hlt, Bool.toNat_le hasValidator, Bool.toNat_le mayWrite, (Option.some.inj h).symm⟩

/-- The packed identifiers meet what is asked of lookups. -/
theorem packed_laws : LookupLaws packed where
  stable := path_map_laws.stable
  injective := path_map_laws.injective
  found := path_map_laws.found
  leads := lookup_laws.leads
  buildup {mayWrite hasValidator shard valueOffset idx id} h := by
    obtain ⟨-, -, -, rfl⟩ := packed_buildup h
    cases mayWrite <;> cases hasValidator <;> simp [packed, outside] <;> omega
  readOnly id := id_laws.readOnly id
  noValidator := rfl
  index {mayWrite hasValidator shard valueOffset idx id} h := by
    obtain ⟨hlt, hvalidator, hwrite, rfl⟩ := packed_buildup h
    have hshard := (shard_number_lt shard).1
    show _ / 137438953472 = idx
    omega
  readOnlyIndex id := by
    show (id - id % 2) / 137438953472 = id / 137438953472
    omega

/-- They break down into the shard, index and position they were packed from. -/
theorem packed_breakdown : BreakdownLaws packed packedRuntime where
  built {mayWrite hasValidator shard valueOffset idx id} h := by
    obtain ⟨hlt, hvalidator, hwrite, rfl⟩ := packed_buildup h
    obtain ⟨hshard, hinverse⟩ := shard_number_lt shard
    refine ⟨?_, ?_⟩
    · refine Eq.trans (congrArg shardOfNumber ?_) hinverse
      omega
    · show _ / 4 % 4294967296 = valueOffset
      omega
  readOnly id := by
    refine ⟨congrArg shardOfNumber ?_, ?_⟩
    · show (id - id % 2) / 17179869184 % 8 = id / 17179869184 % 8
      omega
    · show (id - id % 2) / 4 % 4294967296 = id / 4 % 4294967296
      omega

/-- A flag of eight bytes, a view of its upper half, and a parameter with a validator. -/
def flagViewLimit : List (BuildCall Bool) :=
  [.call (.allocate (request "nav.flag" 8 8 eight_lt_size eight_lt_size)),
    .call (.view ⟨17179869185, 1, 4, "nav.high", 1, 4, 4, 0⟩),
    .call (.allocate
      { request "nav.limit" 8 8 eight_lt_size eight_lt_size with validator := false })]

/-- Every call of the sample run grows the layout. -/
theorem flag_view_limit_grows :
    Along (Built.step packed) Built.Grows (.fresh Bool) flagViewLimit :=
  ⟨fun h => absurd h.overflows (by decide), trivial, fun h => absurd h.overflows (by decide),
    trivial⟩

/-- Natural numbers of some bytes. -/
def numbers (size : Nat) : ValueType where
  size
  less a b := a < b
  greater a b := b < a
  equal a b := a = b

def flag : Issued := ⟨17179869185, "nav.flag"⟩

def high : Issued := ⟨154618822673, "nav.high"⟩

def limit : Issued := ⟨292057776163, "nav.limit"⟩

/-- Stores to the view and to the parameter, which refuses one, and a load of the flag. -/
def storeAndLoad : List ElementCall :=
  [⟨flag, numbers 8, .write 7⟩, ⟨high, numbers 4, .latchMax 3 none⟩,
    ⟨limit, numbers 8, .store 200⟩, ⟨limit, numbers 8, .store 5⟩, ⟨flag, numbers 8, .load⟩]

end Sample

/-- The flag holds what was written to it and, above, to its view. -/
theorem flag_refines :
    let s := Built.run Sample.packed Sample.flagViewLimit (.fresh Bool)
    let stored := answers Sample.packedRuntime.slateCall Sample.storeAndLoad Sample.zeros
    answers (s.layout.cellCall Sample.packedRuntime) Sample.storeAndLoad
        (s.layout.cells Sample.zeros) = (stored.1, s.layout.cells stored.2) ∧
      stored.1 =
        [.done, .done, .stored false, .stored true, .loaded (7 + 3 * 4294967296)] := by
  refine ⟨(slate_refines_cells Sample.packed_laws Sample.packed_breakdown
    Sample.flag_view_limit_grows).2.2 Sample.storeAndLoad ?_ Sample.zeros, by decide +kernel⟩
  unfold ElementCall.Typed
  decide +kernel

end Codon.Slate
