import Mathlib.Data.List.Pairwise
import Codon.Slate.Views

/-!
# Validators and views

A view has no validator of its own, so an id of a view of an element with a validator lets
its bytes be written without validation. `create_view_element` refuses such a view only if
the access policy of the element allows writing, but the id of the element may be writable
nevertheless, and so may that of the view. As long as no such view passes the checks
(`Guarded`), every id that may write the bytes of an element with a validator carries the
flag (`guarded_ids_validate`).
-/

namespace Codon.Slate

open Codon.Library

variable {V : Type} {o : Outside V} {l l' m : SlateLayout V} {r : Request V} {v : ViewRequest}

/-- An id that a call has given out, and the path of its element. -/
structure Issued where
  id : Nat
  path : String
deriving DecidableEq

/-- A layout, and the ids that have been given out. -/
structure Built (V : Type) where
  layout : SlateLayout V
  issued : List Issued

/-- A call that adds an element, or one for the id of an element with at least some access. -/
inductive BuildCall (V : Type) where
  | call (c : SlateLayout.Call V)
  | elementId (path : String) (access : ElemAccess)

namespace Built

/-- Nothing has been built. -/
def fresh (V : Type) : Built V := ⟨.fresh V, []⟩

/-- The id that a call gives out. -/
def issue? (o : Outside V) (l : SlateLayout V) : BuildCall V → Option Issued
  | .call (.allocate r) => (l.allocateElement o r).1.toOption.map fun answer => ⟨answer.1, r.path⟩
  | .call (.view v) => (l.createViewElement o v).1.toOption.map fun id => ⟨id, v.path⟩
  | .elementId path access =>
      (l.elements.find? fun element => element.path = path).bind fun element =>
        (l.buildElementId o path element.metadata access).toOption.map fun id => ⟨id, path⟩

/-- The layout after a call. -/
def layoutAfter (o : Outside V) (l : SlateLayout V) : BuildCall V → SlateLayout V
  | .call c => l.call o c
  | .elementId _ _ => l

/-- One call. -/
def step (o : Outside V) (s : Built V) (c : BuildCall V) : Built V :=
  ⟨layoutAfter o s.layout c, (issue? o s.layout c).toList ++ s.issued⟩

/-- A sequence of calls. -/
def run (o : Outside V) (calls : List (BuildCall V)) (s : Built V) : Built V :=
  calls.foldl (step o) s

/-- Every id that may write and whose bytes overlap those of an element with a validator carries
the flag. -/
def Validates (o : Outside V) (s : Built V) : Prop :=
  ∀ i ∈ s.issued, o.slateIdCanWrite i.id = true →
    ∀ element ∈ s.layout.elements, element.path = i.path →
      ∀ target ∈ s.layout.elements, SlateLayout.hasValidator o s.layout target.path = true →
        target.metadata.shard = element.metadata.shard →
          ¬element.metadata.span.Disjoint target.metadata.span →
            o.slateIdHasValidator i.id = true

/-- The view is one of an element that has a validator, and the checks let it pass. -/
structure Bypasses (o : Outside V) (l : SlateLayout V) (v : ViewRequest) : Prop where
  size : v.valueSize ≠ 0
  alignment : notPowerOfTwo v.alignment = false
  alignment_le : v.alignment ≤ maxAlignment
  parent : ∃ parent, l.getElement o v.parentId v.parentTypeId = .ok parent ∧
    SlateLayout.hasValidator o l parent.path = true ∧ l.viewRefusal? o v parent.metadata = none

/-- No request sets the size of a shard back, and no view of an element that has a validator
passes the checks. -/
def Guarded (o : Outside V) (l : SlateLayout V) : BuildCall V → Prop
  | .call (.allocate r) => ¬l.Shrinks r
  | .call (.view v) => ¬Bypasses o l v
  | .elementId _ _ => True

/-- Every call of a run is guarded when it is made. -/
def GuardedRun (o : Outside V) : List (BuildCall V) → Built V → Prop
  | [], _ => True
  | c :: calls, s => Guarded o s.layout c ∧ GuardedRun o calls (step o s c)

/-- What a guarded run keeps: root elements do not overlap, every view lies in a root element
without validator, and every id carries the flag if its element has a validator. -/
structure Unaliased (o : Outside V) (s : Built V) : Prop where
  placed : s.layout.Placed
  tables : s.layout.Tables o
  views : ∀ element ∈ s.layout.elements, element.metadata.isViewElement = true →
    ∃ root ∈ s.layout.elements, root.metadata.isViewElement = false ∧
      root.metadata.shard = element.metadata.shard ∧
      element.metadata.span.Within root.metadata.span ∧
      SlateLayout.hasValidator o s.layout root.path = false
  issued : ∀ i ∈ s.issued, ∃ element ∈ s.layout.elements, element.path = i.path ∧
    o.slateIdHasValidator i.id = SlateLayout.hasValidator o s.layout element.path

/-- Two root elements of a shard that overlap are the same. -/
theorem root_eq_of_overlap (hl : l.Placed) {root root' : SlateElement} (h : root ∈ l.elements)
    (h' : root' ∈ l.elements) (hview : root.metadata.isViewElement = false)
    (hview' : root'.metadata.isViewElement = false)
    (hshard : root.metadata.shard = root'.metadata.shard)
    (hoverlap : ¬root.metadata.span.Disjoint root'.metadata.span) : root = root' := by
  by_contra hne
  have hpairwise := List.pairwise_map.1 (hl.pairwise root'.metadata.shard)
  have hsymm : Std.Symm fun element element' : SlateElement =>
      element.metadata.span.Disjoint element'.metadata.span := ⟨fun _ _ => Span.Disjoint.symm⟩
  refine hoverlap (hpairwise.forall ?_ ?_ hne)
  · exact List.mem_filter.2 ⟨h, by simp [SlateElement.isRootOf, hview, hshard]⟩
  · exact List.mem_filter.2 ⟨h', by simp [SlateElement.isRootOf, hview']⟩

/-- What a guarded run keeps is enough. -/
theorem Unaliased.validates (hmap : PathMapLaws o) {s : Built V} (hs : Unaliased o s) :
    Validates o s := by
  intro i hi _ element helement hpath target htarget hvalidator hshard hoverlap
  have hroot := hs.tables.root_of_validator hmap htarget hvalidator
  obtain ⟨element', helement', hpath', hflag⟩ := hs.issued i hi
  rw [hs.tables.eq_of_path helement' helement (hpath'.trans hpath.symm)] at hflag
  rw [hflag]
  cases hview : element.metadata.isViewElement with
  | false =>
      rw [root_eq_of_overlap hs.placed helement htarget hview hroot hshard.symm hoverlap]
      exact hvalidator
  | true =>
      -- the root element below the view would be the target, but it has no validator
      obtain ⟨root, hmem, hnoView, hshard', hwithin, hnone⟩ := hs.views element helement hview
      have hsame := root_eq_of_overlap hs.placed hmem htarget hnoView hroot
        (hshard'.trans hshard.symm) (hwithin.overlap hoverlap)
      rw [hsame, hvalidator] at hnone
      cases hnone

/-- The tables change by one step, and an id that is given out carries the flag if a validator has
been given. -/
theorem Unaliased.grow {s : Built V} (hs : Unaliased o s) {path : String}
    {metadata : SlateElementMetadata} {validator : V} {id : Option Nat} {answer : Option Issued}
    (hplaced : l'.Placed)
    (htables : l'.Tables o ∧
      (∀ element ∈ s.layout.elements, SlateLayout.hasValidator o l' element.path =
        SlateLayout.hasValidator o s.layout element.path) ∧
      ((l'.elements = s.layout.elements ∧ id = none) ∨
        l'.elements = s.layout.elements ++ [⟨path, metadata⟩] ∧
          SlateLayout.hasValidator o l' path = (id.isSome && !o.isNoop validator)))
    (hview : metadata.isViewElement = true → ∃ root ∈ s.layout.elements,
      root.metadata.isViewElement = false ∧ root.metadata.shard = metadata.shard ∧
        metadata.span.Within root.metadata.span ∧
        SlateLayout.hasValidator o s.layout root.path = false)
    (hissued : ∀ i ∈ answer, i.path = path ∧ id.isSome = true ∧
      o.slateIdHasValidator i.id = !o.isNoop validator) :
    Unaliased o ⟨l', answer.toList ++ s.issued⟩ := by
  obtain ⟨htables, hkept, helements⟩ := htables
  have hmem (element : SlateElement) (h : element ∈ s.layout.elements) : element ∈ l'.elements := by
    rcases helements with ⟨hsame, -⟩ | ⟨hadded, -⟩
    · rwa [hsame]
    · rw [hadded]
      exact List.mem_append_left _ h
  refine ⟨hplaced, htables, fun element helement hisView => ?_, fun i hi => ?_⟩
  · have hroot : ∃ root ∈ s.layout.elements, root.metadata.isViewElement = false ∧
        root.metadata.shard = element.metadata.shard ∧
        element.metadata.span.Within root.metadata.span ∧
        SlateLayout.hasValidator o s.layout root.path = false := by
      rcases helements with ⟨hsame, -⟩ | ⟨hadded, -⟩
      · exact hs.views element (hsame ▸ helement) hisView
      · rw [hadded] at helement
        rcases List.mem_append.1 helement with hold | hnew
        · exact hs.views element hold hisView
        · rw [List.mem_singleton] at hnew
          subst hnew
          exact hview hisView
    obtain ⟨root, hroot, hnoView, hshard, hwithin, hnone⟩ := hroot
    exact ⟨root, hmem root hroot, hnoView, hshard, hwithin, (hkept root hroot).trans hnone⟩
  · rcases List.mem_append.1 hi with hnew | hold
    · obtain ⟨hpath, hid, hflag⟩ := hissued i (Option.mem_toList.1 hnew)
      rcases helements with ⟨-, hnone⟩ | ⟨hadded, hvalidator⟩
      · rw [hnone] at hid
        cases hid
      · refine ⟨⟨path, metadata⟩, by simp [hadded], hpath.symm, ?_⟩
        rw [hflag, hvalidator, hid, Bool.true_and]
    · obtain ⟨element, helement, hpath, hflag⟩ := hs.issued i hold
      exact ⟨element, hmem element helement, hpath, hflag.trans (hkept element helement).symm⟩

/-- A guarded allocation keeps it. -/
theorem Unaliased.allocate (hmap : PathMapLaws o) (hids : IdLaws o) {s : Built V}
    (hs : Unaliased o s) (hshrinks : ¬s.layout.Shrinks r) :
    Unaliased o (step o s (.call (.allocate r))) := by
  obtain ⟨valueOffset, hstep⟩ := SlateLayout.allocate_tables o hs.placed.toChunked r
  refine hs.grow (SlateLayout.placed_allocate o hs.placed hshrinks)
    (hstep.tables hmap hs.tables (.inr rfl)) (fun hview => by cases hview) fun i hi => ?_
  obtain ⟨answer, hanswer, rfl⟩ := Option.map_eq_some_iff.1 hi
  rw [hanswer] at hstep ⊢
  cases hstep with
  | added _ _ hid _ => exact ⟨rfl, rfl, (hids.buildup hid).2⟩

/-- The root element below an element without validator. -/
theorem Unaliased.root_below {s : Built V} (hs : Unaliased o s) {element : SlateElement}
    (h : element ∈ s.layout.elements)
    (hnone : SlateLayout.hasValidator o s.layout element.path = false) :
    ∃ root ∈ s.layout.elements, root.metadata.isViewElement = false ∧
      root.metadata.shard = element.metadata.shard ∧
      element.metadata.span.Within root.metadata.span ∧
      SlateLayout.hasValidator o s.layout root.path = false := by
  cases hview : element.metadata.isViewElement with
  | false => exact ⟨element, h, hview, rfl, .refl _, hnone⟩
  | true => exact hs.views element h hview

/-- A view lies within what its parent lies within. -/
theorem view_within {parent : SlateElementMetadata} {root : Span} (hsize : v.valueSize ≠ 0)
    (h : l.viewRefusal? o v parent = none) (hwithin : parent.span.Within root)
    (hend : 0 < root.size → root.start + root.size < 2 ^ 32) :
    (SlateLayout.viewMetadata v parent).span.Within root := by
  have hpos : 0 < parent.valueSize := by
    unfold SlateLayout.viewRefusal? at h
    split_ifs at h
    omega
  have hfits : parent.Fits := by
    obtain ⟨hlo, hhi⟩ := hwithin
    simp only [SlateElementMetadata.span] at hlo hhi
    have hlt := hend (by omega)
    exact ⟨by omega, by omega⟩
  exact (view_within_parent hsize h hfits).2.2.trans hwithin

/-- A guarded view keeps it. -/
theorem Unaliased.view (hmap : PathMapLaws o) (hids : IdLaws o) {s : Built V}
    (hs : Unaliased o s) (hguard : Guarded o s.layout (.call (.view v))) :
    Unaliased o (step o s (.call (.view v))) := by
  have hplaced := SlateLayout.placed_view o hs.placed v
  rcases SlateLayout.view_tables o s.layout v with
    ⟨hnone, hsame⟩ | ⟨parent, id, hsize, hpower, hmax, hparent, hchecks, hanswer, hstep⟩
  · rw [Built.step, layoutAfter, issue?, SlateLayout.call, hnone, hsame]
    exact hs
  have hmem := SlateLayout.parent_found hmap hparent
  have hnone : SlateLayout.hasValidator o s.layout parent.path = false :=
    Bool.eq_false_of_not_eq_true fun hvalidator =>
      hguard ⟨hsize, hpower, hmax, parent, hparent, hvalidator, hchecks⟩
  obtain ⟨root, hroot, hnoView, hshard, hwithin, hnoValidator⟩ := hs.root_below hmem hnone
  refine hs.grow hplaced (hstep.tables hmap hs.tables (.inl hids.noValidator)) (fun _ => ?_)
    fun i hi => ?_
  · exact ⟨root, hroot, hnoView, hshard,
      view_within hsize hchecks hwithin (hs.placed.root_end_lt hroot hnoView), hnoValidator⟩
  · obtain ⟨given, hgiven, rfl⟩ := Option.map_eq_some_iff.1 hi
    rw [hanswer] at hgiven
    obtain ⟨given', rfl, hread⟩ := Option.map_eq_some_iff.1 hgiven
    cases hstep with
    | added _ _ hid _ =>
        have hflag := (hids.buildup hid).2
        refine ⟨rfl, rfl, ?_⟩
        rw [← hflag, ← hread]
        split
        next => rfl
        next => exact (hids.readOnly given').2

/-- The id of an element carries the flag if the element has a validator. -/
theorem build_element_id_flag (hids : IdLaws o) {path : String} {metadata : SlateElementMetadata}
    {access : ElemAccess} {id : Nat} (h : l.buildElementId o path metadata access = .ok id) :
    o.slateIdHasValidator id = l.hasValidator o path := by
  obtain ⟨mayWrite, hbuildup⟩ := SlateLayout.build_element_id_eq_ok h
  exact (hids.buildup hbuildup).2

/-- A guarded call keeps it. -/
theorem Unaliased.step (hmap : PathMapLaws o) (hids : IdLaws o) {s : Built V} (hs : Unaliased o s)
    {c : BuildCall V} (hc : Guarded o s.layout c) : Unaliased o (step o s c) := by
  cases c with
  | call c =>
      cases c with
      | allocate r => exact hs.allocate hmap hids hc
      | view v => exact hs.view hmap hids hc
  | elementId path access =>
      refine ⟨hs.placed, hs.tables, hs.views, fun i hi => ?_⟩
      rcases List.mem_append.1 hi with hnew | hold
      · obtain ⟨element, hfind, hid⟩ := Option.bind_eq_some_iff.1 (Option.mem_toList.1 hnew)
        obtain ⟨id, hid, rfl⟩ := Option.map_eq_some_iff.1 hid
        refine ⟨element, List.mem_of_find?_eq_some hfind, ?_, ?_⟩
        · simpa using List.find?_some hfind
        · have hpath : element.path = path := by simpa using List.find?_some hfind
          cases hbuild : s.layout.buildElementId o path element.metadata access with
          | error refusal =>
              rw [hbuild] at hid
              cases hid
          | ok id' =>
              rw [hbuild] at hid
              cases hid
              rw [hpath]
              exact build_element_id_flag hids hbuild
      · exact hs.issued i hold

/-- An empty layout has no aliases. -/
theorem fresh_unaliased (o : Outside V) : Unaliased o (fresh V) where
  placed := SlateLayout.fresh_placed V
  tables := SlateLayout.fresh_tables o
  views _ h := by cases h
  issued _ h := by cases h

/-- A guarded run keeps it. -/
theorem run_unaliased (hmap : PathMapLaws o) (hids : IdLaws o) {calls : List (BuildCall V)}
    {s : Built V} (hs : Unaliased o s) (hguard : GuardedRun o calls s) :
    Unaliased o (run o calls s) := by
  induction calls generalizing s with
  | nil => exact hs
  | cons c calls ih =>
      obtain ⟨hc, hcalls⟩ := hguard
      exact ih (hs.step hmap hids hc) hcalls

/-- In a layout that has been built by guarded calls, a write to the bytes of an element with a
validator is validated. -/
theorem guarded_ids_validate (hmap : PathMapLaws o) (hids : IdLaws o)
    (calls : List (BuildCall V)) (hguard : GuardedRun o calls (fresh V)) :
    Validates o (run o calls (fresh V)) :=
  (run_unaliased hmap hids (fresh_unaliased o) hguard).validates hmap

end Built

namespace Sample

/-- A parameter that can be read, with a validator, and a view of it. The id of the parameter
is 3. -/
def limitAndView : List (BuildCall Bool) :=
  [.call (.allocate
      { request "nav.limit" 8 8 eight_lt_size eight_lt_size with
        accessPolicy := .slateReadOnly
        validator := false }),
    .call (.view ⟨3, 1, 0, "nav.alias", 1, 8, 8, 0⟩)]

/-- The writable id of the view, 5, carries no flag, and the bytes of the view are those of the
parameter. -/
theorem view_bypasses_validator :
    ¬Built.Validates outside (Built.run outside limitAndView (.fresh Bool)) := by
  intro h
  have hflag := h ⟨5, "nav.alias"⟩ (by decide) rfl
    ⟨"nav.alias", ⟨1, .sync, 0, 8, .slateReadOnly, 0, true⟩⟩ (by decide) rfl
    ⟨"nav.limit", ⟨1, .sync, 0, 8, .slateReadOnly, 0, false⟩⟩ (by decide) (by decide) rfl
    fun hdisjoint => hdisjoint 0 (by decide)
  exact absurd hflag (by decide)

/-- A flag, a view of it, a view of that view, and a parameter with a validator. The id of the flag
is 1, and that of its view is 5. -/
def viewsAndLimit : List (BuildCall Bool) :=
  [.call (.allocate (request "nav.flag" 8 8 eight_lt_size eight_lt_size)),
    .call (.view ⟨1, 1, 4, "nav.low", 1, 4, 4, 0⟩), .call (.view ⟨5, 1, 0, "nav.bit", 1, 1, 1, 0⟩),
    .call (.allocate
      { request "nav.limit" 8 8 eight_lt_size eight_lt_size with
        accessPolicy := .slateReadOnly
        validator := false }),
    .elementId "nav.limit" .slateReadWrite]

/-- Every call of the sample is guarded. -/
theorem views_and_limit_guarded : Built.GuardedRun outside viewsAndLimit (.fresh Bool) := by
  refine ⟨fun h => absurd h.overflows (by decide), fun h => ?_, fun h => ?_,
    fun h => absurd h.overflows (by decide), trivial, trivial⟩
  · obtain ⟨parent, hparent, hvalidator, -⟩ := h.parent
    cases hparent
    exact absurd hvalidator (by decide)
  · obtain ⟨parent, hparent, hvalidator, -⟩ := h.parent
    cases hparent
    exact absurd hvalidator (by decide)

/-- The theorem on this sample. -/
theorem views_and_limit_validate :
    Built.Validates outside (Built.run outside viewsAndLimit (.fresh Bool)) :=
  Built.guarded_ids_validate path_map_laws id_laws viewsAndLimit views_and_limit_guarded

end Sample

end Codon.Slate
