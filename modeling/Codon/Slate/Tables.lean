import Mathlib.Data.List.Nodup
import Codon.Slate.Placement

/-!
# Elements, ids and validators

The invariants of the element tables. `PathMapLaws` and `IdLaws` state what the layout
relies on of `SlatePathMap`, whose ids are stable, and of the packed ids. Every path has one
element, and the validators are those of root elements (`Tables`). One step of the tables
keeps this, and it leaves the validators of the elements that were there as they are.
-/

namespace Codon.Slate

open Codon.Library

variable {V : Type} {o : Outside V} {l l' m : SlateLayout V} {r : Request V} {v : ViewRequest}
  {path : String} {metadata : SlateElementMetadata} {validator : V} {id : Option Nat}

/-- What the layout relies on of `SlatePathMap`: its ids are stable, belong to one path each, and
lead to elements. -/
structure PathMapLaws (o : Outside V) : Prop where
  stable : ∀ (elements : List SlateElement) (element : SlateElement) (path : String),
    ((elements ++ [element]).map SlateElement.path).Nodup →
      path ∈ elements.map SlateElement.path →
        o.iteratorToId (elements ++ [element]) path = o.iteratorToId elements path
  injective : ∀ (elements : List SlateElement) (path path' : String),
    (elements.map SlateElement.path).Nodup → path ∈ elements.map SlateElement.path →
      path' ∈ elements.map SlateElement.path →
        o.iteratorToId elements path = o.iteratorToId elements path' → path = path'
  found : ∀ (elements : List SlateElement) (idx : Nat) (element : SlateElement),
    o.idToIterator elements idx = some element → element ∈ elements

/-- What the layout relies on of the packed ids and of validators that have been given nothing. -/
structure IdLaws (o : Outside V) : Prop where
  buildup : ∀ {mayWrite hasValidator : Bool} {shard : Shard} {valueOffset idx id : Nat},
    o.slateIdBuildup mayWrite hasValidator shard valueOffset idx = some id →
      o.slateIdCanWrite id = mayWrite ∧ o.slateIdHasValidator id = hasValidator
  readOnly : ∀ id, o.slateIdCanWrite (o.slateIdRo id) = false ∧
    o.slateIdHasValidator (o.slateIdRo id) = o.slateIdHasValidator id
  noValidator : o.isNoop o.noValidator = true

namespace SlateLayout

/-- Every path has one element, and every validator belongs to a root element. -/
structure Tables (o : Outside V) (l : SlateLayout V) : Prop where
  nodup : (l.elements.map SlateElement.path).Nodup
  keys : ∀ entry ∈ l.idxToValidator, ∃ element ∈ l.elements,
    element.metadata.isViewElement = false ∧ o.iteratorToId l.elements element.path = entry.1

/-- The tables of an empty layout agree. -/
theorem fresh_tables (o : Outside V) : (fresh V).Tables o where
  nodup := .nil
  keys _ h := by cases h

/-- An element is known by its path. -/
theorem Tables.eq_of_path (hl : l.Tables o) {element element' : SlateElement}
    (h : element ∈ l.elements) (h' : element' ∈ l.elements) (hpath : element.path = element'.path) :
    element = element' :=
  List.inj_on_of_nodup_map hl.nodup h h' hpath

/-- An element with a validator is a root element. -/
theorem Tables.root_of_validator (hmap : PathMapLaws o) (hl : l.Tables o) {element : SlateElement}
    (h : element ∈ l.elements) (hvalidator : hasValidator o l element.path = true) :
    element.metadata.isViewElement = false := by
  obtain ⟨entry, hentry, hidx⟩ := List.any_eq_true.1 hvalidator
  obtain ⟨root, hroot, hnoView, hkey⟩ := hl.keys entry hentry
  have hpath := hmap.injective l.elements element.path root.path hl.nodup
    (List.mem_map_of_mem h) (List.mem_map_of_mem hroot)
    ((of_decide_eq_true hidx).symm.trans hkey.symm)
  rwa [hl.eq_of_path h hroot hpath]

/-- Paths that are added are new. -/
theorem nodup_append {elements : List SlateElement} {added : SlateElement}
    (hnodup : (elements.map SlateElement.path).Nodup)
    (hnew : ∀ element ∈ elements, element.path ≠ added.path) :
    ((elements ++ [added]).map SlateElement.path).Nodup := by
  rw [List.map_append]
  refine List.nodup_append.2 ⟨hnodup, List.nodup_singleton _, fun p hp q hq heq => ?_⟩
  obtain ⟨element, helement, rfl⟩ := List.mem_map.1 hp
  exact hnew element helement (heq.trans (List.mem_singleton.1 hq))

/-- What registering an element does to the validators: those of the other elements stay as they
are, and the new element has one exactly if one is registered with it. -/
theorem has_validator_append (hmap : PathMapLaws o) (hl : l.Tables o)
    (hnew : ∀ element ∈ l.elements, element.path ≠ path)
    (helements : l'.elements = l.elements ++ [⟨path, metadata⟩]) {validators : List (Nat × V)}
    (hvalidators : l'.idxToValidator = l.idxToValidator ++ validators)
    (hkeys : ∀ entry ∈ validators, o.iteratorToId l'.elements path = entry.1) :
    (∀ element ∈ l.elements, hasValidator o l' element.path = hasValidator o l element.path) ∧
      hasValidator o l' path = !validators.isEmpty := by
  have hnodup : (l'.elements.map SlateElement.path).Nodup := by
    rw [helements]
    exact nodup_append hl.nodup hnew
  -- paths are inserted only, so the indices of those before stay
  have hstable (element : SlateElement) (hmem : element ∈ l.elements) :
      o.iteratorToId l'.elements element.path = o.iteratorToId l.elements element.path := by
    rw [helements]
    exact hmap.stable _ _ _ (helements ▸ hnodup) (List.mem_map_of_mem hmem)
  -- and the new path has an index of its own
  have hdistinct (element : SlateElement) (hmem : element ∈ l.elements) :
      o.iteratorToId l'.elements path ≠ o.iteratorToId l'.elements element.path := by
    intro heq
    refine hnew element hmem (hmap.injective l'.elements _ _ hnodup ?_ ?_ heq).symm
    · rw [helements]
      simp
    · rw [helements]
      exact List.mem_map_of_mem (List.mem_append_left _ hmem)
  constructor
  · intro element hmem
    have hother : (validators.any fun entry =>
        decide (entry.1 = o.iteratorToId l'.elements element.path)) = false := by
      rw [List.any_eq_false]
      intro entry hentry heq
      exact hdistinct element hmem ((hkeys entry hentry).trans (of_decide_eq_true heq))
    rw [hasValidator, hvalidators, List.any_append, hother, Bool.or_false, hstable element hmem,
      hasValidator]
  · have hold : (l.idxToValidator.any fun entry =>
        decide (entry.1 = o.iteratorToId l'.elements path)) = false := by
      rw [List.any_eq_false]
      intro entry hentry heq
      obtain ⟨element, hmem, -, hkey⟩ := hl.keys entry hentry
      refine hdistinct element hmem ?_
      rw [hstable element hmem, hkey]
      exact (of_decide_eq_true heq).symm
    rw [hasValidator, hvalidators, List.any_append, hold, Bool.false_or]
    cases validators with
    | nil => rfl
    | cons entry validators => simp [hkeys entry List.mem_cons_self]

/-- A new element at the end of every table keeps them in agreement. -/
theorem tables_append (hmap : PathMapLaws o) (hl : l.Tables o)
    (hnew : ∀ element ∈ l.elements, element.path ≠ path)
    (helements : l'.elements = l.elements ++ [⟨path, metadata⟩]) {validators : List (Nat × V)}
    (hvalidators : l'.idxToValidator = l.idxToValidator ++ validators)
    (hkeys : ∀ entry ∈ validators, metadata.isViewElement = false ∧
      o.iteratorToId l'.elements path = entry.1) : l'.Tables o := by
  have hnodup : (l'.elements.map SlateElement.path).Nodup := by
    rw [helements]
    exact nodup_append hl.nodup hnew
  refine ⟨hnodup, fun entry hentry => ?_⟩
  rw [hvalidators] at hentry
  rcases List.mem_append.1 hentry with hold | hadded
  · obtain ⟨element, hmem, hnoView, hkey⟩ := hl.keys entry hold
    refine ⟨element, helements ▸ List.mem_append_left _ hmem, hnoView, ?_⟩
    rw [← hkey, helements]
    exact hmap.stable _ _ _ (helements ▸ hnodup) (List.mem_map_of_mem hmem)
  · exact ⟨⟨path, metadata⟩, by simp [helements], hkeys entry hadded⟩

/-- What a step of the tables keeps, and what it does: it adds nothing and gives no id, or it adds
an element, which has a validator if it was given one and got an id. -/
theorem TablesStep.tables (hmap : PathMapLaws o) (hl : l.Tables o)
    (hroot : o.isNoop validator = true ∨ metadata.isViewElement = false)
    (h : TablesStep o l path metadata validator id l') :
    l'.Tables o ∧
      (∀ element ∈ l.elements, hasValidator o l' element.path = hasValidator o l element.path) ∧
      ((l'.elements = l.elements ∧ id = none) ∨
        l'.elements = l.elements ++ [⟨path, metadata⟩] ∧
          hasValidator o l' path = (id.isSome && !o.isNoop validator)) := by
  cases h with
  | unchanged helements hvalidators =>
      refine ⟨⟨?_, ?_⟩, fun element _ => ?_, .inl ⟨helements, rfl⟩⟩
      · rw [helements]
        exact hl.nodup
      · rw [helements, hvalidators]
        exact hl.keys
      · rw [hasValidator, helements, hvalidators, hasValidator]
  | stranded hnew helements hvalidators =>
      rw [← List.append_nil l.idxToValidator] at hvalidators
      have hnone : ∀ entry ∈ ([] : List (Nat × V)), metadata.isViewElement = false ∧
          o.iteratorToId l'.elements path = entry.1 := fun entry hentry => by cases hentry
      obtain ⟨hold, hadded⟩ := has_validator_append hmap hl hnew helements hvalidators
        fun entry hentry => (hnone entry hentry).2
      exact ⟨tables_append hmap hl hnew helements hvalidators hnone, hold, .inr ⟨helements, hadded⟩⟩
  | @added l' i hnew helements hid hvalidators =>
      have hkeys : ∀ entry ∈ (if o.isNoop validator then [] else
          [(o.iteratorToId l'.elements path, validator)]), metadata.isViewElement = false ∧
            o.iteratorToId l'.elements path = entry.1 := by
        intro entry hentry
        split at hentry
        next => cases hentry
        next hnoop =>
          rw [List.mem_singleton] at hentry
          subst hentry
          exact ⟨hroot.resolve_left hnoop, rfl⟩
      obtain ⟨hold, hadded⟩ := has_validator_append hmap hl hnew helements hvalidators
        fun entry hentry => (hkeys entry hentry).2
      refine ⟨tables_append hmap hl hnew helements hvalidators hkeys, hold,
        .inr ⟨helements, hadded.trans ?_⟩⟩
      cases o.isNoop validator <;> rfl

/-- The element that an id leads to. -/
theorem parent_found (hmap : PathMapLaws o) {parentId typeId : Nat}
    {parent : SlateElement} (h : getElement o l parentId typeId = .ok parent) :
    parent ∈ l.elements := by
  unfold getElement at h
  split_ifs at h
  split at h
  next => cases h
  next element hfound =>
    split_ifs at h
    cases h
    exact hmap.found _ _ _ hfound

/-- The id of an element is built from its flag, its place and its index. -/
theorem build_element_id_eq_ok {access : ElemAccess} {id : Nat}
    (h : buildElementId o l path metadata access = .ok id) :
    ∃ mayWrite, o.slateIdBuildup mayWrite (hasValidator o l path) metadata.shard
      metadata.valueOffset (o.iteratorToId l.elements path) = some id := by
  have helim {built : Option Nat} (h : built.elim (Except.error Refusal.idBuildup) .ok = .ok id) :
      built = some id := by
    cases built with
    | none => cases h
    | some id' => exact congrArg some (Except.ok.inj h)
  unfold buildElementId at h
  generalize (if metadata.accessPolicy.level < access.level then access
    else metadata.accessPolicy) = level at h
  split at h
  next => cases h
  next =>
    simp only at h
    split at h
    next => cases h
    next =>
      cases level with
      | slatePrivate => cases h
      | slateReadOnly => exact ⟨false, helim h⟩
      | slateReadWrite => exact ⟨true, helim h⟩

end SlateLayout

namespace Sample

/-- The sample's index of a path leads back to it. -/
theorem path_at_id {elements : List SlateElement} {path : String}
    (h : path ∈ elements.map SlateElement.path) :
    elements[outside.iteratorToId elements path]?.map SlateElement.path = some path := by
  obtain ⟨found, hfound, rfl⟩ := List.mem_map.1 h
  have hexists : ∃ element ∈ elements, (element.path == found.path) = true :=
    ⟨found, hfound, beq_self_eq_true _⟩
  rw [outside, List.findIdx_getElem?_eq_getElem_of_exists hexists]
  have hfirst := List.findIdx_getElem (w := List.findIdx_lt_length_of_exists hexists)
  exact congrArg some (eq_of_beq hfirst)

/-- The sample's path map meets what is asked of it. -/
theorem path_map_laws : PathMapLaws outside where
  stable elements element path _ hmem := by
    obtain ⟨found, hfound, rfl⟩ := List.mem_map.1 hmem
    have hlt : (elements.findIdx fun element => element.path == found.path) < elements.length :=
      List.findIdx_lt_length_of_exists ⟨found, hfound, beq_self_eq_true _⟩
    simp [outside, List.findIdx_append, hlt]
  injective elements path path' _ hmem hmem' heq := by
    have hat := path_at_id hmem
    rw [heq, path_at_id hmem'] at hat
    exact (Option.some.inj hat).symm
  found elements idx element h := List.mem_of_getElem? h

/-- So do its identifiers. -/
theorem id_laws : IdLaws outside where
  buildup {mayWrite hasValidator _ _ _ _} h := by
    cases h
    cases mayWrite <;> cases hasValidator <;> simp [outside] <;> omega
  readOnly id := by
    simp only [outside]
    constructor
    · exact decide_eq_false (by omega)
    · exact decide_eq_decide.2 (by omega)
  noValidator := rfl

end Sample

end Codon.Slate
