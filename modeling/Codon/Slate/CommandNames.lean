import Codon.Library.FirstEntry
import Codon.Slate.CommandInterface
import Codon.Slate.PathSet
import Codon.Slate.Tables

/-!
# The names of elements in commands

`SlateCommandInterface::init` fills the table in which commands look elements up, by the hash of
their names. Every element is to be known by its name relative to the builder and by the same name
after a prefix, which may be a part of the path of the builder. What is stored instead of the latter
is the full path: `init_names_iff` says when that makes no difference.

Not in the source tree are the hash, the numbers of types, `strsuffix` and the table itself, whose
buckets are checked at the end.
-/

namespace Codon.Slate

open Codon.Library

/-- What `init` uses of code that is not in the source tree, over the type of stores. -/
structure CommandOutside (S : Type) where
  isBuilt : S → Bool
  strsuffix : String → String → Bool
  hash : String → Nat
  typeOf : Nat → SlateType
  bucketsFit : List (Nat × Element) → Bool

/-- An integer or a floating-point type. -/
def SlateType.isCommandable : SlateType → Bool
  | .other _ => false
  | _ => true

variable {S P E V : Type}

/-- What the interface relies on of the packed ids: they hold the indices of elements. -/
def IndexLaw (outside : Outside V) : Prop :=
  ∀ {mayWrite hasValidator : Bool} {shard : Shard} {valueOffset idx id : Nat},
    outside.slateIdBuildup mayWrite hasValidator shard valueOffset idx = some id →
      outside.slateIdIndex id = idx

namespace CommandInterface

variable (o : BuilderOutside S P) (listing : ListingOutside S) (outside : Outside V)
  (c : CommandOutside S) (b : SlateBuilder S E) (l : SlateLayout V) (namePrefix : String)

/-- `insert_element`. -/
def insertElement (elements : List (Nat × Element)) (elem : Element) (name : String) :
    Bool × List (Nat × Element) :=
  if name = "" then (false, elements)
  else if (elements.lookup (c.hash name)).isSome then (false, elements)
  else (true, elements ++ [(c.hash name, elem)])

/-- What the loop of `init` inserts for an element, under its relative path. -/
def insertNames (elements : List (Nat × Element)) (elem : Element) (relPath path : String) :
    Bool × List (Nat × Element) :=
  match insertElement c elements elem relPath with
  | (false, elements) => (false, elements)
  | (true, elements) =>
      if namePrefix = "" then (true, elements) else insertElement c elements elem path

/-- The loop of `init`. -/
def initLoop : List SlateElement → List (Nat × Element) → Bool × List (Nat × Element)
  | [], elements => (true, elements)
  | element :: rest, elements =>
      let type := c.typeOf element.metadata.typeId
      if !type.isCommandable then initLoop rest elements
      else
        match o.slateRelPath b.subtreePath element.path with
        | none => initLoop rest elements
        | some relPath =>
            match l.buildElementId outside element.path element.metadata .slateReadWrite with
            | .error _ => (false, elements)
            | .ok id =>
                match insertNames c namePrefix elements ⟨id, type⟩ relPath element.path with
                | (false, elements) => (false, elements)
                | (true, elements) => initLoop rest elements

/-- `init` with a prefix. -/
def init (iface : CommandInterface) : Bool × CommandInterface :=
  if iface.isInit then (false, iface)
  else if !c.strsuffix b.subtreePath namePrefix then (false, iface)
  else if !c.isBuilt b.store then (false, iface)
  else if !listing.isSuperSlate b.store then (false, iface)
  else
    let (inserted, elements) :=
      initLoop o outside c b l namePrefix (listing.inOrder l.elements) iface.elements
    let iface := { iface with elements }
    if !inserted then (false, iface)
    else if elements.isEmpty then (false, iface)
    else if !c.bucketsFit elements then (false, iface)
    else (true, { iface with isInit := true })

/-- An element that can be commanded, and its path relative to the builder. -/
structure NamedBy (element : SlateElement) (relPath : String) : Prop where
  mem : element ∈ l.elements
  type : (c.typeOf element.metadata.typeId).isCommandable = true
  rel : o.slateRelPath b.subtreePath element.path = some relPath

/-- Each element that can be commanded is known by its relative path, with and without the prefix,
and what resolves is one of these names. A name is told from others by its hash. -/
structure NamesResolve (iface : CommandInterface) : Prop where
  resolve : ∀ {element relPath}, NamedBy o c b l element relPath →
    ∃ id, l.buildElementId outside element.path element.metadata .slateReadWrite = .ok id ∧
      ∀ name ∈ [relPath, namePrefix ++ "." ++ relPath],
        iface.lookup (c.hash name) = some ⟨id, c.typeOf element.metadata.typeId⟩
  only : ∀ {name}, (iface.lookup (c.hash name)).isSome = true →
    ∃ element relPath, NamedBy o c b l element relPath ∧
      ∃ known ∈ [relPath, namePrefix ++ "." ++ relPath], c.hash known = c.hash name

/-! ## What the loop inserts -/

/-- An element that can be commanded, with its names. -/
structure NamedElement where
  relPath : String
  path : String
  elem : Element

/-- The names of an element, if it can be commanded and lies under the root of the builder. -/
def named? (element : SlateElement) : Option NamedElement :=
  if (c.typeOf element.metadata.typeId).isCommandable then
    match o.slateRelPath b.subtreePath element.path,
      l.buildElementId outside element.path element.metadata .slateReadWrite with
    | some relPath, .ok id =>
        some ⟨relPath, element.path, ⟨id, c.typeOf element.metadata.typeId⟩⟩
    | _, _ => none
  else none

/-- The entries of an element. -/
def NamedElement.entries (n : NamedElement) : List (Nat × Element) :=
  [(c.hash n.relPath, n.elem), (c.hash n.path, n.elem)]

/-- Entries can be added to a table: no two have the same key, and none a key of the table. -/
structure Fresh (elements added : List (Nat × Element)) : Prop where
  nodup : (added.map Prod.fst).Nodup
  apart : ∀ k ∈ added.map Prod.fst, elements.lookup k = none

variable {o listing outside c b l namePrefix} {elements elements' added : List (Nat × Element)}
  {iface iface' : CommandInterface}

/-- An element is inserted when its hash is not taken. -/
theorem insert_element_eq_true {elem : Element} {name : String}
    (h : insertElement c elements elem name = (true, elements')) :
    elements' = elements ++ [(c.hash name, elem)] ∧ elements.lookup (c.hash name) = none := by
  unfold insertElement at h
  split_ifs at h with hname hfound
  · cases h
  · cases h
  · cases h
    exact ⟨rfl, Option.not_isSome_iff_eq_none.1 hfound⟩

/-- A hash is free in two lists when it is in both. -/
theorem lookup_append_eq_none {k : Nat} :
    (elements ++ added).lookup k = none ↔
      elements.lookup k = none ∧ k ∉ added.map Prod.fst := by
  rw [List.lookup_append, Option.or_eq_none_iff]
  refine and_congr_right fun _ => ?_
  rw [← not_iff_not, not_not, ← ne_eq, Option.ne_none_iff_exists']
  constructor
  · rintro ⟨elem, helem⟩
    exact List.mem_map.2 ⟨(k, elem), mem_of_lookup helem, rfl⟩
  · intro hmem
    obtain ⟨entry, hentry, rfl⟩ := List.mem_map.1 hmem
    exact exists_lookup_of_mem hentry

/-- Two additions are fresh when the second is after the first. -/
theorem Fresh.append (h : Fresh elements added) {added' : List (Nat × Element)}
    (h' : Fresh (elements ++ added) added') : Fresh elements (added ++ added') := by
  constructor
  · rw [List.map_append, List.nodup_append]
    refine ⟨h.nodup, h'.nodup, fun k hk k' hk' heq => ?_⟩
    exact (lookup_append_eq_none.1 (h'.apart k' hk')).2 (heq ▸ hk)
  · intro k hk
    rw [List.map_append, List.mem_append] at hk
    rcases hk with hk | hk
    · exact h.apart k hk
    · exact (lookup_append_eq_none.1 (h'.apart k hk)).1

/-- A key is looked up among the entries that were added, if one has it. -/
theorem Fresh.lookup_eq_some (h : Fresh elements added) {k : Nat} {elem : Element}
    (hmem : (k, elem) ∈ added) : (elements ++ added).lookup k = some elem := by
  rw [List.lookup_append, h.apart k (List.mem_map.2 ⟨_, hmem, rfl⟩), Option.none_or]
  exact (lookup_eq_some_iff_mem h.nodup).2 hmem

/-- With a prefix, both names are inserted or the loop ends. -/
theorem insert_names_spec (hnonempty : namePrefix ≠ "") {elem : Element} {relPath path : String}
    (h : insertNames c namePrefix elements elem relPath path = (true, elements')) :
    elements' = elements ++ NamedElement.entries c ⟨relPath, path, elem⟩ ∧
      Fresh elements (NamedElement.entries c ⟨relPath, path, elem⟩) := by
  unfold insertNames at h
  cases hrel : insertElement c elements elem relPath with
  | mk inserted middle =>
      rw [hrel] at h
      cases inserted with
      | false => cases h
      | true =>
          simp only [if_neg hnonempty] at h
          obtain ⟨rfl, hrelnone⟩ := insert_element_eq_true hrel
          obtain ⟨rfl, hnone⟩ := insert_element_eq_true h
          have hboth := lookup_append_eq_none.1 hnone
          refine ⟨by rw [List.append_assoc]; rfl, ?_, ?_⟩
          · simpa [NamedElement.entries, eq_comm] using hboth.2
          · exact List.forall_mem_cons.2 ⟨hrelnone, List.forall_mem_singleton.2 hboth.1⟩

/-- A loop that succeeds adds the entries of the elements that can be commanded and lie under the
root, which all have ids. -/
theorem init_loop_spec (hnonempty : namePrefix ≠ "") (els : List SlateElement)
    (h : initLoop o outside c b l namePrefix els elements = (true, elements')) :
    elements' = elements ++ (els.filterMap (named? o outside c b l)).flatMap (·.entries c) ∧
      Fresh elements ((els.filterMap (named? o outside c b l)).flatMap (·.entries c)) ∧
      ∀ element ∈ els, (c.typeOf element.metadata.typeId).isCommandable = true →
        (o.slateRelPath b.subtreePath element.path).isSome = true →
          (named? o outside c b l element).isSome = true := by
  -- an element that is not named is passed over, and a name that is taken ends the loop
  induction els generalizing elements with
  | nil =>
      cases h
      exact ⟨by simp, ⟨.nil, nofun⟩, nofun⟩
  | cons element els ih =>
      rw [initLoop] at h
      by_cases htype : (c.typeOf element.metadata.typeId).isCommandable = true
      swap
      · have hnamed : named? o outside c b l element = none := by rw [named?, if_neg htype]
        obtain ⟨heq, hfresh, hall⟩ := ih (by simpa [htype] using h)
        rw [List.filterMap_cons_none hnamed]
        exact ⟨heq, hfresh, List.forall_mem_cons.2 ⟨fun h => absurd h htype, hall⟩⟩
      cases hrel : o.slateRelPath b.subtreePath element.path with
      | none =>
          have hnamed : named? o outside c b l element = none := by
            simp only [named?, if_pos htype, hrel]
          obtain ⟨heq, hfresh, hall⟩ := ih (by simpa [htype, hrel] using h)
          rw [List.filterMap_cons_none hnamed]
          exact ⟨heq, hfresh, List.forall_mem_cons.2 ⟨fun _ h => by simp [hrel] at h, hall⟩⟩
      | some relPath =>
          cases hbuild : l.buildElementId outside element.path element.metadata .slateReadWrite with
          | error refusal => simp [htype, hrel, hbuild] at h
          | ok id =>
              have hnamed : named? o outside c b l element =
                  some ⟨relPath, element.path, ⟨id, c.typeOf element.metadata.typeId⟩⟩ := by
                simp only [named?, if_pos htype, hrel, hbuild]
              simp only [htype, hrel, hbuild] at h
              cases hinsert : insertNames c namePrefix elements
                  ⟨id, c.typeOf element.metadata.typeId⟩ relPath element.path with
              | mk inserted middle =>
                  rw [hinsert] at h
                  cases inserted with
                  | false => simp at h
                  | true =>
                      obtain ⟨rfl, hfirst⟩ := insert_names_spec hnonempty hinsert
                      obtain ⟨heq, hrest, hall⟩ := ih (by simpa using h)
                      rw [List.filterMap_cons_some hnamed, List.flatMap_cons]
                      refine ⟨heq.trans (List.append_assoc ..), hfirst.append hrest, ?_⟩
                      exact List.forall_mem_cons.2 ⟨fun _ _ => by simp [hnamed], hall⟩

/-- A call of `init` that succeeds fills the table with what its loop adds. -/
theorem init_spec (hnonempty : namePrefix ≠ "")
    (h : iface.init o listing outside c b l namePrefix = (true, iface')) :
    iface'.elements = iface.elements ++
        ((listing.inOrder l.elements).filterMap (named? o outside c b l)).flatMap (·.entries c) ∧
      Fresh iface.elements
        (((listing.inOrder l.elements).filterMap (named? o outside c b l)).flatMap
          (·.entries c)) ∧
      ∀ element ∈ listing.inOrder l.elements,
        (c.typeOf element.metadata.typeId).isCommandable = true →
          (o.slateRelPath b.subtreePath element.path).isSome = true →
            (named? o outside c b l element).isSome = true := by
  unfold init at h
  split_ifs at h with hinit hsuffix hbuilt hsuper
  all_goals try cases h
  cases hloop : initLoop o outside c b l namePrefix (listing.inOrder l.elements)
    iface.elements with
  | mk inserted elements =>
      cases inserted with
      | false => simp [hloop] at h
      | true =>
          have hspec := init_loop_spec hnonempty _ hloop
          by_cases hempty : elements.isEmpty = true
          · simp [hloop, hempty] at h
          by_cases hfit : c.bucketsFit elements = true
          · simp only [hloop, hempty, hfit] at h
            cases h
            exact hspec
          · simp [hloop, hempty, hfit] at h

/-- What the loop adds are the two names of each element that can be commanded. -/
theorem mem_entries {els : List SlateElement} {k : Nat} {elem : Element} :
    (k, elem) ∈ (els.filterMap (named? o outside c b l)).flatMap (·.entries c) ↔
      ∃ n ∈ els.filterMap (named? o outside c b l), n.elem = elem ∧
        (k = c.hash n.relPath ∨ k = c.hash n.path) := by
  simp only [List.mem_flatMap, NamedElement.entries, List.mem_cons, Prod.mk.injEq,
    List.not_mem_nil, or_false, ← or_and_right]
  grind

/-- What is named is commandable, lies under the subtree and can be written. -/
theorem named_eq_some {element : SlateElement} {n : NamedElement}
    (h : named? o outside c b l element = some n) :
    (c.typeOf element.metadata.typeId).isCommandable = true ∧
      o.slateRelPath b.subtreePath element.path = some n.relPath ∧ n.path = element.path ∧
      ∃ id, l.buildElementId outside element.path element.metadata .slateReadWrite = .ok id ∧
        n.elem = ⟨id, c.typeOf element.metadata.typeId⟩ := by
  unfold named? at h
  split_ifs at h with htype
  cases hrel : o.slateRelPath b.subtreePath element.path with
  | none => simp [hrel] at h
  | some relPath =>
      cases hbuild : l.buildElementId outside element.path element.metadata .slateReadWrite with
      | error refusal => simp [hrel, hbuild] at h
      | ok id =>
          simp only [hrel, hbuild, Option.some.injEq] at h
          subst h
          exact ⟨htype, rfl, rfl, id, rfl, rfl⟩

/-- Elements with the same id are the same. -/
theorem eq_of_build_element_id (hmap : PathMapLaws outside) (hindex : IndexLaw outside)
    (hnodup : (l.elements.map SlateElement.path).Nodup) {element element' : SlateElement}
    (h : element ∈ l.elements) (h' : element' ∈ l.elements) {id : Nat}
    (hbuild : l.buildElementId outside element.path element.metadata .slateReadWrite = .ok id)
    (hbuild' : l.buildElementId outside element'.path element'.metadata .slateReadWrite = .ok id) :
    element = element' := by
  obtain ⟨_, hbuildup⟩ := SlateLayout.build_element_id_eq_ok hbuild
  obtain ⟨_, hbuildup'⟩ := SlateLayout.build_element_id_eq_ok hbuild'
  refine List.inj_on_of_nodup_map hnodup h h' (hmap.injective l.elements _ _ hnodup
    (List.mem_map_of_mem h) (List.mem_map_of_mem h') ?_)
  exact (hindex hbuildup).symm.trans (hindex hbuildup')

/-- A call that succeeds has named every element that can be commanded. -/
theorem init_named (hperm : ∀ elements, (listing.inOrder elements).Perm elements)
    (hnonempty : namePrefix ≠ "")
    (h : iface.init o listing outside c b l namePrefix = (true, iface'))
    {element : SlateElement} {relPath : String} (hel : NamedBy o c b l element relPath) :
    ∃ id, l.buildElementId outside element.path element.metadata .slateReadWrite = .ok id ∧
      ⟨relPath, element.path, ⟨id, c.typeOf element.metadata.typeId⟩⟩ ∈
        (listing.inOrder l.elements).filterMap (named? o outside c b l) := by
  obtain ⟨-, -, hall⟩ := init_spec hnonempty h
  have hmem := (hperm l.elements).mem_iff.2 hel.mem
  have hsome := hall element hmem hel.type (Option.isSome_of_eq_some hel.rel)
  obtain ⟨n, hnamed⟩ := Option.isSome_iff_exists.1 hsome
  obtain ⟨-, hrel, hpath, id, hbuild, helem⟩ := named_eq_some hnamed
  refine ⟨id, hbuild, List.mem_filterMap.2 ⟨element, hmem, ?_⟩⟩
  rw [← hpath, ← helem, Option.some.inj (hel.rel.symm.trans hrel)]
  exact hnamed

/-- After a call that succeeds, the names of an element that can be commanded lead to it. -/
theorem init_lookup (hperm : ∀ elements, (listing.inOrder elements).Perm elements)
    (hnonempty : namePrefix ≠ "")
    (h : iface.init o listing outside c b l namePrefix = (true, iface'))
    {element : SlateElement} {relPath : String} (hel : NamedBy o c b l element relPath) :
    ∃ id, l.buildElementId outside element.path element.metadata .slateReadWrite = .ok id ∧
      ∀ name ∈ [relPath, element.path], iface.lookup (c.hash name) = none ∧
        iface'.lookup (c.hash name) = some ⟨id, c.typeOf element.metadata.typeId⟩ := by
  obtain ⟨helements, hfresh, -⟩ := init_spec hnonempty h
  obtain ⟨id, hbuild, hn⟩ := init_named hperm hnonempty h hel
  refine ⟨id, hbuild, fun name hname => ?_⟩
  have hkey : c.hash name = c.hash relPath ∨ c.hash name = c.hash element.path := by
    rcases List.mem_pair.1 hname with rfl | rfl
    · exact .inl rfl
    · exact .inr rfl
  have hentry := mem_entries.2 ⟨_, hn, rfl, hkey⟩
  rw [lookup, lookup, helements]
  exact ⟨hfresh.apart _ (List.mem_map_of_mem hentry), hfresh.lookup_eq_some hentry⟩

/-- What resolves after a call that succeeds did before, or has one of the names that were added. -/
theorem init_resolves (hperm : ∀ elements, (listing.inOrder elements).Perm elements)
    (hnonempty : namePrefix ≠ "")
    (h : iface.init o listing outside c b l namePrefix = (true, iface')) {k : Nat}
    (hk : (iface'.lookup k).isSome = true) (hnone : iface.lookup k = none) :
    ∃ element relPath, NamedBy o c b l element relPath ∧
      ∃ name ∈ [relPath, element.path], c.hash name = k := by
  obtain ⟨helements, -, -⟩ := init_spec hnonempty h
  obtain ⟨elem, helem⟩ := Option.isSome_iff_exists.1 hk
  rw [lookup, helements, List.lookup_append] at helem
  rw [lookup] at hnone
  rw [hnone, Option.none_or] at helem
  obtain ⟨n, hn, -, hkey⟩ := mem_entries.1 (mem_of_lookup helem)
  obtain ⟨element, hmem, hnamed⟩ := List.mem_filterMap.1 hn
  obtain ⟨htype, hrel, hpath, -⟩ := named_eq_some hnamed
  refine ⟨element, n.relPath, ⟨(hperm l.elements).mem_iff.1 hmem, htype, hrel⟩, ?_⟩
  rcases hkey with rfl | rfl
  · exact ⟨n.relPath, by simp, rfl⟩
  · exact ⟨n.path, by simp [hpath], rfl⟩

/-- The two names of an element have different hashes. -/
theorem init_names_differ (hperm : ∀ elements, (listing.inOrder elements).Perm elements)
    (hnonempty : namePrefix ≠ "")
    (h : iface.init o listing outside c b l namePrefix = (true, iface'))
    {element : SlateElement} {relPath : String} (hel : NamedBy o c b l element relPath) :
    c.hash relPath ≠ c.hash element.path := by
  obtain ⟨-, hfresh, -⟩ := init_spec hnonempty h
  obtain ⟨id, -, hn⟩ := init_named hperm hnonempty h hel
  have hnodup := hfresh.nodup
  rw [List.map_flatMap, List.nodup_flatMap] at hnodup
  simpa [NamedElement.entries] using hnodup.1 _ hn

/-- If nothing but the names with and without the prefix resolves, the full path of an element is
one of them. -/
theorem hash_prefixed_of_resolve (hperm : ∀ elements, (listing.inOrder elements).Perm elements)
    (hmap : PathMapLaws outside) (hindex : IndexLaw outside)
    (hnodup : (l.elements.map SlateElement.path).Nodup) (hnonempty : namePrefix ≠ "")
    (h : iface.init o listing outside c b l namePrefix = (true, iface'))
    (hres : NamesResolve o outside c b l namePrefix iface') {element : SlateElement}
    {relPath : String} (hel : NamedBy o c b l element relPath) :
    c.hash (namePrefix ++ "." ++ relPath) = c.hash element.path := by
  obtain ⟨id, hbuild, hnames⟩ := init_lookup hperm hnonempty h hel
  have hpath := (hnames element.path (by simp)).2
  obtain ⟨element', relPath', hel', known, hknown, hhash⟩ :=
    hres.only (Option.isSome_of_eq_some hpath)
  -- both names lead to the same id, so they are names of the same element
  obtain ⟨id', hbuild', hresolve⟩ := hres.resolve hel'
  have helem := (hresolve known hknown).symm.trans (hhash ▸ hpath)
  obtain rfl : element' = element := by
    have hid : id' = id := congrArg Element.id (Option.some.inj helem)
    exact eq_of_build_element_id hmap hindex hnodup hel'.mem hel.mem hbuild' (hid ▸ hbuild)
  obtain rfl := Option.some.inj (hel'.rel.symm.trans hel.rel)
  rcases List.mem_pair.1 hknown with rfl | rfl
  · exact absurd hhash (init_names_differ hperm hnonempty h hel)
  · exact hhash

/-- After a call of `init` with a prefix that succeeds, each element that can be commanded is known
by its relative path, with and without the prefix, and nothing else resolves, if and only if no call
that failed had left a name in the table, and each full path has the hash of the relative path after
the prefix. -/
theorem init_names_iff (hperm : ∀ elements, (listing.inOrder elements).Perm elements)
    (hmap : PathMapLaws outside) (hindex : IndexLaw outside)
    (hnodup : (l.elements.map SlateElement.path).Nodup) (hnonempty : namePrefix ≠ "")
    (h : iface.init o listing outside c b l namePrefix = (true, iface')) :
    NamesResolve o outside c b l namePrefix iface' ↔
      (∀ name, iface.lookup (c.hash name) = none) ∧
        ∀ element relPath, NamedBy o c b l element relPath →
          c.hash (namePrefix ++ "." ++ relPath) = c.hash element.path := by
  constructor
  · intro hres
    have hsame (element : SlateElement) (relPath : String)
        (hel : NamedBy o c b l element relPath) :
        c.hash (namePrefix ++ "." ++ relPath) = c.hash element.path :=
      hash_prefixed_of_resolve hperm hmap hindex hnodup hnonempty h hres hel
    refine ⟨fun name => ?_, hsame⟩
    -- a name from before the call would be that of an element as well
    by_contra hleft
    have hstays : (iface'.lookup (c.hash name)).isSome = true := by
      obtain ⟨elem, helem⟩ := Option.ne_none_iff_exists'.1 hleft
      rw [lookup] at helem
      rw [lookup, (init_spec hnonempty h).1, List.lookup_append, helem]
      rfl
    obtain ⟨element, relPath, hel, known, hknown, hhash⟩ := hres.only hstays
    obtain ⟨_, -, hnames⟩ := init_lookup hperm hnonempty h hel
    rcases List.mem_pair.1 hknown with rfl | rfl
    · exact hleft (hhash ▸ (hnames _ (by simp)).1)
    · rw [hsame element relPath hel] at hhash
      exact hleft (hhash ▸ (hnames element.path (by simp)).1)
  · rintro ⟨hempty, hsame⟩
    constructor
    · intro element relPath hel
      obtain ⟨id, hbuild, hnames⟩ := init_lookup hperm hnonempty h hel
      refine ⟨id, hbuild, fun name hname => ?_⟩
      rcases List.mem_pair.1 hname with rfl | rfl
      · exact (hnames _ (by simp)).2
      · rw [hsame element relPath hel]
        exact (hnames element.path (by simp)).2
    · intro name hresolves
      obtain ⟨element, relPath, hel, known, hknown, hhash⟩ :=
        init_resolves hperm hnonempty h hresolves (hempty name)
      refine ⟨element, relPath, hel, ?_⟩
      rcases List.mem_pair.1 hknown with rfl | rfl
      · exact ⟨_, by simp, hhash⟩
      · exact ⟨_, by simp, (hsame element relPath hel).trans hhash⟩

end CommandInterface

namespace Sample

/-- A built super slate, a hash of 64 bits, and elements that are all booleans. -/
def commandOutside : CommandOutside Store where
  isBuilt _ := true
  strsuffix s suffix := suffix.toList <:+ s.toList
  hash name := name.toList.foldl (fun h char => (h * 31 + char.toNat) % 2 ^ 64) 0
  typeOf _ := .bool
  bucketsFit _ := true

/-- The listing of a super slate. -/
def superListing : ListingOutside Store :=
  { listing with isSuperSlate := fun _ => true }

/-- The interface before it has been set up. -/
def unset : CommandInterface := ⟨[], false⟩

/-- The sample's tables are read by index. -/
theorem index_law : IndexLaw outside := by
  intro mayWrite hasValidator shard valueOffset idx id h
  cases h
  cases mayWrite <;> cases hasValidator <;> simp [outside] <;> omega

/-- A slate with a flag in a subtree of a subtree. -/
def busSlate : SlateLayout Bool :=
  SlateLayout.callAll outside
    [.allocate (request "bus.nav.flag" 1 1 one_lt_size one_lt_size)] (.fresh Bool)

/-- With the whole path of the builder as prefix, the names resolve. -/
theorem nav_names_resolve :
    CommandInterface.NamesResolve cuttingOutside outside commandOutside (builder "nav" []) navSlate
      "nav" (unset.init cuttingOutside superListing outside commandOutside (builder "nav" [])
        navSlate "nav").2 := by
  have hperm (elements : List SlateElement) : (superListing.inOrder elements).Perm elements :=
    List.Perm.refl _
  refine (CommandInterface.init_names_iff hperm path_map_laws index_law (by decide) (by decide)
    (Prod.ext (by decide) rfl)).2 ⟨fun _ => rfl, ?_⟩
  intro element relPath hel
  have hall : ∀ element ∈ navSlate.elements,
      (cuttingOutside.slateRelPath "nav" element.path).all fun relPath =>
        commandOutside.hash ("nav" ++ "." ++ relPath) = commandOutside.hash element.path := by
    decide
  have hrel := hel.rel
  exact of_decide_eq_true ((Option.all_eq_true _ _).1 (hall element hel.mem) relPath hrel)

/-- With the last name of the path as prefix, the flag is known by its full path and not by its
relative path after the prefix. -/
theorem full_path_resolves :
    (unset.init cuttingOutside superListing outside commandOutside (builder "bus.nav" []) busSlate
        "nav").1 = true ∧
      ¬CommandInterface.NamesResolve cuttingOutside outside commandOutside (builder "bus.nav" [])
        busSlate "nav" (unset.init cuttingOutside superListing outside commandOutside
          (builder "bus.nav" []) busSlate "nav").2 := by
  refine ⟨by decide, fun hres => ?_⟩
  have hflag : CommandInterface.NamedBy cuttingOutside commandOutside (builder "bus.nav" [])
      busSlate (busSlate.elements.head (by decide)) "flag" :=
    ⟨by decide, rfl, by decide⟩
  obtain ⟨id, -, hnames⟩ := hres.resolve hflag
  have hprefixed := Option.isSome_of_eq_some (hnames ("nav" ++ "." ++ "flag") (by simp))
  exact absurd hprefixed (by decide)

end Sample

end Codon.Slate
