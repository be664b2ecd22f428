import Mathlib.Data.List.Perm.Basic
import Codon.Slate.Layout
import Codon.Slate.SubSlate

/-!
# Listing the elements of a builder

`compute_path_set` lists the elements under the root of a builder, and `path_exists` looks one up.
Both leave out what lies outside of the root, but only the lookup heeds the masks of the builder:
they agree exactly as long as no element that could be listed is masked (`lists_existing_iff`).

Not in the source tree are the order in which `SlatePathMap` is iterated, and which stores are
those of super slates.
-/

namespace Codon.Slate

variable {S P E V : Type}

/-- `slate_element_key_t`. -/
structure SlateElementKey where
  path : String
  typeId : Nat
  elementId : Nat
deriving DecidableEq

/-- What the listing uses of code that is not in the source tree. -/
structure ListingOutside (S : Type) where
  isSuperSlate : S → Bool
  inOrder : List SlateElement → List SlateElement

/-- What the listing relies on: the iteration visits every element once, and a path is its relative
path joined to the root that it is relative to. -/
structure ListingLaws (o : BuilderOutside S P) (listing : ListingOutside S) : Prop where
  inOrder_perm : ∀ elements, (listing.inOrder elements).Perm elements
  join_rel : ∀ {base path rel : String}, o.slateRelPath base path = some rel →
    o.slateJoinPath base rel = path

/-- `path_exists` of a layout. -/
def SlateLayout.pathExists (l : SlateLayout V) (path : String) : Bool :=
  l.elements.any fun element => element.path = path

namespace SlateBuilder

variable (o : BuilderOutside S P) (listing : ListingOutside S) (outside : Outside V)
  (b : SlateBuilder S E) (l : SlateLayout V)

/-- `path_exists`. -/
def pathExists (elementPath : String) : Bool :=
  let fullPath := o.slateJoinPath b.subtreePath elementPath
  if !b.isPermittedPath o fullPath then false else l.pathExists fullPath

/-- The loop of `compute_path_set`. It ends at the first element whose id cannot be built. -/
def computePathSetLoop (isSuperslate : Bool) :
    List SlateElement → List SlateElementKey → Bool × List SlateElementKey
  | [], paths => (true, paths)
  | element :: elements, paths =>
      let access := if isSuperslate then .slateReadWrite else element.metadata.accessPolicy
      if access = .slatePrivate then computePathSetLoop isSuperslate elements paths
      else
        match o.slateRelPath b.subtreePath element.path with
        | none => computePathSetLoop isSuperslate elements paths
        | some path =>
            match l.buildElementId outside element.path element.metadata access with
            | .error _ => (false, paths)
            | .ok elementId =>
                computePathSetLoop isSuperslate elements
                  (paths ++ [⟨path, element.metadata.typeId, elementId⟩])

/-- `compute_path_set`, which adds to the paths that it is given. -/
def computePathSet (paths : List SlateElementKey) : Bool × List SlateElementKey :=
  b.computePathSetLoop o outside l (listing.isSuperSlate b.store) (listing.inOrder l.elements) paths

/-- The relative path of an element that is not private and lies under the root. -/
def relativePath? (element : SlateElement) : Option String :=
  if element.metadata.accessPolicy = .slatePrivate then none
  else o.slateRelPath b.subtreePath element.path

/-- The relative paths of the elements under the root that are not private and that exist for the
builder. -/
def existingPaths : List String :=
  (l.elements.filterMap (b.relativePath? o)).filter (b.pathExists o l)

/-- The id of an element can be built. -/
def Builds (element : SlateElement) : Prop :=
  (l.buildElementId outside element.path element.metadata element.metadata.accessPolicy).isOk = true

instance (element : SlateElement) : Decidable (Builds outside l element) :=
  inferInstanceAs (Decidable (_ = true))

variable {o listing outside b l}

/-- A path exists when it is permitted and an element has it. -/
theorem path_exists_eq_true {rel : String} :
    b.pathExists o l rel = true ↔ b.isPermittedPath o (o.slateJoinPath b.subtreePath rel) = true ∧
      ∃ element ∈ l.elements, element.path = o.slateJoinPath b.subtreePath rel := by
  simp [pathExists, SlateLayout.pathExists]

/-- An element has a relative path when it is not private and lies under the subtree. -/
theorem relative_path_eq_some {element : SlateElement} {rel : String} :
    b.relativePath? o element = some rel ↔ element.metadata.accessPolicy ≠ .slatePrivate ∧
      o.slateRelPath b.subtreePath element.path = some rel := by
  rw [relativePath?]
  split_ifs with hprivate <;> simp [hprivate]

/-- An element that is private or outside of the root is left out. -/
theorem compute_path_set_loop_skip {element : SlateElement} (h : b.relativePath? o element = none)
    (elements : List SlateElement) (paths : List SlateElementKey) :
    b.computePathSetLoop o outside l false (element :: elements) paths =
      b.computePathSetLoop o outside l false elements paths := by
  rw [relativePath?] at h
  split_ifs at h with hprivate
  · simp [computePathSetLoop, hprivate]
  · simp [computePathSetLoop, hprivate, h]

/-- Another element ends the loop, if its id cannot be built, or is listed. -/
theorem compute_path_set_loop_some (outside : Outside V) (l : SlateLayout V)
    {element : SlateElement} {rel : String} (h : b.relativePath? o element = some rel)
    (elements : List SlateElement) (paths : List SlateElementKey) :
    (¬ Builds outside l element ∧
        b.computePathSetLoop o outside l false (element :: elements) paths = (false, paths)) ∨
      Builds outside l element ∧ ∃ key : SlateElementKey, key.path = rel ∧
        b.computePathSetLoop o outside l false (element :: elements) paths =
          b.computePathSetLoop o outside l false elements (paths ++ [key]) := by
  obtain ⟨hshown, hunder⟩ := relative_path_eq_some.1 h
  cases hid : l.buildElementId outside element.path element.metadata
    element.metadata.accessPolicy with
  | error refusal =>
      refine .inl ⟨by simp [Builds, hid, Except.isOk, Except.toBool], ?_⟩
      simp [computePathSetLoop, hshown, hunder, hid]
  | ok id =>
      refine .inr ⟨by simp [Builds, hid, Except.isOk, Except.toBool],
        ⟨rel, element.metadata.typeId, id⟩, rfl, ?_⟩
      simp [computePathSetLoop, hshown, hunder, hid]

/-- The loop succeeds if the ids of the elements to be listed can be built, and then it has listed
all of them. -/
theorem compute_path_set_loop_spec (o : BuilderOutside S P) (outside : Outside V)
    (b : SlateBuilder S E) (l : SlateLayout V) (elements : List SlateElement)
    (paths : List SlateElementKey) :
    ((b.computePathSetLoop o outside l false elements paths).1 = true ↔
        ∀ element ∈ elements, (b.relativePath? o element).isSome = true →
          Builds outside l element) ∧
      ((b.computePathSetLoop o outside l false elements paths).1 = true →
        ∃ listed, (b.computePathSetLoop o outside l false elements paths).2 = paths ++ listed ∧
          listed.map SlateElementKey.path = elements.filterMap (b.relativePath? o)) := by
  induction elements generalizing paths with
  | nil => exact ⟨by simp [computePathSetLoop], fun _ => ⟨[], by simp [computePathSetLoop], rfl⟩⟩
  | cons element elements ih =>
      rw [List.forall_mem_cons]
      cases hrel : b.relativePath? o element with
      | none =>
          rw [compute_path_set_loop_skip hrel, List.filterMap_cons_none hrel]
          simpa using ih paths
      | some rel =>
          rw [List.filterMap_cons_some hrel]
          rcases compute_path_set_loop_some outside l hrel elements paths with
            ⟨hfails, hstop⟩ | ⟨hbuilds, key, hkey, hlist⟩
          · rw [hstop]
            simp [hfails]
          · rw [hlist]
            obtain ⟨hsucceeds, hlists⟩ := ih (paths ++ [key])
            refine ⟨hsucceeds.trans (by simp [hbuilds]), fun htrue => ?_⟩
            obtain ⟨listed, hpaths, hlisted⟩ := hlists htrue
            refine ⟨key :: listed, ?_, ?_⟩
            · rw [hpaths, List.append_assoc, List.singleton_append]
            · rw [List.map_cons, hkey, hlisted]

/-- An element under the root that is not private exists for the builder unless it is masked. -/
theorem path_exists_of_mem (hlaws : ListingLaws o listing) {element : SlateElement} {rel : String}
    (h : element ∈ l.elements) (hrel : b.relativePath? o element = some rel) :
    b.pathExists o l rel = b.isPermittedPath o element.path := by
  have hjoin := hlaws.join_rel (relative_path_eq_some.1 hrel).2
  rw [Bool.eq_iff_iff, path_exists_eq_true, hjoin]
  exact and_iff_left ⟨element, h, rfl⟩

/-- For a builder that is not that of a super slate, `compute_path_set` succeeds and lists exactly
the relative paths of the elements under its root that are not private and for which `path_exists`
holds, if and only if no element under the root that is not private is masked, and each has an id
that can be built. -/
theorem lists_existing_iff (hlaws : ListingLaws o listing)
    (hsuper : listing.isSuperSlate b.store = false) (paths : List SlateElementKey) :
    (∃ listed, b.computePathSet o listing outside l paths = (true, paths ++ listed) ∧
        (listed.map SlateElementKey.path).Perm (b.existingPaths o l)) ↔
      ∀ element ∈ l.elements, element.metadata.accessPolicy ≠ .slatePrivate →
        o.Inside element.path b.subtreePath →
          b.isPermittedPath o element.path = true ∧ Builds outside l element := by
  have hperm := hlaws.inOrder_perm l.elements
  obtain ⟨hsucceeds, hlists⟩ := compute_path_set_loop_spec o outside b l
    (listing.inOrder l.elements) paths
  rw [computePathSet, hsuper]
  have hlisted (element : SlateElement) : (b.relativePath? o element).isSome = true ↔
      element.metadata.accessPolicy ≠ .slatePrivate ∧ o.Inside element.path b.subtreePath := by
    rw [relativePath?, BuilderOutside.Inside]
    split_ifs with hprivate <;> simp [hprivate]
  constructor
  · rintro ⟨listed, hcompute, hexact⟩ element hmem hshown hunder
    have hsome := (hlisted element).2 ⟨hshown, hunder⟩
    refine ⟨?_, hsucceeds.1 (by rw [hcompute]) element (hperm.mem_iff.2 hmem) hsome⟩
    obtain ⟨rel, hrel⟩ := Option.isSome_iff_exists.1 hsome
    obtain ⟨listed', hpaths, hmap⟩ := hlists (by rw [hcompute])
    rw [hcompute] at hpaths
    -- what is listed exists for the builder, so it is not masked
    have hin : rel ∈ b.existingPaths o l := by
      rw [← hexact.mem_iff, List.append_cancel_left hpaths, hmap]
      exact List.mem_filterMap.2 ⟨element, hperm.mem_iff.2 hmem, hrel⟩
    rw [← path_exists_of_mem hlaws hmem hrel]
    exact (List.mem_filter.1 hin).2
  · intro hpermitted
    have hbuilds : ∀ element ∈ listing.inOrder l.elements,
        (b.relativePath? o element).isSome = true → Builds outside l element := by
      intro element hmem hsome
      obtain ⟨hshown, hunder⟩ := (hlisted element).1 hsome
      exact (hpermitted element (hperm.mem_iff.1 hmem) hshown hunder).2
    have htrue := hsucceeds.2 hbuilds
    obtain ⟨listed, hpaths, hmap⟩ := hlists htrue
    refine ⟨listed, Prod.ext htrue hpaths, ?_⟩
    have hall : b.existingPaths o l = l.elements.filterMap (b.relativePath? o) := by
      rw [existingPaths, List.filter_eq_self]
      intro rel hrel
      obtain ⟨element, hmem, hrel⟩ := List.mem_filterMap.1 hrel
      obtain ⟨hshown, hunder⟩ := (hlisted element).1 (Option.isSome_of_eq_some hrel)
      rw [path_exists_of_mem hlaws hmem hrel]
      exact (hpermitted element hmem hshown hunder).1
    rw [hmap, hall]
    exact hperm.filterMap _

end SlateBuilder

namespace Sample

/-- The outside code of builders, with relative paths that are cut off as they are written. -/
def cuttingOutside : BuilderOutside Store Nat :=
  { builderOutside with
    slateRelPath := fun base path =>
      if base = "" then some path
      else if path = base then some ""
      else if base.toList ++ ['.'] <+: path.toList ∧
          path.toList.length ≠ base.toList.length + 1 then
        some (String.ofList (path.toList.drop (base.toList.length + 1)))
      else none }

/-- No store is that of a super slate, and elements are visited in the order of their creation. -/
def listing : ListingOutside Store where
  isSuperSlate _ := false
  inOrder elements := elements

/-- The sample lists paths as it should. -/
theorem listing_laws : ListingLaws cuttingOutside listing where
  inOrder_perm elements := List.Perm.refl elements
  join_rel {base path rel} h := by
    simp only [cuttingOutside, builderOutside] at h ⊢
    split_ifs at h with hbase hsame hbelow
    · cases h
      exact if_pos hbase
    · cases h
      rw [if_neg hbase, if_pos rfl, hsame]
    · obtain ⟨⟨rest, hrest⟩, hlength⟩ := hbelow
      cases h
      have hdrop : path.toList.drop (base.toList.length + 1) = rest := by
        rw [← hrest, List.drop_left' (by simp)]
      have hne : String.ofList rest ≠ "" := by
        rintro hempty
        have hnil : rest = [] := by simpa using congrArg String.toList hempty
        rw [← hrest, hnil] at hlength
        simp at hlength
      rw [hdrop, if_neg hbase, if_neg hne]
      refine String.toList_injective ?_
      rw [← hrest]
      simp [String.toList_append]

/-- A sub-slate that masks another subtree lists all three. -/
theorem imu_masked_lists_existing :
    SlateBuilder.subSlates cuttingOutside [.masked "nav" ["imu"]] (builder "" []) =
        some (builder "nav" ["nav.imu"]) ∧
      ∃ listed, (builder "nav" ["nav.imu"]).computePathSet cuttingOutside listing outside navSlate
          [] = (true, [] ++ listed) ∧
        (listed.map SlateElementKey.path).Perm
          ((builder "nav" ["nav.imu"]).existingPaths cuttingOutside navSlate) := by
  refine ⟨by decide, (SlateBuilder.lists_existing_iff listing_laws rfl []).2 ?_⟩
  decide

/-- A sub-slate that masks the rate lists it with the others. -/
theorem masked_rate_listed :
    SlateBuilder.subSlates cuttingOutside [.masked "nav" ["rate"]] (builder "" []) =
        some (builder "nav" ["nav.rate"]) ∧
      (builder "nav" ["nav.rate"]).pathExists cuttingOutside navSlate "rate" = false ∧
      (builder "nav" ["nav.rate"]).existingPaths cuttingOutside navSlate = ["flag", "mode"] ∧
      ((builder "nav" ["nav.rate"]).computePathSet cuttingOutside listing outside navSlate []).1 =
        true ∧
      ((builder "nav" ["nav.rate"]).computePathSet cuttingOutside listing outside navSlate
        []).2.map SlateElementKey.path = ["flag", "rate", "mode"] := by
  decide

end Sample

end Codon.Slate
