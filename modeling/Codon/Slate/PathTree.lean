import Codon.Library.NameTree
import Codon.Library.Loop
import Codon.Slate.Views

/-!
# Element paths as leaves

The documentation of `allocate_element` and `create_view_element` says that the path of a
new element may not be a child or the parent of another element. What
`add_element_and_build_id` checks is that no element has the same path: an element may be
created below another one, or above it. The element paths are the leaves of a tree exactly
if no caller asks for such a path (`paths_leaves_iff`).
-/

namespace Codon.Slate

open Codon.Library

variable {V : Type} {o : Outside V} {l l' : SlateLayout V} {calls : List (SlateLayout.Call V)}

/-- The names between the dots of a path. -/
def components (path : String) : List (List Char) := path.toList.splitOn '.'

/-- A path is its components. -/
theorem components_injective : Function.Injective components := by
  intro path path' h
  have hjoined := congrArg (List.intercalate ['.']) h
  rw [components, components, List.intercalate_splitOn, List.intercalate_splitOn] at hjoined
  exact String.toList_injective hjoined

/-- By its components, a path is a proper ancestor of another. -/
def IsAncestor (path descendant : String) : Prop :=
  Above (components path) (components descendant)

instance (path descendant : String) : Decidable (IsAncestor path descendant) :=
  inferInstanceAs (Decidable (Above _ _))

namespace SlateLayout

/-- The path that a call asks for. -/
def Call.path : Call V → String
  | .allocate r => r.path
  | .view v => v.path

/-- Whether a call is granted. -/
def grants (o : Outside V) (l : SlateLayout V) : Call V → Bool
  | .allocate r => (l.allocateElement o r).1.isOk
  | .view v => (l.createViewElement o v).1.isOk

/-- The layout after a call that has been granted. -/
def granted (o : Outside V) (l : SlateLayout V) (c : Call V) : Option (SlateLayout V) :=
  if grants o l c then some (l.call o c) else none

/-- The element paths are the leaves of a tree. -/
def PathsAreLeaves (l : SlateLayout V) : Prop :=
  Leaves (l.elements.map fun element => components element.path)

/-- An element below another one keeps it from being a leaf. -/
theorem not_leaves_of_ancestor {path descendant : String}
    (hpath : path ∈ l.elements.map SlateElement.path)
    (hdescendant : descendant ∈ l.elements.map SlateElement.path)
    (h : IsAncestor path descendant) : ¬l.PathsAreLeaves := by
  intro hleaves
  obtain ⟨element, hmem, rfl⟩ := List.mem_map.1 hpath
  obtain ⟨below, hmem', rfl⟩ := List.mem_map.1 hdescendant
  have hleaf := hleaves.2 _ (List.mem_map_of_mem hmem)
  exact hleaf.2 _ ⟨_, List.mem_map_of_mem hmem', List.prefix_rfl⟩ h

/-- An element that has been registered has a path of its own. -/
theorem elements_of_added {path : String} {metadata : SlateElementMetadata} {validator : V}
    {id : Nat} (h : l.addElementAndBuildId o path metadata validator = (.ok id, l')) :
    path ∉ l.elements.map SlateElement.path ∧
      l'.elements.map SlateElement.path = l.elements.map SlateElement.path ++ [path] := by
  have htables := add_element_tables h
  cases htables with
  | added hnew helements hid hvalidators =>
      refine ⟨fun hmem => ?_, by rw [helements, List.map_append]; rfl⟩
      obtain ⟨element, hmem, hpath⟩ := List.mem_map.1 hmem
      exact hnew element hmem hpath

/-- An allocation that has been granted has added its path, which no element had before. -/
theorem allocate_paths {r : Request V} (hl : l.Chunked)
    (h : (l.allocateElement o r).1.isOk = true) :
    r.path ∉ l.elements.map SlateElement.path ∧
      (l.allocateElement o r).2.elements.map SlateElement.path =
        l.elements.map SlateElement.path ++ [r.path] := by
  have hallocates := allocate_element_allocates o hl r
  generalize l.allocateElement o r = result at hallocates h ⊢
  cases hallocates with
  | @reserves m valueOffset hok hreserves =>
      unfold registerAt at h ⊢
      cases hadd : m.addElementAndBuildId o r.path (metadataAt r valueOffset) r.validator with
      | mk answer m' =>
          rw [hadd] at h
          cases answer with
          | error refusal => cases h
          | ok id =>
              rw [← hreserves.tables.1]
              exact elements_of_added hadd
  | _ => cases h

/-- A view that has been granted has added its path, which no element had before. -/
theorem view_paths {v : ViewRequest} (h : (l.createViewElement o v).1.isOk = true) :
    v.path ∉ l.elements.map SlateElement.path ∧
      (l.createViewElement o v).2.elements.map SlateElement.path =
        l.elements.map SlateElement.path ++ [v.path] := by
  unfold createViewElement at h ⊢
  by_cases hzero : v.valueSize = 0
  · rw [if_pos hzero] at h
    cases h
  by_cases hpower : notPowerOfTwo v.alignment = true
  · rw [if_neg hzero, if_pos hpower] at h
    cases h
  by_cases hmax : maxAlignment < v.alignment
  · rw [if_neg hzero, if_neg hpower, if_pos hmax] at h
    cases h
  rw [if_neg hzero, if_neg hpower, if_neg hmax] at h ⊢
  cases hparent : getElement o l v.parentId v.parentTypeId with
  | error refusal =>
      rw [hparent] at h
      cases h
  | ok parent =>
      simp only [hparent] at h ⊢
      cases hchecks : viewRefusal? o l v parent.metadata with
      | some refusal =>
          rw [hchecks] at h
          cases h
      | none =>
          simp only [hchecks] at h ⊢
          cases hadd : l.addElementAndBuildId o v.path (viewMetadata v parent.metadata)
            o.noValidator with
          | mk answer m =>
              rw [hadd] at h
              cases answer with
              | error refusal => cases h
              | ok id => exact elements_of_added hadd

/-- A call that has been granted has added its path, which no element had before. -/
theorem paths_of_granted {c : Call V} (hl : l.Chunked) (h : granted o l c = some l') :
    l'.Chunked ∧ c.path ∉ l.elements.map SlateElement.path ∧
      l'.elements.map SlateElement.path = l.elements.map SlateElement.path ++ [c.path] := by
  unfold granted at h
  split_ifs at h with hgrants
  cases h
  refine ⟨chunked_call hl c, ?_⟩
  cases c with
  | allocate r => exact allocate_paths hl hgrants
  | view v => exact view_paths hgrants

/-- After calls that have all been granted, the elements have the paths of the calls as well, and
the paths are still all different. -/
theorem paths_of_all_granted (hl : l.Chunked) (hnodup : (l.elements.map SlateElement.path).Nodup)
    (h : calls.foldlM (granted o) l = some l') :
    l'.elements.map SlateElement.path =
        l.elements.map SlateElement.path ++ calls.map Call.path ∧
      (l'.elements.map SlateElement.path).Nodup := by
  induction calls generalizing l with
  | nil =>
      cases h
      exact ⟨(List.append_nil _).symm, hnodup⟩
  | cons c calls ih =>
      rw [List.foldlM_cons] at h
      obtain ⟨m, hgranted, h⟩ := Option.bind_eq_some_iff.1 h
      obtain ⟨hm, hnew, hpaths⟩ := paths_of_granted hl hgranted
      have hnodup' : (m.elements.map SlateElement.path).Nodup := by
        rw [hpaths]
        exact hnodup.append (List.nodup_singleton _) (by simpa using hnew)
      obtain ⟨hrest, hlast⟩ := ih hm hnodup' h
      refine ⟨?_, hlast⟩
      rw [hrest, hpaths, List.append_assoc, List.map_cons, List.singleton_append]

/-- After any sequence of calls that are granted, the element paths are different and are the
leaves of a tree exactly if no call asked for a path above or below that of an earlier call. -/
theorem paths_leaves_iff (o : Outside V) (calls : List (Call V))
    (h : calls.foldlM (granted o) (fresh V) = some l) :
    (l.elements.map SlateElement.path).Nodup ∧
      (l.PathsAreLeaves ↔ calls.Pairwise fun earlier c =>
        ¬IsAncestor earlier.path c.path ∧ ¬IsAncestor c.path earlier.path) := by
  obtain ⟨hpaths, hnodup⟩ := paths_of_all_granted (fresh_partitioned V).toChunked .nil h
  refine ⟨hnodup, ?_⟩
  have hcalls : l.elements.map SlateElement.path = calls.map Call.path := hpaths
  have hcomponents : (l.elements.map fun element => components element.path) =
      (calls.map Call.path).map components := by
    rw [← hcalls, List.map_map]
    rfl
  rw [hcalls] at hnodup
  rw [PathsAreLeaves, hcomponents,
    leaves_iff_pairwise (hnodup.map components_injective), List.pairwise_map, List.pairwise_map]
  exact Iff.rfl

end SlateLayout

namespace Sample

/-- An element whose path is the parent of another's. -/
def nav : Request Bool := request "nav" 4 4 four_lt_size four_lt_size

/-- An element below it. -/
def navRate : Request Bool := request "nav.rate" 8 8 eight_lt_size eight_lt_size

/-- A view of an element, below that element. -/
def navView : ViewRequest where
  parentId := 1
  parentTypeId := 1
  elementOffset := 0
  path := "nav.low"
  typeId := 2
  valueSize := 2
  alignment := 2
  subsystemId := 0

end Sample

/-- An element and a view are created below an element, and an element above another one. -/
theorem related_paths_granted :
    (∃ l, ([.allocate Sample.nav, .allocate Sample.navRate, .view Sample.navView] :
        List (SlateLayout.Call Bool)).foldlM (SlateLayout.granted Sample.outside)
          (.fresh Bool) = some l ∧
      l.elements.map SlateElement.path = ["nav", "nav.rate", "nav.low"] ∧ ¬l.PathsAreLeaves) ∧
    ∃ l, ([.allocate Sample.navRate, .allocate Sample.nav] :
        List (SlateLayout.Call Bool)).foldlM (SlateLayout.granted Sample.outside)
          (.fresh Bool) = some l ∧
      l.elements.map SlateElement.path = ["nav.rate", "nav"] ∧ ¬l.PathsAreLeaves := by
  have hdown : (([.allocate Sample.nav, .allocate Sample.navRate, .view Sample.navView] :
      List (SlateLayout.Call Bool)).foldlM (SlateLayout.granted Sample.outside)
        (.fresh Bool)).map (fun l => l.elements.map SlateElement.path) =
      some ["nav", "nav.rate", "nav.low"] := by
    decide
  have hup : (([.allocate Sample.navRate, .allocate Sample.nav] :
      List (SlateLayout.Call Bool)).foldlM (SlateLayout.granted Sample.outside)
        (.fresh Bool)).map (fun l => l.elements.map SlateElement.path) =
      some ["nav.rate", "nav"] := by
    decide
  have habove : IsAncestor "nav" "nav.rate" := by decide
  obtain ⟨l, hl, hpaths⟩ := Option.map_eq_some_iff.1 hdown
  obtain ⟨m, hm, hpaths'⟩ := Option.map_eq_some_iff.1 hup
  refine ⟨⟨l, hl, hpaths, ?_⟩, m, hm, hpaths', ?_⟩
  · exact SlateLayout.not_leaves_of_ancestor (by simp [hpaths]) (by simp [hpaths]) habove
  · exact SlateLayout.not_leaves_of_ancestor (by simp [hpaths']) (by simp [hpaths']) habove

/-- Paths side by side are leaves. -/
theorem flag_rate_mode_leaves :
    ∃ l, ((Sample.flagRateMode.map .allocate).foldlM (SlateLayout.granted Sample.outside)
      (.fresh Bool)) = some l ∧ l.PathsAreLeaves := by
  have hgranted : ((Sample.flagRateMode.map .allocate).foldlM (SlateLayout.granted Sample.outside)
      (.fresh Bool)).isSome = true := by
    decide
  obtain ⟨l, hl⟩ := Option.isSome_iff_exists.1 hgranted
  exact ⟨l, hl, (SlateLayout.paths_leaves_iff Sample.outside _ hl).2.2 (by decide)⟩

end Codon.Slate
