import Codon.Library.Run
import Codon.Slate.Refusal
import Codon.Slate.Tables

/-!
# Views of views

A view lies within its parent, and so does every view of a view: read `views_contained`. The
checks of `create_view_element` are made against the parent only. What carries them down to the
root element is that no element ends above the 32-bit range, so that the offset of a view does not
wrap. Refused requests may be among the calls.
-/

namespace Codon.Slate

open Codon.Library

variable {V : Type} {o : Outside V} {l l' m : SlateLayout V} {r : Request V} {v : ViewRequest}

/-- The element ends within the 32-bit range. -/
structure SlateElementMetadata.Fits (metadata : SlateElementMetadata) : Prop where
  size_lt : metadata.valueSize < 2 ^ 32
  end_le : metadata.valueOffset + metadata.valueSize ≤ 2 ^ 32

/-- The offset of a view does not wrap, so that it lies within its parent. -/
theorem view_within_parent {parent : SlateElementMetadata} (hsize : v.valueSize ≠ 0)
    (h : l.viewRefusal? o v parent = none) (hfits : parent.Fits) :
    (SlateLayout.viewMetadata v parent).valueOffset = parent.valueOffset + v.elementOffset ∧
      (SlateLayout.viewMetadata v parent).valueSize = v.valueSize ∧
      (SlateLayout.viewMetadata v parent).span.Within parent.span := by
  obtain ⟨hlt, hend⟩ := hfits
  unfold SlateLayout.viewRefusal? at h
  split_ifs at h with _ _ _ hlast
  have hoffset : (SlateLayout.viewMetadata v parent).valueOffset =
      parent.valueOffset + v.elementOffset := Nat.mod_eq_of_lt (by omega)
  have hsize' : (SlateLayout.viewMetadata v parent).valueSize = v.valueSize :=
    Nat.mod_eq_of_lt (by omega)
  refine ⟨hoffset, hsize', ?_⟩
  rw [SlateElementMetadata.span, SlateElementMetadata.span, hoffset, hsize']
  constructor
  · show parent.valueOffset ≤ parent.valueOffset + v.elementOffset
    omega
  · show parent.valueOffset + v.elementOffset + v.valueSize ≤ parent.valueOffset + parent.valueSize
    omega

/-- The offset of a view is a multiple of its alignment. -/
theorem alignment_dvd_of_view {parent : SlateElementMetadata}
    (hpower : notPowerOfTwo v.alignment = false) (hmax : v.alignment ≤ maxAlignment)
    (h : l.viewRefusal? o v parent = none) :
    v.alignment ∣ parent.valueOffset + v.elementOffset := by
  obtain ⟨k, -, halignment⟩ := exists_two_pow hpower hmax
  unfold SlateLayout.viewRefusal? at h
  split_ifs at h with _ _ _ _ haligned
  rw [halignment, Nat.and_two_pow_sub_one_eq_mod, not_not] at haligned
  rw [halignment]
  exact Nat.dvd_of_mod_eq_zero haligned

/-- What the checks of a view establish of the metadata that it is registered with. -/
theorem view_metadata_spec {parent : SlateElementMetadata} (hsize : v.valueSize ≠ 0)
    (h : l.viewRefusal? o v parent = none) (hfits : parent.Fits) :
    (SlateLayout.viewMetadata v parent).Fits := by
  obtain ⟨hoffset, hsize', hlo, hhi⟩ := view_within_parent hsize h hfits
  exact ⟨Nat.mod_lt _ (Nat.two_pow_pos 32), hhi.trans hfits.end_le⟩

/-- What an allocation adds ends within the 32-bit range. -/
theorem allocate_elements (o : Outside V) (hl : l.Chunked) (r : Request V) :
    (l.allocateElement o r).2.elements = l.elements ∨
      ∃ metadata, metadata.isViewElement = false ∧ metadata.Fits ∧
        (l.allocateElement o r).2.elements = l.elements ++ [⟨r.path, metadata⟩] := by
  have hallocates := SlateLayout.allocate_element_allocates o hl r
  generalize l.allocateElement o r = result at hallocates ⊢
  cases hallocates with
  | @reserves m valueOffset hok hreserves =>
      obtain ⟨hend, hoffset, hsize, -⟩ := hreserves.fits hl (refusal_eq_none hok).1
      obtain ⟨answer, m', hadd, -, -, -, -, -, helements⟩ := SlateLayout.add_element_spec o m r.path
        (SlateLayout.metadataAt r valueOffset) r.validator
      have hregistered : (m.registerAt o r valueOffset).2 = m' := by
        rw [SlateLayout.registerAt, hadd]
        cases answer <;> rfl
      have hfits : (SlateLayout.metadataAt r valueOffset).Fits := by
        refine ⟨Nat.mod_lt _ (Nat.two_pow_pos 32), ?_⟩
        rw [SlateLayout.metadataAt, Nat.mod_eq_of_lt hoffset, Nat.mod_eq_of_lt hsize]
        exact hend
      rw [hregistered, ← hreserves.tables.1]
      exact helements.imp_right fun hadded => ⟨_, rfl, hfits, hadded⟩
  | _ => exact .inl rfl

/-- An element that was registered as a view, and the element that it is a view of. -/
structure ViewLink where
  view : SlateElement
  parent : SlateElement

/-- A view that was created: its request, the element it was registered as and the id it got. -/
structure GrantedView where
  request : ViewRequest
  element : SlateElement
  id : Nat

/-- A layout with the views it has registered and those it has created. -/
structure Lineage (V : Type) where
  layout : SlateLayout V
  links : List ViewLink
  granted : List GrantedView

/-- The element is, or is a view of a view and so on of, this root element. -/
inductive Descends (links : List ViewLink) : SlateElement → SlateElement → Prop where
  | root {element : SlateElement} (hroot : element.metadata.isViewElement = false) :
      Descends links element element
  | view {link : ViewLink} {root : SlateElement} (hlink : link ∈ links)
      (hparent : Descends links link.parent root) : Descends links link.view root

/-- More links lead to the same root elements. -/
theorem Descends.mono {links links' : List ViewLink} (hsub : links ⊆ links')
    {element root : SlateElement} (h : Descends links element root) :
    Descends links' element root := by
  induction h with
  | root hroot => exact .root hroot
  | view hlink _ ih => exact .view (hsub hlink) ih

/-- Where every link leads from a view to an element of the same shard around it, a view lies in
each root element it descends from. -/
theorem Descends.within {links : List ViewLink}
    (hlinks : ∀ link ∈ links, link.view.metadata.shard = link.parent.metadata.shard ∧
      link.view.metadata.span.Within link.parent.metadata.span)
    {element root : SlateElement} (h : Descends links element root) :
    root.metadata.isViewElement = false ∧ element.metadata.shard = root.metadata.shard ∧
      element.metadata.span.Within root.metadata.span := by
  induction h with
  | root hroot => exact ⟨hroot, rfl, .refl _⟩
  | view hlink _ ih =>
      obtain ⟨hshard, hwithin⟩ := hlinks _ hlink
      exact ⟨ih.1, hshard.trans ih.2.1, hwithin.trans ih.2.2⟩

namespace Lineage

/-- Nothing has been registered. -/
def fresh (V : Type) : Lineage V := ⟨.fresh V, [], []⟩

/-- The element that a request is registered as, and the element that it is a view of. -/
def link? (o : Outside V) (l : SlateLayout V) (v : ViewRequest) : Option ViewLink :=
  (l.getElement o v.parentId v.parentTypeId).toOption.map fun parent =>
    ⟨⟨v.path, SlateLayout.viewMetadata v parent.metadata⟩, parent⟩

def step (o : Outside V) (s : Lineage V) : SlateLayout.Call V → Lineage V
  | .allocate r => { s with layout := (s.layout.allocateElement o r).2 }
  | .view v =>
      let (answer, layout) := s.layout.createViewElement o v
      let link := link? o s.layout v
      { layout
        links := if layout.elements = s.layout.elements then s.links else s.links ++ link.toList
        granted := s.granted ++
          (answer.toOption.bind fun id => link.map fun link => ⟨v, link.view, id⟩).toList }

/-- What calls keep. Every element is a root element or has a link to one that is in the table. -/
structure Contained (o : Outside V) (s : Lineage V) : Prop where
  chunked : s.layout.Chunked
  fits : ∀ element ∈ s.layout.elements, element.metadata.Fits
  links : ∀ link ∈ s.links, link.view.metadata.shard = link.parent.metadata.shard ∧
    link.view.metadata.span.Within link.parent.metadata.span
  rooted : ∀ element ∈ s.layout.elements,
    ∃ root ∈ s.layout.elements, Descends s.links element root
  granted : ∀ g ∈ s.granted, g.element ∈ s.layout.elements ∧ g.element.path = g.request.path ∧
    g.element.metadata.valueSize = g.request.valueSize ∧
    g.request.alignment ∣ g.element.metadata.valueOffset ∧
    (o.slateIdCanWrite g.request.parentId = false → o.slateIdCanWrite g.id = false)

/-- An empty layout has nothing to contain. -/
theorem fresh_contained (o : Outside V) : Contained o (fresh V) where
  chunked := (SlateLayout.fresh_partitioned V).toChunked
  fits _ h := by cases h
  links _ h := by cases h
  rooted _ h := by cases h
  granted _ h := by cases h

variable {s : Lineage V}

/-- A layout whose elements have not changed keeps it. -/
theorem Contained.unchanged (h : Contained o s) (hchunked : l'.Chunked)
    (helements : l'.elements = s.layout.elements) : Contained o ⟨l', s.links, s.granted⟩ := by
  refine ⟨hchunked, ?_, h.links, ?_, ?_⟩
  · rw [helements]
    exact h.fits
  · rw [helements]
    exact h.rooted
  · rw [helements]
    exact h.granted

/-- An element that is added within the 32-bit range, with a root element, keeps it. -/
theorem Contained.added (h : Contained o s) (hchunked : l'.Chunked) {element : SlateElement}
    (helements : l'.elements = s.layout.elements ++ [element]) (hfits : element.metadata.Fits)
    {links : List ViewLink} (hsub : s.links ⊆ links)
    (hlinks : ∀ link ∈ links, link.view.metadata.shard = link.parent.metadata.shard ∧
      link.view.metadata.span.Within link.parent.metadata.span)
    (hrooted : ∃ root ∈ l'.elements, Descends links element root) :
    Contained o ⟨l', links, s.granted⟩ := by
  have hmem : ∀ element ∈ s.layout.elements, element ∈ l'.elements := fun element helement => by
    rw [helements]
    exact List.mem_append_left _ helement
  refine ⟨hchunked, fun element' helement' => ?_, hlinks, fun element' helement' => ?_,
    fun g hg => ?_⟩
  · rw [helements, List.mem_append, List.mem_singleton] at helement'
    rcases helement' with hold | rfl
    · exact h.fits element' hold
    · exact hfits
  · rw [helements, List.mem_append, List.mem_singleton] at helement'
    rcases helement' with hold | rfl
    · obtain ⟨root, hroot, hdescends⟩ := h.rooted element' hold
      exact ⟨root, hmem root hroot, hdescends.mono hsub⟩
    · exact hrooted
  · obtain ⟨helement, hg⟩ := h.granted g hg
    exact ⟨hmem g.element helement, hg⟩

/-- An allocation keeps every view contained. -/
theorem Contained.allocate (h : Contained o s) (r : Request V) :
    Contained o (step o s (.allocate r)) := by
  have hchunked := SlateLayout.chunked_allocate o h.chunked r
  rcases allocate_elements o h.chunked r with hsame | ⟨metadata, hroot, hfits, hadded⟩
  · exact h.unchanged hchunked hsame
  · refine h.added hchunked hadded hfits (List.Subset.refl _) h.links ⟨⟨r.path, metadata⟩, ?_, ?_⟩
    · rw [hadded]
      simp
    · exact .root hroot

/-- A view that is registered gets a link. -/
theorem Contained.registered (h : Contained o s) (hchunked : l'.Chunked) {parent : SlateElement}
    (hparent : parent ∈ s.layout.elements) (hsize : v.valueSize ≠ 0)
    (hchecks : s.layout.viewRefusal? o v parent.metadata = none)
    (helements : l'.elements =
      s.layout.elements ++ [⟨v.path, SlateLayout.viewMetadata v parent.metadata⟩]) :
    Contained o ⟨l', s.links ++ [⟨⟨v.path, SlateLayout.viewMetadata v parent.metadata⟩, parent⟩],
      s.granted⟩ := by
  have hfits := h.fits parent hparent
  obtain ⟨-, -, hwithin⟩ := view_within_parent hsize hchecks hfits
  refine h.added hchunked helements (view_metadata_spec hsize hchecks hfits)
    (List.subset_append_left _ _) (fun link hlink => ?_) ?_
  · rw [List.mem_append, List.mem_singleton] at hlink
    rcases hlink with hold | rfl
    · exact h.links link hold
    · exact ⟨rfl, hwithin⟩
  · obtain ⟨root, hroot, hdescends⟩ := h.rooted parent hparent
    refine ⟨root, helements ▸ List.mem_append_left _ hroot, ?_⟩
    have hlink : (⟨⟨v.path, SlateLayout.viewMetadata v parent.metadata⟩, parent⟩ : ViewLink) ∈
        s.links ++ [⟨⟨v.path, SlateLayout.viewMetadata v parent.metadata⟩, parent⟩] := by simp
    exact .view hlink (hdescends.mono (List.subset_append_left _ _))

/-- A view that is created is granted what its request asks for. -/
theorem Contained.grant (h : Contained o s) {g : GrantedView}
    (hg : g.element ∈ s.layout.elements ∧ g.element.path = g.request.path ∧
      g.element.metadata.valueSize = g.request.valueSize ∧
      g.request.alignment ∣ g.element.metadata.valueOffset ∧
      (o.slateIdCanWrite g.request.parentId = false → o.slateIdCanWrite g.id = false)) :
    Contained o ⟨s.layout, s.links, s.granted ++ [g]⟩ := by
  refine ⟨h.chunked, h.fits, h.links, h.rooted, fun g' hg' => ?_⟩
  rw [List.mem_append, List.mem_singleton] at hg'
  rcases hg' with hold | rfl
  · exact h.granted g' hold
  · exact hg

/-- The id of a view does not permit writing when the id of its parent does not. -/
theorem not_can_write_of_parent (hids : IdLaws o) {parentId id : Nat}
    (h : o.slateIdCanWrite parentId = false) :
    o.slateIdCanWrite (if o.slateIdCanWrite parentId then id else o.slateIdRo id) = false := by
  rw [h]
  exact (hids.readOnly id).1

/-- A view lies in its parent, and so in the parent's root. -/
theorem Contained.view (hmap : PathMapLaws o) (hids : IdLaws o) (h : Contained o s)
    (v : ViewRequest) : Contained o (step o s (.view v)) := by
  have hchunked := SlateLayout.chunked_call (o := o) h.chunked (.view v)
  rw [SlateLayout.call] at hchunked
  rcases SlateLayout.view_tables o s.layout v with
    ⟨hnone, hsame⟩ | ⟨parent, id, hsize, hpower, hmax, hparent, hchecks, hanswer, hstep⟩
  · simp only [step, hnone, hsame, if_true, Option.bind_none, Option.toList_none, List.append_nil]
    exact h
  · have hmem := SlateLayout.parent_found hmap hparent
    have hlink : link? o s.layout v =
        some ⟨⟨v.path, SlateLayout.viewMetadata v parent.metadata⟩, parent⟩ := by
      rw [link?, hparent]
      rfl
    simp only [step, hanswer, hlink]
    generalize (s.layout.createViewElement o v).2 = l' at hchunked hstep ⊢
    cases hstep with
    | unchanged helements =>
        rw [if_pos helements]
        simpa using h.unchanged hchunked helements
    | stranded _ helements =>
        rw [if_neg (by simp [helements])]
        simpa using h.registered hchunked hmem hsize hchecks helements
    | @added _ id _ helements =>
        have hregistered := h.registered hchunked hmem hsize hchecks helements
        obtain ⟨hoffset, hsize', -⟩ := view_within_parent hsize hchecks (h.fits parent hmem)
        rw [if_neg (by simp [helements])]
        refine hregistered.grant (g := ⟨v, ⟨v.path, SlateLayout.viewMetadata v parent.metadata⟩, _⟩)
          ⟨?_, rfl, hsize', ?_, not_can_write_of_parent hids⟩
        · rw [helements]
          simp
        · show v.alignment ∣ (SlateLayout.viewMetadata v parent.metadata).valueOffset
          rw [hoffset]
          exact alignment_dvd_of_view hpower hmax hchecks

/-- Each call keeps the views contained. -/
theorem Contained.step (hmap : PathMapLaws o) (hids : IdLaws o) (h : Contained o s)
    (c : SlateLayout.Call V) : Contained o (step o s c) := by
  cases c with
  | allocate r => exact h.allocate r
  | view v => exact h.view hmap hids v

/-- Every view that was created, after any sequence of calls, is registered with the size it was
requested with, at a multiple of its alignment, and with an id that permits writing only if that of
its parent does. It descends from a root element, lies within it and is in its shard. -/
theorem views_contained (hmap : PathMapLaws o) (hids : IdLaws o)
    (calls : List (SlateLayout.Call V)) :
    let s := run (step o) (fresh V) calls
    ∀ g ∈ s.granted,
      (g.element ∈ s.layout.elements ∧ g.element.path = g.request.path ∧
        g.element.metadata.valueSize = g.request.valueSize ∧
        g.request.alignment ∣ g.element.metadata.valueOffset ∧
        (o.slateIdCanWrite g.request.parentId = false → o.slateIdCanWrite g.id = false)) ∧
      (∃ root ∈ s.layout.elements, Descends s.links g.element root) ∧
      ∀ root, Descends s.links g.element root →
        root.metadata.isViewElement = false ∧ g.element.metadata.shard = root.metadata.shard ∧
          g.element.metadata.span.Within root.metadata.span := by
  intro s g hg
  have h : Contained o s := run_invariant (fresh_contained o) fun _ c h => h.step hmap hids c
  have hgranted := h.granted g hg
  exact ⟨hgranted, h.rooted g.element hgranted.1, fun root hroot => hroot.within h.links⟩

end Lineage

namespace Sample

/-- A flag, a view of it and a view of that view. -/
def viewOfView : List (SlateLayout.Call Bool) :=
  [.allocate (request "nav.flag" 8 8 eight_lt_size eight_lt_size),
    .view ⟨1, 1, 4, "nav.low", 1, 4, 4, 0⟩, .view ⟨5, 1, 2, "nav.bits", 1, 2, 2, 0⟩]

/-- The theorem on a view of a view. -/
theorem view_of_view_contained :
    (run (Lineage.step outside) (.fresh Bool) viewOfView).granted.length = 2 ∧
      ∀ g ∈ (run (Lineage.step outside) (.fresh Bool) viewOfView).granted,
        ∃ root ∈ (run (Lineage.step outside) (.fresh Bool) viewOfView).layout.elements,
          Descends (run (Lineage.step outside) (.fresh Bool) viewOfView).links g.element root :=
  ⟨by decide, fun g hg => (Lineage.views_contained path_map_laws id_laws viewOfView g hg).2.1⟩

end Sample

end Codon.Slate
