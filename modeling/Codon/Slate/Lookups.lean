import Codon.Slate.Creation
import Codon.Slate.Aliases

/-!
# Looking elements up

The lookups of `SlateLayout`: by path, and by the ids that the calls have given out.
`LookupLaws` adds to the laws of the tables what leads from an id back to its element. In
every run of calls, each id that was given out for a path leads to the element and the
validator that the call which created the element had (`ids_resolve`).
-/

namespace Codon.Slate

variable {V : Type} {o : Outside V} {l l' : SlateLayout V}

/-- What the lookups rely on besides: the id of an element in the table leads to it, and a packed
id carries its index, whether it may write or not. -/
structure LookupLaws (o : Outside V) : Prop extends PathMapLaws o, IdLaws o where
  leads : ∀ (elements : List SlateElement) (element : SlateElement),
    (elements.map SlateElement.path).Nodup → element ∈ elements →
      o.idToIterator elements (o.iteratorToId elements element.path) = some element
  index : ∀ {mayWrite hasValidator : Bool} {shard : Shard} {valueOffset idx id : Nat},
    o.slateIdBuildup mayWrite hasValidator shard valueOffset idx = some id → o.slateIdIndex id = idx
  readOnlyIndex : ∀ id, o.slateIdIndex (o.slateIdRo id) = o.slateIdIndex id

namespace SlateLayout

variable (o l)

/-- `get_element` by path. -/
def getElementAt (path : String) : Except Refusal SlateElement :=
  match l.elements.find? fun element => element.path = path with
  | none => .error .noElement
  | some element => .ok element

/-- `get_element_id`. Without an elevation it is called with `slatePrivate`. -/
def getElementId (path : String) (typeId : Nat) (accessElevation : ElemAccess) :
    Except Refusal Nat :=
  match l.getElementAt path with
  | .error refusal => .error refusal
  | .ok element =>
      if element.metadata.typeId ≠ typeId then .error .typeMismatch
      else l.buildElementId o path element.metadata accessElevation

/-- `get_element_access_policy`. -/
def getElementAccessPolicy (elementId typeId : Nat) : Except Refusal ElemAccess :=
  match l.getElement o elementId typeId with
  | .error refusal => .error refusal
  | .ok element => .ok element.metadata.accessPolicy

/-- `get_element_type`. -/
def getElementType (path : String) : Except Refusal Nat :=
  match l.getElementAt path with
  | .error refusal => .error refusal
  | .ok element => .ok element.metadata.typeId

/-- `get_element_path`. -/
def getElementPath (elementId : Nat) : Except Refusal String :=
  if !o.slateIdIsValid elementId then .error .invalidId
  else
    match o.idToIterator l.elements (o.slateIdIndex elementId) with
    | none => .error .noElement
    | some element => .ok element.path

/-- `get_first_element_path`. -/
def getFirstElementPath (elementId typeId : Nat) : Except Refusal String :=
  match l.getElement o elementId typeId with
  | .error refusal => .error refusal
  | .ok element => .ok element.path

/-- The validator in the table under an index, or one that has been given nothing. -/
def validatorAt (idx : Nat) : V :=
  match l.idxToValidator.find? fun entry => entry.1 = idx with
  | none => o.noValidator
  | some entry => entry.2

/-- `get_element_validator`. The type is not looked at. -/
def getElementValidator (elementId : Nat) : V := l.validatorAt o (o.slateIdIndex elementId)

/-- `element_exists`. -/
def elementExists (path : String) (typeId : Nat) : Bool :=
  match l.elements.find? fun element => element.path = path with
  | none => false
  | some element => element.metadata.typeId = typeId

/-- `must_validate`. -/
def mustValidate (o : Outside V) (elementId : Nat) : Bool := o.slateIdHasValidator elementId

/-- Every lookup by an id or by the path of its element gives this element and this validator. A
lookup with another type is refused. -/
structure Names (id : Nat) (element : SlateElement) (validator : V) : Prop where
  pathOf : l.getElementPath o id = .ok element.path
  byType : ∀ typeId, typeId ≠ o.slateTypeInvalid → l.getElement o id typeId =
    if element.metadata.typeId = typeId then .ok element else .error .typeMismatch
  byPath : l.getElementAt element.path = .ok element
  firstPath : element.metadata.typeId ≠ o.slateTypeInvalid →
    l.getFirstElementPath o id element.metadata.typeId = .ok element.path
  policyOf : element.metadata.typeId ≠ o.slateTypeInvalid →
    l.getElementAccessPolicy o id element.metadata.typeId = .ok element.metadata.accessPolicy
  typeOf : l.getElementType element.path = .ok element.metadata.typeId
  existsAs : ∀ typeId,
    l.elementExists element.path typeId = decide (element.metadata.typeId = typeId)
  validated : l.getElementValidator o id = validator
  flagged : mustValidate o id = !o.isNoop validator

/-- The element that a call creates, and the validator that it has. A call that is refused creates
none, even where it leaves an element behind. -/
def created? : Call V → Option (SlateElement × V)
  | .allocate r =>
      (l.allocateElement o r).1.toOption.map fun answer =>
        (⟨r.path, metadataAt r answer.2⟩,
          if o.isNoop r.validator then o.noValidator else r.validator)
  | .view v =>
      (l.createViewElement o v).1.toOption.bind fun _ =>
        (l.getElement o v.parentId v.parentTypeId).toOption.map fun parent =>
          (⟨v.path, viewMetadata v parent.metadata⟩, o.noValidator)

variable {o l}

/-- Paths are unique, so that the search for an element's path ends at it. -/
theorem find_of_mem (hl : l.Tables o) {element : SlateElement} (h : element ∈ l.elements) :
    (l.elements.find? fun other => other.path = element.path) = some element := by
  have hexists : (l.elements.find? fun other => other.path = element.path).isSome = true := by
    rw [List.find?_isSome]
    exact ⟨element, h, by simp⟩
  obtain ⟨found, hfound⟩ := Option.isSome_iff_exists.1 hexists
  have hpath : found.path = element.path := by simpa using List.find?_some hfound
  rw [hfound, hl.eq_of_path (List.mem_of_find?_eq_some hfound) h hpath]

/-- Looking up the path of an element finds it. -/
theorem get_element_at_of_mem (hl : l.Tables o) {element : SlateElement}
    (h : element ∈ l.elements) : l.getElementAt element.path = .ok element := by
  rw [getElementAt, find_of_mem hl h]

/-- An id from the path and the type of an element is one that the layout has given out. -/
theorem get_element_id_issued {path : String} {typeId id : Nat} {access : ElemAccess}
    (h : l.getElementId o path typeId access = .ok id) :
    Built.issue? o l (.elementId path access) = some ⟨id, path⟩ := by
  unfold getElementId getElementAt at h
  rw [Built.issue?]
  cases hfind : l.elements.find? fun element => element.path = path with
  | none =>
      rw [hfind] at h
      cases h
  | some element =>
      rw [hfind] at h
      dsimp only at h
      split_ifs at h
      rw [Option.bind_some, h]
      rfl

/-! ## What the tables hold -/

variable (o l) in
/-- The element is in the table, with this validator. -/
structure Registered (element : SlateElement) (validator : V) : Prop where
  mem : element ∈ l.elements
  held : l.validatorAt o (o.iteratorToId l.elements element.path) = validator
  flag : hasValidator o l element.path = !o.isNoop validator

/-- An id that carries the index and the flag of an element names it. -/
theorem Registered.names (hlaws : LookupLaws o) (hl : l.Tables o) {element : SlateElement}
    {validator : V} (h : Registered o l element validator) {id : Nat}
    (hvalid : o.slateIdIsValid id = true)
    (hindex : o.slateIdIndex id = o.iteratorToId l.elements element.path)
    (hflag : o.slateIdHasValidator id = hasValidator o l element.path) :
    Names o l id element validator := by
  have hleads : o.idToIterator l.elements (o.slateIdIndex id) = some element := by
    rw [hindex]
    exact hlaws.leads l.elements element hl.nodup h.mem
  have hbyType (typeId : Nat) (htype : typeId ≠ o.slateTypeInvalid) : l.getElement o id typeId =
      if element.metadata.typeId = typeId then .ok element else .error .typeMismatch := by
    simp [getElement, hvalid, htype, hleads]
  have hfind := find_of_mem hl h.mem
  have hbyPath : l.getElementAt element.path = .ok element := get_element_at_of_mem hl h.mem
  constructor
  case pathOf => simp [getElementPath, hvalid, hleads]
  case byType => exact hbyType
  case byPath => exact hbyPath
  case firstPath =>
    intro htype
    rw [getFirstElementPath, hbyType _ htype, if_pos rfl]
  case policyOf =>
    intro htype
    rw [getElementAccessPolicy, hbyType _ htype, if_pos rfl]
  case typeOf => rw [getElementType, hbyPath]
  case existsAs =>
    intro typeId
    rw [elementExists, hfind]
  case validated =>
    rw [getElementValidator, hindex]
    exact h.held
  case flagged => exact hflag.trans h.flag

/-- Registering an element leaves the indices of the others as they are, and gives it another. -/
theorem index_append (hmap : PathMapLaws o) (hl : l.Tables o) {added : SlateElement}
    (hnew : ∀ element ∈ l.elements, element.path ≠ added.path)
    (helements : l'.elements = l.elements ++ [added]) {element : SlateElement}
    (h : element ∈ l.elements) :
    o.iteratorToId l'.elements element.path = o.iteratorToId l.elements element.path ∧
      o.iteratorToId l.elements element.path ≠ o.iteratorToId l'.elements added.path := by
  have hnodup : (l'.elements.map SlateElement.path).Nodup := by
    rw [helements]
    exact nodup_append hl.nodup hnew
  have hstable : o.iteratorToId l'.elements element.path =
      o.iteratorToId l.elements element.path := by
    rw [helements]
    exact hmap.stable _ _ _ (helements ▸ hnodup) (List.mem_map_of_mem h)
  refine ⟨hstable, fun heq => hnew element h ?_⟩
  refine hmap.injective l'.elements _ _ hnodup ?_ ?_ (hstable.trans heq)
  · rw [helements]
    exact List.mem_map_of_mem (List.mem_append_left _ h)
  · rw [helements]
    exact List.mem_map_of_mem (List.mem_append_right _ List.mem_cons_self)

/-- Validators added for other indices leave a lookup as it is. -/
theorem validator_at_append {validators : List (Nat × V)} {idx : Nat}
    (hvalidators : l'.idxToValidator = l.idxToValidator ++ validators)
    (hother : ∀ entry ∈ validators, entry.1 ≠ idx) :
    l'.validatorAt o idx = l.validatorAt o idx := by
  have hnone : (validators.find? fun entry => entry.1 = idx) = none := by
    rw [List.find?_eq_none]
    intro entry hentry
    simpa using hother entry hentry
  rw [validatorAt, hvalidators, List.find?_append, hnone, Option.or_none, validatorAt]

/-- The validator that was given with a new element, if it does something. -/
theorem validator_at_new (hmap : PathMapLaws o) (hl : l.Tables o) (added : SlateElement)
    {validator : V} (hnew : ∀ element ∈ l.elements, element.path ≠ added.path)
    (helements : l'.elements = l.elements ++ [added])
    (hvalidators : l'.idxToValidator = l.idxToValidator ++
      if o.isNoop validator then [] else [(o.iteratorToId l'.elements added.path, validator)]) :
    l'.validatorAt o (o.iteratorToId l'.elements added.path) =
      if o.isNoop validator then o.noValidator else validator := by
  have hnone : (l.idxToValidator.find? fun entry =>
      entry.1 = o.iteratorToId l'.elements added.path) = none := by
    rw [List.find?_eq_none]
    intro entry hentry heq
    obtain ⟨element, hmem, -, hkey⟩ := hl.keys entry hentry
    exact (index_append hmap hl hnew helements hmem).2 (hkey.trans (by simpa using heq))
  rw [validatorAt, hvalidators, List.find?_append, hnone, Option.none_or]
  cases o.isNoop validator with
  | true => rfl
  | false => simp

/-- A step of the tables keeps what is registered. -/
theorem Registered.step (hmap : PathMapLaws o) (hl : l.Tables o) {path : String}
    {metadata : SlateElementMetadata} {given : V} {id : Option Nat}
    (hroot : o.isNoop given = true ∨ metadata.isViewElement = false)
    (hstep : TablesStep o l path metadata given id l') {element : SlateElement} {validator : V}
    (h : Registered o l element validator) : Registered o l' element validator := by
  have hflag : hasValidator o l' element.path = !o.isNoop validator :=
    ((hstep.tables hmap hl hroot).2.1 element h.mem).trans h.flag
  cases hstep with
  | unchanged helements hvalidators =>
      refine ⟨helements ▸ h.mem, ?_, hflag⟩
      rw [helements, validatorAt, hvalidators]
      exact h.held
  | stranded hnew helements hvalidators =>
      obtain ⟨hstable, -⟩ := index_append hmap hl hnew helements h.mem
      refine ⟨helements ▸ List.mem_append_left _ h.mem, ?_, hflag⟩
      rw [hstable, validatorAt, hvalidators]
      exact h.held
  | added hnew helements _ hvalidators =>
      obtain ⟨hstable, hdistinct⟩ := index_append hmap hl hnew helements h.mem
      refine ⟨helements ▸ List.mem_append_left _ h.mem, ?_, hflag⟩
      rw [hstable, validator_at_append hvalidators ?_]
      · exact h.held
      · intro entry hentry
        split_ifs at hentry
        · cases hentry
        · rw [List.mem_singleton.1 hentry]
          exact hdistinct.symm

/-- An element that gets an id is registered with its validator. -/
theorem TablesStep.registers (hlaws : LookupLaws o) (hl : l.Tables o) {path : String}
    {metadata : SlateElementMetadata} {given : V} {id : Nat}
    (hroot : o.isNoop given = true ∨ metadata.isViewElement = false)
    (hstep : TablesStep o l path metadata given (some id) l') :
    Registered o l' ⟨path, metadata⟩ (if o.isNoop given then o.noValidator else given) := by
  have htables := (hstep.tables hlaws.toPathMapLaws hl hroot).2.2
  cases hstep with
  | added hnew helements hid hvalidators =>
      obtain ⟨-, hnone⟩ | ⟨-, hflag⟩ := htables
      · cases hnone
      · refine ⟨?_, ?_, ?_⟩
        · rw [helements]
          exact List.mem_append_right _ List.mem_cons_self
        · exact validator_at_new hlaws.toPathMapLaws hl ⟨path, metadata⟩ hnew helements hvalidators
        · rw [hflag, Option.isSome_some, Bool.true_and]
          cases hnoop : o.isNoop given with
          | true => simp [hlaws.noValidator]
          | false => simp [hnoop]

/-- What a call does to the tables, what its id is built from, and what it creates. -/
structure CallStep (o : Outside V) (l : SlateLayout V) (c : Call V) (element : SlateElement)
    (given : V) (id : Option Nat) : Prop where
  step : TablesStep o l element.path element.metadata given id (l.call o c)
  root : o.isNoop given = true ∨ element.metadata.isViewElement = false
  issued : ∀ i ∈ Built.issue? o l (.call c), i.path = element.path ∧
    ∃ built, id = some built ∧ (i.id = built ∨ i.id = o.slateIdRo built)
  created : ∀ creation ∈ l.created? o c, id.isSome = true ∧
    creation = (element, if o.isNoop given then o.noValidator else given)

/-- An allocation is one step of a call. -/
theorem allocate_step (o : Outside V) (hl : l.Chunked) (r : Request V) :
    ∃ element id, CallStep o l (.allocate r) element r.validator id := by
  have hallocates := allocate_element_allocates o hl r
  -- a request that is refused registers nothing
  have hrefused {l' : SlateLayout V} {refusal : Refusal}
      (hanswer : l.allocateElement o r = (.error refusal, l'))
      (hstep : TablesStep o l r.path (metadataAt r 0) r.validator none l') :
      ∃ element id, CallStep o l (.allocate r) element r.validator id := by
    refine ⟨⟨r.path, metadataAt r 0⟩, none, ?_, .inr rfl, ?_, ?_⟩
    · rw [call, hanswer]
      exact hstep
    · simp [Built.issue?, hanswer, Except.toOption]
    · simp [created?, hanswer, Except.toOption]
  generalize hresult : l.allocateElement o r = result at hallocates
  cases hallocates with
  | @reserves m valueOffset hok hreserves =>
      obtain ⟨helements, hvalidators⟩ := hreserves.tables
      cases hadd : m.addElementAndBuildId o r.path (metadataAt r valueOffset) r.validator with
      | mk answer m' =>
          have hstep : TablesStep o l r.path (metadataAt r valueOffset) r.validator
              answer.toOption m' := .of_eq helements hvalidators (add_element_tables hadd)
          refine ⟨⟨r.path, metadataAt r valueOffset⟩, answer.toOption, ?_, .inr rfl, ?_, ?_⟩
          · have hlayout : (l.allocateElement o r).2 = m' := by
              rw [hresult, registerAt, hadd]
              cases answer <;> rfl
            rw [call, hlayout]
            exact hstep
          · intro i hi
            rw [Built.issue?, hresult, registerAt, hadd] at hi
            cases answer with
            | error refusal => cases hi
            | ok id =>
                cases hi
                exact ⟨rfl, id, rfl, .inl rfl⟩
          · intro creation hcreation
            rw [created?, hresult, registerAt, hadd] at hcreation
            cases answer with
            | error refusal => cases hcreation
            | ok id =>
                cases hcreation
                exact ⟨rfl, rfl⟩
  | _ => exact hrefused hresult (.unchanged rfl rfl)

/-- So is the creation of a view. -/
theorem view_step (hids : IdLaws o) (l : SlateLayout V) (v : ViewRequest) :
    ∃ element id, CallStep o l (.view v) element o.noValidator id := by
  rcases view_tables o l v with
    ⟨hnone, hsame⟩ | ⟨parent, id, -, -, -, hparent, -, hanswer, hstep⟩
  · refine ⟨⟨v.path, viewMetadata v ⟨0, .sync, 0, 0, .slatePrivate, 0, true⟩⟩, none, ?_,
      .inl hids.noValidator, ?_, ?_⟩
    · rw [call, hsame]
      exact .unchanged rfl rfl
    · simp [Built.issue?, hnone]
    · simp [created?, hnone]
  · refine ⟨⟨v.path, viewMetadata v parent.metadata⟩, id, hstep, .inl hids.noValidator, ?_, ?_⟩
    · intro i hi
      rw [Built.issue?, hanswer] at hi
      obtain ⟨given, hgiven, rfl⟩ := Option.map_eq_some_iff.1 hi
      obtain ⟨built, rfl, hread⟩ := Option.map_eq_some_iff.1 hgiven
      refine ⟨rfl, built, rfl, ?_⟩
      rw [← hread]
      split_ifs
      · exact .inl rfl
      · exact .inr rfl
    · intro creation hcreation
      rw [created?, hanswer, hparent] at hcreation
      cases id with
      | none => cases hcreation
      | some built =>
          cases hcreation
          exact ⟨rfl, (if_pos hids.noValidator).symm ▸ rfl⟩

/-- Every call of a layout is one step. -/
theorem call_step (hids : IdLaws o) (hl : l.Chunked) (c : Call V) :
    ∃ element given id, CallStep o l c element given id := by
  cases c with
  | allocate r =>
      obtain ⟨element, id, h⟩ := allocate_step o hl r
      exact ⟨element, r.validator, id, h⟩
  | view v =>
      obtain ⟨element, id, h⟩ := view_step hids l v
      exact ⟨element, o.noValidator, id, h⟩

end SlateLayout

/-! ## Runs -/

namespace Built

variable {s : Built V} {element : SlateElement} {validator : V}

/-- The id is built from the place, the index and the flag of the element. -/
def BuiltFrom (o : Outside V) (l : SlateLayout V) (element : SlateElement) (id : Nat) : Prop :=
  ∃ mayWrite built, o.slateIdBuildup mayWrite (SlateLayout.hasValidator o l element.path)
      element.metadata.shard element.metadata.valueOffset
      (o.iteratorToId l.elements element.path) = some built ∧
    (id = built ∨ id = o.slateIdRo built)

/-- Every id that has been given out is built from an element of the table. -/
structure Resolving (o : Outside V) (s : Built V) : Prop where
  chunked : s.layout.Chunked
  tables : s.layout.Tables o
  issued : ∀ i ∈ s.issued, ∃ element ∈ s.layout.elements, element.path = i.path ∧
    BuiltFrom o s.layout element i.id

/-- Nothing was issued by an empty layout. -/
theorem fresh_resolving (o : Outside V) : Resolving o (fresh V) where
  chunked := (SlateLayout.fresh_placed V).toChunked
  tables := SlateLayout.fresh_tables o
  issued _ h := by cases h

/-- An id that is built from an element carries its index and its flag. -/
theorem BuiltFrom.carries (hlaws : LookupLaws o) {id : Nat} (h : BuiltFrom o l element id) :
    o.slateIdIndex id = o.iteratorToId l.elements element.path ∧
      o.slateIdHasValidator id = SlateLayout.hasValidator o l element.path := by
  obtain ⟨mayWrite, built, hbuildup, rfl | rfl⟩ := h
  · exact ⟨hlaws.index hbuildup, (hlaws.buildup hbuildup).2⟩
  · rw [hlaws.readOnlyIndex, (hlaws.readOnly built).2]
    exact ⟨hlaws.index hbuildup, (hlaws.buildup hbuildup).2⟩

/-- A step of the tables keeps what the ids are built from. -/
theorem BuiltFrom.step (hmap : PathMapLaws o) (hl : l.Tables o) {added : SlateElement} {given : V}
    {added? : Option Nat} (hroot : o.isNoop given = true ∨ added.metadata.isViewElement = false)
    (hstep : SlateLayout.TablesStep o l added.path added.metadata given added? l')
    (hmem : element ∈ l.elements) {id : Nat} (h : BuiltFrom o l element id) :
    element ∈ l'.elements ∧ BuiltFrom o l' element id := by
  have hflag : SlateLayout.hasValidator o l' element.path =
      SlateLayout.hasValidator o l element.path := (hstep.tables hmap hl hroot).2.1 element hmem
  unfold BuiltFrom
  rw [hflag]
  cases hstep with
  | unchanged helements _ =>
      rw [helements]
      exact ⟨hmem, h⟩
  | stranded hnew helements _ =>
      rw [(SlateLayout.index_append hmap hl hnew helements hmem).1]
      exact ⟨helements ▸ List.mem_append_left _ hmem, h⟩
  | added hnew helements _ _ =>
      rw [(SlateLayout.index_append hmap hl hnew helements hmem).1]
      exact ⟨helements ▸ List.mem_append_left _ hmem, h⟩

/-- A creation keeps every identifier issued before resolving. -/
theorem Resolving.call (hlaws : LookupLaws o) (hs : Resolving o s) (c : SlateLayout.Call V) :
    Resolving o (step o s (.call c)) := by
  obtain ⟨added, given, id, hcall⟩ := SlateLayout.call_step hlaws.toIdLaws hs.chunked c
  have htables := hcall.step.tables hlaws.toPathMapLaws hs.tables hcall.root
  refine ⟨SlateLayout.chunked_call hs.chunked c, htables.1, fun i hi => ?_⟩
  rcases List.mem_append.1 hi with hnew | hold
  · obtain ⟨hpath, built, hid, hbuilt⟩ := hcall.issued i (Option.mem_toList.1 hnew)
    have hstep := hcall.step
    rw [hid] at hstep
    have hregistered := hstep.registers hlaws hs.tables hcall.root
    refine ⟨added, hregistered.mem, hpath.symm, ?_⟩
    cases hstep with
    | added _ _ hidFor _ =>
        obtain ⟨hsame, hnone⟩ | ⟨-, hadded⟩ := htables.2.2
        · rw [hid] at hnone
          cases hnone
        · rw [hid, Option.isSome_some, Bool.true_and] at hadded
          refine ⟨decide (added.metadata.shard ≠ .static), built, ?_, hbuilt⟩
          show o.slateIdBuildup _ (SlateLayout.hasValidator o (s.layout.call o c) added.path) _ _
            _ = some built
          rw [hadded]
          exact hidFor
  · obtain ⟨element, hmem, hpath, hfrom⟩ := hs.issued i hold
    obtain ⟨hmem, hfrom⟩ := hfrom.step hlaws.toPathMapLaws hs.tables hcall.root hcall.step hmem
    exact ⟨element, hmem, hpath, hfrom⟩

/-- So does asking for the identifier of a path. -/
theorem Resolving.elementId (hs : Resolving o s) (path : String) (access : ElemAccess) :
    Resolving o (step o s (.elementId path access)) := by
  refine ⟨hs.chunked, hs.tables, fun i hi => ?_⟩
  rcases List.mem_append.1 hi with hnew | hold
  · obtain ⟨element, hfind, hid⟩ := Option.bind_eq_some_iff.1 (Option.mem_toList.1 hnew)
    obtain ⟨id, hid, rfl⟩ := Option.map_eq_some_iff.1 hid
    have hpath : element.path = path := by simpa using List.find?_some hfind
    have hbuild : s.layout.buildElementId o path element.metadata access = .ok id := by
      cases hbuild : s.layout.buildElementId o path element.metadata access with
      | error refusal =>
          rw [hbuild] at hid
          cases hid
      | ok id' =>
          rw [hbuild] at hid
          cases hid
          rfl
    obtain ⟨mayWrite, hbuildup⟩ := SlateLayout.build_element_id_eq_ok hbuild
    refine ⟨element, List.mem_of_find?_eq_some hfind, hpath, mayWrite, id, ?_, .inl rfl⟩
    rw [hpath]
    exact hbuildup
  · exact hs.issued i hold

/-- Each step of a build keeps the identifiers issued resolving. -/
theorem Resolving.step (hlaws : LookupLaws o) (hs : Resolving o s) (c : BuildCall V) :
    Resolving o (step o s c) := by
  cases c with
  | call c => exact hs.call hlaws c
  | elementId path access => exact hs.elementId path access

/-- Hence a whole build does. -/
theorem run_resolving (hlaws : LookupLaws o) (hs : Resolving o s) (calls : List (BuildCall V)) :
    Resolving o (run o calls s) := by
  induction calls generalizing s with
  | nil => exact hs
  | cons c calls ih => exact ih (hs.step hlaws c)

/-- An element stays registered. -/
theorem registered_run (hlaws : LookupLaws o) (hs : Resolving o s)
    (h : s.layout.Registered o element validator) (calls : List (BuildCall V)) :
    (run o calls s).layout.Registered o element validator := by
  induction calls generalizing s with
  | nil => exact h
  | cons c calls ih =>
      refine ih (hs.step hlaws c) ?_
      cases c with
      | call c =>
          obtain ⟨added, given, id, hcall⟩ := SlateLayout.call_step hlaws.toIdLaws hs.chunked c
          exact h.step hlaws.toPathMapLaws hs.tables hcall.root hcall.step
      | elementId path access => exact h

/-- After the call that creates an element, it is registered with its validator. -/
theorem registered_of_created (hlaws : LookupLaws o) (before after : List (BuildCall V))
    {c : SlateLayout.Call V}
    (hcreated : (run o before (fresh V)).layout.created? o c = some (element, validator)) :
    (run o (before ++ .call c :: after) (fresh V)).layout.Registered o element validator := by
  have hs := run_resolving hlaws (fresh_resolving o) before
  have hrun : run o (before ++ .call c :: after) (fresh V) =
      run o after (Built.step o (run o before (fresh V)) (.call c)) := by
    rw [run, List.foldl_append]
    rfl
  rw [hrun]
  generalize run o before (fresh V) = s at hs hcreated ⊢
  obtain ⟨added, given, id, hcall⟩ := SlateLayout.call_step hlaws.toIdLaws hs.chunked c
  obtain ⟨hsome, hcreation⟩ := hcall.created _ hcreated
  obtain ⟨built, rfl⟩ := Option.isSome_iff_exists.1 hsome
  obtain ⟨rfl, rfl⟩ := Prod.mk.inj hcreation
  have hregistered := hcall.step.registers hlaws hs.tables hcall.root
  exact registered_run hlaws (hs.call hlaws c) hregistered after

/-- The ids that were given out for the path of a registered element carry its index and its flag.
-/
theorem Resolving.carries (hlaws : LookupLaws o) (hs : Resolving o s)
    (h : s.layout.Registered o element validator) {i : Issued} (hissued : i ∈ s.issued)
    (hpath : i.path = element.path) :
    o.slateIdIndex i.id = o.iteratorToId s.layout.elements element.path ∧
      o.slateIdHasValidator i.id = SlateLayout.hasValidator o s.layout element.path := by
  obtain ⟨named, hmem, hnamed, hfrom⟩ := hs.issued i hissued
  have hsame : named = element := hs.tables.eq_of_path hmem h.mem (hnamed.trans hpath)
  rw [hsame] at hfrom
  exact hfrom.carries hlaws

/-- After the call that creates an element, the ids that are given out for its path name it. -/
theorem issued_names (hlaws : LookupLaws o) (before after : List (BuildCall V))
    {c : SlateLayout.Call V}
    (hcreated : (run o before (fresh V)).layout.created? o c = some (element, validator))
    {i : Issued} (hissued : i ∈ (run o (before ++ .call c :: after) (fresh V)).issued)
    (hpath : i.path = element.path) (hvalid : o.slateIdIsValid i.id = true) :
    (run o (before ++ .call c :: after) (fresh V)).layout.Names o i.id element validator := by
  have hkept := registered_of_created hlaws before after hcreated
  have hlast := run_resolving hlaws (fresh_resolving o) (before ++ .call c :: after)
  obtain ⟨hindex, hflag⟩ := hlast.carries hlaws hkept hissued hpath
  exact hkept.names hlaws hlast.tables hvalid hindex hflag

/-- Whatever calls come before and after the one that creates an element, every id that any of them
has given out for its path, or that is looked up now, names the element with its validator. Once the
layout is final it still leads to the validator. -/
theorem ids_resolve (hlaws : LookupLaws o) (before after : List (BuildCall V))
    {c : SlateLayout.Call V}
    (hcreated : (run o before (fresh V)).layout.created? o c = some (element, validator)) {id : Nat}
    (hid : ⟨id, element.path⟩ ∈ (run o (before ++ .call c :: after) (fresh V)).issued ∨
      ∃ typeId access, (run o (before ++ .call c :: after) (fresh V)).layout.getElementId o
        element.path typeId access = .ok id)
    (hvalid : o.slateIdIsValid id = true) :
    (run o (before ++ .call c :: after) (fresh V)).layout.Names o id element validator ∧
      (run o (before ++ .call c :: after) (fresh V)).layout.finalize.getElementValidator o id =
        validator := by
  have hnames : (run o (before ++ .call c :: after) (fresh V)).layout.Names o id element
      validator := by
    rcases hid with hissued | ⟨typeId, access, hlookup⟩
    · exact issued_names hlaws before after hcreated hissued rfl hvalid
    · -- a lookup is one more call, which leaves the layout as it is
      have hrun :
          run o (before ++ .call c :: (after ++ [.elementId element.path access])) (fresh V) =
            Built.step o (run o (before ++ .call c :: after) (fresh V))
              (.elementId element.path access) := by
        rw [run, run, ← List.cons_append, ← List.append_assoc, List.foldl_append]
        rfl
      have hmore := issued_names hlaws before (after ++ [.elementId element.path access]) hcreated
        (i := ⟨id, element.path⟩)
      rw [hrun] at hmore
      refine hmore (List.mem_append_left _ ?_) rfl hvalid
      rw [SlateLayout.get_element_id_issued hlookup]
      exact List.mem_cons_self
  exact ⟨hnames, hnames.validated⟩

end Built

namespace Sample

/-- The sample's identifiers meet what is asked of lookups. -/
theorem lookup_laws : LookupLaws outside where
  toPathMapLaws := path_map_laws
  toIdLaws := id_laws
  leads elements element hnodup hmem := by
    have hat := path_at_id (List.mem_map_of_mem (f := SlateElement.path) hmem)
    obtain ⟨found, hfound, hpath⟩ := Option.map_eq_some_iff.1 hat
    have heq : found = element :=
      List.inj_on_of_nodup_map hnodup (List.mem_of_getElem? hfound) hmem hpath
    rwa [heq] at hfound
  index {mayWrite hasValidator _ _ _ _} h := by
    cases h
    cases mayWrite <;> cases hasValidator <;> simp [outside] <;> omega
  readOnlyIndex id := by
    simp only [outside]
    omega

/-- The parameter and a view of it are created, and a writable id of the parameter is asked for. -/
def askForLimit : List (BuildCall Bool) :=
  limitAndView ++ [.elementId "nav.limit" .slateReadWrite]

end Sample

/-- The element of the parameter, which is the first in the sync shard. -/
theorem limit_resolves :
    let l := (Built.run Sample.outside Sample.askForLimit (.fresh Bool)).layout
    let limit : SlateElement := ⟨"nav.limit", ⟨1, .sync, 0, 8, .slateReadOnly, 0, false⟩⟩
    l.Names Sample.outside 3 limit false ∧
      l.finalize.getElementValidator Sample.outside 3 = false :=
  Built.ids_resolve Sample.lookup_laws [] Sample.askForLimit.tail rfl (.inl (by decide)) rfl

end Codon.Slate
