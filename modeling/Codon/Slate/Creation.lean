import Codon.Library.Run
import Codon.Slate.Placement
import Codon.Slate.SubSlate
import Codon.Slate.Tokens

/-!
# Permission to create

The permission of a builder says in which shards elements may be created through it and through
the builders derived from it. All overloads of `create` and `create_element` check it. No overload
of `create_view` does, and a view belongs to the shard of its parent: `denied_shard_iff` says which
calls add an element to a shard that a builder is denied.

Not in the source tree are the permissions and the stores of builders, and the types of elements.
`CreationOutside` holds what `SlateBuilder` uses of the former, and the calls hold what the latter
answer. Other code makes tokens too, so that a call also holds the accountant of tokens as it finds
it.
-/

namespace Codon.Slate

open Codon.Library

variable {S P E V : Type}

/-- `slate_info` of a type. -/
structure SlateInfo where
  isValid : Bool
  typeId : Nat
  alignment : Nat
  alignment_lt : alignment < 2 ^ 64

/-- A value of a type: its size, whether it can be constructed in the memory of an element, and
whether the validator that it is created with can be used and accepts it. -/
structure SlateValue where
  info : SlateInfo
  size : Nat
  size_lt : size < 2 ^ 64
  constructs : Bool
  validates : Bool

/-- What `SlateBuilder` uses of code that is not in the source tree when elements are created. -/
structure CreationOutside (S P V : Type) where
  slateCanCreate : P → Shard → Bool
  slateCanRead : P → Bool
  bindRead : S → SlateLayout V → (fullPath : String) → (typeId : Nat) → Option Nat
  isSuperSlate : S → Bool
  superSlate : S → Option S
  slateIdBuildInvalid : Nat → Nat
  slateElementDefault : Nat

/-- The ids of tokens, which are those of elements once they are bound. -/
def CreationOutside.tokenIds (c : CreationOutside S P V) (outside : Outside V) : TokenIds where
  slateIdIsValid := outside.slateIdIsValid
  slateIdCanWrite := outside.slateIdCanWrite
  slateIdHasValidator := outside.slateIdHasValidator
  slateIdRo := outside.slateIdRo
  slateIdBuildInvalid := c.slateIdBuildInvalid
  slateElementDefault := c.slateElementDefault

/-- The access of a `ReadToken`. -/
def TokenAccess.reads : TokenAccess where
  canRead := true
  canWrite := false
  canValidate := false
  read_or_write := .inl rfl
  write_of_validate := id

/-- What the permissions to create rely on: a store has the permission that it is given, a subset of
a permission permits no more, and super slates come from the root, which is denied nothing. -/
structure CreationLaws (o : BuilderOutside S P) (c : CreationOutside S P V) : Prop where
  getPermission : ∀ store path masked permission subsystemId,
    o.getPermission (o.subSlate store path masked permission subsystemId) = permission
  takeSubset : ∀ {permission subset : P} {shard : Shard},
    c.slateCanCreate (o.permissionTakeSubset permission subset) shard = true →
      c.slateCanCreate permission shard = true
  superSlate : ∀ {store super : S}, c.superSlate store = some super →
    ∀ shard, c.slateCanCreate (o.getPermission store) shard = true

/-- The arguments of `create_element`. -/
structure ElementArgs (V : Type) where
  elementPath : String
  initialValue : SlateValue
  shard : Shard
  access : ElemAccess
  validator : V

/-- The arguments of `create_view`. The size is that of `T{}`. -/
structure ViewArgs where
  parentElementId : Nat
  parentTypeId : Nat
  elementPath : String
  elementOffset : Nat
  info : SlateInfo
  valueSize : Nat

/-- The public calls of `SlateBuilder`. Overloads are one call, and an argument that an overload
does not have is its default. A call by token gives the id of the token. -/
inductive BuilderCall (S P E V : Type) where
  | subSlate (call : SubSlateCall P)
  | superSlate
  | addEnumRegistry (registry : E) (relativePath : Option String)
  | createReadOnlyElement (elementPath : String) (initialValue : SlateValue) (shard : Shard)
  | createElement (args : ElementArgs V)
  | create (args : ElementArgs V) (tokenId : Nat)
  | createWithEnum (args : ElementArgs V) (tokenId : Nat)
  | createView (args : ViewArgs)
  | createViewOf (parentElement : String) (parentPath : SlateBuilder S E)
      (accountant : SlateTokenAccountant) (elementPath : String) (elementOffset : Nat)
      (info : SlateInfo) (valueSize : Nat)
  | finalize
  /-- The calls that leave the layout and the builders alone: `bind`, `build` and the lookups. -/
  | other

/-- `finalize` of a layout. -/
def SlateLayout.finalize (l : SlateLayout V) : SlateLayout V :=
  { l with
    elements := []
    stringPool := []
    initialValues := fun _ => ⟨0, 0⟩
    shardFreeList := fun _ => [] }

namespace SlateBuilder

variable (o : BuilderOutside S P) (c : CreationOutside S P V) (outside : Outside V)
  (isBuilt : S → Bool) (b : SlateBuilder S E) (l : SlateLayout V)

/-- The request to the layout that `create_element` makes. -/
def elementRequest (args : ElementArgs V) : Request V where
  path := o.slateJoinPath b.subtreePath args.elementPath
  typeId := args.initialValue.info.typeId
  valueSize := args.initialValue.size
  alignment := args.initialValue.info.alignment
  shard := args.shard
  accessPolicy := args.access
  validator := args.validator
  subsystemId := o.getSubsystemId b.store
  valueSize_lt := args.initialValue.size_lt
  alignment_lt := args.initialValue.info.alignment_lt

/-- `create_element`: the id, and the layout. What fails once the element has been allocated does
not remove it. -/
def createElement (args : ElementArgs V) : Option Nat × SlateLayout V :=
  if isBuilt b.store then (none, l)
  else if !c.slateCanCreate (o.getPermission b.store) args.shard then (none, l)
  else if !(b.requirePermittedPath o (o.slateJoinPath b.subtreePath args.elementPath)).1 then
    (none, l)
  else if !args.initialValue.info.isValid then (none, l)
  else
    match l.allocateElement outside (b.elementRequest o args) with
    | (.error _, l) => (none, l)
    | (.ok (elementId, _), l) =>
        (if outside.slateIdIsValid elementId ∧ args.initialValue.constructs ∧
            (outside.isNoop args.validator ∨ args.initialValue.validates) then some elementId
          else none, l)

/-- What `create` does to the layout. A token that is bound is refused. -/
def create (args : ElementArgs V) (tokenId : Nat) : SlateLayout V :=
  if outside.slateIdIsValid tokenId then l else (b.createElement o c outside isBuilt l args).2

/-- What `create_with_enum` does to the layout. -/
def createWithEnum (args : ElementArgs V) (tokenId : Nat) : SlateLayout V :=
  if b.enumRegistry.isNone then l else b.create o c outside isBuilt l args tokenId

/-- The request to the layout that `create_view` makes. -/
def viewRequest (args : ViewArgs) : ViewRequest where
  parentId := args.parentElementId
  parentTypeId := args.parentTypeId
  elementOffset := args.elementOffset
  path := o.slateJoinPath b.subtreePath args.elementPath
  typeId := args.info.typeId
  valueSize := args.valueSize
  alignment := args.info.alignment
  subsystemId := o.getSubsystemId b.store

/-- `create_view`: the id, and the layout. -/
def createView (args : ViewArgs) : Option Nat × SlateLayout V :=
  if !outside.slateIdIsValid args.parentElementId then (none, l)
  else if isBuilt b.store then (none, l)
  else if !(b.requirePermittedPath o (o.slateJoinPath b.subtreePath args.elementPath)).1 then
    (none, l)
  else if !args.info.isValid then (none, l)
  else
    -- unlike `create_element`, no branch asks whether the builder may create in the shard
    match l.createViewElement outside (b.viewRequest o args) with
    | (.error _, l) => (none, l)
    | (.ok viewElementId, l) => (some viewElementId, l)

/-- `bind` of a new token for reading: the id that it gets, if the call succeeds. -/
def bindRead (accountant : SlateTokenAccountant) (elementPath : String) (typeId : Nat) :
    Option Nat :=
  let fullPath := o.slateJoinPath b.subtreePath elementPath
  let (tokenId, accountant) := accountant.construct (c.tokenIds outside)
  let lookup : StoreLookup :=
    { isBuilt := isBuilt b.store
      slateCanRead := c.slateCanRead (o.getPermission b.store)
      slateCanWrite := false
      permittedPath := (b.requirePermittedPath o fullPath).1
      elementId := c.bindRead b.store l fullPath typeId }
  match bind (c.tokenIds outside) accountant .reads lookup tokenId with
  | some (true, elementId, _) => some elementId
  | _ => none

/-- `create_view` of the element of another builder. -/
def createViewOf (parentElement : String) (parentPath : SlateBuilder S E)
    (accountant : SlateTokenAccountant) (elementPath : String) (elementOffset : Nat)
    (info : SlateInfo) (valueSize : Nat) : Option Nat × SlateLayout V :=
  match parentPath.bindRead o c outside isBuilt l accountant parentElement info.typeId with
  | none => (none, l)
  | some parentId =>
      b.createView o outside isBuilt l
        ⟨parentId, info.typeId, elementPath, elementOffset, info, valueSize⟩

/-- `super_slate`. A failed assertion ends the program. -/
def superSlate : Option (SlateBuilder S E) :=
  if c.isSuperSlate b.store then some b else (c.superSlate b.store).map (ofStore o)

/-- `add_enum_registry`. The relative path is set even if there is a registry already. -/
def addEnumRegistry (registry : E) (relativePath : Option String) : SlateBuilder S E :=
  { b with
    enumRegistryRelativePath := relativePath.getD b.enumRegistryRelativePath
    enumRegistry := some (b.enumRegistry.getD registry) }

/-- The layout after a call. -/
def layoutAfter : BuilderCall S P E V → SlateLayout V
  | .createReadOnlyElement elementPath initialValue shard =>
      (b.createElement o c outside isBuilt l
        ⟨elementPath, initialValue, shard, .slateReadOnly, outside.noValidator⟩).2
  | .createElement args => (b.createElement o c outside isBuilt l args).2
  | .create args tokenId => b.create o c outside isBuilt l args tokenId
  | .createWithEnum args tokenId => b.createWithEnum o c outside isBuilt l args tokenId
  | .createView args => (b.createView o outside isBuilt l args).2
  | .createViewOf parentElement parentPath accountant elementPath elementOffset info valueSize =>
      (b.createViewOf o c outside isBuilt l parentElement parentPath accountant elementPath
        elementOffset info valueSize).2
  | .finalize => l.finalize
  | _ => l

end SlateBuilder

/-- The arguments with which a call gets to `create_view` by id, if it does. -/
def BuilderCall.viewArgs? (o : BuilderOutside S P) (c : CreationOutside S P V) (outside : Outside V)
    (isBuilt : S → Bool) (l : SlateLayout V) : BuilderCall S P E V → Option ViewArgs
  | .createView args => some args
  | .createViewOf parentElement parentPath accountant elementPath elementOffset info valueSize =>
      (parentPath.bindRead o c outside isBuilt l accountant parentElement info.typeId).map
        fun parentId => ⟨parentId, info.typeId, elementPath, elementOffset, info, valueSize⟩
  | _ => none

/-- A layout, and a builder with the builders derived from it. -/
structure Family (S E V : Type) where
  layout : SlateLayout V
  builders : List (SlateBuilder S E)

/-- A call on one of the builders, and which stores are built by then. -/
structure FamilyCall (S P E V : Type) where
  builder : Nat
  isBuilt : S → Bool
  call : BuilderCall S P E V

/-- A path that can be registered: it is valid and new, and the string pool has room for it. -/
structure SlateLayout.Admits (outside : Outside V) (l : SlateLayout V) (path : String) : Prop where
  ne_empty : path ≠ ""
  valid : outside.validateSlatePath path = true
  room : outside.poolAllocates l.stringPool path = true
  new : ∀ element ∈ l.elements, element.path ≠ path

/-- Where the memory of a requested element is found in its shard. -/
def SlateLayout.spaceFor (l : SlateLayout V) (r : Request V) : Option Nat :=
  match r.refusal? with
  | some _ => none
  | none =>
      match l.findSpace r with
      | (.error _, _) => none
      | (.ok space, l) =>
          match l.carveSpace r.shard space with
          | (.error _, _) => none
          | (.ok (), _) => some space.valueOffset

/-- The checks of `create_view_element` that a view passes before it is registered. -/
structure SlateLayout.AdmitsView (outside : Outside V) (l : SlateLayout V) (v : ViewRequest)
    (parent : SlateElement) : Prop where
  size : v.valueSize ≠ 0
  alignment : notPowerOfTwo v.alignment = false
  alignment_le : v.alignment ≤ maxAlignment
  found : l.getElement outside v.parentId v.parentTypeId = .ok parent
  checks : l.viewRefusal? outside v parent.metadata = none
  admits : l.Admits outside v.path

/-- The checks of `create_view` that a view passes before it is registered. -/
structure SlateBuilder.AdmitsView (o : BuilderOutside S P) (outside : Outside V)
    (isBuilt : S → Bool) (b : SlateBuilder S E) (l : SlateLayout V) (args : ViewArgs)
    (parent : SlateElement) : Prop where
  validId : outside.slateIdIsValid args.parentElementId = true
  notBuilt : isBuilt b.store = false
  permitted : b.isPermittedPath o (o.slateJoinPath b.subtreePath args.elementPath) = true
  validType : args.info.isValid = true
  layout : l.AdmitsView outside (b.viewRequest o args) parent

namespace Family

variable (o : BuilderOutside S P) (c : CreationOutside S P V) (outside : Outside V)

/-- The builders after a call on one of them. -/
def buildersAfter (s : Family S E V) (i : Nat) (b : SlateBuilder S E) :
    BuilderCall S P E V → List (SlateBuilder S E)
  | .subSlate call => s.builders ++ (b.subSlateCall o call).toList
  | .superSlate => s.builders ++ (b.superSlate o c).toList
  | .addEnumRegistry registry relativePath =>
      s.builders.set i (b.addEnumRegistry registry relativePath)
  | _ => s.builders

def step (s : Family S E V) (a : FamilyCall S P E V) : Family S E V :=
  match s.builders[a.builder]? with
  | none => s
  | some b =>
      { layout := b.layoutAfter o c outside a.isBuilt s.layout a.call
        builders := s.buildersAfter o c a.builder b a.call }

/-- The call adds no element of the shard to the layout. -/
def AddsNone (shard : Shard) (s : Family S E V) (a : FamilyCall S P E V) : Prop :=
  ∀ element ∈ (s.step o c outside a).layout.elements, element.metadata.shard = shard →
    element ∈ s.layout.elements

instance (shard : Shard) (s : Family S E V) (a : FamilyCall S P E V) :
    Decidable (s.AddsNone o c outside shard a) :=
  inferInstanceAs (Decidable (∀ element ∈ _, _ → _))

/-- The call is not one of `create_view`, by any overload, that passes all checks for a parent of
the shard. -/
def NoView (shard : Shard) (s : Family S E V) (a : FamilyCall S P E V) : Prop :=
  ∀ b, s.builders[a.builder]? = some b →
    ∀ args, a.call.viewArgs? o c outside a.isBuilt s.layout = some args →
      ∀ parent, b.AdmitsView o outside a.isBuilt s.layout args parent →
        parent.metadata.shard ≠ shard

/-- All builders are denied to create in the shard. -/
def Denied (shard : Shard) (s : Family S E V) : Prop :=
  ∀ b ∈ s.builders, c.slateCanCreate (o.getPermission b.store) shard = false

end Family

section

variable {o : BuilderOutside S P} {c : CreationOutside S P V} {outside : Outside V}
  {isBuilt : S → Bool} {b b' : SlateBuilder S E} {l : SlateLayout V} {shard : Shard}

namespace SlateLayout

/-- An element is registered exactly if its path can be, even if its id then cannot be built. -/
theorem add_element_elements (outside : Outside V) (l : SlateLayout V) (path : String)
    (metadata : SlateElementMetadata) (validator : V) :
    (l.Admits outside path ∧ (l.addElementAndBuildId outside path metadata validator).2.elements =
        l.elements ++ [⟨path, metadata⟩]) ∨
      ¬ l.Admits outside path ∧
        (l.addElementAndBuildId outside path metadata validator).2.elements = l.elements := by
  unfold addElementAndBuildId allocatePath
  by_cases hempty : path = ""
  · exact .inr ⟨fun h => h.ne_empty hempty, by rw [if_pos hempty]⟩
  by_cases hvalid : outside.validateSlatePath path = true
  swap
  · exact .inr ⟨fun h => hvalid h.valid, by simp [hempty, hvalid]⟩
  by_cases hroom : outside.poolAllocates l.stringPool path = true
  swap
  · exact .inr ⟨fun h => hroom h.room, by simp [hempty, hvalid, hroom]⟩
  by_cases hnew : ∀ element ∈ l.elements, element.path ≠ path
  swap
  · have hany : (l.elements.any fun element => element.path = path) = true := by simpa using hnew
    exact .inr ⟨fun h => hnew h.new, by simp [hempty, hvalid, hroom, hany]⟩
  have hany : (l.elements.any fun element => element.path = path) = false := by simpa using hnew
  refine .inl ⟨⟨hempty, hvalid, hroom, hnew⟩, ?_⟩
  simp only [hempty, hvalid, hroom, hany, Bool.not_true, Bool.false_eq_true, if_false]
  exact (build_id_tables rfl).1

/-- A view is registered exactly if it passes the checks, with its parent's shard. -/
theorem create_view_elements (outside : Outside V) (l : SlateLayout V) (v : ViewRequest) :
    (∃ parent, l.AdmitsView outside v parent ∧ (l.createViewElement outside v).2.elements =
        l.elements ++ [⟨v.path, viewMetadata v parent.metadata⟩]) ∨
      (∀ parent, ¬ l.AdmitsView outside v parent) ∧
        (l.createViewElement outside v).2.elements = l.elements := by
  unfold createViewElement
  by_cases hzero : v.valueSize = 0
  · exact .inr ⟨fun parent h => h.size hzero, by rw [if_pos hzero]⟩
  rw [if_neg hzero]
  by_cases hpower : notPowerOfTwo v.alignment = true
  · refine .inr ⟨fun parent h => ?_, by rw [if_pos hpower]⟩
    rw [h.alignment] at hpower
    cases hpower
  rw [if_neg hpower]
  by_cases hmax : maxAlignment < v.alignment
  · exact .inr ⟨fun parent h => hmax.not_ge h.alignment_le, by rw [if_pos hmax]⟩
  rw [if_neg hmax]
  cases hparent : getElement outside l v.parentId v.parentTypeId with
  | error refusal =>
      refine .inr ⟨fun parent h => ?_, rfl⟩
      rw [h.found] at hparent
      cases hparent
  | ok parent =>
      have hunique {other : SlateElement} (h : l.AdmitsView outside v other) : other = parent := by
        rw [h.found] at hparent
        exact Except.ok.inj hparent
      cases hchecks : viewRefusal? outside l v parent.metadata with
      | some refusal =>
          refine .inr ⟨fun other h => ?_, by simp only [hchecks]⟩
          obtain rfl := hunique h
          rw [h.checks] at hchecks
          cases hchecks
      | none =>
          simp only [hchecks]
          have helements := add_element_elements outside l v.path (viewMetadata v parent.metadata)
            outside.noValidator
          rcases hadd : l.addElementAndBuildId outside v.path (viewMetadata v parent.metadata)
            outside.noValidator with ⟨answer, m⟩
          rw [hadd] at helements
          rcases helements with ⟨hadmits, helements⟩ | ⟨hnot, helements⟩
          · refine .inl ⟨parent, ⟨hzero, Bool.eq_false_of_not_eq_true hpower,
              Nat.le_of_not_lt hmax, hparent, hchecks, hadmits⟩, ?_⟩
            cases answer <;> exact helements
          · refine .inr ⟨fun other h => hnot h.admits, ?_⟩
            cases answer <;> exact helements

/-- Looking for space leaves the tables of elements, paths and validators alone. -/
theorem find_space_keeps (l : SlateLayout V) (r : Request V) :
    (l.findSpace r).2.elements = l.elements ∧ (l.findSpace r).2.stringPool = l.stringPool ∧
      (l.findSpace r).2.idxToValidator = l.idxToValidator := by
  unfold findSpace
  cases l.chunkFor r with
  | some chunk => exact ⟨rfl, rfl, rfl⟩
  | none =>
      dsimp only
      split_ifs
      · exact ⟨rfl, rfl, rfl⟩
      · exact ⟨rfl, rfl, rfl⟩
      · exact ⟨rfl, rfl, rfl⟩
      · split <;> exact ⟨rfl, rfl, rfl⟩

/-- Carving space touches the free lists only. -/
theorem carve_space_keeps (l : SlateLayout V) (shard : Shard) (space : Space) :
    (l.carveSpace shard space).2.elements = l.elements ∧
      (l.carveSpace shard space).2.stringPool = l.stringPool ∧
      (l.carveSpace shard space).2.idxToValidator = l.idxToValidator := by
  unfold carveSpace
  split_ifs <;> exact ⟨rfl, rfl, rfl⟩

/-- An allocation fails, or it registers the element where it has found space. -/
theorem allocate_element_cases (outside : Outside V) (l : SlateLayout V) (r : Request V) :
    (l.spaceFor r = none ∧ ∃ refusal m, l.allocateElement outside r = (.error refusal, m) ∧
        m.elements = l.elements) ∨
      ∃ (valueOffset : Nat) (m : SlateLayout V), l.spaceFor r = some valueOffset ∧
        l.allocateElement outside r = m.registerAt outside r valueOffset ∧
          m.elements = l.elements ∧ m.stringPool = l.stringPool ∧
            m.idxToValidator = l.idxToValidator := by
  unfold spaceFor allocateElement
  cases hok : r.refusal? with
  | some refusal => exact .inl ⟨rfl, refusal, l, rfl, rfl⟩
  | none =>
      have hfind := find_space_keeps l r
      rcases hspace : l.findSpace r with ⟨refusal | space, m⟩
      · rw [hspace] at hfind
        exact .inl ⟨rfl, refusal, m, rfl, hfind.1⟩
      · rw [hspace] at hfind
        have hcarve := carve_space_keeps m r.shard space
        simp only
        rcases hroom : m.carveSpace r.shard space with ⟨refusal | ⟨⟩, m'⟩
        · rw [hroom] at hcarve
          exact .inl ⟨rfl, refusal, m', rfl, hcarve.1.trans hfind.1⟩
        · rw [hroom] at hcarve
          exact .inr ⟨space.valueOffset, m', rfl, rfl, hcarve.1.trans hfind.1,
            hcarve.2.1.trans hfind.2.1, hcarve.2.2.trans hfind.2.2⟩

/-- The end of an allocation adds an element of the shard that it asks for at most. -/
theorem register_at_shard {r : Request V} {valueOffset : Nat} {element : SlateElement}
    (h : element ∈ (l.registerAt outside r valueOffset).2.elements) :
    element ∈ l.elements ∨ element.metadata.shard = r.shard := by
  have helements := add_element_elements outside l r.path (metadataAt r valueOffset) r.validator
  unfold registerAt at h
  rcases hadd : l.addElementAndBuildId outside r.path (metadataAt r valueOffset) r.validator with
    ⟨answer, m⟩
  rw [hadd] at h helements
  have hmem : element ∈ m.elements := by
    cases answer <;> exact h
  rcases helements with ⟨-, helements⟩ | ⟨-, helements⟩
  · rw [helements, List.mem_append, List.mem_singleton] at hmem
    exact hmem.imp_right fun heq => by rw [heq]; rfl
  · exact .inl (helements ▸ hmem)

/-- An allocation adds an element of the shard that it asks for at most. -/
theorem allocate_element_shard {r : Request V} {element : SlateElement}
    (h : element ∈ (l.allocateElement outside r).2.elements) :
    element ∈ l.elements ∨ element.metadata.shard = r.shard := by
  rcases allocate_element_cases outside l r with
    ⟨-, refusal, m, hallocate, helements⟩ | ⟨valueOffset, m, -, hallocate, helements, -⟩
  · rw [hallocate] at h
    exact .inl (helements ▸ h)
  · rw [hallocate] at h
    exact helements ▸ register_at_shard h

end SlateLayout

namespace SlateBuilder

/-- `create_element` allocates exactly if the checks that it makes before are passed, and adds
nothing otherwise. -/
theorem create_element_cases (o : BuilderOutside S P) (c : CreationOutside S P V)
    (outside : Outside V) (isBuilt : S → Bool) (b : SlateBuilder S E) (l : SlateLayout V)
    (args : ElementArgs V) :
    ((isBuilt b.store = false ∧ c.slateCanCreate (o.getPermission b.store) args.shard = true ∧
        b.isPermittedPath o (o.slateJoinPath b.subtreePath args.elementPath) = true ∧
        args.initialValue.info.isValid = true) ∧
      b.createElement o c outside isBuilt l args =
        ((l.allocateElement outside (b.elementRequest o args)).1.toOption.bind fun a =>
          if outside.slateIdIsValid a.1 ∧ args.initialValue.constructs ∧
            (outside.isNoop args.validator ∨ args.initialValue.validates) then some a.1 else none,
          (l.allocateElement outside (b.elementRequest o args)).2)) ∨
      ¬ (isBuilt b.store = false ∧ c.slateCanCreate (o.getPermission b.store) args.shard = true ∧
        b.isPermittedPath o (o.slateJoinPath b.subtreePath args.elementPath) = true ∧
        args.initialValue.info.isValid = true) ∧
      b.createElement o c outside isBuilt l args = (none, l) := by
  unfold createElement
  rw [require_permitted_path_fst]
  split_ifs with hbuilt hcreate hpath hvalid
  · exact .inr ⟨fun h => by simp [h.1] at hbuilt, rfl⟩
  · exact .inr ⟨fun h => by simp [h.2.1] at hcreate, rfl⟩
  · exact .inr ⟨fun h => by simp [h.2.2.1] at hpath, rfl⟩
  · exact .inr ⟨fun h => by simp [h.2.2.2] at hvalid, rfl⟩
  · refine .inl ⟨⟨by simpa using hbuilt, by simpa using hcreate, by simpa using hpath,
      by simpa using hvalid⟩, ?_⟩
    rcases l.allocateElement outside (b.elementRequest o args) with ⟨refusal | a, m⟩ <;> rfl

/-- The accountant has no part in binding a new token. -/
theorem bind_read_eq (hlaws : (c.tokenIds outside).Laws) (b : SlateBuilder S E)
    (l : SlateLayout V) (accountant : SlateTokenAccountant) (elementPath : String) (typeId : Nat) :
    b.bindRead o c outside isBuilt l accountant elementPath typeId =
      if isBuilt b.store = false ∧ c.slateCanRead (o.getPermission b.store) = true ∧
          b.isPermittedPath o (o.slateJoinPath b.subtreePath elementPath) = true then
        c.bindRead b.store l (o.slateJoinPath b.subtreePath elementPath) typeId
      else none := by
  obtain ⟨hnew, a, hregister⟩ := SlateTokenAccountant.register_construct hlaws accountant
  unfold bindRead
  rcases hconstruct : accountant.construct (c.tokenIds outside) with ⟨tokenId, accountant'⟩
  rw [hconstruct] at hnew hregister
  simp only [bind, giveId, TokenAccess.reads, hnew, hregister, require_permitted_path_fst]
  cases isBuilt b.store <;> cases c.slateCanRead (o.getPermission b.store) <;>
    cases b.isPermittedPath o (o.slateJoinPath b.subtreePath elementPath) <;>
      rcases c.bindRead b.store l (o.slateJoinPath b.subtreePath elementPath) typeId with _ | id <;>
        simp

/-- An element that is created belongs to a shard that the builder may create in. -/
theorem create_element_shard {args : ElementArgs V} {element : SlateElement}
    (h : element ∈ (b.createElement o c outside isBuilt l args).2.elements) :
    element ∈ l.elements ∨
      c.slateCanCreate (o.getPermission b.store) element.metadata.shard = true := by
  rcases create_element_cases o c outside isBuilt b l args with
    ⟨⟨-, hcreate, -⟩, heq⟩ | ⟨-, heq⟩
  · rw [heq] at h
    refine (SlateLayout.allocate_element_shard h).imp_right fun hshard => ?_
    rw [hshard]
    exact hcreate
  · rw [heq] at h
    exact .inl h

/-- A view is added exactly if it passes the checks, with its parent's shard. -/
theorem create_view_elements (o : BuilderOutside S P) (outside : Outside V) (isBuilt : S → Bool)
    (b : SlateBuilder S E) (l : SlateLayout V) (args : ViewArgs) :
    (∃ parent, b.AdmitsView o outside isBuilt l args parent ∧
        (b.createView o outside isBuilt l args).2.elements = l.elements ++
          [⟨(b.viewRequest o args).path,
            SlateLayout.viewMetadata (b.viewRequest o args) parent.metadata⟩]) ∨
      (∀ parent, ¬ b.AdmitsView o outside isBuilt l args parent) ∧
        (b.createView o outside isBuilt l args).2.elements = l.elements := by
  unfold createView
  rw [require_permitted_path_fst]
  split_ifs with hid hbuilt hpath hvalid
  · exact .inr ⟨fun parent h => by simp [h.validId] at hid, rfl⟩
  · exact .inr ⟨fun parent h => by simp [h.notBuilt] at hbuilt, rfl⟩
  · exact .inr ⟨fun parent h => by simp [h.permitted] at hpath, rfl⟩
  · exact .inr ⟨fun parent h => by simp [h.validType] at hvalid, rfl⟩
  · have helements := SlateLayout.create_view_elements outside l (b.viewRequest o args)
    rcases hview : l.createViewElement outside (b.viewRequest o args) with ⟨answer, m⟩
    rw [hview] at helements
    rcases helements with ⟨parent, hadmits, helements⟩ | ⟨hnone, helements⟩
    · refine .inl ⟨parent, ⟨by simpa using hid, by simpa using hbuilt, by simpa using hpath,
        by simpa using hvalid, hadmits⟩, ?_⟩
      cases answer <;> exact helements
    · refine .inr ⟨fun parent h => hnone parent h.layout, ?_⟩
      cases answer <;> exact helements

/-- Apart from views, a call only adds elements to shards that the builder may create in. -/
theorem layout_after_cases (o : BuilderOutside S P) (c : CreationOutside S P V)
    (outside : Outside V) (isBuilt : S → Bool) (b : SlateBuilder S E) (l : SlateLayout V)
    (call : BuilderCall S P E V) :
    (∃ args, call.viewArgs? o c outside isBuilt l = some args ∧
        b.layoutAfter o c outside isBuilt l call = (b.createView o outside isBuilt l args).2) ∨
      call.viewArgs? o c outside isBuilt l = none ∧
        ∀ element ∈ (b.layoutAfter o c outside isBuilt l call).elements, element ∈ l.elements ∨
          c.slateCanCreate (o.getPermission b.store) element.metadata.shard = true := by
  have hcreate (args : ElementArgs V) (tokenId : Nat) (element : SlateElement)
      (h : element ∈ (b.create o c outside isBuilt l args tokenId).elements) :
      element ∈ l.elements ∨
        c.slateCanCreate (o.getPermission b.store) element.metadata.shard = true := by
    unfold create at h
    split_ifs at h
    · exact .inl h
    · exact create_element_shard h
  cases call with
  | createReadOnlyElement elementPath initialValue shard =>
      exact .inr ⟨rfl, fun element h => create_element_shard h⟩
  | createElement args => exact .inr ⟨rfl, fun element h => create_element_shard h⟩
  | create args tokenId => exact .inr ⟨rfl, hcreate args tokenId⟩
  | createWithEnum args tokenId =>
      refine .inr ⟨rfl, fun element h => ?_⟩
      simp only [layoutAfter, createWithEnum] at h
      split_ifs at h
      · exact .inl h
      · exact hcreate args tokenId element h
  | createView args => exact .inl ⟨args, rfl, rfl⟩
  | createViewOf parentElement parentPath accountant elementPath elementOffset info valueSize =>
      simp only [BuilderCall.viewArgs?, layoutAfter, createViewOf]
      cases parentPath.bindRead o c outside isBuilt l accountant parentElement info.typeId with
      | none => exact .inr ⟨rfl, fun element h => .inl h⟩
      | some parentId => exact .inl ⟨_, rfl, rfl⟩
  | finalize => exact .inr ⟨rfl, fun element h => by cases h⟩
  | subSlate call => exact .inr ⟨rfl, fun element h => .inl h⟩
  | superSlate => exact .inr ⟨rfl, fun element h => .inl h⟩
  | addEnumRegistry registry relativePath => exact .inr ⟨rfl, fun element h => .inl h⟩
  | other => exact .inr ⟨rfl, fun element h => .inl h⟩

/-- A sub-slate may create no more than the builder that it is derived from. -/
theorem sub_slate_call_denied (hlaws : CreationLaws o c)
    (hdenied : c.slateCanCreate (o.getPermission b.store) shard = false) {call : SubSlateCall P}
    (h : b.subSlateCall o call = some b') :
    c.slateCanCreate (o.getPermission b'.store) shard = false := by
  have hsub {rel : String} {relMasked : List String} {permission : P} {subsystemId : Nat}
      (h : b.subSlate o rel relMasked permission subsystemId = some b') :
      o.getPermission b'.store = o.permissionTakeSubset (o.getPermission b.store) permission := by
    unfold subSlate at h
    split_ifs at h
    cases hregistry : b.enumRegistry with
    | some registry =>
        simp only [hregistry, Option.some.injEq] at h
        rw [← h]
        exact hlaws.getPermission ..
    | none =>
        simp only [hregistry, Option.some.injEq] at h
        rw [← h]
        exact hlaws.getPermission ..
  refine Bool.eq_false_of_not_eq_true fun hcreate => ?_
  have hparent : c.slateCanCreate (o.getPermission b.store) shard = true := by
    cases call <;> exact hlaws.takeSubset (hsub h ▸ hcreate)
  rw [hdenied] at hparent
  cases hparent

/-- A super slate that a builder returns may create no more than the builder. -/
theorem super_slate_denied (hlaws : CreationLaws o c)
    (hdenied : c.slateCanCreate (o.getPermission b.store) shard = false)
    (h : b.superSlate o c = some b') :
    c.slateCanCreate (o.getPermission b'.store) shard = false := by
  unfold superSlate at h
  split_ifs at h
  · cases h
    exact hdenied
  · obtain ⟨super, hsuper, rfl⟩ := Option.map_eq_some_iff.1 h
    have hroot := hlaws.superSlate hsuper shard
    rw [hdenied] at hroot
    cases hroot

end SlateBuilder

namespace Family

variable {s : Family S E V}

/-- The builders stay denied. -/
theorem Denied.step (hlaws : CreationLaws o c) (h : s.Denied o c shard)
    (a : FamilyCall S P E V) : (s.step o c outside a).Denied o c shard := by
  unfold Family.step
  cases hb : s.builders[a.builder]? with
  | none => exact h
  | some b =>
      have hdenied := h b (List.mem_of_getElem? hb)
      intro b' hb'
      simp only at hb'
      cases hcall : a.call with
      | subSlate call =>
          rw [hcall, buildersAfter, List.mem_append, Option.mem_toList] at hb'
          rcases hb' with hold | hnew
          · exact h b' hold
          · exact SlateBuilder.sub_slate_call_denied hlaws hdenied hnew
      | superSlate =>
          rw [hcall, buildersAfter, List.mem_append, Option.mem_toList] at hb'
          rcases hb' with hold | hnew
          · exact h b' hold
          · exact SlateBuilder.super_slate_denied hlaws hdenied hnew
      | addEnumRegistry registry relativePath =>
          rw [hcall, buildersAfter] at hb'
          rcases List.mem_or_eq_of_mem_set hb' with hold | rfl
          · exact h b' hold
          · exact hdenied
      | _ =>
          rw [hcall] at hb'
          exact h b' hb'

/-- A call of a family that is denied to create in the shard adds no element of it exactly if it is
not a view with a parent of the shard. -/
theorem adds_none_iff (h : s.Denied o c shard) (a : FamilyCall S P E V) :
    s.AddsNone o c outside shard a ↔ s.NoView o c outside shard a := by
  rw [AddsNone, NoView, Family.step]
  cases hb : s.builders[a.builder]? with
  | none => exact iff_of_true (fun element hmem _ => hmem) fun b hb => by cases hb
  | some b =>
      have hdenied := h b (List.mem_of_getElem? hb)
      simp only [Option.some.injEq, forall_eq']
      rcases SlateBuilder.layout_after_cases o c outside a.isBuilt b s.layout a.call with
        ⟨args, hargs, hlayout⟩ | ⟨hnone, hadded⟩
      · rw [hlayout, hargs]
        simp only [Option.some.injEq, forall_eq']
        rcases SlateBuilder.create_view_elements o outside a.isBuilt b s.layout args with
          ⟨parent, hadmits, helements⟩ | ⟨hno, helements⟩
        · constructor
          · intro hnone parent' hadmits' hshard
            obtain rfl : parent' = parent :=
              Except.ok.inj (hadmits'.layout.found.symm.trans hadmits.layout.found)
            -- the view is in the layout afterwards; had it been there before, its path were taken
            have hold := hnone
              ⟨_, SlateLayout.viewMetadata (b.viewRequest o args) parent'.metadata⟩
              (by rw [helements]; exact List.mem_concat_self) hshard
            exact hadmits.layout.admits.new _ hold rfl
          · intro hparent element hmem hshard
            rw [helements, List.mem_append, List.mem_singleton] at hmem
            rcases hmem with hold | rfl
            · exact hold
            · exact absurd hshard (hparent parent hadmits)
        · refine iff_of_true (fun element hmem _ => helements ▸ hmem) fun parent hadmits => ?_
          exact absurd hadmits (hno parent)
      · refine iff_of_true (fun element hmem hshard => ?_) fun args hargs => ?_
        · rcases hadded element hmem with hold | hcreate
          · exact hold
          · rw [hshard, hdenied] at hcreate
            cases hcreate
        · rw [hnone] at hargs
          cases hargs

/-- Where a builder is denied to create in a shard: in a run of calls on the builder and on the
builders derived from it, no call adds an element of the shard, if and only if no call of
`create_view` passes all its checks for a parent of the shard. -/
theorem denied_shard_iff (hlaws : CreationLaws o c)
    (hdenied : c.slateCanCreate (o.getPermission b.store) shard = false)
    (calls : List (FamilyCall S P E V)) :
    Along (step o c outside) (AddsNone o c outside shard) ⟨l, [b]⟩ calls ↔
      Along (step o c outside) (NoView o c outside shard) ⟨l, [b]⟩ calls := by
  refine along_iff_along (I := Denied o c shard) (fun s a hs _ => hs.step hlaws a)
    (fun s a hs => adds_none_iff hs a) fun b' hb' => ?_
  rw [List.mem_singleton] at hb'
  rw [hb']
  exact hdenied

end Family

end

namespace Sample

/-- The bit of a permission that permits to create in a shard. -/
def createBit : Shard → Nat
  | .static => 0
  | .sync => 1
  | .nonsync => 2
  | .cyclic => 3
  | .syncNoTelem => 4
  | .nonsyncNoTelem => 5
  | .cyclicNoTelem => 6

/-- Only a store with all permissions has a super slate. -/
def creationOutside : CreationOutside Store Nat Bool where
  slateCanCreate permission shard := permission.testBit (createBit shard)
  slateCanRead _ := true
  bindRead _ l fullPath typeId :=
    if l.elements.any fun element => element.path = fullPath ∧ element.metadata.typeId = typeId then
      some (4 * outside.iteratorToId l.elements fullPath)
    else none
  isSuperSlate _ := false
  superSlate store := if store.permission = 127 then some store else none
  slateIdBuildInvalid count := 2 ^ 32 + 4 * count
  slateElementDefault := 2 ^ 32 - 1

/-- The sample creates as it should. -/
theorem creation_laws : CreationLaws builderOutside creationOutside where
  getPermission _ _ _ _ _ := rfl
  takeSubset {permission subset shard} h := by
    simp only [creationOutside, builderOutside, Nat.testBit_and, Bool.and_eq_true] at h
    exact h.1
  superSlate {store super} h shard := by
    simp only [creationOutside] at h
    split_ifs at h with hall
    simp only [creationOutside, builderOutside, hall]
    cases shard <;> decide

/-- A builder that may create in all shards but the sync shard. -/
def localBuilder : SlateBuilder Store Unit := .ofStore builderOutside ⟨"nav", [], 125, 0⟩

def wordInfo : SlateInfo := ⟨true, 1, 4, four_lt_size⟩

/-- A call before any store is built. -/
def unbuilt (builder : Nat) (call : BuilderCall Store Nat Unit Bool) :
    FamilyCall Store Nat Unit Bool :=
  ⟨builder, fun _ => false, call⟩

/-- An element of the sync shard, which is refused, one of the nonsync shard, and a view of it that
a sub-slate creates. -/
def localCalls : List (FamilyCall Store Nat Unit Bool) :=
  [unbuilt 0 (.createElement
      ⟨"gain", ⟨wordInfo, 4, four_lt_size, true, true⟩, .sync, .slateReadWrite, true⟩),
    unbuilt 0 (.createElement
      ⟨"count", ⟨wordInfo, 4, four_lt_size, true, true⟩, .nonsync, .slateReadWrite, true⟩),
    unbuilt 0 (.subSlate (.path "imu")),
    unbuilt 1 (.createView ⟨13, 1, "count", 0, wordInfo, 4⟩)]

/-- No call of the sample makes a view of another shard's element. -/
theorem local_calls_no_view :
    Along (Family.step builderOutside creationOutside outside)
      (Family.NoView builderOutside creationOutside outside .sync) ⟨navSlate, [localBuilder]⟩
      localCalls :=
  (Family.denied_shard_iff creation_laws (by decide) localCalls).1 (by decide)

/-- A view of the flag, which is in the sync shard, is added to the sync shard. -/
theorem local_view_in_sync :
    creationOutside.slateCanCreate (builderOutside.getPermission localBuilder.store) .sync = false ∧
      ¬ Along (Family.step builderOutside creationOutside outside)
        (Family.AddsNone builderOutside creationOutside outside .sync) ⟨navSlate, [localBuilder]⟩
        [unbuilt 0 (.createView ⟨1, 1, "alias", 0, ⟨true, 1, 1, one_lt_size⟩, 1⟩)] := by
  decide

end Sample

end Codon.Slate
