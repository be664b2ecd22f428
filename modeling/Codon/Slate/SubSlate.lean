import Mathlib.Data.List.Infix

/-!
# Sub-slates and masked paths

`SlateBuilder::sub_slate` and the checks of paths against the masks of a builder. Masks are
full paths. A sub-slate keeps the masks of its parent that lie under its own root, and drops
those outside of it. A builder only ever checks paths under its own root, and there a mask
holds for everything that is derived from the builder (`masks_inherited`), unless a
sub-slate has been rooted inside the masked subtree. `sub_slate` means to refuse that, but
compares masks, which are full paths, with a path relative to its own root.

Not in the source tree are the path functions, the permissions and the stores of builders.
`BuilderOutside` holds what `SlateBuilder` uses of them. A set of paths is a list.
-/

namespace Codon.Slate

/-- What `SlateBuilder` uses of code that is not in the source tree, over the types of stores and
permissions. -/
structure BuilderOutside (S P : Type) where
  slateRelPath : (base path : String) → Option String
  slateJoinPath : (base path : String) → String
  permissionIsSuperset : P → P → Bool
  permissionTakeSubset : P → P → P
  getSubtreePath : S → String
  getMaskedPaths : S → List String
  getPermission : S → P
  getSubsystemId : S → Nat
  subSlate : S → (subtreePath : String) → (maskedPaths : List String) → P →
    (subsystemId : Nat) → S

/-- `SlateBuilder`, over the types of stores and enum registries. -/
structure SlateBuilder (S E : Type) where
  store : S
  subtreePath : String
  enumRegistryRelativePath : String
  enumRegistry : Option E
deriving DecidableEq

/-- The overloads of `sub_slate`. -/
inductive SubSlateCall (P : Type) where
  | path (relSubtreePath : String)
  | masked (relSubtreePath : String) (relMaskedPaths : List String)
  | restricted (relSubtreePath : String) (permission : P)
  | subsystem (relSubtreePath : String) (subsystemId : Nat)
  | all (relSubtreePath : String) (relMaskedPaths : List String) (permission : P)
      (subsystemId : Nat)

variable {S P E : Type} {o : BuilderOutside S P} {b b' : SlateBuilder S E}

namespace BuilderOutside

/-- A path equals another or descends from it. -/
def Inside (o : BuilderOutside S P) (path base : String) : Prop :=
  (o.slateRelPath base path).isSome = true

instance (o : BuilderOutside S P) (path base : String) : Decidable (o.Inside path base) :=
  inferInstanceAs (Decidable (_ = true))

end BuilderOutside

namespace SlateBuilder

/-- The builder of a store. -/
def ofStore (o : BuilderOutside S P) (store : S) : SlateBuilder S E where
  store
  subtreePath := o.getSubtreePath store
  enumRegistryRelativePath := ""
  enumRegistry := none

/-- The masks of a sub-slate: its own, and those of its parent that lie under its root. -/
def newMaskedPaths (o : BuilderOutside S P) (b : SlateBuilder S E) (newSubtreePath : String)
    (relMaskedPaths : List String) : List String :=
  relMaskedPaths.map (o.slateJoinPath newSubtreePath) ++
    (o.getMaskedPaths b.store).filter fun masked => o.Inside masked newSubtreePath

/-- `sub_slate` with all arguments. A failed assertion ends the program. -/
def subSlate (o : BuilderOutside S P) (b : SlateBuilder S E) (relSubtreePath : String)
    (relMaskedPaths : List String) (permission : P) (subsystemId : Nat) :
    Option (SlateBuilder S E) :=
  if !o.permissionIsSuperset (o.getPermission b.store) permission then none
  -- the masks are full paths, but the new root is not
  else if (o.getMaskedPaths b.store).any fun masked => o.Inside relSubtreePath masked then none
  else
    let newSubtreePath := o.slateJoinPath b.subtreePath relSubtreePath
    let store := o.subSlate b.store newSubtreePath
      (b.newMaskedPaths o newSubtreePath relMaskedPaths)
      (o.permissionTakeSubset (o.getPermission b.store) permission) subsystemId
    match b.enumRegistry with
    | some registry =>
        some
          { (ofStore o store : SlateBuilder S E) with
            enumRegistryRelativePath := o.slateJoinPath b.enumRegistryRelativePath relSubtreePath
            enumRegistry := some registry }
    | none => some (ofStore o store)

/-- `sub_slate`. An argument that an overload does not have is that of the parent, and there are no
masks. -/
def subSlateCall (o : BuilderOutside S P) (b : SlateBuilder S E) :
    SubSlateCall P → Option (SlateBuilder S E)
  | .path rel => b.subSlate o rel [] (o.getPermission b.store) (o.getSubsystemId b.store)
  | .masked rel masked =>
      b.subSlate o rel masked (o.getPermission b.store) (o.getSubsystemId b.store)
  | .restricted rel permission => b.subSlate o rel [] permission (o.getSubsystemId b.store)
  | .subsystem rel subsystemId => b.subSlate o rel [] (o.getPermission b.store) subsystemId
  | .all rel masked permission subsystemId => b.subSlate o rel masked permission subsystemId

/-- A chain of `sub_slate` calls, each on the builder that the one before has returned. -/
def subSlates (o : BuilderOutside S P) : List (SubSlateCall P) → SlateBuilder S E →
    Option (SlateBuilder S E)
  | [], b => some b
  | c :: calls, b => (b.subSlateCall o c).bind (subSlates o calls)

/-- `is_permitted_path`. -/
def isPermittedPath (o : BuilderOutside S P) (b : SlateBuilder S E) (fullPath : String) : Bool :=
  !(o.getMaskedPaths b.store).any fun masked => o.Inside fullPath masked

/-- `require_permitted_path`: the answer, and the first mask that the path is reported with. -/
def requirePermittedPath (o : BuilderOutside S P) (b : SlateBuilder S E) (fullPath : String) :
    Bool × Option String :=
  match (o.getMaskedPaths b.store).find? fun masked => o.Inside fullPath masked with
  | some masked => (false, some masked)
  | none => (true, none)

end SlateBuilder

/-- What `SlateBuilder` relies on of the path functions: a path has components, `slate_join_path`
joins them, and `slate_rel_path` finds the paths that equal or descend from another. -/
structure PathLaws {C : Type} (o : BuilderOutside S P) (components : String → List C) : Prop where
  rel : ∀ base path, o.Inside path base ↔ components base <+: components path
  join : ∀ base path, components (o.slateJoinPath base path) = components base ++ components path

/-- What `SlateBuilder` relies on of stores: a new store has the root and the masks it is given. -/
structure StoreLaws (o : BuilderOutside S P) : Prop where
  subtreePath : ∀ store path masked permission subsystemId,
    o.getSubtreePath (o.subSlate store path masked permission subsystemId) = path
  maskedPaths : ∀ store path masked permission subsystemId m,
    m ∈ o.getMaskedPaths (o.subSlate store path masked permission subsystemId) ↔ m ∈ masked

namespace SlateBuilder

/-- A path is permitted unless it lies in a masked subtree. -/
theorem is_permitted_path_eq_false {fullPath : String} :
    b.isPermittedPath o fullPath = false ↔
      ∃ masked ∈ o.getMaskedPaths b.store, o.Inside fullPath masked := by
  simp [isPermittedPath]

/-- The two checks agree. -/
theorem require_permitted_path_fst (o : BuilderOutside S P) (b : SlateBuilder S E)
    (fullPath : String) :
    (b.requirePermittedPath o fullPath).1 = b.isPermittedPath o fullPath := by
  unfold requirePermittedPath
  cases hfind : (o.getMaskedPaths b.store).find? fun masked => o.Inside fullPath masked with
  | some masked =>
      have hinside := List.find?_some hfind
      exact (is_permitted_path_eq_false.2
        ⟨masked, List.mem_of_find?_eq_some hfind, of_decide_eq_true hinside⟩).symm
  | none =>
      refine (eq_true_of_ne_false fun hforbidden => ?_).symm
      obtain ⟨masked, hmasked, hinside⟩ := is_permitted_path_eq_false.1 hforbidden
      exact List.find?_eq_none.1 hfind masked hmasked (decide_eq_true hinside)

/-- What a sub-slate is rooted at and what it masks. -/
theorem sub_slate_spec (hstore : StoreLaws o) {rel : String} {relMasked : List String}
    {permission : P} {subsystemId : Nat}
    (h : b.subSlate o rel relMasked permission subsystemId = some b') :
    b'.subtreePath = o.slateJoinPath b.subtreePath rel ∧
      ∀ m, m ∈ o.getMaskedPaths b'.store ↔
        (∃ relMask ∈ relMasked, o.slateJoinPath b'.subtreePath relMask = m) ∨
          m ∈ o.getMaskedPaths b.store ∧ o.Inside m b'.subtreePath := by
  unfold subSlate at h
  split_ifs at h
  have hspec : b'.subtreePath = o.slateJoinPath b.subtreePath rel ∧
      b'.store = o.subSlate b.store (o.slateJoinPath b.subtreePath rel)
        (b.newMaskedPaths o (o.slateJoinPath b.subtreePath rel) relMasked)
        (o.permissionTakeSubset (o.getPermission b.store) permission) subsystemId := by
    cases hregistry : b.enumRegistry with
    | some registry =>
        simp only [hregistry, Option.some.injEq] at h
        subst h
        exact ⟨hstore.subtreePath .., rfl⟩
    | none =>
        simp only [hregistry, Option.some.injEq] at h
        subst h
        exact ⟨hstore.subtreePath .., rfl⟩
  obtain ⟨hroot, hsame⟩ := hspec
  refine ⟨hroot, fun m => ?_⟩
  rw [hsame, hstore.maskedPaths, newMaskedPaths, ← hroot, List.mem_append, List.mem_map,
    List.mem_filter, decide_eq_true_eq]

/-- The same for every overload. -/
theorem sub_slate_call_spec (hstore : StoreLaws o) {c : SubSlateCall P}
    (h : b.subSlateCall o c = some b') :
    (∃ rel, b'.subtreePath = o.slateJoinPath b.subtreePath rel) ∧
      ∀ m ∈ o.getMaskedPaths b.store, o.Inside m b'.subtreePath →
        m ∈ o.getMaskedPaths b'.store := by
  cases c <;>
    obtain ⟨hroot, hmasks⟩ := sub_slate_spec hstore h <;>
    exact ⟨⟨_, hroot⟩, fun m hm hinside => (hmasks m).2 (.inr ⟨hm, hinside⟩)⟩

section PathLaws

variable {C : Type} {components : String → List C}

/-- A chain of sub-slates roots each under the one before, and keeps the masks under its root. -/
theorem sub_slates_keep (hpaths : PathLaws o components) (hstore : StoreLaws o)
    {calls : List (SubSlateCall P)} (h : subSlates o calls b = some b') :
    components b.subtreePath <+: components b'.subtreePath ∧
      ∀ m ∈ o.getMaskedPaths b.store, o.Inside m b'.subtreePath →
        m ∈ o.getMaskedPaths b'.store := by
  induction calls generalizing b with
  | nil =>
      cases h
      exact ⟨List.prefix_rfl, fun m hm _ => hm⟩
  | cons c calls ih =>
      obtain ⟨next, hcall, hrest⟩ := Option.bind_eq_some_iff.1 h
      obtain ⟨⟨rel, hroot⟩, hkeep⟩ := sub_slate_call_spec hstore hcall
      obtain ⟨hbelow, hkeeps⟩ := ih hrest
      constructor
      · rw [hroot, hpaths.join] at hbelow
        exact (List.prefix_append _ _).trans hbelow
      · intro m hm hinside
        have hunder := (hpaths.rel b'.subtreePath m).1 hinside
        exact hkeeps m (hkeep m hm ((hpaths.rel _ _).2 (hbelow.trans hunder))) hinside

/-- A path that some builder of a chain masks is masked for every builder derived from it, as far as
the paths under its root go. Whether the mask holds for a builder rooted strictly inside the masked
subtree is left open. -/
theorem masks_inherited (hpaths : PathLaws o components) (hstore : StoreLaws o)
    {calls : List (SubSlateCall P)} (h : subSlates o calls b = some b') {m : String}
    (hm : m ∈ o.getMaskedPaths b.store)
    (hroot : o.Inside b'.subtreePath m → o.Inside m b'.subtreePath) {fullPath : String}
    (hunder : o.Inside fullPath b'.subtreePath) (hinside : o.Inside fullPath m) :
    b'.isPermittedPath o fullPath = false ∧ (b'.requirePermittedPath o fullPath).1 = false := by
  have hunderMask : o.Inside m b'.subtreePath := by
    -- the root and the mask are both prefixes of the path
    rcases List.prefix_or_prefix_of_prefix ((hpaths.rel _ _).1 hunder)
      ((hpaths.rel _ _).1 hinside) with hprefix | hprefix
    · exact (hpaths.rel _ _).2 hprefix
    · exact hroot ((hpaths.rel _ _).2 hprefix)
  have hforbidden : b'.isPermittedPath o fullPath = false :=
    is_permitted_path_eq_false.2 ⟨m, (sub_slates_keep hpaths hstore h).2 m hm hunderMask, hinside⟩
  exact ⟨hforbidden, (require_permitted_path_fst o b' fullPath).trans hforbidden⟩

end PathLaws

end SlateBuilder

namespace Sample

/-- A store that keeps what it is given. A permission is a set of bits. -/
structure Store where
  subtreePath : String
  maskedPaths : List String
  permission : Nat
  subsystemId : Nat
deriving DecidableEq

/-- The names between the dots of a path. -/
def names (path : String) : List (List Char) :=
  (path.toList.splitOnP (· == '.')).filter (· ≠ [])

/-- Outside code of builders, with paths whose names are separated by dots. -/
def builderOutside : BuilderOutside Store Nat where
  slateRelPath base path :=
    if names base <+: names path then
      some (String.intercalate "." (((names path).drop (names base).length).map String.ofList))
    else none
  slateJoinPath base path :=
    if base = "" then path else if path = "" then base else base ++ "." ++ path
  permissionIsSuperset permission subset := permission &&& subset = subset
  permissionTakeSubset permission subset := permission &&& subset
  getSubtreePath := Store.subtreePath
  getMaskedPaths := Store.maskedPaths
  getPermission := Store.permission
  getSubsystemId := Store.subsystemId
  subSlate _ := Store.mk

/-- The names of a joined path are those of both parts. -/
theorem names_join (base path : String) :
    names (builderOutside.slateJoinPath base path) = names base ++ names path := by
  simp only [builderOutside]
  split_ifs with hbase hpath
  · subst hbase
    rfl
  · subst hpath
    exact (List.append_nil _).symm
  · simp [names, String.toList_append, List.splitOnP_append_cons]

/-- The sample joins and cuts paths as it should. -/
theorem path_laws : PathLaws builderOutside names where
  rel base path := by
    simp only [BuilderOutside.Inside, builderOutside]
    split_ifs with h
    · exact iff_of_true rfl h
    · exact iff_of_false Bool.false_ne_true h
  join := names_join

/-- The sample's store of builders does. -/
theorem store_laws : StoreLaws builderOutside where
  subtreePath _ _ _ _ _ := rfl
  maskedPaths _ _ _ _ _ _ := Iff.rfl

/-- A builder with all permissions. -/
def builder (subtreePath : String) (maskedPaths : List String) : SlateBuilder Store Unit :=
  .ofStore builderOutside ⟨subtreePath, maskedPaths, 7, 0⟩

/-- The theorem on a builder that masks one of its branches. -/
theorem imu_masks_gyro :
    (builder "nav.imu" ["nav.imu.gyro"]).isPermittedPath builderOutside "nav.imu.gyro.rate" =
        false ∧
      ((builder "nav.imu" ["nav.imu.gyro"]).requirePermittedPath builderOutside
        "nav.imu.gyro.rate").1 = false :=
  have hchain : SlateBuilder.subSlates builderOutside [.masked "" ["gps"], .path "imu"]
      (builder "nav" ["nav.imu.gyro"]) = some (builder "nav.imu" ["nav.imu.gyro"]) := by
    decide
  have hmasked : "nav.imu.gyro" ∈
      builderOutside.getMaskedPaths (builder "nav" ["nav.imu.gyro"]).store := by
    decide
  SlateBuilder.masks_inherited path_laws store_laws hchain hmasked (by decide) (by decide)
    (by decide)

/-- A builder masks `nav.imu`. Its sub-slate `nav.gps` has dropped the mask, which is not under its
root, and permits the masked path. -/
theorem sibling_permits_masked_path :
    SlateBuilder.subSlates builderOutside [.masked "nav" ["imu"]] (builder "" []) =
        some (builder "nav" ["nav.imu"]) ∧
      "nav.imu" ∈ builderOutside.getMaskedPaths (builder "nav" ["nav.imu"]).store ∧
      SlateBuilder.subSlates builderOutside [.path "gps"] (builder "nav" ["nav.imu"]) =
        some (builder "nav.gps" []) ∧
      builderOutside.Inside "nav.imu.rate" "nav.imu" ∧
      (builder "nav.gps" []).isPermittedPath builderOutside "nav.imu.rate" = true ∧
      ((builder "nav.gps" []).requirePermittedPath builderOutside "nav.imu.rate").1 = true := by
  decide

-- the root of this sub-slate lies in the masked subtree, and still the mask is dropped
example :
    SlateBuilder.subSlates builderOutside [.path "imu.gyro"] (builder "nav" ["nav.imu"]) =
      some (builder "nav.imu.gyro" []) := by
  decide

end Sample

end Codon.Slate
