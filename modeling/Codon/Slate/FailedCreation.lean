import Codon.Slate.Creation
import Codon.Slate.Tables

/-!
# Creations that fail

`create` allocates an element in the layout and then registers its token. What is checked after the
path has been registered (that the id can be built, the value and the validator, and whether the
token suits the element) may make the call fail, and then the element stays: another call for its
path is refused. `failed_creations_iff` says which runs of calls leave no such element.

Other code makes tokens and drops them, so that a call holds the accountant of tokens as it finds
it. A call in which `register_id` asserts does not return, and so it neither succeeds nor fails.
-/

namespace Codon.Slate

open Codon.Library

variable {S P E V : Type}

/-- A call on a builder, with the access of its token, if it has one, and the accountant of
tokens. -/
structure TokenCall (S P E V : Type) extends FamilyCall S P E V where
  access : TokenAccess
  accountant : SlateTokenAccountant

namespace SlateBuilder

variable (o : BuilderOutside S P) (c : CreationOutside S P V) (outside : Outside V)
  (isBuilt : S → Bool) (b : SlateBuilder S E) (l : SlateLayout V)

/-- `create`: its result, the id of the token and the accountant, if the call returns, and the
layout. -/
def createToken (args : ElementArgs V) (tokenId : Nat) (access : TokenAccess)
    (accountant : SlateTokenAccountant) :
    Option (Bool × Nat × SlateTokenAccountant) × SlateLayout V :=
  if outside.slateIdIsValid tokenId then (some (false, tokenId, accountant), l)
  else
    match b.createElement o c outside isBuilt l args with
    | (none, l) => (some (false, tokenId, accountant), l)
    | (some elementId, l) =>
        (registerToken (c.tokenIds outside) accountant access elementId
          (outside.isNoop args.validator) tokenId, l)

/-- The checks that a call of `create` passes before the path is registered. -/
structure Reaches (args : ElementArgs V) (tokenId valueOffset : Nat) : Prop where
  unbound : outside.slateIdIsValid tokenId = false
  notBuilt : isBuilt b.store = false
  mayCreate : c.slateCanCreate (o.getPermission b.store) args.shard = true
  permitted : b.isPermittedPath o (o.slateJoinPath b.subtreePath args.elementPath) = true
  validType : args.initialValue.info.isValid = true
  space : l.spaceFor (b.elementRequest o args) = some valueOffset
  admits : l.Admits outside (b.elementRequest o args).path

/-- The checks of `create` after the path has been registered: an id can be built and its validator
registered, the value can be constructed, the validator accepts it, the token suits the element, and
the accountant does not refuse it. -/
structure Completes (args : ElementArgs V) (tokenId : Nat) (access : TokenAccess)
    (accountant : SlateTokenAccountant) (valueOffset : Nat) : Prop where
  buildsId : SlateLayout.BuildsId outside
    { l with
      elements := l.elements ++
        [⟨(b.elementRequest o args).path,
          SlateLayout.metadataAt (b.elementRequest o args) valueOffset⟩] }
    (b.elementRequest o args).path (SlateLayout.metadataAt (b.elementRequest o args) valueOffset)
    args.validator
  constructs : args.initialValue.constructs = true
  validates : outside.isNoop args.validator = true ∨ args.initialValue.validates = true
  suits : access.canWrite = true →
    args.shard ≠ .static ∧ access.canValidate = !outside.isNoop args.validator
  accounted : (accountant.registerId (c.tokenIds outside) tokenId).map Prod.fst ≠ some false

end SlateBuilder

/-- The arguments with which a call gets to `create`, if it does. -/
def BuilderCall.createArgs? (b : SlateBuilder S E) :
    BuilderCall S P E V → Option (ElementArgs V × Nat)
  | .create args tokenId => some (args, tokenId)
  | .createWithEnum args tokenId => if b.enumRegistry.isNone then none else some (args, tokenId)
  | _ => none

namespace Family

variable (o : BuilderOutside S P) (c : CreationOutside S P V) (outside : Outside V)

/-- If the call is one of `create` and fails, no element is at its path that was not there
before. -/
def FailsClean (s : Family S E V) (a : TokenCall S P E V) : Prop :=
  ∀ b ∈ s.builders[a.builder]?, ∀ args ∈ a.call.createArgs? b,
    ((b.createToken o c outside a.isBuilt s.layout args.1 args.2 a.access a.accountant).1.map
        Prod.fst) = some false →
      ∀ element ∈ (s.step o c outside a.toFamilyCall).layout.elements,
        element.path = o.slateJoinPath b.subtreePath args.1.elementPath →
          element ∈ s.layout.elements

instance (s : Family S E V) (a : TokenCall S P E V) : Decidable (s.FailsClean o c outside a) :=
  inferInstanceAs (Decidable (∀ b ∈ _, ∀ args ∈ _, _ → ∀ element ∈ _, _ → _))

/-- If the call is one of `create` and gets as far as to register its path, it passes all checks. -/
def MeetsChecks (s : Family S E V) (a : TokenCall S P E V) : Prop :=
  ∀ b ∈ s.builders[a.builder]?, ∀ args ∈ a.call.createArgs? b, ∀ valueOffset,
    b.Reaches o c outside a.isBuilt s.layout args.1 args.2 valueOffset →
      b.Completes o c outside s.layout args.1 args.2 a.access a.accountant valueOffset

end Family

section

variable {o : BuilderOutside S P} {c : CreationOutside S P V} {outside : Outside V}
  {isBuilt : S → Bool} {b : SlateBuilder S E} {l : SlateLayout V} {args : ElementArgs V}
  {tokenId : Nat} {access : TokenAccess} {accountant : SlateTokenAccountant}

namespace SlateLayout

variable {r : Request V}

/-- A path that can be registered is, and its id is built. -/
theorem add_element_of_admits {path : String} (h : l.Admits outside path)
    (metadata : SlateElementMetadata) (validator : V) :
    l.addElementAndBuildId outside path metadata validator =
      buildId outside
        { l with
          stringPool := l.stringPool ++ [path]
          elements := l.elements ++ [⟨path, metadata⟩] } path metadata validator := by
  have hany : (l.elements.any fun element => element.path = path) = false := by
    simpa using h.new
  simp [addElementAndBuildId, allocatePath, h.ne_empty, h.valid, h.room, hany]

/-- An element whose path can be registered is in the table afterwards. An id is given exactly if it
can be built. -/
theorem register_at_of_admits (h : l.Admits outside r.path) (valueOffset : Nat) :
    ∃ answer m, l.registerAt outside r valueOffset = (answer, m) ∧
      m.elements = l.elements ++ [⟨r.path, metadataAt r valueOffset⟩] ∧
      ((∃ a, answer = .ok a) ↔ BuildsId outside
        { l with elements := l.elements ++ [⟨r.path, metadataAt r valueOffset⟩] } r.path
        (metadataAt r valueOffset) r.validator) ∧
      ∀ a, answer = .ok a → outside.slateIdIsValid a.1 = true ∧
        ∃ idx, outside.slateIdBuildup (r.shard ≠ .static) (!outside.isNoop r.validator) r.shard
          (valueOffset % 2 ^ 32) idx = some a.1 := by
  obtain ⟨answer, validators, hbuild, -, hok⟩ := build_id_spec outside
    { l with
      stringPool := l.stringPool ++ [r.path]
      elements := l.elements ++ [⟨r.path, metadataAt r valueOffset⟩] }
    r.path (metadataAt r valueOffset) r.validator
  -- the string pool has no part in building an id
  replace hok : (∃ id, answer = .ok id) ↔ BuildsId outside
      { l with elements := l.elements ++ [⟨r.path, metadataAt r valueOffset⟩] } r.path
      (metadataAt r valueOffset) r.validator :=
    hok
  obtain ⟨-, htables⟩ := build_id_tables hbuild
  rw [registerAt, add_element_of_admits h, hbuild]
  cases answer with
  | error refusal =>
      refine ⟨.error refusal, _, rfl, rfl, by simpa using hok, fun a ha => ?_⟩
      cases ha
  | ok id =>
      refine ⟨.ok (id, valueOffset), _, rfl, rfl, by simpa using hok, fun a ha => ?_⟩
      cases ha
      obtain ⟨id', hid', hvalid, -⟩ := hok.1 ⟨id, rfl⟩
      obtain ⟨hnone, -⟩ | ⟨given, hgiven, hid, -⟩ := htables
      · cases hnone
      · cases hgiven
        obtain rfl : id' = id := Option.some.inj (hid'.symm.trans hid)
        exact ⟨hvalid, _, hid⟩

/-- A path that cannot be registered is refused. -/
theorem register_at_of_not_admits (h : ¬ l.Admits outside r.path) (valueOffset : Nat) :
    ∃ refusal m, l.registerAt outside r valueOffset = (.error refusal, m) ∧
      m.elements = l.elements := by
  unfold registerAt
  rcases add_element_elements outside l r.path (metadataAt r valueOffset) r.validator with
    ⟨hadmits, -⟩ | ⟨-, helements⟩
  · exact absurd hadmits h
  rcases hadd : l.addElementAndBuildId outside r.path (metadataAt r valueOffset) r.validator with
    ⟨refusal | id, m⟩
  · rw [hadd] at helements
    exact ⟨refusal, m, rfl, helements⟩
  · rw [hadd] at helements
    cases add_element_tables hadd with
    | added _ hadded _ _ => simp [hadded] at helements

/-- An allocation fails and adds nothing, or it registers the path where it has found space, and
gives an id exactly if it can be built. -/
theorem allocate_element_spec (outside : Outside V) (l : SlateLayout V) (r : Request V) :
    ((∀ valueOffset, l.spaceFor r = some valueOffset → ¬ l.Admits outside r.path) ∧
        ∃ refusal m, l.allocateElement outside r = (.error refusal, m) ∧
          m.elements = l.elements) ∨
      ∃ valueOffset, l.spaceFor r = some valueOffset ∧ l.Admits outside r.path ∧
        ∃ answer m, l.allocateElement outside r = (answer, m) ∧
          m.elements = l.elements ++ [⟨r.path, metadataAt r valueOffset⟩] ∧
          ((∃ a, answer = .ok a) ↔ BuildsId outside
            { l with elements := l.elements ++ [⟨r.path, metadataAt r valueOffset⟩] } r.path
            (metadataAt r valueOffset) r.validator) ∧
          ∀ a, answer = .ok a → outside.slateIdIsValid a.1 = true ∧
            ∃ idx, outside.slateIdBuildup (r.shard ≠ .static) (!outside.isNoop r.validator) r.shard
              (valueOffset % 2 ^ 32) idx = some a.1 := by
  rcases allocate_element_cases outside l r with
    ⟨hnone, hrefused⟩ | ⟨valueOffset, m, hspace, hallocate, helements, hpool, hvalidators⟩
  · exact .inl ⟨fun _ h => by simp [h] at hnone, hrefused⟩
  rw [hallocate]
  by_cases hadmits : l.Admits outside r.path
  · have hadmits' : m.Admits outside r.path :=
      ⟨hadmits.ne_empty, hadmits.valid, hpool ▸ hadmits.room, helements ▸ hadmits.new⟩
    have hregister := register_at_of_admits hadmits' valueOffset
    simp only [BuildsId, slateIdFor, hasValidator, helements, hvalidators] at hregister
    exact .inr ⟨valueOffset, hspace, hadmits, hregister⟩
  · have hnot : ¬ m.Admits outside r.path := fun h =>
      hadmits ⟨h.ne_empty, h.valid, hpool ▸ h.room, helements ▸ h.new⟩
    obtain ⟨refusal, m', hregister, hsame⟩ := register_at_of_not_admits hnot valueOffset
    exact .inl ⟨fun _ _ => hadmits, refusal, m', hregister, hsame.trans helements⟩

end SlateLayout

namespace SlateBuilder

/-- A new element's id suits a token for reading, and a token for writing that validates exactly if
the element has a validator, unless the element is in the static shard. -/
theorem register_token_fails_iff (hids : IdLaws outside) {shard : Shard} {hasValidator : Bool}
    {valueOffset idx id : Nat} (hvalid : outside.slateIdIsValid id = true)
    (hid : outside.slateIdBuildup (shard ≠ .static) hasValidator shard valueOffset idx = some id)
    (access : TokenAccess) (accountant : SlateTokenAccountant) (noop : Bool) (tokenId : Nat) :
    (registerToken (c.tokenIds outside) accountant access id noop tokenId).map Prod.fst ≠
        some false ↔
      (access.canWrite = true → shard ≠ .static ∧ access.canValidate = !noop) ∧
        (accountant.registerId (c.tokenIds outside) tokenId).map Prod.fst ≠ some false := by
  have hwrites : (c.tokenIds outside).slateIdCanWrite id = decide (shard ≠ .static) :=
    (hids.buildup hid).1
  have hreads : (c.tokenIds outside).slateIdCanWrite ((c.tokenIds outside).slateIdRo id) = false :=
    (hids.readOnly id).1
  have hvalid : (c.tokenIds outside).slateIdIsValid id = true := hvalid
  have hgive (elementId : Nat) :
      (giveId (c.tokenIds outside) accountant tokenId elementId).map Prod.fst =
        (accountant.registerId (c.tokenIds outside) tokenId).map Prod.fst := by
    unfold giveId
    rcases accountant.registerId (c.tokenIds outside) tokenId with _ | ⟨_ | _, a⟩ <;> rfl
  unfold registerToken
  cases hwrite : access.canWrite with
  | false => simp [hvalid, hreads, hgive]
  | true =>
      rw [hwrites]
      cases access.canValidate <;> cases noop <;>
        by_cases hstatic : shard = .static <;> simp [hvalid, hstatic, hgive]

/-- A call of `create` fails and adds nothing, or it registers its path and fails exactly if it does
not pass the checks that come after. -/
theorem create_token_cases (hids : IdLaws outside) (o : BuilderOutside S P)
    (c : CreationOutside S P V) (isBuilt : S → Bool) (b : SlateBuilder S E) (l : SlateLayout V)
    (args : ElementArgs V) (tokenId : Nat) (access : TokenAccess)
    (accountant : SlateTokenAccountant) :
    ((∀ valueOffset, ¬ b.Reaches o c outside isBuilt l args tokenId valueOffset) ∧
        (b.createToken o c outside isBuilt l args tokenId access accountant).2.elements =
          l.elements) ∨
      ∃ valueOffset, b.Reaches o c outside isBuilt l args tokenId valueOffset ∧
        ((b.createToken o c outside isBuilt l args tokenId access accountant).1.map Prod.fst ≠
            some false ↔
          b.Completes o c outside l args tokenId access accountant valueOffset) ∧
        (b.createToken o c outside isBuilt l args tokenId access accountant).2.elements =
          l.elements ++ [⟨(b.elementRequest o args).path,
            SlateLayout.metadataAt (b.elementRequest o args) valueOffset⟩] := by
  unfold createToken
  by_cases hbound : outside.slateIdIsValid tokenId = true
  · rw [if_pos hbound]
    exact .inl ⟨fun _ h => by simp [h.unbound] at hbound, rfl⟩
  rw [if_neg hbound]
  rw [Bool.not_eq_true] at hbound
  rcases create_element_cases o c outside isBuilt b l args with
    ⟨⟨hbuilt, hcreate, hpath, hvalid⟩, heq⟩ | ⟨hnot, heq⟩
  -- one of the checks before the layout refuses the element
  swap
  · rw [heq]
    exact .inl ⟨fun _ h => hnot ⟨h.notBuilt, h.mayCreate, h.permitted, h.validType⟩, rfl⟩
  rw [heq]
  rcases SlateLayout.allocate_element_spec outside l (b.elementRequest o args) with
    ⟨hnone, refusal, m, hallocate, helements⟩ |
    ⟨valueOffset, hspace, hadmits, answer, m, hallocate, helements, hok, hid⟩
  · rw [hallocate]
    exact .inl ⟨fun _ h => hnone _ h.space h.admits, helements⟩
  rw [hallocate]
  refine .inr ⟨valueOffset, ⟨hbound, hbuilt, hcreate, hpath, hvalid, hspace, hadmits⟩, ?_⟩
  cases answer with
  | error refusal =>
      refine ⟨iff_of_false (by simp [Except.toOption]) fun h => ?_, helements⟩
      -- the element is in the layout, and its identifier cannot be built
      obtain ⟨a, ha⟩ := hok.2 h.buildsId
      cases ha
  | ok a =>
      obtain ⟨hvalidId, idx, hbuildup⟩ := hid a rfl
      -- from here on every failure leaves the element where it is
      have hfails := register_token_fails_iff (c := c) hids hvalidId hbuildup access accountant
        (outside.isNoop args.validator) tokenId
      by_cases hlater : args.initialValue.constructs = true ∧
        (outside.isNoop args.validator = true ∨ args.initialValue.validates = true)
      · simp only [Except.toOption, Option.bind_some, hvalidId, hlater, and_self, if_true]
        refine ⟨hfails.trans ⟨fun h => ?_, fun h => ⟨h.suits, h.accounted⟩⟩, helements⟩
        exact ⟨hok.1 ⟨a, rfl⟩, hlater.1, hlater.2, h.1, h.2⟩
      · have hnot : ¬(outside.slateIdIsValid a.1 = true ∧ args.initialValue.constructs = true ∧
            (outside.isNoop args.validator = true ∨ args.initialValue.validates = true)) :=
          fun h => hlater h.2
        simp only [Except.toOption, Option.bind_some, if_neg hnot]
        exact ⟨iff_of_false (by simp) fun h => hlater ⟨h.constructs, h.validates⟩, helements⟩

/-- A call of `create` that fails leaves no new element at its path exactly if it passes the later
checks whenever it passes the earlier ones. -/
theorem create_token_clean_iff (hids : IdLaws outside) :
    ((b.createToken o c outside isBuilt l args tokenId access accountant).1.map Prod.fst =
          some false →
        ∀ element ∈
            (b.createToken o c outside isBuilt l args tokenId access accountant).2.elements,
          element.path = o.slateJoinPath b.subtreePath args.elementPath → element ∈ l.elements) ↔
      ∀ valueOffset, b.Reaches o c outside isBuilt l args tokenId valueOffset →
        b.Completes o c outside l args tokenId access accountant valueOffset := by
  rcases create_token_cases hids o c isBuilt b l args tokenId access accountant with
    ⟨hnone, helements⟩ | ⟨valueOffset, hreaches, hcompletes, helements⟩
  · exact iff_of_true (fun _ element hmem _ => helements ▸ hmem)
      fun valueOffset h => absurd h (hnone valueOffset)
  · rw [helements]
    constructor
    · intro hclean valueOffset' hreaches'
      obtain rfl : valueOffset' = valueOffset :=
        Option.some.inj (hreaches'.space.symm.trans hreaches.space)
      refine hcompletes.1 fun hfails => ?_
      -- the new element would have been there before, but then its path could not be registered
      exact hreaches.admits.new _ (hclean hfails _ List.mem_concat_self rfl) rfl
    · intro hmeets hfails
      exact absurd hfails (hcompletes.2 (hmeets valueOffset hreaches))

/-- What `create` does to the layout does not depend on its token, unless the token is bound. -/
theorem create_token_layout :
    (b.createToken o c outside isBuilt l args tokenId access accountant).2 =
      b.create o c outside isBuilt l args tokenId := by
  unfold createToken create
  split_ifs with hbound
  · rfl
  · rcases b.createElement o c outside isBuilt l args with ⟨_ | id, m⟩ <;> rfl

/-- A call that gets to `create` does to the layout what `create` does. -/
theorem layout_after_of_create_args {call : BuilderCall S P E V}
    (h : call.createArgs? b = some (args, tokenId)) :
    b.layoutAfter o c outside isBuilt l call = b.create o c outside isBuilt l args tokenId := by
  cases call with
  | create args' tokenId' =>
      cases h
      rfl
  | createWithEnum args' tokenId' =>
      simp only [BuilderCall.createArgs?] at h
      split_ifs at h with hregistry
      cases h
      rw [layoutAfter, createWithEnum, if_neg hregistry]
  | _ => cases h

end SlateBuilder

namespace Family

variable {s : Family S E V}

/-- A call leaves no new element at its path if it fails, exactly if it meets the checks. -/
theorem fails_clean_iff (hids : IdLaws outside) (a : TokenCall S P E V) :
    s.FailsClean o c outside a ↔ s.MeetsChecks o c outside a := by
  unfold FailsClean MeetsChecks
  refine forall₂_congr fun b hb => forall₂_congr fun args hargs => ?_
  have hstep : (s.step o c outside a.toFamilyCall).layout =
      (b.createToken o c outside a.isBuilt s.layout args.1 args.2 a.access a.accountant).2 := by
    rw [SlateBuilder.create_token_layout, ← SlateBuilder.layout_after_of_create_args hargs]
    simp only [step, Option.mem_def.1 hb]
  rw [hstep]
  exact SlateBuilder.create_token_clean_iff hids

/-- In a run of calls on builders and on those derived from them, no call of `create` that fails
leaves an element at its path, if and only if every call of `create` that gets as far as to register
its path passes the checks that come after. -/
theorem failed_creations_iff (hids : IdLaws outside) (calls : List (TokenCall S P E V)) :
    Along (fun s a => step o c outside s a.toFamilyCall) (FailsClean o c outside) s calls ↔
      Along (fun s a => step o c outside s a.toFamilyCall) (MeetsChecks o c outside) s calls :=
  along_iff_along (I := fun _ => True) (fun _ _ _ _ => trivial)
    (fun _ a _ => fails_clean_iff hids a) trivial

end Family

end

namespace Sample

/-- The outside code of the samples, with ids that are not valid. -/
def tokenOutside : Outside Bool := { outside with slateIdIsValid := fun id => id < 2 ^ 32 - 1 }

/-- The sample's identifiers meet what is asked of them. -/
theorem token_id_laws : IdLaws tokenOutside where
  buildup {mayWrite hasValidator shard valueOffset idx id} h :=
    have hid : outside.slateIdBuildup mayWrite hasValidator shard valueOffset idx = some id := h
    id_laws.buildup hid
  readOnly := id_laws.readOnly
  noValidator := id_laws.noValidator

/-- A new token, and the accountant then, where so many tokens have been bound before. -/
def newToken (count : Nat) : Nat × SlateTokenAccountant :=
  SlateTokenAccountant.construct (creationOutside.tokenIds tokenOutside)
    ⟨true, 0, 0, count, count, ∅⟩

def countArgs : ElementArgs Bool :=
  ⟨"count", ⟨wordInfo, 4, four_lt_size, true, true⟩, .nonsync, .slateReadWrite, true⟩

/-- A readable identifier passes the assertion of the slate. -/
theorem readable_meets_assert (canWrite : Bool) : true = true ∨ canWrite = true := .inl rfl

/-- An identifier that may validate may write. -/
theorem token_writes (canValidate : Bool) (_ : canValidate = true) : true = true := rfl

/-- A call of `create` for a counter without validator and a new token that can read and write. -/
def createCount (canValidate : Bool) (count : Nat) : TokenCall Store Nat Unit Bool where
  toFamilyCall := unbuilt 0 (.create countArgs (newToken count).1)
  access := ⟨true, true, canValidate, readable_meets_assert true, token_writes canValidate⟩
  accountant := (newToken count).2

/-- The call succeeds, and then fails because the path is taken. -/
theorem count_meets_checks :
    Along (fun s a => Family.step builderOutside creationOutside tokenOutside s a.toFamilyCall)
      (Family.MeetsChecks builderOutside creationOutside tokenOutside) ⟨navSlate, [localBuilder]⟩
      [createCount false 0, createCount false 1] :=
  (Family.failed_creations_iff token_id_laws _).1 (by decide)

/-- The token validates, but the counter has no validator: the call fails, and the counter stays.
When the call is made again with the right token, it fails too. -/
theorem count_left_behind :
    ¬ Along (fun s a => Family.step builderOutside creationOutside tokenOutside s a.toFamilyCall)
        (Family.FailsClean builderOutside creationOutside tokenOutside) ⟨navSlate, [localBuilder]⟩
        [createCount true 0] ∧
      ((localBuilder.createToken builderOutside creationOutside tokenOutside (fun _ => false)
        (Family.step builderOutside creationOutside tokenOutside ⟨navSlate, [localBuilder]⟩
          (createCount true 0).toFamilyCall).layout
        countArgs (newToken 0).1 (createCount false 0).access (newToken 0).2).1.map Prod.fst) =
          some false := by
  decide

end Sample

end Codon.Slate
