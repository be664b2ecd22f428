import Codon.Core
import Codon.Library.Loop
import Mathlib.Data.Finset.Card
import Mathlib.Data.Multiset.Filter

/-!
# Token accounting

`SlateTokenAccountant` and the special members of `SlateToken`, with the two functions of
`SlateBuilder` that bind a token. A token is its id. Until it is bound it has an invalid id of its
own, which the accountant issues and keeps among its frames, or the default id if it was
constructed while the accountant was disabled. The counters are integers without overflow. The
stack frames are only printed, so that `id_frames` is the set of its keys here.

Ids are packed outside the source tree: `TokenIds` holds what is used of them, and `TokenIds.Laws`
what the accounting relies on. Read `tokens_accounted` first.
-/

namespace Codon.Slate

open Codon.Library

/-- What is used of the ids of elements and tokens. -/
structure TokenIds where
  slateIdIsValid : Nat → Bool
  slateIdCanWrite : Nat → Bool
  slateIdHasValidator : Nat → Bool
  slateIdRo : Nat → Nat
  slateIdBuildInvalid : Nat → Nat
  slateElementDefault : Nat

/-- What the accounting relies on of them. -/
structure TokenIds.Laws (ids : TokenIds) : Prop where
  default_invalid : ids.slateIdIsValid ids.slateElementDefault = false
  build_invalid : ∀ count, ids.slateIdIsValid (ids.slateIdBuildInvalid count) = false
  build_ne_default : ∀ count, ids.slateIdBuildInvalid count ≠ ids.slateElementDefault
  build_injective : ∀ count count',
    ids.slateIdBuildInvalid count = ids.slateIdBuildInvalid count' → count = count'
  ro_valid : ∀ id, ids.slateIdIsValid id = true → ids.slateIdIsValid (ids.slateIdRo id) = true

/-- `slate_token_access_t` flags, with the `static_assert`s of `SlateAccessToken`. -/
structure TokenAccess where
  canRead : Bool
  canWrite : Bool
  canValidate : Bool
  read_or_write : canRead = true ∨ canWrite = true
  write_of_validate : canValidate = true → canWrite = true

/-- `SlateTokenAccountant`, with the global `_slate_token_accountant_enabled` and
`_slate_default_token_count`. -/
structure SlateTokenAccountant where
  enabled : Bool
  defaultTokenCount : Int
  firstInvalidCount : Nat
  nextInvalidCount : Nat
  validIdCount : Nat
  idFrames : Finset Nat

namespace SlateTokenAccountant

variable (ids : TokenIds)

/-- `generate_id`. -/
def generateId (a : SlateTokenAccountant) : Nat × SlateTokenAccountant :=
  if a.enabled = false then (ids.slateElementDefault, a)
  else
    let id := ids.slateIdBuildInvalid a.nextInvalidCount
    (id, { a with nextInvalidCount := a.nextInvalidCount + 1, idFrames := insert id a.idFrames })

/-- `register_id`. The name is only printed. -/
def registerId (a : SlateTokenAccountant) (id : Nat) : Option (Bool × SlateTokenAccountant) :=
  if ids.slateIdIsValid id then some (false, a)
  else if a.enabled = false then some (true, a)
  else if id ∈ a.idFrames then
    some (true, { a with idFrames := a.idFrames.erase id, validIdCount := a.validIdCount + 1 })
  else do
    fswAssert (id = ids.slateElementDefault)
    some (false, a)

/-- `dismiss_id`. -/
def dismissId (a : SlateTokenAccountant) (id : Nat) : Option (Bool × SlateTokenAccountant) :=
  a.registerId ids id

/-- Dismisses the id of a token that is to lose it, unless it is valid or the default. -/
def dismissOld (a : SlateTokenAccountant) (id : Nat) : Option SlateTokenAccountant :=
  if a.enabled ∧ ids.slateIdIsValid id = false ∧ ids.slateElementDefault ≠ id then do
    let (success, a) ← a.dismissId ids id
    fswAssert success
    some a
  else some a

/-- Counts the default tokens down if this id is the default. -/
def dropDefault (a : SlateTokenAccountant) (id : Nat) : SlateTokenAccountant :=
  if ids.slateElementDefault = id then { a with defaultTokenCount := a.defaultTokenCount - 1 }
  else a

/-- The constructor of `SlateToken`: the id of the token. -/
def construct (a : SlateTokenAccountant) : Nat × SlateTokenAccountant :=
  let (id, a) := if a.enabled then a.generateId ids else (ids.slateElementDefault, a)
  if ids.slateElementDefault = id then
    (id, { a with defaultTokenCount := a.defaultTokenCount + 1 })
  else (id, a)

/-- `SlateToken::set`: the id of the token, which had this id, after the assignment of a token with
the id `b`. -/
def set (a : SlateTokenAccountant) (oldId b : Nat) : Option (Nat × SlateTokenAccountant) := do
  let a ← a.dismissOld ids oldId
  let (id, a) :=
    if a.enabled then
      if ids.slateIdIsValid b = false then a.generateId ids else (b, a)
    else if ids.slateIdIsValid b = false then
      (ids.slateElementDefault, { a with defaultTokenCount := a.defaultTokenCount + 1 })
    else (b, a)
  some (id, a.dropDefault ids oldId)

/-- The copy constructor of `SlateToken`. -/
def copy (a : SlateTokenAccountant) (b : Nat) : Option (Nat × SlateTokenAccountant) :=
  { a with defaultTokenCount := a.defaultTokenCount + 1 }.set ids ids.slateElementDefault b

/-- The destructor of `SlateToken`. -/
def destroy (a : SlateTokenAccountant) (id : Nat) : Option SlateTokenAccountant := do
  let a ← a.dismissOld ids id
  some (a.dropDefault ids id)

/-- `check_for_uninitialized_tokens`. -/
def checkForUninitializedTokens (a : SlateTokenAccountant) : Bool :=
  if a.defaultTokenCount ≠ 0 then false
  else if a.validIdCount + a.idFrames.card ≠ a.nextInvalidCount - a.firstInvalidCount then false
  else a.idFrames = ∅

/-- `acknowledge_and_disable`. -/
def acknowledgeAndDisable (a : SlateTokenAccountant) : SlateTokenAccountant :=
  { a with
    enabled := false
    firstInvalidCount := a.nextInvalidCount
    idFrames := ∅
    validIdCount := 0 }

end SlateTokenAccountant

/-- What `SlateBuilder::bind` finds in the store: `elementId` is the answer of `bind_read` or
`bind_write`. -/
structure StoreLookup where
  isBuilt : Bool
  slateCanRead : Bool
  slateCanWrite : Bool
  permittedPath : Bool
  elementId : Option Nat

namespace SlateBuilder

variable (ids : TokenIds)

/-- Registers the id of a token and gives it that of an element. -/
def giveId (a : SlateTokenAccountant) (tokenId elementId : Nat) :
    Option (Bool × Nat × SlateTokenAccountant) := do
  let (registered, a) ← a.registerId ids tokenId
  if registered then some (true, elementId, a) else some (false, tokenId, a)

/-- `SlateBuilder::register_token`: its result and the id of the token. `noop` tells whether there
is no validator. -/
def registerToken (a : SlateTokenAccountant) (access : TokenAccess) (elementId : Nat) (noop : Bool)
    (tokenId : Nat) : Option (Bool × Nat × SlateTokenAccountant) :=
  if ids.slateIdIsValid elementId = false then some (false, tokenId, a)
  else if access.canWrite then
    if ids.slateIdCanWrite elementId = false then some (false, tokenId, a)
    else if access.canValidate = noop then some (false, tokenId, a)
    else giveId ids a tokenId elementId
  else if ids.slateIdCanWrite (ids.slateIdRo elementId) then some (false, tokenId, a)
  else giveId ids a tokenId (ids.slateIdRo elementId)

/-- `SlateBuilder::bind`: its result and the id of the token. -/
def bind (a : SlateTokenAccountant) (access : TokenAccess) (lookup : StoreLookup) (tokenId : Nat) :
    Option (Bool × Nat × SlateTokenAccountant) :=
  if lookup.isBuilt then some (false, tokenId, a)
  else if access.canRead ∧ lookup.slateCanRead = false then some (false, tokenId, a)
  else if access.canWrite ∧ lookup.slateCanWrite = false then some (false, tokenId, a)
  else if ids.slateIdIsValid tokenId then some (false, tokenId, a)
  else if lookup.permittedPath = false then some (false, tokenId, a)
  else
    match lookup.elementId with
    | none => some (false, tokenId, a)
    | some elementId =>
        if access.canWrite ∧ access.canValidate ≠ ids.slateIdHasValidator elementId then
          some (false, tokenId, a)
        else giveId ids a tokenId elementId

end SlateBuilder

/-! ## The accounts -/

/-- The id is one that the accountant keeps track of. -/
def TokenIds.Unbound (ids : TokenIds) (id : Nat) : Prop :=
  ids.slateIdIsValid id = false ∧ id ≠ ids.slateElementDefault

instance (ids : TokenIds) (id : Nat) : Decidable (ids.Unbound id) :=
  inferInstanceAs (Decidable (_ ∧ _))

namespace SlateTokenAccountant

variable {ids : TokenIds} {a : SlateTokenAccountant} {tokens : Multiset Nat} {id : Nat}

/-- The accounts agree with the ids of the live tokens. -/
structure Balanced (ids : TokenIds) (a : SlateTokenAccountant) (tokens : Multiset Nat) : Prop where
  enabled : a.enabled = true
  defaults : a.defaultTokenCount = tokens.count ids.slateElementDefault
  frames : a.idFrames.val = tokens.filter ids.Unbound
  issued : ∀ id ∈ a.idFrames, ∃ count < a.nextInvalidCount, id = ids.slateIdBuildInvalid count
  total : a.firstInvalidCount + (a.validIdCount + a.idFrames.card) = a.nextInvalidCount

/-- An id has a frame exactly if a token with it is not bound yet. -/
theorem Balanced.mem_frames_iff (h : Balanced ids a tokens) :
    id ∈ a.idFrames ↔ id ∈ tokens ∧ ids.Unbound id := by
  rw [← Finset.mem_val, h.frames, Multiset.mem_filter]

/-- An id is valid, or it is unbound, or it is the default. -/
theorem unbound_or (ids : TokenIds) (id : Nat) :
    ids.slateIdIsValid id = true ∨ ids.Unbound id ∨ id = ids.slateElementDefault := by
  cases hvalid : ids.slateIdIsValid id with
  | true => exact .inl rfl
  | false =>
      have hdefault := (Decidable.em (id = ids.slateElementDefault)).symm
      exact .inr (hdefault.imp_left fun h => ⟨hvalid, h⟩)

/-- The accounts do not mention a token that is bound. -/
theorem balanced_cons_valid_iff (hlaws : ids.Laws) (hid : ids.slateIdIsValid id = true) :
    Balanced ids a (id ::ₘ tokens) ↔ Balanced ids a tokens := by
  have hne : ids.slateElementDefault ≠ id := fun heq => by
    rw [← heq, hlaws.default_invalid] at hid
    cases hid
  have hfilter : (id ::ₘ tokens).filter ids.Unbound = tokens.filter ids.Unbound :=
    Multiset.filter_cons_of_neg _ fun h => by simp [h.1] at hid
  have hcount := Multiset.count_cons_of_ne hne tokens
  constructor
  · rintro ⟨henabled, hdefaults, hframes, hissued, htotal⟩
    exact ⟨henabled, hdefaults.trans (by rw [hcount]), hframes.trans hfilter, hissued, htotal⟩
  · rintro ⟨henabled, hdefaults, hframes, hissued, htotal⟩
    exact ⟨henabled, hdefaults.trans (by rw [hcount]), hframes.trans hfilter.symm, hissued, htotal⟩

/-- A token with the default id is one more in the count. -/
theorem balanced_cons_default_iff (ids : TokenIds) (a : SlateTokenAccountant)
    (tokens : Multiset Nat) :
    Balanced ids { a with defaultTokenCount := a.defaultTokenCount + 1 }
        (ids.slateElementDefault ::ₘ tokens) ↔ Balanced ids a tokens := by
  have hfilter : (ids.slateElementDefault ::ₘ tokens).filter ids.Unbound =
      tokens.filter ids.Unbound :=
    Multiset.filter_cons_of_neg _ fun h => h.2 rfl
  have hcount := Multiset.count_cons_self ids.slateElementDefault tokens
  constructor
  · rintro ⟨henabled, hdefaults, hframes, hissued, htotal⟩
    refine ⟨henabled, ?_, hframes.trans hfilter, hissued, htotal⟩
    rw [hcount] at hdefaults
    simpa using hdefaults
  · rintro ⟨henabled, hdefaults, hframes, hissued, htotal⟩
    refine ⟨henabled, ?_, hframes.trans hfilter.symm, hissued, htotal⟩
    rw [hcount]
    simpa using hdefaults

/-- An id that is issued is one that no token has. -/
theorem Balanced.generate_id (hlaws : ids.Laws) (h : Balanced ids a tokens) :
    Balanced ids (a.generateId ids).2 ((a.generateId ids).1 ::ₘ tokens) := by
  have hgenerate : a.generateId ids = (ids.slateIdBuildInvalid a.nextInvalidCount,
      { a with
        nextInvalidCount := a.nextInvalidCount + 1
        idFrames := insert (ids.slateIdBuildInvalid a.nextInvalidCount) a.idFrames }) := by
    simp [generateId, h.enabled]
  have hunbound : ids.Unbound (ids.slateIdBuildInvalid a.nextInvalidCount) :=
    ⟨hlaws.build_invalid _, hlaws.build_ne_default _⟩
  have hnew : ids.slateIdBuildInvalid a.nextInvalidCount ∉ a.idFrames := fun hmem => by
    obtain ⟨count, hlt, heq⟩ := h.issued _ hmem
    exact hlt.ne' (hlaws.build_injective _ _ heq)
  rw [hgenerate]
  refine ⟨h.enabled, ?_, ?_, fun id hid => ?_, ?_⟩
  · rw [Multiset.count_cons_of_ne hunbound.2.symm]
    exact h.defaults
  · rw [Multiset.filter_cons_of_pos _ hunbound, ← h.frames]
    exact Finset.insert_val_of_notMem hnew
  · rcases Finset.mem_insert.1 hid with rfl | hid
    · exact ⟨a.nextInvalidCount, Nat.lt_succ_self _, rfl⟩
    · obtain ⟨count, hlt, heq⟩ := h.issued id hid
      exact ⟨count, hlt.trans (Nat.lt_succ_self _), heq⟩
  · have htotal := h.total
    simp only [Finset.card_insert_of_notMem hnew]
    omega

/-- An unbound id that is registered is no longer among the frames. -/
theorem Balanced.register_unbound (h : Balanced ids a (id ::ₘ tokens)) (hid : ids.Unbound id) :
    ∃ a', a.registerId ids id = some (true, a') ∧ Balanced ids a' tokens := by
  have hmem : id ∈ a.idFrames := h.mem_frames_iff.2 ⟨Multiset.mem_cons_self id tokens, hid⟩
  refine ⟨{ a with idFrames := a.idFrames.erase id, validIdCount := a.validIdCount + 1 }, ?_,
    h.enabled, ?_, ?_, fun id' hid' => h.issued id' (Finset.mem_of_mem_erase hid'), ?_⟩
  · simp [registerId, hid.1, h.enabled, hmem]
  · rw [← Multiset.count_cons_of_ne hid.2.symm]
    exact h.defaults
  · rw [Finset.erase_val, h.frames, Multiset.filter_cons_of_pos _ hid, Multiset.erase_cons_head]
  · have htotal := h.total
    have hcard := Finset.card_erase_add_one hmem
    simp only
    omega

/-- A token that has just been constructed can be registered. -/
theorem register_construct (hlaws : ids.Laws) (a : SlateTokenAccountant) :
    ids.slateIdIsValid (a.construct ids).1 = false ∧
      ∃ a', (a.construct ids).2.registerId ids (a.construct ids).1 = some (true, a') := by
  cases henabled : a.enabled with
  | true =>
      have hne := hlaws.build_ne_default a.nextInvalidCount
      simp [construct, generateId, registerId, henabled, hne.symm, hlaws.build_invalid]
  | false => simp [construct, registerId, henabled, hlaws.default_invalid]

/-- A bound token and one with the default id cannot be registered. -/
theorem Balanced.register_bound (h : Balanced ids a (id ::ₘ tokens)) (hid : ¬ ids.Unbound id) :
    a.registerId ids id = some (false, a) := by
  have hmem : id ∉ a.idFrames := fun hmem => hid (h.mem_frames_iff.1 hmem).2
  rcases unbound_or ids id with hvalid | hunbound | rfl
  · simp [registerId, hvalid]
  · exact absurd hunbound hid
  · by_cases hvalid : ids.slateIdIsValid ids.slateElementDefault = true
    · simp [registerId, hvalid]
    · simp [registerId, hvalid, h.enabled, hmem, fswAssert]

/-! ## The special members -/

/-- A token gives its id up, whichever kind it is. -/
theorem Balanced.dismiss_old (hlaws : ids.Laws) (h : Balanced ids a (id ::ₘ tokens)) :
    ∃ a', a.dismissOld ids id = some a' ∧ Balanced ids (a'.dropDefault ids id) tokens := by
  rcases unbound_or ids id with hvalid | hunbound | rfl
  · have hne : ids.slateElementDefault ≠ id := fun heq => by
      rw [← heq, hlaws.default_invalid] at hvalid
      cases hvalid
    refine ⟨a, by simp [dismissOld, hvalid], ?_⟩
    rw [dropDefault, if_neg hne]
    exact (balanced_cons_valid_iff hlaws hvalid).1 h
  · obtain ⟨a', hregister, hbalanced⟩ := h.register_unbound hunbound
    refine ⟨a', ?_, ?_⟩
    · simp [dismissOld, dismissId, h.enabled, hunbound.1, hunbound.2.symm, hregister, fswAssert]
    · rw [dropDefault, if_neg hunbound.2.symm]
      exact hbalanced
  · refine ⟨a, by simp [dismissOld], ?_⟩
    rw [dropDefault, if_pos rfl, ← balanced_cons_default_iff]
    simpa using h

/-- A default id that is dropped leaves the accountant enabled or not. -/
theorem drop_default_enabled (a : SlateTokenAccountant) (id : Nat) :
    (a.dropDefault ids id).enabled = a.enabled := by
  unfold dropDefault
  split <;> rfl

/-- An id can be generated before or after a default one is dropped. -/
theorem generate_id_drop_default (a : SlateTokenAccountant) (old : Nat) :
    (a.dropDefault ids old).generateId ids =
      ((a.generateId ids).1, (a.generateId ids).2.dropDefault ids old) := by
  unfold generateId dropDefault
  by_cases henabled : a.enabled = false <;> by_cases hdefault : ids.slateElementDefault = old <;>
    simp [henabled, hdefault]

/-- After an assignment the token has the id of the other, or an unbound id of its own. -/
theorem Balanced.set (hlaws : ids.Laws) (h : Balanced ids a (id ::ₘ tokens)) (b : Nat) :
    ∃ id' a', a.set ids id b = some (id', a') ∧ Balanced ids a' (id' ::ₘ tokens) := by
  obtain ⟨a', hdismiss, hbalanced⟩ := h.dismiss_old hlaws
  have henabled : a'.enabled = true :=
    (a'.drop_default_enabled id).symm.trans hbalanced.enabled
  by_cases hvalid : ids.slateIdIsValid b = true
  · refine ⟨b, a'.dropDefault ids id, ?_, (balanced_cons_valid_iff hlaws hvalid).2 hbalanced⟩
    simp [SlateTokenAccountant.set, hdismiss, hvalid]
  · have hgenerated := hbalanced.generate_id hlaws
    rw [generate_id_drop_default] at hgenerated
    refine ⟨_, _, ?_, hgenerated⟩
    simp [SlateTokenAccountant.set, hdismiss, henabled, hvalid]

/-- A token that is copied keeps the balance. -/
theorem Balanced.copy (hlaws : ids.Laws) (h : Balanced ids a tokens) (b : Nat) :
    ∃ id a', a.copy ids b = some (id, a') ∧ Balanced ids a' (id ::ₘ tokens) :=
  ((balanced_cons_default_iff ids a tokens).2 h).set hlaws b

/-- A token that is constructed keeps the balance. -/
theorem Balanced.construct (hlaws : ids.Laws) (h : Balanced ids a tokens) :
    Balanced ids (a.construct ids).2 ((a.construct ids).1 ::ₘ tokens) := by
  have hgenerated := h.generate_id hlaws
  have hne : ids.slateElementDefault ≠ (a.generateId ids).1 := by
    simpa [generateId, h.enabled] using (hlaws.build_ne_default a.nextInvalidCount).symm
  simpa [SlateTokenAccountant.construct, h.enabled, hne] using hgenerated

/-- A token that is destroyed keeps the balance. -/
theorem Balanced.destroy (hlaws : ids.Laws) (h : Balanced ids a (id ::ₘ tokens)) :
    ∃ a', a.destroy ids id = some a' ∧ Balanced ids a' tokens := by
  obtain ⟨a', hdismiss, hbalanced⟩ := h.dismiss_old hlaws
  exact ⟨_, by simp [SlateTokenAccountant.destroy, hdismiss], hbalanced⟩

/-- Only an unbound token takes the id of an element. -/
theorem Balanced.give_id (hlaws : ids.Laws) (h : Balanced ids a (id ::ₘ tokens)) {elementId : Nat}
    (hvalid : ids.slateIdIsValid elementId = true) :
    ∃ id' a', (∃ result, SlateBuilder.giveId ids a id elementId = some (result, id', a')) ∧
      Balanced ids a' (id' ::ₘ tokens) := by
  by_cases hunbound : ids.Unbound id
  · obtain ⟨a', hregister, hbalanced⟩ := h.register_unbound hunbound
    exact ⟨elementId, a', ⟨true, by simp [SlateBuilder.giveId, hregister]⟩,
      (balanced_cons_valid_iff hlaws hvalid).2 hbalanced⟩
  · exact ⟨id, a, ⟨false, by simp [SlateBuilder.giveId, h.register_bound hunbound]⟩, h⟩

/-- A token that is registered keeps the balance. -/
theorem Balanced.register_token (hlaws : ids.Laws) (h : Balanced ids a (id ::ₘ tokens))
    (access : TokenAccess) (elementId : Nat) (noop : Bool) :
    ∃ id' a', (∃ result, SlateBuilder.registerToken ids a access elementId noop id =
      some (result, id', a')) ∧ Balanced ids a' (id' ::ₘ tokens) := by
  unfold SlateBuilder.registerToken
  split_ifs with hinvalid hwrite hnoWrite hvalidate hcanWrite
  · exact ⟨_, _, ⟨_, rfl⟩, h⟩
  · exact ⟨_, _, ⟨_, rfl⟩, h⟩
  · exact ⟨_, _, ⟨_, rfl⟩, h⟩
  · exact h.give_id hlaws (by simpa using hinvalid)
  · exact ⟨_, _, ⟨_, rfl⟩, h⟩
  · exact h.give_id hlaws (hlaws.ro_valid _ (by simpa using hinvalid))

/-- A token that is bound keeps the balance. -/
theorem Balanced.bind (hlaws : ids.Laws) (h : Balanced ids a (id ::ₘ tokens)) (access : TokenAccess)
    {lookup : StoreLookup} (hlookup : ∀ elementId ∈ lookup.elementId,
      ids.slateIdIsValid elementId = true) :
    ∃ id' a', (∃ result, SlateBuilder.bind ids a access lookup id = some (result, id', a')) ∧
      Balanced ids a' (id' ::ₘ tokens) := by
  unfold SlateBuilder.bind
  split_ifs
  any_goals exact ⟨_, _, ⟨_, rfl⟩, h⟩
  cases hfound : lookup.elementId with
  | none => exact ⟨_, _, ⟨_, rfl⟩, h⟩
  | some elementId =>
      simp only
      split_ifs
      · exact ⟨_, _, ⟨_, rfl⟩, h⟩
      · exact h.give_id hlaws (hlookup elementId hfound)

/-- The check succeeds exactly if every live token is bound. -/
theorem Balanced.check_iff (hlaws : ids.Laws) (h : Balanced ids a tokens) :
    a.checkForUninitializedTokens = true ↔ ∀ id ∈ tokens, ids.slateIdIsValid id = true := by
  have htotal := h.total
  have hissued : ¬ a.validIdCount + a.idFrames.card ≠ a.nextInvalidCount - a.firstInvalidCount := by
    omega
  rw [checkForUninitializedTokens, if_neg hissued]
  constructor
  · intro hcheck id hid
    split_ifs at hcheck with hdefaults
    rcases unbound_or ids id with hvalid | hunbound | rfl
    · exact hvalid
    · have hmem : id ∈ a.idFrames := h.mem_frames_iff.2 ⟨hid, hunbound⟩
      simp [of_decide_eq_true hcheck] at hmem
    · have hpos := Multiset.count_pos.2 hid
      have hcount := h.defaults
      omega
  · intro hall
    have hdefault : tokens.count ids.slateElementDefault = 0 :=
      Multiset.count_eq_zero.2 fun hid => by
        have hvalid := hall _ hid
        rw [hlaws.default_invalid] at hvalid
        cases hvalid
    have hframes : a.idFrames = ∅ := Finset.eq_empty_of_forall_notMem fun id hid => by
      obtain ⟨hmem, hunbound⟩ := h.mem_frames_iff.1 hid
      have hvalid := hall id hmem
      rw [hunbound.1] at hvalid
      cases hvalid
    have hdefaults := h.defaults
    rw [if_neg (by omega), hframes]
    rfl

end SlateTokenAccountant

/-! ## A slate build -/

/-- The accountant and the ids of the live tokens, in the order of their construction. -/
structure TokenStore where
  accountant : SlateTokenAccountant
  tokens : List Nat

/-- What happens to tokens during a build. A token is given by its position among the live ones. -/
inductive TokenEvent where
  | construct
  | copy (b : Nat)
  | assign (token b : Nat)
  | destroy (token : Nat)
  | registerToken (token : Nat) (access : TokenAccess) (elementId : Nat) (noop : Bool)
  | bind (token : Nat) (access : TokenAccess) (lookup : StoreLookup)

namespace TokenStore

variable (ids : TokenIds)

/-- Where a build begins: the accountant is enabled, and acknowledged what it issued before. The
tokens that are alive are left from earlier builds. -/
def beginBuild (tokens : List Nat) (invalidCount : Nat) : TokenStore where
  accountant :=
    { enabled := true
      defaultTokenCount := tokens.count ids.slateElementDefault
      firstInvalidCount := invalidCount
      nextInvalidCount := invalidCount
      validIdCount := 0
      idFrames := ∅ }
  tokens

/-- The state after an event. A token that is not alive is not touched. -/
def step (s : TokenStore) : TokenEvent → Option TokenStore
  | .construct =>
      let (id, a) := s.accountant.construct ids
      some ⟨a, s.tokens ++ [id]⟩
  | .copy b =>
      match s.tokens[b]? with
      | none => some s
      | some b => do
          let (id, a) ← s.accountant.copy ids b
          some ⟨a, s.tokens ++ [id]⟩
  | .assign token b =>
      match s.tokens[token]?, s.tokens[b]? with
      | some id, some b => do
          let (id, a) ← s.accountant.set ids id b
          some ⟨a, s.tokens.set token id⟩
      | _, _ => some s
  | .destroy token =>
      match s.tokens[token]? with
      | none => some s
      | some id => do
          let a ← s.accountant.destroy ids id
          some ⟨a, s.tokens.eraseIdx token⟩
  | .registerToken token access elementId noop =>
      match s.tokens[token]? with
      | none => some s
      | some id => do
          let (_, id, a) ← SlateBuilder.registerToken ids s.accountant access elementId noop id
          some ⟨a, s.tokens.set token id⟩
  | .bind token access lookup =>
      match s.tokens[token]? with
      | none => some s
      | some id => do
          let (_, id, a) ← SlateBuilder.bind ids s.accountant access lookup id
          some ⟨a, s.tokens.set token id⟩

/-- The store answers `bind` with the ids of elements. -/
def StoreGivesValidIds : TokenEvent → Prop
  | .bind _ _ lookup => ∀ id ∈ lookup.elementId, ids.slateIdIsValid id = true
  | _ => True

variable {ids} {s : TokenStore}

/-- The other tokens stay when one changes or goes. -/
theorem exists_rest {tokens : List Nat} {token id : Nat} (h : tokens[token]? = some id) :
    ∃ rest : Multiset Nat, (tokens : Multiset Nat) = id ::ₘ rest ∧
      (∀ id', (tokens.set token id' : Multiset Nat) = id' ::ₘ rest) ∧
      (tokens.eraseIdx token : Multiset Nat) = rest := by
  obtain ⟨hlt, rfl⟩ := List.getElem?_eq_some_iff.1 h
  have hset (id' : Nat) : (tokens.set token id' : Multiset Nat) =
      id' ::ₘ ((tokens.take token ++ tokens.drop (token + 1) : List Nat) : Multiset Nat) := by
    rw [List.set_eq_take_append_cons_drop, if_pos hlt, Multiset.cons_coe, Multiset.coe_eq_coe]
    exact List.perm_middle
  refine ⟨_, ?_, hset, congrArg _ (List.eraseIdx_eq_take_drop_succ _ _)⟩
  rw [← hset, List.set_getElem_self]

/-- The accounts of a state agree with its tokens. -/
def Balanced (ids : TokenIds) (s : TokenStore) : Prop :=
  s.accountant.Balanced ids s.tokens

/-- The last token of a store is one more token. -/
theorem balanced_append {a : SlateTokenAccountant} {tokens : List Nat} {id : Nat} :
    Balanced ids ⟨a, tokens ++ [id]⟩ ↔ a.Balanced ids (id ::ₘ (tokens : Multiset Nat)) := by
  have hperm : ((tokens ++ [id] : List Nat) : Multiset Nat) = id ::ₘ (tokens : Multiset Nat) :=
    Multiset.coe_eq_coe.2 (List.perm_append_singleton id tokens)
  rw [Balanced, hperm]

/-- A build begins balanced, if no token is waiting for an element. -/
theorem begin_build_balanced {tokens : List Nat} (invalidCount : Nat)
    (h : ∀ id ∈ tokens, ¬ ids.Unbound id) : Balanced ids (beginBuild ids tokens invalidCount) where
  enabled := rfl
  defaults := by simp [beginBuild]
  frames := (Multiset.filter_eq_nil.2 h).symm
  issued _ h := by simp [beginBuild] at h
  total := by simp [beginBuild]

/-- What keeps the accounts of a token and of any others keeps those of all tokens. -/
theorem Balanced.change (h : s.Balanced ids) {token id : Nat} (hid : s.tokens[token]? = some id)
    {P : Nat → SlateTokenAccountant → Prop}
    (hchange : ∀ rest : Multiset Nat, s.accountant.Balanced ids (id ::ₘ rest) →
      ∃ id' a, P id' a ∧ a.Balanced ids (id' ::ₘ rest)) :
    ∃ id' a, P id' a ∧ Balanced ids ⟨a, s.tokens.set token id'⟩ := by
  obtain ⟨rest, htokens, hset, -⟩ := exists_rest hid
  rw [Balanced, htokens] at h
  obtain ⟨id', a, hp, hbalanced⟩ := hchange rest h
  refine ⟨id', a, hp, ?_⟩
  rw [Balanced, hset]
  exact hbalanced

/-- An event changes one token, and the accounts with it. No assertion fails. -/
theorem Balanced.step (hlaws : ids.Laws) (h : s.Balanced ids) {event : TokenEvent}
    (hstore : StoreGivesValidIds ids event) :
    ∃ s', s.step ids event = some s' ∧ s'.Balanced ids := by
  cases event with
  | construct => exact ⟨_, rfl, balanced_append.2 (SlateTokenAccountant.Balanced.construct hlaws h)⟩
  | copy b =>
      cases hb : s.tokens[b]? with
      | none => exact ⟨s, by simp only [TokenStore.step, hb], h⟩
      | some b' =>
          obtain ⟨id, a, hcopy, hbalanced⟩ := SlateTokenAccountant.Balanced.copy hlaws h b'
          exact ⟨_, by simp [TokenStore.step, hb, hcopy], balanced_append.2 hbalanced⟩
  | assign token b =>
      cases hid : s.tokens[token]? with
      | none => exact ⟨s, by simp only [TokenStore.step, hid], h⟩
      | some id =>
          cases hb : s.tokens[b]? with
          | none => exact ⟨s, by simp only [TokenStore.step, hid, hb], h⟩
          | some b' =>
              obtain ⟨id', a, hassign, hbalanced⟩ := h.change hid fun _ hid => hid.set hlaws b'
              exact ⟨_, by simp [TokenStore.step, hid, hb, hassign], hbalanced⟩
  | destroy token =>
      cases hid : s.tokens[token]? with
      | none => exact ⟨s, by simp only [TokenStore.step, hid], h⟩
      | some id =>
          -- the token is one of those that are counted, the others are the rest
          obtain ⟨rest, htokens, -, herase⟩ := exists_rest hid
          rw [Balanced, htokens] at h
          obtain ⟨a, hdestroy, hbalanced⟩ := h.destroy hlaws
          refine ⟨⟨a, s.tokens.eraseIdx token⟩, by simp [TokenStore.step, hid, hdestroy], ?_⟩
          rw [Balanced, herase]
          exact hbalanced
  | registerToken token access elementId noop =>
      cases hid : s.tokens[token]? with
      | none => exact ⟨s, by simp only [TokenStore.step, hid], h⟩
      | some id =>
          obtain ⟨id', a, ⟨result, hregister⟩, hbalanced⟩ := h.change hid fun _ hid =>
            hid.register_token hlaws access elementId noop
          exact ⟨_, by simp [TokenStore.step, hid, hregister], hbalanced⟩
  | bind token access lookup =>
      cases hid : s.tokens[token]? with
      | none => exact ⟨s, by simp only [TokenStore.step, hid], h⟩
      | some id =>
          obtain ⟨id', a, ⟨result, hbind⟩, hbalanced⟩ := h.change hid fun _ hid =>
            hid.bind hlaws access hstore
          exact ⟨_, by simp [TokenStore.step, hid, hbind], hbalanced⟩

/-- Every run keeps the balance. -/
theorem Balanced.run (hlaws : ids.Laws) (h : s.Balanced ids) {events : List TokenEvent}
    (hstore : ∀ event ∈ events, StoreGivesValidIds ids event) :
    ∃ s', events.foldlM (TokenStore.step ids) s = some s' ∧ s'.Balanced ids := by
  induction events generalizing s with
  | nil => exact ⟨s, rfl, h⟩
  | cons event events ih =>
      obtain ⟨next, hstep, hnext⟩ := h.step hlaws (hstore event List.mem_cons_self)
      obtain ⟨s', hrun, hbalanced⟩ := ih hnext fun event hevent =>
        hstore event (List.mem_cons_of_mem _ hevent)
      exact ⟨s', by rw [List.foldlM_cons, hstep]; exact hrun, hbalanced⟩

/-- What the accounts say of the live tokens: how many have the default id, which others are
unbound, and how many ids were issued. -/
structure Accounts (ids : TokenIds) (a : SlateTokenAccountant) (tokens : List Nat) : Prop where
  defaults : a.defaultTokenCount = tokens.count ids.slateElementDefault
  frames : ∀ id, id ∈ a.idFrames ↔ id ∈ tokens ∧ ids.Unbound id
  distinct : (tokens.filter ids.Unbound).Nodup
  issued : a.validIdCount + a.idFrames.card = a.nextInvalidCount - a.firstInvalidCount

/-- A balanced accountant accounts for its tokens. -/
theorem Balanced.accounts (h : s.Balanced ids) : Accounts ids s.accountant s.tokens where
  defaults := by
    rw [← Multiset.coe_count]
    exact SlateTokenAccountant.Balanced.defaults h
  frames id := h.mem_frames_iff
  distinct := by
    rw [← Multiset.coe_nodup, ← Multiset.filter_coe, ← h.frames]
    exact s.accountant.idFrames.nodup
  issued := by
    have htotal := SlateTokenAccountant.Balanced.total h
    omega

/-- Acknowledging the ids keeps the accounts if every token is bound. -/
theorem Balanced.acknowledge (hlaws : ids.Laws) (h : s.Balanced ids)
    (hcheck : s.accountant.checkForUninitializedTokens = true) :
    Accounts ids s.accountant.acknowledgeAndDisable s.tokens where
  defaults := h.accounts.defaults
  frames id := by
    have hvalid := (SlateTokenAccountant.Balanced.check_iff hlaws h).1 hcheck
    refine iff_of_false (Finset.notMem_empty id) fun hid => ?_
    have hunbound := hid.2.1
    rw [hvalid id hid.1] at hunbound
    cases hunbound
  distinct := h.accounts.distinct
  issued := by simp [SlateTokenAccountant.acknowledgeAndDisable]

/-- In a build the accounts always agree with the live tokens. No assertion fails, the check
succeeds exactly if every live token is bound, and then the accounts agree after the ids have been
acknowledged, too. -/
theorem tokens_accounted (hlaws : ids.Laws) {tokens : List Nat}
    (htokens : ∀ id ∈ tokens, ¬ ids.Unbound id) (invalidCount : Nat) {events : List TokenEvent}
    (hstore : ∀ event ∈ events, StoreGivesValidIds ids event) :
    ∃ s, events.foldlM (step ids) (beginBuild ids tokens invalidCount) = some s ∧
      Accounts ids s.accountant s.tokens ∧
      (s.accountant.checkForUninitializedTokens = true ↔
        ∀ id ∈ s.tokens, ids.slateIdIsValid id = true) ∧
      (s.accountant.checkForUninitializedTokens = true →
        Accounts ids s.accountant.acknowledgeAndDisable s.tokens) := by
  obtain ⟨s, hrun, hbalanced⟩ := (begin_build_balanced invalidCount htokens).run hlaws hstore
  exact ⟨s, hrun, hbalanced.accounts, SlateTokenAccountant.Balanced.check_iff hlaws hbalanced,
    hbalanced.acknowledge hlaws⟩

end TokenStore

namespace Sample

/-- Ids of elements are odd, and those above the first of four can be written. -/
def tokenIds : TokenIds where
  slateIdIsValid id := id % 2 = 1
  slateIdCanWrite id := id % 4 = 3
  slateIdHasValidator _ := false
  slateIdRo id := if id % 4 = 3 then id - 2 else id
  slateIdBuildInvalid count := 2 * count + 2
  slateElementDefault := 0

/-- The sample's ids obey the laws. -/
theorem token_ids_laws : tokenIds.Laws where
  default_invalid := rfl
  build_invalid count := by simp [tokenIds]
  build_ne_default count := by simp [tokenIds]
  build_injective count count' h := by
    simp only [tokenIds] at h
    omega
  ro_valid id h := by
    simp only [tokenIds, decide_eq_true_eq] at h ⊢
    split <;> omega

/-- Two tokens and a copy: one is bound and assigned to another, and the third is destroyed. -/
def tokenLife : List TokenEvent :=
  [.construct, .construct, .copy 0,
    .registerToken 1 ⟨true, true, false, .inl rfl, nofun⟩ 7 true, .assign 0 1, .assign 2 2,
    .destroy 2]

/-- The tokens of the sample are accounted for. -/
theorem token_life_accounted :
    ∃ s, tokenLife.foldlM (TokenStore.step tokenIds) (.beginBuild tokenIds [] 0) = some s ∧
      TokenStore.Accounts tokenIds s.accountant s.tokens ∧ s.tokens = [7, 7] := by
  have hstore : ∀ event ∈ tokenLife, TokenStore.StoreGivesValidIds tokenIds event := by
    simp [tokenLife, TokenStore.StoreGivesValidIds]
  have htokens : ∀ id ∈ ([] : List Nat), ¬ tokenIds.Unbound id := nofun
  obtain ⟨s, hrun, haccounts, -⟩ :=
    TokenStore.tokens_accounted token_ids_laws htokens 0 hstore
  refine ⟨s, hrun, haccounts, ?_⟩
  have htokens : (tokenLife.foldlM (TokenStore.step tokenIds)
      (.beginBuild tokenIds [] 0)).map TokenStore.tokens = some [7, 7] := by decide
  rw [hrun] at htokens
  exact Option.some.inj htokens

end Sample

end Codon.Slate
