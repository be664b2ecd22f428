import Codon.Slate.Latches
import Codon.Slate.Tokens

/-!
# Validated values

Code that reads an element with a validator is promised a value that the validator let in. A
token that writes without validation is refused for such an element, when the element is
created and when a token is bound. If no view of such an element has passed the checks of the
layout, this is enough: whatever else the program does, the value stays valid
(`validated_kept`).
-/

namespace Codon.Slate

open Codon.Library

variable {V : Type} {o : Outside V} {rt : Runtime}

/-! ## Tokens -/

/-- What tokens use of the ids of a layout. -/
def Outside.tokenIds (o : Outside V) (slateIdBuildInvalid : Nat → Nat)
    (slateElementDefault : Nat) : TokenIds where
  slateIdIsValid := o.slateIdIsValid
  slateIdCanWrite := o.slateIdCanWrite
  slateIdHasValidator := o.slateIdHasValidator
  slateIdRo := o.slateIdRo
  slateIdBuildInvalid := slateIdBuildInvalid
  slateElementDefault := slateElementDefault

/-- The validator that an element is created with. -/
def SlateLayout.Call.validator (o : Outside V) : SlateLayout.Call V → V
  | .allocate r => r.validator
  | .view _ => o.noValidator

/-- A token of the access was given an id of an element: when it was created, or bound to what the
store found. -/
inductive Given (o : Outside V) (ids : TokenIds) (calls : List (BuildCall V))
    (access : TokenAccess) : Issued → Prop
  | created (before after : List (BuildCall V)) {c : SlateLayout.Call V} {element : Issued}
      {tokenId id : Nat} {a a' : SlateTokenAccountant} :
      calls = before ++ .call c :: after →
      Built.issue? o (Built.run o before (.fresh V)).layout (.call c) = some element →
      SlateBuilder.registerToken ids a access element.id (o.isNoop (c.validator o)) tokenId =
        some (true, id, a') →
      Given o ids calls access ⟨id, element.path⟩
  | bound {element : Issued} {lookup : StoreLookup} {tokenId id : Nat}
      {a a' : SlateTokenAccountant} :
      element ∈ (Built.run o calls (.fresh V)).issued →
      lookup.elementId = some element.id →
      SlateBuilder.bind ids a access lookup tokenId = some (true, id, a') →
      Given o ids calls access ⟨id, element.path⟩

/-- The token registered for an element gives the element's own identifier. -/
theorem SlateBuilder.give_id_some {ids : TokenIds} {a a' : SlateTokenAccountant}
    {tokenId elementId id : Nat}
    (h : SlateBuilder.giveId ids a tokenId elementId = some (true, id, a')) : id = elementId := by
  unfold giveId at h
  obtain ⟨⟨registered, registeredBy⟩, -, hgiven⟩ := Option.bind_eq_some_iff.1 h
  cases registered with
  | true =>
      cases hgiven
      rfl
  | false => cases hgiven

/-- A new token for writing without validation has the id of the element, which was created without
validator. -/
theorem SlateBuilder.register_token_plain {ids : TokenIds} {a a' : SlateTokenAccountant}
    {access : TokenAccess} {tokenId elementId id : Nat} {noop : Bool}
    (hwrite : access.canWrite = true) (hplain : access.canValidate = false)
    (h : SlateBuilder.registerToken ids a access elementId noop tokenId = some (true, id, a')) :
    id = elementId ∧ noop = true := by
  unfold registerToken at h
  rw [if_pos hwrite, hplain] at h
  split_ifs at h with hvalid hcan hnoop
  case neg =>
    exact ⟨give_id_some h, Bool.eq_true_of_not_eq_false fun hfalse => hnoop hfalse.symm⟩
  all_goals cases h

/-- A token that is bound for writing without validation has the id that was found, which does not
carry the flag. -/
theorem SlateBuilder.bind_plain {ids : TokenIds} {a a' : SlateTokenAccountant}
    {access : TokenAccess} {lookup : StoreLookup} {tokenId elementId id : Nat}
    (hwrite : access.canWrite = true) (hplain : access.canValidate = false)
    (hlookup : lookup.elementId = some elementId)
    (h : SlateBuilder.bind ids a access lookup tokenId = some (true, id, a')) :
    id = elementId ∧ ids.slateIdHasValidator elementId = false := by
  unfold bind at h
  rw [hlookup, hplain] at h
  dsimp only at h
  split_ifs at h with hbuilt hread hcan hbound hpermitted hvalidator
  case neg =>
    refine ⟨give_id_some h, Bool.eq_false_of_not_eq_true fun htrue => hvalidator ⟨hwrite, ?_⟩⟩
    rw [htrue]
    exact Bool.false_ne_true
  all_goals cases h

/-! ## Ids that were given out -/

namespace Built

variable {s : Built V} {i : Issued}

/-- What was issued stays issued. -/
theorem issued_run (h : i ∈ s.issued) (calls : List (BuildCall V)) :
    i ∈ (run o calls s).issued := by
  induction calls generalizing s with
  | nil => exact h
  | cons c calls ih => exact ih (List.mem_append_right _ h)

/-- A run in two parts is the second part run after the first. -/
theorem run_append (before after : List (BuildCall V)) (s : Built V) :
    run o (before ++ after) s = run o after (run o before s) := List.foldl_append

/-- A run is its first call and then the others. -/
theorem run_cons (c : BuildCall V) (calls : List (BuildCall V)) (s : Built V) :
    run o (c :: calls) s = run o calls (step o s c) := rfl

/-- The id of a new element carries the flag if it was created with a validator. -/
theorem issue_flag (hids : IdLaws o) {l : SlateLayout V} (hl : l.Chunked) {c : SlateLayout.Call V}
    (h : issue? o l (.call c) = some i) :
    o.slateIdHasValidator i.id = !o.isNoop (c.validator o) := by
  have hstep : ∃ element id, SlateLayout.CallStep o l c element (c.validator o) id := by
    cases c with
    | allocate r => exact SlateLayout.allocate_step o hl r
    | view v => exact SlateLayout.view_step hids l v
  obtain ⟨element, id, hcall⟩ := hstep
  obtain ⟨-, built, rfl, hbuilt⟩ := hcall.issued i h
  cases hcall.step with
  | added _ _ hid _ =>
      rcases hbuilt with heq | heq
      · rw [heq]
        exact (hids.buildup hid).2
      · rw [heq, (hids.readOnly built).2]
        exact (hids.buildup hid).2

/-- A guarded run grows the layout at each call. -/
theorem GuardedRun.grows {calls : List (BuildCall V)} (h : GuardedRun o calls s) :
    Along (step o) Grows s calls := by
  induction calls generalizing s with
  | nil => trivial
  | cons c calls ih =>
      refine ⟨?_, ih h.2⟩
      cases c with
      | elementId path access => trivial
      | call c =>
          cases c with
          | allocate r => exact h.1
          | view v => trivial

end Built

/-- A token for writing without validation has an id that was given out, without the flag. -/
theorem Given.plain (hlaws : LookupLaws o) {slateIdBuildInvalid : Nat → Nat}
    {slateElementDefault : Nat} {calls : List (BuildCall V)} {access : TokenAccess} {i : Issued}
    (h : Given o (o.tokenIds slateIdBuildInvalid slateElementDefault) calls access i)
    (hwrite : access.canWrite = true) (hplain : access.canValidate = false) :
    i ∈ (Built.run o calls (.fresh V)).issued ∧ o.slateIdHasValidator i.id = false := by
  cases h with
  | @created before after c element tokenId id a a' hcalls hissue hregister =>
      obtain ⟨rfl, hnoop⟩ := SlateBuilder.register_token_plain hwrite hplain hregister
      have hchunked :=
        (Built.run_resolving hlaws (Built.fresh_resolving o) before).chunked
      refine ⟨?_, ?_⟩
      · rw [hcalls, Built.run_append, Built.run_cons]
        refine Built.issued_run (List.mem_append_left _ ?_) after
        rw [hissue]
        exact List.mem_cons_self
      · show o.slateIdHasValidator element.id = false
        rw [Built.issue_flag hlaws.toIdLaws hchunked hissue, hnoop]
        rfl
  | @bound element lookup tokenId id a a' hissued hlookup hbind =>
      obtain ⟨rfl, hflag⟩ := SlateBuilder.bind_plain hwrite hplain hlookup hbind
      exact ⟨hissued, hflag⟩

/-! ## Writes -/

/-- The value that an operation may write. -/
def ElementOp.value? : ElementOp → Option Nat
  | .load => none
  | .write bits | .store bits => some bits
  | .latchMin value _ | .latchMax value _ => some value

/-- The operation has a reference to the element. -/
def ElementOp.byReference : ElementOp → Bool
  | .load | .store _ => false
  | .write _ | .latchMin _ _ | .latchMax _ _ => true

/-- What an operation does: a store of an element with a validator only writes what is accepted. -/
theorem Access.perform_writes {M : Type} (a : Access M) (m : M) (parts : IdParts)
    (accepts : Nat → Nat → Bool) (type : ValueType) (op : ElementOp) :
    (a.perform parts accepts type op m).2 = m ∨
      ∃ bits ∈ op.value?, (a.perform parts accepts type op m).2 = a.write bits m ∧
        (op.byReference = true ∨ parts.hasValidator = false ∨ accepts bits (a.load m) = true) := by
  cases op with
  | load => exact .inl rfl
  | write bits => exact .inr ⟨bits, rfl, rfl, .inl rfl⟩
  | store bits =>
      show (a.store _ _ _ _ _).2 = m ∨ ∃ written ∈ some bits,
        (a.store _ _ _ _ _).2 = a.write written m ∧ _
      unfold Access.store
      split_ifs with hwrite hvalidator haccepts
      · exact .inl rfl
      · exact .inr ⟨bits, rfl, rfl, .inr (.inl (by simpa using hvalidator))⟩
      · exact .inr ⟨bits, rfl, rfl, .inr (.inr haccepts)⟩
      · exact .inl rfl
  | latchMin value sentinel =>
      show a.latch _ _ _ _ _ = m ∨ ∃ written ∈ some value,
        a.latch _ _ _ _ _ = a.write written m ∧ _
      unfold Access.latch
      split_ifs
      · exact .inr ⟨value, rfl, rfl, .inl rfl⟩
      · exact .inl rfl
  | latchMax value sentinel =>
      show a.latch _ _ _ _ _ = m ∨ ∃ written ∈ some value,
        a.latch _ _ _ _ _ = a.write written m ∧ _
      unfold Access.latch
      split_ifs
      · exact .inr ⟨value, rfl, rfl, .inl rfl⟩
      · exact .inl rfl

/-- A part that is of another root element or is empty is not written to. -/
theorem Window.load_write_apart {w w' : Window} (h : w.root ≠ w'.root ∨ w'.size = 0) (bits : Nat)
    (cells : Cells) : w.access.load (w'.access.write bits cells) = w.access.load cells := by
  rcases h with hroot | hsize
  · exact Window.load_write_other hroot bits cells
  · refine from_bytes_congr fun i _ => ?_
    show (if _ then _ else _) = _
    rw [if_neg fun hin => by omega]

/-- The slate agrees with its layout: an id carries the flag that is read off it, and stores ask the
validator that the layout finds. -/
structure ValidatorLaws (o : Outside V) (rt : Runtime) (l : SlateLayout V)
    (judge : V → Nat → Nat → Bool) : Prop where
  hasValidator : ∀ id, (rt.breakdown id).hasValidator = o.slateIdHasValidator id
  accepts : ∀ id newBits bits,
    rt.accepts id newBits bits = judge (l.getElementValidator o id) newBits bits

/-- An id that the element of a path can be read by: one that was given out, or its read-only form.
-/
def Reads (o : Outside V) (s : Built V) (path : String) (id : Nat) : Prop :=
  ∃ i ∈ s.issued, i.path = path ∧ (id = i.id ∨ id = o.slateIdRo i.id)

/-- A call that the program can make. Loads can have any id. The others have one that was given out
and a value of the type, and a token for writing without validation where they have a reference.
-/
structure Permitted (o : Outside V) (ids : TokenIds) (calls : List (BuildCall V))
    (c : ElementCall) : Prop where
  typed : c.op ≠ .load → c.Typed (Built.run o calls (.fresh V))
  fits : ∀ value ∈ c.op.value?, value < 256 ^ c.type.size
  token : c.op.byReference = true → ∃ access : TokenAccess, access.canWrite = true ∧
    access.canValidate = false ∧ Given o ids calls access c.element

/-- The whole value of a root element. -/
def SlateElement.cell (element : SlateElement) : Window :=
  ⟨element.path, 0, element.metadata.valueSize⟩

/-- The value of a root element in a slate. -/
def SlateElement.value (element : SlateElement) (l : SlateLayout V) (slate : SlateMemory) : Nat :=
  element.cell.access.load (l.cells slate)

section

variable {s : Built V} {element : SlateElement} {validator : V}

/-- A read of a root element is one of its cell. -/
theorem Built.Based.load_of_reads (hs : Built.Based o s) (hbreak : BreakdownLaws o rt)
    (hmem : element ∈ s.layout.elements) (hnoView : element.metadata.isViewElement = false)
    {id : Nat} (h : Reads o s element.path id) (slate : SlateMemory) :
    element.value s.layout slate = (rt.access id element.metadata.valueSize).load slate := by
  obtain ⟨i, hissued, hpath, hid⟩ := h
  obtain ⟨named, hnamed, hsame, hfrom⟩ := hs.issued i hissued
  rw [hs.tables.eq_of_path hnamed hmem (hsame.trans hpath)] at hfrom
  obtain ⟨hshard, hoffset⟩ := hfrom.place hbreak
  have hplace : (rt.breakdown id).shard = element.metadata.shard ∧
      (rt.breakdown id).offset = element.metadata.valueOffset := by
    rcases hid with rfl | rfl
    · exact ⟨hshard, hoffset⟩
    · rw [(hbreak.readOnly i.id).1, (hbreak.readOnly i.id).2]
      exact ⟨hshard, hoffset⟩
  obtain ⟨root, hroot, hwindow⟩ := hs.window hmem
  have hrepresents :=
    SlateLayout.window_represents hs.placed hs.tables hroot hplace.1 hplace.2
  rw [SlateElement.value, SlateElement.cell,
    ← Option.some.inj (hwindow.symm.trans (hs.window_of_root hmem hnoView))]
  exact hrepresents.load slate

/-- The part of another path has other bytes than an element with a validator, or none. -/
theorem Built.Unaliased.window_apart (hs : Built.Unaliased o s)
    (hbased : Built.Based o s) (hmem : element ∈ s.layout.elements)
    (hflag : SlateLayout.hasValidator o s.layout element.path = true) {path : String}
    (hne : path ≠ element.path) {w : Window} (hw : s.layout.windowAt path = some w) :
    element.path ≠ w.root ∨ w.size = 0 := by
  obtain ⟨other, hother, rfl⟩ : ∃ other ∈ s.layout.elements, other.path = path := by
    unfold SlateLayout.windowAt SlateLayout.getElementAt at hw
    cases hfind : s.layout.elements.find? fun other => other.path = path with
    | none =>
        rw [hfind] at hw
        cases hw
    | some other =>
        exact ⟨other, List.mem_of_find?_eq_some hfind, by simpa using List.find?_some hfind⟩
  obtain ⟨root, hroot, hwindow⟩ := hbased.window hother
  obtain ⟨hrootMem, hrootNoView, hshard, hwithin⟩ := SlateLayout.root_of_some hroot
  rw [hw] at hwindow
  cases hwindow
  by_contra hsame
  rw [not_or, not_not] at hsame
  obtain ⟨hpath, hsize⟩ := hsame
  have hsize' : other.metadata.valueSize ≠ 0 := hsize
  have heq : root = element := hs.tables.eq_of_path hrootMem hmem hpath.symm
  subst heq
  -- a byte of the part, which is one of the element
  have hin : other.metadata.span.Contains other.metadata.valueOffset :=
    ⟨Nat.le_refl _, Nat.lt_add_of_pos_right (Nat.pos_of_ne_zero hsize')⟩
  have hoverlap : ¬other.metadata.span.Disjoint root.metadata.span := fun hdisjoint =>
    hdisjoint _ ⟨hin, hwithin.contains hin⟩
  cases hview : other.metadata.isViewElement with
  | false =>
      have hsame := root_eq_of_overlap hs.placed hother hrootMem hview hrootNoView hshard.symm
        hoverlap
      exact hne (congrArg SlateElement.path hsame)
  | true =>
      obtain ⟨below, hbelow, hbelowNoView, hbelowShard, hbelowWithin, hnone⟩ :=
        hs.views other hother hview
      have hbelowSame := root_eq_of_overlap hs.placed hbelow hrootMem hbelowNoView hrootNoView
        (hbelowShard.trans hshard.symm) (hbelowWithin.overlap hoverlap)
      rw [hbelowSame, hflag] at hnone
      cases hnone

/-- The layout has been built, and the element has been given its validator. -/
structure Validating (o : Outside V) (s : Built V) (element : SlateElement) (validator : V) :
    Prop where
  unaliased : Built.Unaliased o s
  based : Built.Based o s
  registered : s.layout.Registered o element validator
  active : o.isNoop validator = false

/-- What a call writes to the cell of the element, the validator has accepted. -/
theorem Validating.cell_call (hlaws : LookupLaws o) (hs : Validating o s element validator)
    {judge : V → Nat → Nat → Bool} (hjudge : ValidatorLaws o rt s.layout judge)
    {c : ElementCall} (htyped : c.Typed s)
    (hfits : ∀ value ∈ c.op.value?, value < 256 ^ c.type.size)
    (htoken : c.op.byReference = true → o.slateIdHasValidator c.element.id = false)
    (cells : Cells) :
    element.cell.access.load (s.layout.cellCall rt c cells).2 = element.cell.access.load cells ∨
      judge validator (element.cell.access.load (s.layout.cellCall rt c cells).2)
        (element.cell.access.load cells) = true := by
  have hflag : SlateLayout.hasValidator o s.layout element.path = true := by
    rw [hs.registered.flag, hs.active]
    rfl
  have hnoView := hs.unaliased.tables.root_of_validator hlaws.toPathMapLaws hs.registered.mem hflag
  -- the call is on the element itself or on another one, which has its own bytes
  by_cases hpath : c.element.path = element.path
  · have hwindow : s.layout.windowAt element.path = some element.cell :=
      hs.based.window_of_root hs.registered.mem hnoView
    rw [SlateLayout.cellCall, hpath, hwindow]
    dsimp only
    obtain ⟨hindex, hcarried⟩ :=
      hs.based.toResolving.carries hlaws hs.registered htyped.1 hpath
    have hfound : s.layout.getElementValidator o c.element.id = validator := by
      rw [SlateLayout.getElementValidator, hindex]
      exact hs.registered.held
    have hset : o.slateIdHasValidator c.element.id = true := hcarried.trans hflag
    have hsize : element.cell.size = c.type.size := htyped.2 element hs.registered.mem hpath.symm
    rcases element.cell.access.perform_writes cells (rt.breakdown c.element.id)
      (rt.accepts c.element.id) c.type c.op with hsame | ⟨bits, hbits, hwrite, hcheck⟩
    · exact .inl (congrArg element.cell.access.load hsame)
    · right
      rw [hwrite, element.cell.load_write ((hfits bits hbits).trans_eq (by rw [hsize])) cells]
      -- the flag of the identifier makes the slate check every write by value
      rcases hcheck with hreference | hnone | haccepted
      · rw [hset] at htoken
        cases htoken hreference
      · rw [hjudge.hasValidator, hset] at hnone
        cases hnone
      · rwa [hjudge.accepts, hfound] at haccepted
  · left
    rw [SlateLayout.cellCall]
    cases hother : s.layout.windowAt c.element.path with
    | none => rfl
    | some other =>
        dsimp only
        -- a view of an element with a validator cannot be made in such a run
        have hapart := hs.unaliased.window_apart hs.based hs.registered.mem hflag hpath
          hother
        rcases other.access.perform_cases cells (rt.breakdown c.element.id)
          (rt.accepts c.element.id) c.type c.op with hsame | ⟨bits, hwrite⟩
        · rw [hsame]
        · rw [hwrite]
          exact Window.load_write_apart hapart bits cells

/-- A call that the program can make leaves the cell of the element, or the validator accepts its
new value. -/
theorem Validating.slate_call (hlaws : LookupLaws o) (hbreak : BreakdownLaws o rt)
    {calls : List (BuildCall V)}
    (hs : Validating o (Built.run o calls (.fresh V)) element validator)
    {judge : V → Nat → Nat → Bool}
    (hjudge : ValidatorLaws o rt (Built.run o calls (.fresh V)).layout judge)
    {slateIdBuildInvalid : Nat → Nat} {slateElementDefault : Nat} {c : ElementCall}
    (hc : Permitted o (o.tokenIds slateIdBuildInvalid slateElementDefault) calls c)
    (slate : SlateMemory) :
    element.value (Built.run o calls (.fresh V)).layout (rt.slateCall c slate).2 =
        element.value (Built.run o calls (.fresh V)).layout slate ∨
      judge validator (element.value (Built.run o calls (.fresh V)).layout (rt.slateCall c slate).2)
        (element.value (Built.run o calls (.fresh V)).layout slate) = true := by
  by_cases hload : c.op = .load
  · left
    rw [Runtime.slateCall, hload]
    rfl
  · have htyped := hc.typed hload
    have hagree := congrArg Prod.snd (hs.based.call_agrees hbreak htyped slate)
    have hcell := hs.cell_call hlaws hjudge htyped hc.fits (fun hreference => ?_)
      ((Built.run o calls (.fresh V)).layout.cells slate)
    · rw [hagree] at hcell
      exact hcell
    · obtain ⟨access, hwrite, hplain, hgiven⟩ := hc.token hreference
      exact (hgiven.plain hlaws hwrite hplain).2

/-- In a layout that has been built by guarded calls, an element that was created with a validator
only changes to values that the validator accepts. So what acceptance keeps, for instance that the
value is an enumerator, holds of it after any calls that the program can make, if it holds of the
value that they start from: every id of the element reads such a value. -/
theorem validated_kept (hlaws : LookupLaws o) (hbreak : BreakdownLaws o rt)
    {before after : List (BuildCall V)} {c : SlateLayout.Call V}
    (hguard : Built.GuardedRun o (before ++ .call c :: after) (.fresh V))
    (hcreated : (Built.run o before (.fresh V)).layout.created? o c = some (element, validator))
    (hactive : o.isNoop validator = false) {judge : V → Nat → Nat → Bool}
    (hjudge : ValidatorLaws o rt
      (Built.run o (before ++ .call c :: after) (.fresh V)).layout judge)
    {slateIdBuildInvalid : Nat → Nat} {slateElementDefault : Nat} {ops : List ElementCall}
    (hops : ∀ op ∈ ops, Permitted o (o.tokenIds slateIdBuildInvalid slateElementDefault)
      (before ++ .call c :: after) op)
    (Valid : Nat → Prop)
    (hvalid : ∀ new old, judge validator new old = true → Valid old → Valid new)
    {slate : SlateMemory} {id : Nat}
    (hid : Reads o (Built.run o (before ++ .call c :: after) (.fresh V)) element.path id)
    (hstart : Valid ((rt.access id element.metadata.valueSize).load slate)) {id' : Nat}
    (hid' : Reads o (Built.run o (before ++ .call c :: after) (.fresh V)) element.path id') :
    Valid ((rt.access id' element.metadata.valueSize).load (answers rt.slateCall ops slate).2) := by
  have hs : Validating o (Built.run o (before ++ .call c :: after) (.fresh V)) element validator :=
    { unaliased := Built.run_unaliased hlaws.toPathMapLaws hlaws.toIdLaws
        (Built.fresh_unaliased o) hguard
      based := Built.run_based hlaws hguard.grows
      registered := Built.registered_of_created hlaws before after hcreated
      active := hactive }
  have hflag : SlateLayout.hasValidator o
      (Built.run o (before ++ .call c :: after) (.fresh V)).layout element.path = true := by
    rw [hs.registered.flag, hactive]
    rfl
  have hnoView := hs.unaliased.tables.root_of_validator hlaws.toPathMapLaws hs.registered.mem hflag
  rw [← hs.based.load_of_reads hbreak hs.registered.mem hnoView hid']
  rw [← hs.based.load_of_reads hbreak hs.registered.mem hnoView hid] at hstart
  refine answers_invariant (P := fun slate =>
    Valid (element.value (Built.run o (before ++ .call c :: after) (.fresh V)).layout slate))
    (fun op hop slate hkept => ?_) hstart
  rcases hs.slate_call hlaws hbreak hjudge (hops op hop) slate with hsame | haccepted
  · rwa [hsame]
  · exact hvalid _ _ haccepted hkept

end

namespace Sample

/-- The packed ids, of which 0 is the default id of tokens. -/
def bound : Outside Bool := { packed with slateIdIsValid := fun id => id ≠ 0 }

/-- The sample's identifiers meet what is asked of lookups. -/
theorem bound_laws : LookupLaws bound where
  stable := packed_laws.stable
  injective := packed_laws.injective
  found := packed_laws.found
  leads := packed_laws.leads
  buildup h := packed_laws.buildup h
  readOnly id := packed_laws.readOnly id
  noValidator := rfl
  index h := packed_laws.index h
  readOnlyIndex id := packed_laws.readOnlyIndex id

/-- They break down into what they were packed from. -/
theorem bound_breakdown : BreakdownLaws bound packedRuntime where
  built h := packed_breakdown.built h
  readOnly id := packed_breakdown.readOnly id

/-- The sample's validator refuses values above one hundred. -/
theorem bound_judges (l : SlateLayout Bool) :
    ValidatorLaws bound packedRuntime l fun _ newBits _ => newBits ≤ 100 where
  hasValidator _ := rfl
  accepts _ _ _ := rfl

/-- The flag, its view, and the parameter. -/
def flagAndView : List (BuildCall Bool) := flagViewLimit.take 2

def limitCall : SlateLayout.Call Bool :=
  .allocate { request "nav.limit" 8 8 eight_lt_size eight_lt_size with validator := false }

/-- The sample run creates a flag, a view of it and the limit, all guarded. -/
theorem flag_view_limit_guarded :
    Built.GuardedRun bound (flagAndView ++ [.call limitCall]) (.fresh Bool) := by
  refine ⟨fun h => absurd h.overflows (by decide), fun h => ?_,
    fun h => absurd h.overflows (by decide), trivial⟩
  obtain ⟨parent, hparent, hvalidator, -⟩ := h.parent
  cases hparent
  exact absurd hvalidator (by decide)

/-- A writable identifier passes the assertion of the slate. -/
theorem writable_meets_assert (canRead : Bool) : canRead = true ∨ true = true := .inr rfl

/-- A `WriteToken`. -/
def writeToken : TokenAccess := ⟨true, true, false, writable_meets_assert true, fun _ => rfl⟩

/-- An accountant that does not keep track of tokens. -/
def idle : SlateTokenAccountant := ⟨false, 0, 0, 0, 0, ∅⟩

/-- The flag is created with a token for writing. -/
theorem flag_given : Given bound (bound.tokenIds (fun _ => 0) 0)
    (flagAndView ++ [.call limitCall]) writeToken flag := by
  have hissue : Built.issue? bound (.fresh Bool)
      (.call (.allocate (request "nav.flag" 8 8 eight_lt_size eight_lt_size))) = some flag := by
    decide +kernel
  have hregister : SlateBuilder.registerToken (bound.tokenIds (fun _ => 0) 0) idle writeToken
      flag.id true 0 = some (true, flag.id, idle) := rfl
  exact .created [] _ rfl hissue hregister

/-- A token for writing is bound to the view. -/
theorem high_given : Given bound (bound.tokenIds (fun _ => 0) 0)
    (flagAndView ++ [.call limitCall]) writeToken high := by
  have hissued : high ∈ (Built.run bound (flagAndView ++ [.call limitCall]) (.fresh Bool)).issued :=
    by decide +kernel
  have hbind : SlateBuilder.bind (bound.tokenIds (fun _ => 0) 0) idle writeToken
      ⟨false, true, true, true, some high.id⟩ 0 = some (true, high.id, idle) := rfl
  exact .bound hissued rfl hbind

/-- The sample's store and load are permitted. -/
theorem store_and_load_permitted : ∀ c ∈ storeAndLoad,
    Permitted bound (bound.tokenIds (fun _ => 0) 0) (flagAndView ++ [.call limitCall]) c := by
  have htyped : ∀ c ∈ storeAndLoad,
      c.Typed (Built.run bound (flagAndView ++ [.call limitCall]) (.fresh Bool)) := by
    unfold ElementCall.Typed
    decide +kernel
  have hfits : ∀ c ∈ storeAndLoad, ∀ value ∈ c.op.value?, value < 256 ^ c.type.size := by
    decide +kernel
  have hgiven : ∀ c ∈ storeAndLoad, c.op.byReference = true →
      c.element = flag ∨ c.element = high := by decide +kernel
  intro c hc
  refine ⟨fun _ => htyped c hc, hfits c hc, fun hreference => ⟨writeToken, rfl, rfl, ?_⟩⟩
  rcases hgiven c hc hreference with heq | heq
  · rw [heq]
    exact flag_given
  · rw [heq]
    exact high_given

end Sample

/-- The parameter is at most 100 after the stores, of which one tried to set it to 200. -/
theorem limit_validated :
    (Sample.packedRuntime.access Sample.limit.id 8).load
      (answers Sample.packedRuntime.slateCall Sample.storeAndLoad Sample.zeros).2 ≤ 100 := by
  have hreads : Reads Sample.bound (Built.run Sample.bound
      (Sample.flagAndView ++ [.call Sample.limitCall]) (.fresh Bool)) "nav.limit"
        Sample.limit.id :=
    ⟨Sample.limit, by decide +kernel, rfl, .inl rfl⟩
  exact validated_kept Sample.bound_laws Sample.bound_breakdown Sample.flag_view_limit_guarded rfl
    rfl (Sample.bound_judges _) Sample.store_and_load_permitted (fun bits => bits ≤ 100)
    (fun new old haccepted _ => by simpa using haccepted) hreads (by decide +kernel) hreads

end Codon.Slate
