import Codon.Library.Vote
import Codon.Slate.Setters

/-!
# Combining redundant slates

`SlateCombiner`: up to three source slates are combined into one, element by element or as a
whole. The slate is its bytes, so that elements may share memory; whatever `init` makes of
its configuration, the elements that the combiner writes, its metrics among them, may be ones
that it reads.

`init` appends to the bins and the sources that the object has. One that has failed leaves
what it has appended, and the object may be initialised again. A function of the running
system that fails or aborts the program gives no result.

Not in the source tree are the stores of builders, the enum registry, the reading of
configuration files and `median3`. `CombinerOutside` holds what `SlateCombiner` uses of them.
-/

namespace Codon.Slate

open Codon.Library

/-! ## Values -/

/-- The place of a value in the order of its type. A NaN has none. -/
def SlateType.place : SlateType → Nat → Option Int
  | .bool, bits => some bits
  | .int8, bits => some (signedInt 1 bits)
  | .int16, bits => some (signedInt 2 bits)
  | .int32, bits => some (signedInt 4 bits)
  | .int64, bits => some (signedInt 8 bits)
  | .uint8, bits => some bits
  | .uint16, bits => some bits
  | .uint32, bits => some bits
  | .ulong, bits => some bits
  | .uint64, bits => some bits
  | .float, bits => binary32.place bits
  | .double, bits => binary64.place bits
  | .other _, _ => none

/-- `==` of two values. -/
def SlateType.valueEq (type : SlateType) (x y : Nat) : Bool :=
  match type.place x, type.place y with
  | some a, some b => a = b
  | _, _ => false

/-- `std::max`: the second value only if the first is less. -/
def SlateType.max (type : SlateType) (x y : Nat) : Nat :=
  match type.place x, type.place y with
  | some a, some b => if a < b then y else x
  | _, _ => x

/-! ## Combiners -/

/-- `num_sources_max`. -/
def numSourcesMax : Nat := 3

/-- `seq_default`, the least `INT64`. -/
def seqDefault : Int := -2 ^ 63

/-- Its bits. -/
def seqDefaultBits : Nat := 2 ^ 63

/-- `slate_combiner_in_t`, over the type of builders. -/
structure CombinerIn (B : Type) where
  builder : B
  name : String

/-- `sharer_config_t`: its prefix, and the lines of its file, if it can be read. -/
structure SharerConfig where
  elementPrefix : String
  lines : Option (List (List String))

/-- What is registered of the enum of an element. -/
structure ElementEnum where
  enumExists : Bool
  enumName : String
  symbolTable : List (String × Int)

/-- What `SlateCombiner` uses of code that is not in the source tree, over the types of builders and
of slates that are being built. Elements are created in the sync shard, and whatever tries to
create or to bind one leaves a slate, also if it fails. `initial` is the memory of a slate that is
built. -/
structure CombinerOutside (B D : Type) where
  sharerIgnoreElementName : String
  sharerInvalidSequenceNumber : Int
  createElement : D → B → (path : String) → SlateType → (initialValue : Nat) → ElemAccess →
    Option Nat × D
  create : D → B → (path : String) → SlateType → (initialValue : Nat) → ElemAccess →
    Option Nat × D
  bindRead : D → B → (path : String) → SlateType → Option Nat × D
  bindWrite : D → B → (path : String) → SlateType → Option Nat × D
  getElementId : D → B → (path : String) → SlateType → Option Nat
  hasEnumRegistry : D → B → Bool
  getElementEnum : D → B → (path : String) → Option ElementEnum
  registerEnum : D → B → (path : String) → ElementEnum → Bool × D
  isPeer : B → B → Bool
  subSlate : B → (path : String) → Option B
  initial : D → SlateMemory
  median3 : SlateType → Nat → Nat → Nat → Nat

/-- `element_bin_t`. Its functions are those of a type, once an element has been set up in it. -/
structure ElementBin where
  type : Option SlateType
  ids : List Nat
deriving DecidableEq

/-- `source_t`. -/
structure Source where
  freshTok : Nat
  freshLastTok : Nat
  freshAgeTok : Nat
  connectedTok : Nat
deriving DecidableEq

/-- `SlateCombiner`, without the slate. -/
structure SlateCombiner where
  isInit : Bool
  downselect : Bool
  numSources : Nat
  staleThreshold : UInt8
  bins : List ElementBin
  sources : List Source
  combinedConnectedTok : Nat
deriving DecidableEq

/-- The constructor. -/
def SlateCombiner.new : SlateCombiner where
  isInit := false
  downselect := false
  numSources := 0
  staleThreshold := 1
  bins := []
  sources := []
  combinedConnectedTok := 0

/-- The arguments of `init`. -/
structure CombinerArgs (B : Type) where
  fresh : String
  buildersIn : List (CombinerIn B)
  builderOut : B
  configList : List SharerConfig
  bindOutputs : Bool
  combinerName : String
  access : ElemAccess
  downselect : Bool
  bindMetrics : Bool
  staleThreshold : UInt8

variable {B D : Type}

/-! ## Initialisation -/

/-- The type that a line of the configuration names. -/
def elementType : String → Option SlateType
  | "packed_bool" => some .bool
  | "bool" => some .bool
  | "int8" => some .int8
  | "int16" => some .int16
  | "int32" => some .int32
  | "int64" => some .int64
  | "uint8" => some .uint8
  | "uint16" => some .uint16
  | "uint32" => some .uint32
  | "uint64" => some .uint64
  | "float" => some .float
  | "double" => some .double
  | _ => none

/-- What the loops of `init` work on. `binSelect` has the place of the bin of a type. -/
structure InitState (D : Type) where
  bins : List ElementBin
  binSelect : List (String × Nat)
  d : D
  initializationOk : Bool

/-- The place of the bin of a type, which is made if this call of `init` has none. -/
def InitState.selectBin (typeName : String) (state : InitState D) : Nat × InitState D :=
  match state.binSelect.lookup typeName with
  | some place => (place, state)
  | none =>
      (state.bins.length,
        { state with
          bins := state.bins ++ [⟨none, []⟩]
          binSelect := state.binSelect ++ [(typeName, state.bins.length)] })

namespace CombinerOutside

variable (o : CombinerOutside B D)

/-- The enum of an element, if its builder has a registry. -/
def elementEnum (d : D) (builder : B) (path : String) : Option ElementEnum :=
  if o.hasEnumRegistry d builder then o.getElementEnum d builder path else some ⟨false, "", []⟩

/-- Whether the enum of an element is that of the first input. -/
def sameEnum (d : D) (first : CombinerIn B) (enumFirst : ElementEnum) (path : String)
    (builder : B) : Bool :=
  o.hasEnumRegistry d builder = o.hasEnumRegistry d first.builder &&
    (o.elementEnum d builder path).any fun enum =>
      enum.enumExists = enumFirst.enumExists && enum.symbolTable = enumFirst.symbolTable

/-- `register_output_enum`: the inputs have the same enum, and so has the output. -/
def registerOutputEnum (args : CombinerArgs B) (path : String) (d : D) : Bool × D :=
  match args.buildersIn with
  | [] => (false, d)
  | first :: others =>
    match o.elementEnum d first.builder path with
    | none => (false, d)
    | some enumFirst =>
      if !others.all fun source => o.sameEnum d first enumFirst path source.builder then (false, d)
      else if args.bindOutputs then (o.sameEnum d first enumFirst path args.builderOut, d)
      else if !enumFirst.enumExists then (true, d)
      else if o.hasEnumRegistry d args.builderOut then
        o.registerEnum d args.builderOut path enumFirst
      else (false, d)

/-- Binds or creates the output of an element. -/
def initOutput (rt : Runtime) (args : CombinerArgs B) (path : String) (type : SlateType) (d : D) :
    Option Nat × D :=
  if args.bindOutputs then
    ((o.getElementId d args.builderOut path type).filter fun idOut => (rt.breakdown idOut).mayWrite,
      d)
  else o.createElement d args.builderOut path type 0 args.access

/-- The inputs of an element, up to the first that is not found: whether all are, and their ids. -/
def pushInputs (path : String) (type : SlateType) (d : D) : List (CombinerIn B) → Bool × List Nat
  | [] => (true, [])
  | source :: sources =>
    match o.getElementId d source.builder path type with
    | none => (false, [])
    | some id =>
      let (ok, ids) := pushInputs path type d sources
      (ok, id :: ids)

/-- `init_element`: whether it succeeds, and the ids that it appends to its bin. -/
def initElement (rt : Runtime) (args : CombinerArgs B) (path : String) (type : SlateType) (d : D) :
    Bool × List Nat × D :=
  match o.initOutput rt args path type d with
  | (none, d) => (false, [], d)
  | (some idOut, d) =>
    match o.registerOutputEnum args path d with
    | (false, d) => (false, [idOut], d)
    | (true, d) =>
      let (ok, ids) := o.pushInputs path type d args.buildersIn
      (ok, idOut :: ids, d)

/-- One line of the configuration. Only a line that is too short makes `init` return at once. -/
def initLine (rt : Runtime) (args : CombinerArgs B) (elementPrefix : String)
    (state : InitState D) : List String → Except (InitState D) (InitState D)
  | name :: typeName :: _ =>
    if name = o.sharerIgnoreElementName then .ok state
    else
      let path := elementPrefix ++ name
      let typeName := if typeName = "packed_bool" then "bool" else typeName
      let (place, state) := state.selectBin typeName
      match elementType typeName with
      | some type =>
        let (ok, ids, d) := o.initElement rt args path type state.d
        let push (bin : ElementBin) : ElementBin :=
          ⟨if ok then some type else bin.type, bin.ids ++ ids⟩
        .ok
          { state with
            bins := state.bins.modify place push
            d
            initializationOk := ok && state.initializationOk }
      | none => .ok { state with initializationOk := false }
  | _ => .error state

/-- The lines of an entry of the configuration. -/
def initConfig (rt : Runtime) (args : CombinerArgs B) (state : InitState D)
    (entry : SharerConfig) : Except (InitState D) (InitState D) :=
  match entry.lines with
  | none => .error state
  | some lines => lines.foldlM (o.initLine rt args entry.elementPrefix) state

/-- The part of `init` that fills the bins, after those that there are. -/
def initBins (rt : Runtime) (args : CombinerArgs B) (bins : List ElementBin) (d : D) :
    Except (InitState D) (InitState D) := do
  let state ← args.configList.foldlM (o.initConfig rt args) ⟨bins, [], d, true⟩
  if state.initializationOk then .ok state else .error state

/-- Goes on with the element that was found or made. -/
def granted (sources : List Source) :
    Option Nat × D → Except (Option (List Source × D)) (Nat × D)
  | (some id, d) => .ok (id, d)
  | (none, d) => .error (some (sources, d))

/-- `source_t::init`, and the appending of the source. A fourth source aborts the program. -/
def initSource (args : CombinerArgs B) (sub : B) (state : List Source × D) (source : CombinerIn B) :
    Except (Option (List Source × D)) (List Source × D) := do
  let (freshTok, d) ←
    granted state.1 (o.bindRead state.2 source.builder args.fresh .int64)
  let (freshLastTok, d) ← granted state.1
    (o.create d sub (source.name ++ ".fresh_last") .int64 seqDefaultBits .slatePrivate)
  let (freshAgeTok, d) ← granted state.1
    (o.create d sub (source.name ++ ".fresh_age") .uint8 args.staleThreshold.toNat .slatePrivate)
  let (connectedTok, d) ← granted state.1
    (o.create d sub (source.name ++ ".connected") .bool 0 .slateReadOnly)
  if state.1.length < numSourcesMax then
    .ok (state.1 ++ [⟨freshTok, freshLastTok, freshAgeTok, connectedTok⟩], d)
  else .error none

/-- Binds or creates the metric of the combined output. -/
def initConnected (args : CombinerArgs B) (sub : B) (d : D) : Option Nat × D :=
  if args.bindMetrics then o.bindWrite d sub "connected" .bool
  else o.create d sub "connected" .bool 0 .slateReadOnly

/-- The part of `init` after the loop over the configuration. -/
def initRest (args : CombinerArgs B) (c : SlateCombiner) (d : D) :
    Except (Option (SlateCombiner × D)) (SlateCombiner × D) :=
  if args.staleThreshold = 0 then .error (some (c, d))
  else
    let c := { c with staleThreshold := args.staleThreshold }
    if !args.buildersIn.all fun source => o.isPeer source.builder args.builderOut then
      .error (some (c, d))
    else
      match o.subSlate args.builderOut args.combinerName with
      | none => .error none
      | some sub =>
        match args.buildersIn.foldlM (o.initSource args sub) (c.sources, d) with
        | .error none => .error none
        | .error (some (sources, d)) => .error (some ({ c with sources }, d))
        | .ok (sources, d) =>
          let c := { c with sources }
          match o.initConnected args sub d with
          | (none, d) => .error (some (c, d))
          | (some combinedConnectedTok, d) =>
            .ok ({ c with combinedConnectedTok, downselect := args.downselect, isInit := true }, d)

/-- `init`. Where it returns false, with what it leaves, and where it aborts the program, with
nothing. -/
def init (rt : Runtime) (args : CombinerArgs B) (c : SlateCombiner) (d : D) :
    Except (Option (SlateCombiner × D)) (SlateCombiner × D) :=
  if c.isInit then .error (some (c, d))
  else if args.buildersIn.length < 1 ∨ numSourcesMax + 1 ≤ args.buildersIn.length then
    .error (some (c, d))
  else
    let c := { c with numSources := args.buildersIn.length }
    match o.initBins rt args c.bins d with
    | .error state => .error (some ({ c with bins := state.bins }, state.d))
    | .ok state => o.initRest args { c with bins := state.bins } state.d

/-! ## Freshness -/

/-- Whether a source has updated in this cycle. -/
def updated (accepted fresh freshLast : Int) : Bool :=
  fresh ≠ 0 && fresh ≠ seqDefault &&
    if accepted = o.sharerInvalidSequenceNumber then fresh ≠ freshLast else fresh = accepted

end CombinerOutside

namespace Source

/-- The elements of a source. -/
def fresh (source : Source) : Element := ⟨source.freshTok, .int64⟩
def freshLast (source : Source) : Element := ⟨source.freshLastTok, .int64⟩
def freshAge (source : Source) : Element := ⟨source.freshAgeTok, .uint8⟩
def connected (source : Source) : Element := ⟨source.connectedTok, .bool⟩

end Source

/-- A write through the reference that `load` gives. -/
def Runtime.write (rt : Runtime) (elem : Element) (bits : Nat) (slate : SlateMemory) :
    SlateMemory :=
  overwrite (rt.change elem bits) slate

namespace SlateCombiner

variable (c : SlateCombiner) (rt : Runtime)

/-- The metric of the combined output. -/
def combinedConnected : Element := ⟨c.combinedConnectedTok, .bool⟩

/-- The first part of a round of the loop over the sources: no connection yet, and the age. -/
def ageSource (o : CombinerOutside B D) (accepted : Int) (source : Source) (slate : SlateMemory) :
    SlateMemory :=
  let fresh := rt.load source.fresh slate
  let slate := rt.write source.connected 0 slate
  if o.updated accepted (signedInt 8 fresh) (signedInt 8 (rt.load source.freshLast slate)) then
    rt.write source.freshAge 0 (rt.write source.freshLast fresh slate)
  -- the age stops at the threshold
  else if rt.load source.freshAge slate < c.staleThreshold.toNat then
    rt.write source.freshAge (rt.load source.freshAge slate + 1) slate
  else slate

/-- One round of the loop over the sources: the slate, and the connected sources so far. -/
def updateSource (o : CombinerOutside B D) (accepted : Int) (state : SlateMemory × List Nat)
    (entry : Source × Nat) : SlateMemory × List Nat :=
  let slate := c.ageSource rt o accepted entry.1 state.1
  if rt.load entry.1.freshAge slate < c.staleThreshold.toNat then
    (rt.write c.combinedConnected 1 (rt.write entry.1.connected 1 slate), state.2 ++ [entry.2])
  else (slate, state.2)

/-- The loop over the sources: the slate with its metrics, and the connected sources, which are
counted from zero. -/
def updateSources (o : CombinerOutside B D) (accepted : Int) (slate : SlateMemory) :
    SlateMemory × List Nat :=
  c.sources.zipIdx.foldl (c.updateSource rt o accepted) (rt.write c.combinedConnected 0 slate, [])

end SlateCombiner

/-! ## Batches -/

/-- The ids of one element of a bin: that of the output, and those of the inputs. -/
structure ElementBatch where
  type : SlateType
  ids : List Nat
deriving DecidableEq

namespace ElementBatch

/-- The element at a place of the batch. Reading past the end of the ids is undefined. -/
def element (batch : ElementBatch) (idx : Nat) : Option Element :=
  batch.ids[idx]?.map fun id => ⟨id, batch.type⟩

/-- The output. -/
def out (batch : ElementBatch) : Element := ⟨batch.ids.getD 0 0, batch.type⟩

/-- The input of a source, which are counted from zero. -/
def input (batch : ElementBatch) (source : Nat) : Element :=
  ⟨batch.ids.getD (source + 1) 0, batch.type⟩

end ElementBatch

/-- What the functions of a bin go through: its ids from `0` on, from `stride` on, and so on. There
is nothing to call if the bin has no functions. -/
def ElementBin.rounds (stride : Nat) (bin : ElementBin) : Option (List ElementBatch) :=
  bin.type.map fun type =>
    (List.range ((bin.ids.length + stride - 1) / stride)).map fun k =>
      ⟨type, bin.ids.drop (k * stride)⟩

namespace Runtime

variable (rt : Runtime)

/-- Loads the value at a place of a batch. -/
def loadAt (batch : ElementBatch) (slate : SlateMemory) (idx : Nat) : Option Nat :=
  (batch.element idx).map fun elem => rt.load elem slate

/-- Stores a value in the output of a batch. A store that fails aborts the program in the end. -/
def storeOut (batch : ElementBatch) (slate : SlateMemory) (bits : Nat) : Option SlateMemory :=
  (batch.element 0).bind fun elem => rt.store elem bits slate

end Runtime

namespace SlateCombiner

variable (c : SlateCombiner) (rt : Runtime)

/-- The ids of a batch. -/
def stride : Nat := c.numSources + 1

/-- One round of `bin_eq`. -/
def eqRound (src1 src2 : Nat) (slate : SlateMemory) (result : Bool) (batch : ElementBatch) :
    Option Bool := do
  let val1 ← rt.loadAt batch slate src1
  let val2 ← rt.loadAt batch slate src2
  some (result && batch.type.valueEq val1 val2)

/-- `bin_eq`: whether the result so far is true and the two sources have the same values. -/
def binEq (src1 src2 : Nat) (slate : SlateMemory) (result : Bool) (bin : ElementBin) :
    Option Bool :=
  (bin.rounds c.stride).bind fun rounds => rounds.foldlM (eqRound rt src1 src2 slate) result

/-- One round of the loops that store: a value is computed from a batch and stored in its output. -/
def storeRound (value : ElementBatch → SlateMemory → Option Nat) (slate : SlateMemory)
    (batch : ElementBatch) : Option SlateMemory :=
  (value batch slate).bind fun bits => rt.storeOut batch slate bits

/-- What `bin_copy`, `bin_max` and `bin_median` have in common. -/
def forBatches (value : ElementBatch → SlateMemory → Option Nat) (slate : SlateMemory)
    (bin : ElementBin) : Option SlateMemory :=
  (bin.rounds c.stride).bind fun rounds => rounds.foldlM (storeRound rt value) slate

/-- The value that `bin_copy` stores. -/
def copyValue (src : Nat) (batch : ElementBatch) (slate : SlateMemory) : Option Nat :=
  rt.loadAt batch slate src

/-- The value that `bin_max` stores. -/
def maxValue (src1 src2 : Nat) (batch : ElementBatch) (slate : SlateMemory) : Option Nat := do
  let val1 ← rt.loadAt batch slate src1
  let val2 ← rt.loadAt batch slate src2
  some (batch.type.max val1 val2)

/-- The value that `bin_median` stores. -/
def medianValue (o : CombinerOutside B D) (batch : ElementBatch) (slate : SlateMemory) :
    Option Nat := do
  let val1 ← rt.loadAt batch slate 1
  let val2 ← rt.loadAt batch slate 2
  let val3 ← rt.loadAt batch slate 3
  some (o.median3 batch.type val1 val2 val3)

/-- `bin_copy`. -/
def binCopy (src : Nat) (slate : SlateMemory) (bin : ElementBin) : Option SlateMemory :=
  c.forBatches rt (copyValue rt src) slate bin

/-- `bin_max`. -/
def binMax (src1 src2 : Nat) (slate : SlateMemory) (bin : ElementBin) : Option SlateMemory :=
  c.forBatches rt (maxValue rt src1 src2) slate bin

/-- `bin_median`. -/
def binMedian (o : CombinerOutside B D) (slate : SlateMemory) (bin : ElementBin) :
    Option SlateMemory :=
  if c.numSources ≠ 3 then none else c.forBatches rt (medianValue rt o) slate bin

/-- The indices that are left in downselect mode. -/
def downselected (slate : SlateMemory) : List Nat → Option (List Nat)
  | [a] => some [a]
  | [a, _] => some [a]
  | [_, _, _] => do
      -- the first of three sources, unless the second and the third agree
      let equal ← c.bins.foldlM (c.binEq rt 2 3 slate) true
      some [if equal then 2 else 1]
  | indices => some indices

/-- The indices of the sources that are used. -/
def usedIndices (slate : SlateMemory) (indices : List Nat) : Option (List Nat) :=
  if c.downselect then c.downselected rt slate indices else some indices

/-- Stores the outputs. -/
def storeOutputs (o : CombinerOutside B D) (slate : SlateMemory) :
    List Nat → Option SlateMemory
  | [src] => c.bins.foldlM (c.binCopy rt src) slate
  | [src1, src2] => c.bins.foldlM (c.binMax rt src1 src2) slate
  | [_, _, _] => c.bins.foldlM (c.binMedian rt o) slate
  | _ => some slate

/-- `validate_and_combine`. The indices of sources are counted from one. -/
def validateAndCombine (o : CombinerOutside B D) (accepted : Int) (slate : SlateMemory) :
    Option SlateMemory := do
  if c.isInit = false ∨ numSourcesMax < c.sources.length then none
  else
    let (slate, connected) := c.updateSources rt o accepted slate
    let indices ← c.usedIndices rt slate (connected.map (· + 1))
    c.storeOutputs rt o slate indices

/-- `combine`. -/
def combine (o : CombinerOutside B D) (slate : SlateMemory) : Option SlateMemory :=
  c.validateAndCombine rt o o.sharerInvalidSequenceNumber slate

end SlateCombiner

/-! ## A slate of eight-byte elements

Used below where a statement needs a concrete combiner. -/

namespace Sample

/-- A slate that is being built: its elements with their initial values, by path. -/
abbrev Directory := List (String × SlateType × Nat)

instance : DecidableEq (SlateCombiner × Directory) := instDecidableEqProd

/-- Elements that are zero at first. -/
def directory (elements : List (String × SlateType)) : Directory :=
  elements.map fun element => (element.1, element.2, 0)

/-- Creates an element, which has eight bytes of its own in the sync shard. -/
def createIn (d : Directory) (builder path : String) (type : SlateType) (initialValue : Nat) :
    Option Nat × Directory :=
  let full := builder ++ "." ++ path
  if d.any fun element => element.1 = full then (none, d)
  else (some (16 * d.length), d ++ [(full, type, initialValue)])

/-- The id of an element. -/
def findIn (d : Directory) (builder path : String) (type : SlateType) : Option Nat :=
  (d.findIdx? fun element => element.1 = builder ++ "." ++ path ∧ element.2.1 = type).map (16 * ·)

/-- A builder is the path of its root. -/
def combinerOutside : CombinerOutside String Directory where
  sharerIgnoreElementName := "-"
  sharerInvalidSequenceNumber := -1
  createElement d builder path type initialValue _ := createIn d builder path type initialValue
  create d builder path type initialValue _ := createIn d builder path type initialValue
  bindRead d builder path type := (findIn d builder path type, d)
  bindWrite d builder path type := (findIn d builder path type, d)
  getElementId := findIn
  hasEnumRegistry _ _ := false
  getElementEnum _ _ _ := none
  registerEnum d _ _ _ := (false, d)
  isPeer _ _ := true
  subSlate builder path := some (builder ++ "." ++ path)
  initial d :=
    d.zipIdx.foldl
      (fun slate entry => runtime.write ⟨16 * entry.2, entry.1.2.1⟩ entry.1.2.2 slate) zeros
  median3 type x y z :=
    match type.place x, type.place y, type.place z with
    | some a, some b, some c =>
        if median a b c = a then x else if median a b c = b then y else z
    | _, _, _ => x

/-- A combiner of some sources into a slate. -/
def combinerArgs (sources : List String) (builderOut : String) (downselect : Bool)
    (lines : List (List String)) : CombinerArgs String where
  fresh := "count"
  buildersIn := sources.map fun source => ⟨source, source⟩
  builderOut
  configList := [⟨"", some lines⟩]
  bindOutputs := false
  combinerName := "combiner"
  access := .slateReadOnly
  downselect
  bindMetrics := false
  staleThreshold := 1

end Sample

end Codon.Slate
