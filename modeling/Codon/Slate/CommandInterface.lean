import Codon.Library.Bytes
import Codon.Library.Journal
import Codon.Slate.Layout
import Codon.Slate.Values

/-!
# Setting slate elements by command

`SlateCommandInterface` and what it uses of `Slate`: elements are looked up by the hash of
their name and set or read as an `INT64` or a `double`, one at a time or in a batch. The
slate is its bytes, so that elements may share memory. The checks that `FswDebugAssert`
makes are compiled out.

Not in the source tree are `slate_id_breakdown` and the validators. `Runtime` holds what is
used of them: the parts of an id, and whether the validator of an element accepts a value
over the current one. A value that is accepted replaces the current one, and one that is
not changes nothing, as `Slate::store` documents.
-/

namespace Codon.Slate

open Codon.Library

/-- The memory of the slate: the bytes of each shard. -/
abbrev SlateMemory := Shard × Nat → UInt8

/-- What `slate_id_breakdown` reads off an id. -/
structure IdParts where
  mayWrite : Bool
  hasValidator : Bool
  shard : Shard
  offset : Nat

/-- The target, and what the interface uses of code that is not in the source tree. -/
structure Runtime where
  ulongIs64 : Bool
  breakdown : Nat → IdParts
  accepts : (elementId newBits bits : Nat) → Bool

/-- `SlateCommandInterface::element_t`. -/
structure Element where
  id : Nat
  type : SlateType
deriving DecidableEq

/-- `multi_command_type_t`, which need not be one of its enumerators. -/
inductive MultiCommandType where
  | int
  | dbl
  | other (value : Nat)

/-- `multi_command_t`. The value is a union of an `INT64` and a `double`. -/
structure MultiCommand where
  type : MultiCommandType
  hash : Nat
  value : BitVec 64

/-- `SlateCommandInterface`, without the slate. -/
structure CommandInterface where
  elements : List (Nat × Element)
  isInit : Bool

/-- What a setter answers, and the slate that it leaves. -/
structure Answer where
  returned : Bool
  success : Bool
  slate : SlateMemory

/-- The bytes that setting a value changes. -/
def valueChange (shard : Shard) (offset size bits : Nat) : Shard × Nat → Option UInt8 := fun a =>
  if a.1 = shard ∧ offset ≤ a.2 ∧ a.2 < offset + size then some (toByte bits (a.2 - offset))
  else none

namespace Runtime

variable (rt : Runtime)

/-- The size of an element. -/
def size (elem : Element) : Nat := elem.type.size rt.ulongIs64

/-- The bytes that storing a value in an element changes. -/
def change (elem : Element) (bits : Nat) : Shard × Nat → Option UInt8 :=
  valueChange (rt.breakdown elem.id).shard (rt.breakdown elem.id).offset (rt.size elem) bits

/-- `Slate::load`. -/
def load (elem : Element) (slate : SlateMemory) : Nat :=
  fromBytes (fun i => slate ((rt.breakdown elem.id).shard, (rt.breakdown elem.id).offset + i))
    (rt.size elem)

/-- `Slate::store`. -/
def store (elem : Element) (bits : Nat) (slate : SlateMemory) : Option SlateMemory :=
  if !(rt.breakdown elem.id).mayWrite then none
  else if !(rt.breakdown elem.id).hasValidator then some (overwrite (rt.change elem bits) slate)
  else if rt.accepts elem.id bits (rt.load elem slate) then
    some (overwrite (rt.change elem bits) slate)
  else none

/-- `set` of an element from an `INT64`. -/
def setInt (elem : Element) (value : Int) (slate : SlateMemory) : Option SlateMemory :=
  (encodeInt rt.ulongIs64 elem.type value).bind fun bits => rt.store elem bits slate

/-- `set` of an element from a `double`. -/
def setDouble (elem : Element) (value : Nat) (slate : SlateMemory) : Option SlateMemory :=
  (encodeDouble elem.type value).bind fun bits => rt.store elem bits slate

/-- `get` of an element as an `INT64`. -/
def getInt (elem : Element) (slate : SlateMemory) : Option Int :=
  decodeInt rt.ulongIs64 elem.type (rt.load elem slate)

/-- `get` of an element as a `double`. -/
def getDouble (elem : Element) (slate : SlateMemory) : Option Nat :=
  decodeDouble elem.type (rt.load elem slate)

/-- The `set` that the type of a command selects. -/
def set (type : MultiCommandType) (elem : Element) (value : BitVec 64) (slate : SlateMemory) :
    Option SlateMemory :=
  match type with
  | .int => rt.setInt elem value.toInt slate
  | .dbl => rt.setDouble elem value.toNat slate
  | .other _ => none

/-- The `get` that the type of a command selects. -/
def get (type : MultiCommandType) (elem : Element) (slate : SlateMemory) : Option (BitVec 64) :=
  match type with
  | .int => (rt.getInt elem slate).map fun value => BitVec.ofInt 64 value
  | .dbl => (rt.getDouble elem slate).map fun value => BitVec.ofNat 64 value
  | .other _ => none

end Runtime

namespace CommandInterface

variable (iface : CommandInterface) (rt : Runtime)

/-- `lookup` by hash. -/
def lookup (hash : Nat) : Option Element := iface.elements.lookup hash

/-- `validate_element`: elements of the static shard may not be commanded. -/
def validateElement (elem : Element) : Bool := (rt.breakdown elem.id).shard ≠ .static

/-- The template `set`, which looks an element up and sets it. -/
def setElement (hash : Nat) (set : Element → SlateMemory → Option SlateMemory)
    (slate : SlateMemory) : Answer :=
  if !iface.isInit then ⟨false, false, slate⟩
  else
    match iface.lookup hash with
    | none => ⟨true, false, slate⟩
    | some elem =>
        if !validateElement rt elem then ⟨true, false, slate⟩
        else
          match set elem slate with
          | none => ⟨true, false, slate⟩
          | some slate => ⟨true, true, slate⟩

/-- `set_int_by_hash`. -/
def setIntByHash (hash : Nat) (value : Int) (slate : SlateMemory) : Answer :=
  iface.setElement rt hash (fun elem => rt.setInt elem value) slate

/-- `set_fp_by_hash`. -/
def setFpByHash (hash : Nat) (value : Nat) (slate : SlateMemory) : Answer :=
  iface.setElement rt hash (fun elem => rt.setDouble elem value) slate

/-- The single setter that the type of a command selects. -/
def setByHash (c : MultiCommand) (slate : SlateMemory) : Answer :=
  match c.type with
  | .int => iface.setIntByHash rt c.hash c.value.toInt slate
  | .dbl => iface.setFpByHash rt c.hash c.value.toNat slate
  | .other _ => ⟨false, false, slate⟩

/-- One round of the loop of `set_multi_by_hash`: the command, with the value that its element had,
and the slate if the element was set. -/
def attempt (c : MultiCommand) (slate : SlateMemory) : MultiCommand × Option SlateMemory :=
  match iface.lookup c.hash with
  | none => (c, none)
  | some elem =>
      match rt.get c.type elem slate with
      | none => (c, none)
      | some old => ({ c with value := old }, rt.set c.type elem c.value slate)

/-- The loop of `set_multi_by_hash`: the commands before the first that fails, the others, and the
slate. -/
def forward : List MultiCommand → SlateMemory → List MultiCommand × List MultiCommand × SlateMemory
  | [], slate => ([], [], slate)
  | c :: cmds, slate =>
      match iface.attempt rt c slate with
      | (c, none) => ([], c :: cmds, slate)
      | (c, some slate) =>
          match forward cmds slate with
          | (done, rest, slate) => (c :: done, rest, slate)

/-- Sets the elements of the commands back, from the first to the last. -/
def rollback : List MultiCommand → SlateMemory → Bool × SlateMemory
  | [], slate => (true, slate)
  | c :: done, slate =>
      let answer := iface.setByHash rt c slate
      let (successful, slate) := rollback done answer.slate
      (answer.success && answer.returned && successful, slate)

/-- `set_multi_by_hash`, and the commands that it leaves. -/
def setMultiByHash (cmds : List MultiCommand) (slate : SlateMemory) : Answer × List MultiCommand :=
  match iface.forward rt cmds slate with
  | (done, [], slate) => (⟨true, true, slate⟩, done)
  | (done, rest, slate) =>
      let (successful, slate) := iface.rollback rt done slate
      (⟨successful, false, slate⟩, done ++ rest)

end CommandInterface

/-! ## An interface to three integers

Used below where a statement needs concrete commands. -/

namespace Sample

/-- Ids are twice the offset in the sync shard, and one more in the static shard. There are no
validators. -/
def runtime : Runtime where
  ulongIs64 := true
  breakdown id :=
    { mayWrite := true
      hasValidator := false
      shard := if id % 2 = 0 then .sync else .static
      offset := id / 2 }
  accepts _ _ _ := true

/-- Three integers, the last of which is in the static shard. -/
def interface : CommandInterface where
  elements := [(1, ⟨0, .int32⟩), (2, ⟨8, .int32⟩), (3, ⟨17, .int32⟩)]
  isInit := true

/-- A slate of zeros. -/
def zeros : SlateMemory := fun _ => 0

end Sample

end Codon.Slate
