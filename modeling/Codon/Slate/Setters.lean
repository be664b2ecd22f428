import Codon.Slate.CommandInterface

/-!
# What setting an element takes

`Accepted` is what the two paths have in common: the batch sets an element exactly if its
command is accepted (`attempt_eq_some_iff`), and the single setters also require that the
interface is initialised and that the element is not in the static shard
(`set_by_hash_of_accepted`, `set_by_hash_of_refused`). What the batch records of an accepted
command stores the old bits again, if that can be done at all (`encode_get`).
-/

namespace Codon.Slate

open Codon.Library

namespace Runtime

variable {rt : Runtime} {elem : Element} {slate slate' : SlateMemory} {bits : Nat}

/-- The bits that a value of a command is stored as. -/
def encode (rt : Runtime) (type : MultiCommandType) (elem : Element) (value : BitVec 64) :
    Option Nat :=
  match type with
  | .int => encodeInt rt.ulongIs64 elem.type value.toInt
  | .dbl => encodeDouble elem.type value.toNat
  | .other _ => none

/-- Whether an element takes the bits: it can be written, and its validator accepts them. -/
def Takes (rt : Runtime) (elem : Element) (bits : Nat) (slate : SlateMemory) : Prop :=
  (rt.breakdown elem.id).mayWrite ∧
    ((rt.breakdown elem.id).hasValidator → rt.accepts elem.id bits (rt.load elem slate))

instance : Decidable (rt.Takes elem bits slate) := inferInstanceAs (Decidable (_ ∧ _))

/-- A store writes the bits that the element takes. -/
theorem store_eq (rt : Runtime) (elem : Element) (bits : Nat) (slate : SlateMemory) :
    rt.store elem bits slate =
      if rt.Takes elem bits slate then some (overwrite (rt.change elem bits) slate) else none := by
  unfold store
  by_cases hwrite : (rt.breakdown elem.id).mayWrite = true
  · by_cases hvalidator : (rt.breakdown elem.id).hasValidator = true
    · simp [Takes, hwrite, hvalidator]
    · simp [Takes, hwrite, hvalidator]
  · simp [Takes, hwrite]

/-- Setting a value encodes and stores it. -/
theorem set_eq (rt : Runtime) (type : MultiCommandType) (elem : Element) (value : BitVec 64)
    (slate : SlateMemory) :
    rt.set type elem value slate =
      (rt.encode type elem value).bind fun bits => rt.store elem bits slate := by
  cases type <;> rfl

/-- What is loaded fits the element. -/
theorem load_lt (rt : Runtime) (elem : Element) (slate : SlateMemory) :
    rt.load elem slate < 256 ^ rt.size elem :=
  from_bytes_lt _ _

/-- The bytes that are changed are those of the element. -/
theorem change_is_some_iff {a : Shard × Nat} :
    (rt.change elem bits a).isSome ↔ a.1 = (rt.breakdown elem.id).shard ∧
      (rt.breakdown elem.id).offset ≤ a.2 ∧ a.2 < (rt.breakdown elem.id).offset + rt.size elem := by
  unfold change valueChange
  split_ifs with hin
  · exact iff_of_true rfl hin
  · exact iff_of_false (by simp) hin

/-- Which bytes are changed does not depend on the bits. -/
theorem change_is_some (rt : Runtime) (elem : Element) (bits bits' : Nat) (a : Shard × Nat) :
    (rt.change elem bits a).isSome = (rt.change elem bits' a).isSome := by
  rw [Bool.eq_iff_iff, change_is_some_iff, change_is_some_iff]

/-- Storing bits that were read changes back to the bytes that were read. -/
theorem change_load (rt : Runtime) (elem : Element) (before slate : SlateMemory) :
    overwrite (rt.change elem (rt.load elem before)) slate =
      fun a => if (rt.change elem (rt.load elem before) a).isSome then before a else slate a := by
  funext a
  unfold overwrite change valueChange load
  split_ifs with hin hsome hsome
  · obtain ⟨hshard, hlow, hhigh⟩ := hin
    rw [Option.getD_some, to_byte_from_bytes _ (by omega), ← hshard, Nat.add_sub_cancel' hlow]
  · exact absurd rfl hsome
  · cases hsome
  · rfl

/-- The bits that an element has after a store change its bytes in the same way. -/
theorem change_load_overwrite (rt : Runtime) (elem : Element) (bits : Nat) (slate : SlateMemory) :
    overwrite (rt.change elem (rt.load elem (overwrite (rt.change elem bits) slate))) slate =
      overwrite (rt.change elem bits) slate := by
  rw [change_load]
  funext a
  split
  next => rfl
  next hnone =>
    rw [change_is_some rt elem _ bits a, Option.not_isSome_iff_eq_none] at hnone
    rw [overwrite, hnone, Option.getD_none]

/-- An element keeps its bits when bytes of others change. -/
theorem load_overwrite {elem' : Element} (bits' : Nat)
    (h : ∀ a, ¬((rt.change elem bits a).isSome ∧ (rt.change elem' bits' a).isSome)) :
    rt.load elem' (overwrite (rt.change elem bits) slate) = rt.load elem' slate := by
  refine from_bytes_congr fun i hi => ?_
  have htouched : (rt.change elem' bits'
      ((rt.breakdown elem'.id).shard, (rt.breakdown elem'.id).offset + i)).isSome :=
    change_is_some_iff.2 ⟨rfl, Nat.le_add_right _ _, Nat.add_lt_add_left hi _⟩
  have hnone : rt.change elem bits
      ((rt.breakdown elem'.id).shard, (rt.breakdown elem'.id).offset + i) = none :=
    Option.not_isSome_iff_eq_none.1 fun hsome => h _ ⟨hsome, htouched⟩
  rw [overwrite, hnone, Option.getD_none]

/-- An element reads as what was stored in it, reduced to its size. -/
theorem load_overwrite_self (rt : Runtime) (elem : Element) (bits : Nat) (slate : SlateMemory) :
    rt.load elem (overwrite (rt.change elem bits) slate) = bits % 256 ^ rt.size elem := by
  rw [← from_bytes_to_byte]
  refine from_bytes_congr fun i hi => ?_
  have hin : rt.change elem bits
      ((rt.breakdown elem.id).shard, (rt.breakdown elem.id).offset + i) = some (toByte bits i) := by
    rw [change, valueChange, if_pos ⟨rfl, Nat.le_add_right _ _, Nat.add_lt_add_left hi _⟩,
      Nat.add_sub_cancel_left]
  rw [overwrite, hin, Option.getD_some]

/-- What is set can be read. -/
theorem get_of_encode {type : MultiCommandType} {value : BitVec 64}
    (h : rt.encode type elem value = some bits) (slate : SlateMemory) :
    ∃ old, rt.get type elem slate = some old := by
  cases type with
  | int =>
      unfold get getInt
      cases htype : elem.type <;> simp [encode, encodeInt, htype] at h <;>
        simp [decodeInt]
  | dbl =>
      unfold get getDouble
      cases htype : elem.type <;> simp [encode, encodeDouble, htype] at h <;>
        simp [decodeDouble]
  | other => cases h

/-- A value that was read is stored as the bits that it was read from, if it can be stored. -/
theorem encode_get {type : MultiCommandType} {old : BitVec 64}
    (h : rt.get type elem slate = some old) :
    rt.encode type elem old =
      if restorable elem.type (rt.load elem slate) then some (rt.load elem slate) else none := by
  cases type with
  | int =>
      obtain ⟨value, hvalue, rfl⟩ := Option.map_eq_some_iff.1 h
      obtain ⟨hlow, hhigh⟩ := decode_int_range (rt.load_lt elem slate) hvalue
      have hint : (BitVec.ofInt 64 value).toInt = value := by
        rw [BitVec.toInt_ofInt, Int.bmod_eq_of_le (by omega) (by omega)]
      rw [encode, hint]
      exact encode_decode_int (rt.load_lt elem slate) hvalue
  | dbl =>
      obtain ⟨value, hvalue, rfl⟩ := Option.map_eq_some_iff.1 h
      have hnat : (BitVec.ofNat 64 value).toNat = value := by
        rw [BitVec.toNat_ofNat, Nat.mod_eq_of_lt (decode_double_lt (rt.load_lt elem slate) hvalue)]
      rw [encode, hnat]
      exact encode_decode_double hvalue
  | other => cases h

end Runtime

namespace CommandInterface

variable {iface : CommandInterface} {rt : Runtime} {c c' : MultiCommand} {elem : Element}
  {slate slate' : SlateMemory} {bits : Nat}

/-- A command is accepted: it stores these bits in this element. -/
structure Accepted (iface : CommandInterface) (rt : Runtime) (c : MultiCommand)
    (slate : SlateMemory) (elem : Element) (bits : Nat) : Prop where
  found : iface.lookup c.hash = some elem
  encoded : rt.encode c.type elem c.value = some bits
  takes : rt.Takes elem bits slate

/-- The command as a batch records it: with the value that its element has. -/
def Recorded (rt : Runtime) (c : MultiCommand) (slate : SlateMemory) (elem : Element)
    (c' : MultiCommand) : Prop :=
  c'.type = c.type ∧ c'.hash = c.hash ∧ rt.get c.type elem slate = some c'.value

/-- A batch sets an element exactly if the command is accepted. -/
theorem attempt_eq_some_iff :
    (iface.attempt rt c slate).2 = some slate' ↔
      ∃ elem bits, iface.Accepted rt c slate elem bits ∧
        slate' = overwrite (rt.change elem bits) slate := by
  unfold attempt
  constructor
  · intro h
    cases hfound : iface.lookup c.hash with
    | none => simp [hfound] at h
    | some elem =>
        cases hget : rt.get c.type elem slate with
        | none => simp [hfound, hget] at h
        | some old =>
            simp only [hfound, hget, Runtime.set_eq, Option.bind_eq_some_iff, Runtime.store_eq] at h
            obtain ⟨bits, hencoded, hstore⟩ := h
            split at hstore
            next htakes =>
              exact ⟨elem, bits, ⟨hfound, hencoded, htakes⟩, by simpa using hstore.symm⟩
            next => cases hstore
  · rintro ⟨elem, bits, ⟨hfound, hencoded, htakes⟩, rfl⟩
    obtain ⟨old, hget⟩ := Runtime.get_of_encode hencoded slate
    simp only [hfound, hget, Runtime.set_eq, hencoded, Option.bind_some, Runtime.store_eq,
      if_pos htakes]

/-- What a batch records of an accepted command. -/
theorem attempt_recorded (h : iface.Accepted rt c slate elem bits) :
    Recorded rt c slate elem (iface.attempt rt c slate).1 := by
  obtain ⟨old, hget⟩ := Runtime.get_of_encode h.encoded slate
  unfold attempt
  simp only [h.found, hget]
  exact ⟨rfl, rfl, hget⟩

/-- What a single setter requires of a command beyond its being accepted. -/
def Commandable (iface : CommandInterface) (rt : Runtime) (elem : Element) : Prop :=
  iface.isInit ∧ (rt.breakdown elem.id).shard ≠ .static

instance : Decidable (iface.Commandable rt elem) := inferInstanceAs (Decidable (_ ∧ _))

/-- A single setter sets what is accepted and may be commanded. -/
theorem set_by_hash_of_accepted (h : iface.Accepted rt c slate elem bits)
    (hcommandable : iface.Commandable rt elem) :
    iface.setByHash rt c slate = ⟨true, true, overwrite (rt.change elem bits) slate⟩ := by
  obtain ⟨hinit, hshard⟩ := hcommandable
  have hvalid : validateElement rt elem = true := decide_eq_true hshard
  have hset : rt.set c.type elem c.value slate = some (overwrite (rt.change elem bits) slate) := by
    rw [Runtime.set_eq, h.encoded, Option.bind_some, Runtime.store_eq, if_pos h.takes]
  cases htype : c.type with
  | int =>
      rw [htype] at hset
      simp only [setByHash, htype, setIntByHash, setElement, hinit, h.found, hvalid]
      rw [show rt.setInt elem c.value.toInt slate = _ from hset]
      rfl
  | dbl =>
      rw [htype] at hset
      simp only [setByHash, htype, setFpByHash, setElement, hinit, h.found, hvalid]
      rw [show rt.setDouble elem c.value.toNat slate = _ from hset]
      rfl
  | other value =>
      rw [htype] at hset
      cases hset

/-- The template `set` answers without success exactly when it leaves the slate alone. -/
theorem set_element_cases (iface : CommandInterface) (rt : Runtime) (hash : Nat)
    (set : Element → SlateMemory → Option SlateMemory) (slate : SlateMemory) :
    ((iface.setElement rt hash set slate).success = false ∧
        (iface.setElement rt hash set slate).slate = slate) ∨
      ∃ elem slate', iface.lookup hash = some elem ∧ iface.Commandable rt elem ∧
        set elem slate = some slate' := by
  unfold setElement
  by_cases hinit : iface.isInit = true
  swap
  · exact .inl (by simp [hinit])
  cases hfound : iface.lookup hash with
  | none => exact .inl (by simp [hinit])
  | some elem =>
      by_cases hshard : (rt.breakdown elem.id).shard = .static
      · exact .inl (by simp [hinit, validateElement, hshard])
      cases hset : set elem slate with
      | none => exact .inl (by simp [hinit, validateElement, hshard, hset])
      | some slate' => exact .inr ⟨elem, slate', rfl, ⟨hinit, hshard⟩, hset⟩

/-- A single setter refuses everything else and changes nothing then. -/
theorem set_by_hash_of_refused
    (h : ∀ elem bits, iface.Accepted rt c slate elem bits → ¬iface.Commandable rt elem) :
    (iface.setByHash rt c slate).success = false ∧ (iface.setByHash rt c slate).slate = slate := by
  have hset (type : MultiCommandType) (htype : c.type = type) (set : Element → SlateMemory →
      Option SlateMemory) (heq : ∀ elem, set elem slate = rt.set type elem c.value slate) :
      (iface.setElement rt c.hash set slate).success = false ∧
        (iface.setElement rt c.hash set slate).slate = slate := by
    refine (set_element_cases iface rt c.hash set slate).resolve_right ?_
    rintro ⟨elem, slate', hfound, hcommandable, hsome⟩
    rw [heq, Runtime.set_eq, Option.bind_eq_some_iff] at hsome
    obtain ⟨bits, hencoded, hstore⟩ := hsome
    rw [Runtime.store_eq] at hstore
    split at hstore
    next htakes => exact h elem bits ⟨hfound, htype ▸ hencoded, htakes⟩ hcommandable
    next => cases hstore
  unfold setByHash
  cases htype : c.type with
  | int => exact hset .int htype _ fun elem => rfl
  | dbl => exact hset .dbl htype _ fun elem => rfl
  | other value => exact ⟨rfl, rfl⟩

end CommandInterface

end Codon.Slate
