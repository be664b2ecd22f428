import Codon.Slate.Setters

/-!
# Setting an integer and getting it again

`set_int_spec`: the command interface sets an integer element to the values in the range of its type
that its validator accepts, reads the value that it has set, and leaves the other elements alone.
-/

namespace Codon.Slate

open Codon.Library

/-- The types that an `INT64` can be stored in. -/
def SlateType.isInteger : SlateType → Bool
  | .float | .double | .other _ => false
  | _ => true

def SlateType.isSigned : SlateType → Bool
  | .int8 | .int16 | .int32 | .int64 => true
  | _ => false

/-- The values of an integer type. Those of an unsigned type of 32 bits include the negative ones of
the signed type, and those of a type of 64 bits are all. -/
def SlateType.InRange (ulongIs64 : Bool) (type : SlateType) (value : Int) : Prop :=
  if type = .bool then value = 0 ∨ value = 1
  else if type.size ulongIs64 = 8 then True
  else if type.isSigned then
    -2 ^ (8 * type.size ulongIs64 - 1) ≤ value ∧ value < 2 ^ (8 * type.size ulongIs64 - 1)
  else
    (if type.size ulongIs64 = 4 then -2 ^ 31 else 0) ≤ value ∧
      value < 2 ^ (8 * type.size ulongIs64)

/-- What is read of a value: a negative one in an unsigned type of 32 bits is another. -/
def SlateType.readBack (ulongIs64 : Bool) (type : SlateType) (value : Int) : Int :=
  if type.isSigned = false ∧ type.size ulongIs64 = 4 ∧ value < 0 then value + 2 ^ 32 else value

instance (ulongIs64 : Bool) (type : SlateType) (value : Int) :
    Decidable (type.InRange ulongIs64 value) := by
  unfold SlateType.InRange
  infer_instance

namespace Runtime

/-- Whether `set` of an element from an `INT64` succeeds, and the slate that it leaves. -/
def setIntLeaves (rt : Runtime) (elem : Element) (value : Int) (slate : SlateMemory) :
    Bool × SlateMemory :=
  match rt.setInt elem value slate with
  | none => (false, slate)
  | some slate' => (true, slate')

/-- A byte of the slate belongs to an element. -/
def Covers (rt : Runtime) (elem : Element) (a : Shard × Nat) : Prop :=
  a.1 = (rt.breakdown elem.id).shard ∧ (rt.breakdown elem.id).offset ≤ a.2 ∧
    a.2 < (rt.breakdown elem.id).offset + rt.size elem

/-- What setting an integer element does. -/
structure SetsInt (rt : Runtime) (elem : Element) (value : Int) (slate : SlateMemory) : Prop where
  /-- It succeeds for the values in the range that the validator, if there is one, accepts. -/
  succeeds : (rt.setIntLeaves elem value slate).1 = true ↔
    elem.type.InRange rt.ulongIs64 value ∧
      ((rt.breakdown elem.id).hasValidator = true →
        rt.accepts elem.id (wrapInt (rt.size elem) value) (rt.load elem slate) = true)
  reads : (rt.setIntLeaves elem value slate).1 = true →
    rt.getInt elem (rt.setIntLeaves elem value slate).2 =
      some (elem.type.readBack rt.ulongIs64 value)
  rejected : (rt.setIntLeaves elem value slate).1 = false →
    (rt.setIntLeaves elem value slate).2 = slate
  /-- What belongs to other elements is the same. -/
  apart : ∀ elem', (∀ a, rt.Covers elem a → ¬ rt.Covers elem' a) →
    rt.load elem' (rt.setIntLeaves elem value slate).2 = rt.load elem' slate

end Runtime

variable {ulongIs64 : Bool} {type : SlateType} {value : Int}

/-! ## Values -/

/-- Wrapping takes the remainder. -/
theorem wrap_int_cast (size : Nat) (value : Int) :
    (wrapInt size value : Int) = value % 256 ^ size := by
  have hpos : (0 : Int) < 256 ^ size := pow_pos (by decide) size
  rw [wrapInt, Int.toNat_of_nonneg (Int.emod_nonneg _ hpos.ne')]

/-- What is wrapped fits its bytes. -/
theorem wrap_int_lt (size : Nat) (value : Int) : wrapInt size value < 256 ^ size := by
  have hlt : (wrapInt size value : Int) < 256 ^ size := by
    rw [wrap_int_cast]
    exact Int.emod_lt_of_pos _ (pow_pos (by decide) size)
  exact_mod_cast hlt

/-- A checked conversion wraps the values in range and refuses the others. -/
theorem bounded_int_eq {P : Prop} [Decidable P] {minValue maxValue : Int} (size : Nat)
    (h : P ↔ minValue ≤ value ∧ value ≤ maxValue) :
    boundedInt minValue maxValue size value = if P then some (wrapInt size value) else none := by
  rw [boundedInt]
  by_cases hP : P
  · have hbounds := h.1 hP
    rw [if_pos hP, if_neg (by omega)]
  · have hbounds := mt h.2 hP
    rw [if_neg hP, if_pos (by omega)]

/-- A type takes exactly the values in its range. -/
theorem encode_int_eq (htype : type.isInteger = true) (value : Int) :
    encodeInt ulongIs64 type value =
      if type.InRange ulongIs64 value then some (wrapInt (type.size ulongIs64) value)
      else none := by
  cases type with
  | bool => exact bounded_int_eq 1 (by simp only [SlateType.InRange, if_pos]; omega)
  | int8 | uint8 =>
      refine bounded_int_eq 1 ?_
      simp [SlateType.InRange, SlateType.size, SlateType.isSigned]
      omega
  | int16 | uint16 =>
      refine bounded_int_eq 2 ?_
      simp [SlateType.InRange, SlateType.size, SlateType.isSigned]
      omega
  | int32 | uint32 =>
      refine bounded_int_eq 4 ?_
      simp [SlateType.InRange, SlateType.size, SlateType.isSigned]
      omega
  | int64 | uint64 => simp [encodeInt, SlateType.InRange, SlateType.size]
  | ulong =>
      cases ulongIs64 with
      | true => simp [encodeInt, SlateType.InRange, SlateType.size]
      | false =>
          refine bounded_int_eq 4 ?_
          simp [SlateType.InRange, SlateType.size, SlateType.isSigned]
          omega
  | float | double | other => cases htype

/-- The bits of a value of a signed type are read as the value. -/
theorem signed_wrap_int {size : Nat} (hsize : 0 < size) (hlow : -2 ^ (8 * size - 1) ≤ value)
    (hhigh : value < 2 ^ (8 * size - 1)) : signedInt size (wrapInt size value) = value := by
  have hpower : 256 ^ size = 2 * 2 ^ (8 * size - 1) := by
    rw [show 256 = 2 ^ 8 by decide, ← Nat.pow_mul, ← Nat.pow_succ']
    congr 1
    omega
  have hcast : ((256 ^ size : Nat) : Int) = 2 * 2 ^ (8 * size - 1) := by exact_mod_cast hpower
  rw [signedInt, wrap_int_cast]
  have hmod : value % 256 ^ size = value % ((256 ^ size : Nat) : Int) := by push_cast; rfl
  rw [hmod, Int.emod_bmod]
  refine Int.bmod_eq_of_le ?_ ?_ <;> rw [hcast] <;> omega

/-- Those of a value of an unsigned type are the value. -/
theorem unsigned_wrap_int {size : Nat} (hlow : 0 ≤ value) (hhigh : value < 256 ^ size) :
    (wrapInt size value : Int) = value := by
  rw [wrap_int_cast, Int.emod_eq_of_lt hlow hhigh]

/-- Those of a negative value of an unsigned type of 32 bits are another value. -/
theorem unsigned_wrap_int_four (hlow : -2 ^ 31 ≤ value) (hhigh : value < 2 ^ 32) :
    (wrapInt 4 value : Int) = if value < 0 then value + 2 ^ 32 else value := by
  rw [wrap_int_cast]
  split_ifs <;> omega

/-- The bits of a value in the range are read as the value, but for a negative one in an unsigned
type of 32 bits. -/
theorem decode_wrap_int (htype : type.isInteger = true) (hrange : type.InRange ulongIs64 value)
    (hlow : -2 ^ 63 ≤ value) (hhigh : value < 2 ^ 63) :
    decodeInt ulongIs64 type (wrapInt (type.size ulongIs64) value) =
      some (type.readBack ulongIs64 value) := by
  have hfour : (if value < 0 then value + 2 ^ 32 else value) =
      SlateType.readBack false .uint32 value := by
    simp [SlateType.readBack, SlateType.isSigned, SlateType.size]
  have height : signedInt 8 (wrapInt 8 value) = value := signed_wrap_int (by decide) hlow hhigh
  cases type with
  | bool =>
      have hbit : value = 0 ∨ value = 1 := hrange
      have hsame : (wrapInt 1 value : Int) = value := unsigned_wrap_int (by omega) (by omega)
      exact congrArg some hsame
  | uint8 =>
      simp [SlateType.InRange, SlateType.size, SlateType.isSigned] at hrange
      have hsame : (wrapInt 1 value : Int) = value := unsigned_wrap_int hrange.1 hrange.2
      exact congrArg some hsame
  | uint16 =>
      simp [SlateType.InRange, SlateType.size, SlateType.isSigned] at hrange
      have hsame : (wrapInt 2 value : Int) = value := unsigned_wrap_int hrange.1 hrange.2
      exact congrArg some hsame
  | int8 | int16 | int32 =>
      simp [SlateType.InRange, SlateType.size, SlateType.isSigned] at hrange
      exact congrArg some (signed_wrap_int (by decide) hrange.1 hrange.2)
  | int64 | uint64 => exact congrArg some height
  | uint32 =>
      simp [SlateType.InRange, SlateType.size, SlateType.isSigned] at hrange
      exact congrArg some ((unsigned_wrap_int_four hrange.1 hrange.2).trans hfour)
  | ulong =>
      cases ulongIs64 with
      | true => simpa [decodeInt, SlateType.size, SlateType.readBack] using height
      | false =>
          simp [SlateType.InRange, SlateType.size, SlateType.isSigned] at hrange
          exact congrArg some ((unsigned_wrap_int_four hrange.1 hrange.2).trans hfour)
  | float | double | other => cases htype

/-! ## Elements -/

namespace Runtime

variable {rt : Runtime} {elem : Element}

/-- The setter by hash answers what the setter of the element does. -/
theorem set_int_by_hash_eq {iface : CommandInterface} {hash : Nat} (hinit : iface.isInit = true)
    (hfound : iface.lookup hash = some elem)
    (hshard : CommandInterface.validateElement rt elem = true) (value : Int) (slate : SlateMemory) :
    iface.setIntByHash rt hash value slate =
      ⟨true, (rt.setIntLeaves elem value slate).1, (rt.setIntLeaves elem value slate).2⟩ := by
  simp only [CommandInterface.setIntByHash, CommandInterface.setElement, hinit, hfound, hshard,
    setIntLeaves]
  cases rt.setInt elem value slate <;> rfl

/-- What setting a writable integer element leaves. -/
theorem set_int_leaves_eq (htype : elem.type.isInteger = true)
    (hwrite : (rt.breakdown elem.id).mayWrite = true) (value : Int) (slate : SlateMemory) :
    rt.setIntLeaves elem value slate =
      if elem.type.InRange rt.ulongIs64 value ∧
          ((rt.breakdown elem.id).hasValidator = true →
            rt.accepts elem.id (wrapInt (rt.size elem) value) (rt.load elem slate) = true) then
        (true, overwrite (rt.change elem (wrapInt (rt.size elem) value)) slate)
      else (false, slate) := by
  have hencode : encodeInt rt.ulongIs64 elem.type value =
      if elem.type.InRange rt.ulongIs64 value then some (wrapInt (rt.size elem) value) else none :=
    encode_int_eq htype value
  rw [setIntLeaves, setInt, hencode]
  by_cases hrange : elem.type.InRange rt.ulongIs64 value
  · rw [if_pos hrange, Option.bind_some, store_eq]
    by_cases haccepts : (rt.breakdown elem.id).hasValidator = true →
        rt.accepts elem.id (wrapInt (rt.size elem) value) (rt.load elem slate) = true
    · have htakes : rt.Takes elem (wrapInt (rt.size elem) value) slate := ⟨hwrite, haccepts⟩
      rw [if_pos htakes, if_pos ⟨hrange, haccepts⟩]
    · have hrejects : ¬ rt.Takes elem (wrapInt (rt.size elem) value) slate := fun h =>
        haccepts h.2
      rw [if_neg hrejects, if_neg fun h => haccepts h.2]
  · rw [if_neg hrange, if_neg fun h => hrange h.1]
    rfl

/-- Setting a writable element of an integer type to any `INT64` succeeds exactly if the value is in
the range of the type and accepted by the validator; then the value is read again, otherwise nothing
changes, and the elements apart from this one are the same. -/
theorem set_int_spec (htype : elem.type.isInteger = true)
    (hwrite : (rt.breakdown elem.id).mayWrite = true) (value : BitVec 64) (slate : SlateMemory) :
    rt.SetsInt elem value.toInt slate := by
  have hleaves := set_int_leaves_eq htype hwrite value.toInt slate
  split_ifs at hleaves with haccepted
  · refine ⟨?_, fun _ => ?_, by simp [hleaves], fun elem' hapart => ?_⟩
    · rw [hleaves]
      exact iff_of_true rfl haccepted
    · rw [hleaves, getInt, load_overwrite_self, Nat.mod_eq_of_lt (wrap_int_lt _ _)]
      exact decode_wrap_int htype haccepted.1 value.le_toInt value.toInt_lt
    · rw [hleaves]
      refine load_overwrite 0 fun a ⟨hin, hin'⟩ => ?_
      exact hapart a (change_is_some_iff.1 hin) (change_is_some_iff.1 hin')
  · refine ⟨?_, by simp [hleaves], by simp [hleaves], fun elem' _ => ?_⟩
    · rw [hleaves]
      exact iff_of_false Bool.false_ne_true haccepted
    · rw [hleaves]

/-- A negative value in an unsigned element of 32 bits. -/
theorem set_int_negative :
    Sample.runtime.SetsInt ⟨0, .uint32⟩ (BitVec.ofInt 64 (-1)).toInt Sample.zeros ∧
      (Sample.runtime.setIntLeaves ⟨0, .uint32⟩ (BitVec.ofInt 64 (-1)).toInt Sample.zeros).1 =
        true ∧
      SlateType.readBack true .uint32 (BitVec.ofInt 64 (-1)).toInt = 2 ^ 32 - 1 :=
  ⟨set_int_spec rfl rfl _ _, by decide +kernel, by decide +kernel⟩

/-- A validator may reject values that are in the range of the type. -/
theorem validator_rejects :
    let rt : Runtime :=
      { Sample.runtime with
        breakdown := fun id => { Sample.runtime.breakdown id with hasValidator := true }
        accepts := fun _ newBits _ => decide (newBits < 4) }
    let elem : Element := ⟨0, .uint8⟩
    (rt.breakdown elem.id).mayWrite = true ∧ elem.type.InRange rt.ulongIs64 5 ∧
      (rt.setIntLeaves elem 5 Sample.zeros).1 = false := by
  decide +kernel

end Runtime

end Codon.Slate
