import Mathlib.Data.Nat.Init
import Mathlib.Data.Option.Basic
import Mathlib.Algebra.Group.Nat.Defs
import Mathlib.Algebra.Group.Int.Defs

/-!
# Vocabulary shared by every component

The time sentinels of `core/fswtime.h` and the hard assertion of `core/fsw.h`.

A model function that contains an `FswAssert` returns an `Option`: `none` is the
`std::abort()` of a failed assertion, after which the process is gone. The early
returns of `FswAbortIf` and its relatives are ordinary results of the function.
-/

namespace Codon

/-- `nano_t_min`, the "call me back immediately" sentinel. -/
def nanoTMin : Int := -(2 ^ 63)

/-- `nano_t_max`, the "never" sentinel. -/
def nanoTMax : Int := 2 ^ 63 - 1

/-- `FswAssert`: the process goes on only if the condition holds. -/
def fswAssert (cond : Prop) [Decidable cond] : Option Unit :=
  if cond then some () else none

@[simp] theorem fsw_assert_eq_some {cond : Prop} [Decidable cond] {u : Unit} :
    fswAssert cond = some u ↔ cond := by
  simp [fswAssert]

/-- An assertion that holds passes. -/
theorem fsw_assert_of {cond : Prop} [Decidable cond] (h : cond) :
    fswAssert cond = some () := by
  simp [h]

end Codon
