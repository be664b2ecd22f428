import Codon.Library.Tiling

/-!
# Flat memory

Memory as a byte at every address, and operations that write to one span of it and leave the
rest alone.
-/

namespace Codon.Library

/-- A byte at every address. -/
abbrev Memory := Nat → UInt8

variable {m : Memory} {s : Span} {bytes : Nat → UInt8} {a : Nat}

/-- Memory with the bytes of one span replaced. -/
def splice (m : Memory) (s : Span) (bytes : Nat → UInt8) : Memory :=
  fun a => if s.Contains a then bytes (a - s.start) else m a

/-- Inside the span a splice has the new bytes. -/
theorem splice_inside {i : Nat} (hi : i < s.size) : splice m s bytes (s.start + i) = bytes i := by
  have hin : s.Contains (s.start + i) := ⟨by omega, by omega⟩
  rw [splice, if_pos hin, Nat.add_sub_cancel_left]

/-- Outside it the memory is as it was. -/
theorem splice_outside (h : ¬s.Contains a) : splice m s bytes a = m a := if_neg h

def memcpy (m : Memory) (dst src n : Nat) : Memory := splice m ⟨dst, n⟩ fun i => m (src + i)

def memset (m : Memory) (dst : Nat) (value : UInt8) (n : Nat) : Memory :=
  splice m ⟨dst, n⟩ fun _ => value

/-- A write of one byte. -/
def store (m : Memory) (a : Nat) (value : UInt8) : Memory := splice m ⟨a, 1⟩ fun _ => value

/-- A byte that is stored is read back. -/
theorem store_same (value : UInt8) : store m a value a = value :=
  splice_inside (s := ⟨a, 1⟩) (i := 0) Nat.one_pos

/-- The other bytes are as they were. -/
theorem store_other {b : Nat} {value : UInt8} (h : b ≠ a) : store m a value b = m b := by
  apply splice_outside
  intro hin
  have hlow : a ≤ b := hin.1
  have hhigh : b < a + 1 := hin.2
  omega

end Codon.Library
