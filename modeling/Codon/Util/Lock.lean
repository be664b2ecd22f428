import Mathlib.Data.Nat.Bitwise
import Codon.Library.Threads

/-!
# A spinlock in one word

`Lock` keeps the number of readers, a writer bit, a bit for a spinning writer and the priority of
the waiting threads in one 64-bit word, which every operation but the unlocks rewrites as a whole
from an earlier load. `LockMoves` has one step for each atomic access: a load and the comparisons
after it, a compare-exchange that succeeds or fails, a subtraction. The compare-exchanges of
`WriteLock` and `ReadLock` may fail though the word is the expected one.

A thread is inside at most one call and unlocks only what it holds. It may hold the lock for read
several times, and each time counts. What the fields mean at all times is `lock_sound`.
-/

namespace Codon.Util.Lock

open Codon.Library

def kRead : Nat := 2 ^ 0
def kWrite : Nat := 2 ^ 10
def kSpin : Nat := 2 ^ 11
def kPrio : Nat := 2 ^ 12

/-- Arithmetic in `U64`. -/
def u64 (n : Nat) : Nat := n % 2 ^ 64

/-- `x & (kSpin - 1)`: the readers and the writer. -/
def rw (x : Nat) : Nat := x &&& (kSpin - 1)

/-- `x & kSpin`. -/
def spinningWriter (x : Nat) : Nat := x &&& kSpin

/-- `rw && spinningWriter`. -/
def writerPrecedence (x : Nat) : Bool := decide (rw x ≠ 0) && decide (spinningWriter x ≠ 0)

/-- Where a thread is. At `..Load` it is about to load the word, at `..Take` and `..Publish` it is
about to exchange the word `x` that it has loaded. -/
inductive LockPc where
  | idle
  | writeLoad (prio : Nat)
  | writeTake (prio x : Nat)
  | writePublish (prio x : Nat)
  | readLoad (prio : Nat)
  | readTake (prio x : Nat)
  | readPublish (prio x : Nat)
  | tryWriteLoad
  | tryWriteTake (x : Nat)
  | tryReadLoad
  | tryReadTake (x : Nat)

/-- A thread: how often it holds the lock for read and for write, and where it is. -/
structure LockThread where
  reads : Nat
  writes : Nat
  pc : LockPc

/-- The end of a round of `WriteLock` or `ReadLock` that has not tried to take the lock. -/
def raised (prio : Nat) : Nat := u64 (prio + kPrio)

/-- `WriteLock` after its load. -/
def writeLockLoaded (prio x : Nat) : LockPc :=
  if rw x = 0 ∧ x < prio then .writeTake prio x
  else if u64 (x + 16 * kPrio) < prio then .writePublish prio x
  else .writeLoad (raised prio)

/-- `ReadLock` after its load. -/
def readLockLoaded (prio x : Nat) : LockPc :=
  if rw x < kWrite - 1 ∧ writerPrecedence x = false ∧ x < prio then .readTake prio x
  else if writerPrecedence x = false ∧ u64 (x + 16 * kPrio) < prio then .readPublish prio x
  else .readLoad (raised prio)

/-- `TryWriteLock` after its load. -/
def tryWriteLockLoaded (x : Nat) : LockPc := if rw x ≠ 0 then .idle else .tryWriteTake x

/-- `TryReadLock` after its load. -/
def tryReadLockLoaded (x : Nat) : LockPc :=
  if rw x < kWrite - 1 ∧ writerPrecedence x = false then .tryReadTake x else .idle

/-- What `WriteLock` publishes its priority with. -/
def writerWaits (prio x : Nat) : Nat := kSpin ||| u64 (prio + 2 ^ 64 - kPrio) ||| rw x

/-- What `ReadLock` publishes its priority with. -/
def readerWaits (prio x : Nat) : Nat := spinningWriter x ||| u64 (prio + 2 ^ 64 - kPrio) ||| rw x

/-- What `ReadLock` and `TryReadLock` take the lock with. -/
def withReader (x : Nat) : Nat := spinningWriter x ||| (rw x + kRead)

/-- The atomic steps of a thread on the word. -/
inductive LockMoves : Nat → LockThread → Nat → LockThread → Prop where
  | callWriteLock {x r w} : LockMoves x ⟨r, w, .idle⟩ x ⟨r, w, .writeLoad kPrio⟩
  | writeLoad {x r w prio} :
      LockMoves x ⟨r, w, .writeLoad prio⟩ x ⟨r, w, writeLockLoaded prio x⟩
  | writeTaken {x r w prio} :
      LockMoves x ⟨r, w, .writeTake prio x⟩ kWrite ⟨r, w + 1, .idle⟩
  | writeNotTaken {x x' r w prio} :
      LockMoves x' ⟨r, w, .writeTake prio x⟩ x' ⟨r, w, .writeLoad prio⟩
  | writePublished {x r w prio} :
      LockMoves x ⟨r, w, .writePublish prio x⟩ (writerWaits prio x)
        ⟨r, w, .writeLoad (raised prio)⟩
  | writeNotPublished {x x' r w prio} :
      LockMoves x' ⟨r, w, .writePublish prio x⟩ x' ⟨r, w, .writeLoad (raised prio)⟩
  | callReadLock {x r w} : LockMoves x ⟨r, w, .idle⟩ x ⟨r, w, .readLoad kPrio⟩
  | readLoad {x r w prio} :
      LockMoves x ⟨r, w, .readLoad prio⟩ x ⟨r, w, readLockLoaded prio x⟩
  | readTaken {x r w prio} :
      LockMoves x ⟨r, w, .readTake prio x⟩ (withReader x) ⟨r + 1, w, .idle⟩
  | readNotTaken {x x' r w prio} :
      LockMoves x' ⟨r, w, .readTake prio x⟩ x' ⟨r, w, .readLoad prio⟩
  | readPublished {x r w prio} :
      LockMoves x ⟨r, w, .readPublish prio x⟩ (readerWaits prio x)
        ⟨r, w, .readLoad (raised prio)⟩
  | readNotPublished {x x' r w prio} :
      LockMoves x' ⟨r, w, .readPublish prio x⟩ x' ⟨r, w, .readLoad (raised prio)⟩
  | callTryWriteLock {x r w} : LockMoves x ⟨r, w, .idle⟩ x ⟨r, w, .tryWriteLoad⟩
  | tryWriteLoad {x r w} : LockMoves x ⟨r, w, .tryWriteLoad⟩ x ⟨r, w, tryWriteLockLoaded x⟩
  | tryWriteTaken {x r w} :
      LockMoves x ⟨r, w, .tryWriteTake x⟩ kWrite ⟨r, w + 1, .idle⟩
  | tryWriteNotTaken {x x' r w} (h : x' ≠ x) :
      LockMoves x' ⟨r, w, .tryWriteTake x⟩ x' ⟨r, w, .idle⟩
  | callTryReadLock {x r w} : LockMoves x ⟨r, w, .idle⟩ x ⟨r, w, .tryReadLoad⟩
  | tryReadLoad {x r w} : LockMoves x ⟨r, w, .tryReadLoad⟩ x ⟨r, w, tryReadLockLoaded x⟩
  | tryReadTaken {x r w} :
      LockMoves x ⟨r, w, .tryReadTake x⟩ (withReader x) ⟨r + 1, w, .idle⟩
  | tryReadNotTaken {x x' r w} (h : x' ≠ x) :
      LockMoves x' ⟨r, w, .tryReadTake x⟩ x' ⟨r, w, .idle⟩
  | writeUnlock {x r w} :
      LockMoves x ⟨r, w + 1, .idle⟩ (u64 (x + 2 ^ 64 - kWrite)) ⟨r, w, .idle⟩
  | readUnlock {x r w} :
      LockMoves x ⟨r + 1, w, .idle⟩ (u64 (x + 2 ^ 64 - kRead)) ⟨r, w, .idle⟩

/-- The lock as it is constructed, and threads that do not use it yet. -/
def unlocked (T : Type) : Threads Nat LockThread T := ⟨0, fun _ => ⟨0, 0, .idle⟩⟩

/-- `~Lock` reports an error and dies. -/
def destructorDies (x : Nat) : Bool := decide (x ≠ 0)

/-! ## The fields of the word -/

/-- Bits 0 to 9. -/
def readers (x : Nat) : Nat := x % 2 ^ 10

/-- Bit 10. -/
def writer (x : Nat) : Nat := x / 2 ^ 10 % 2

/-- Bit 11. -/
def writerSpinning (x : Nat) : Nat := x / 2 ^ 11 % 2

/-- Bits 12 to 63. -/
def priority (x : Nat) : Nat := x / 2 ^ 12

/-- The bits of a multiple of `2 ^ k` and those of a number below `2 ^ k` do not meet. -/
theorem or_eq_add {a b k : Nat} (ha : 2 ^ k ∣ a) (hb : b < 2 ^ k) : a ||| b = a + b := by
  obtain ⟨a, rfl⟩ := ha
  exact (Nat.two_pow_add_eq_or_of_lt hb a).symm

/-- The read and write bits as readers and a writer. -/
theorem rw_eq (x : Nat) : rw x = readers x + 2 ^ 10 * writer x := by
  have hmod : rw x = x % 2 ^ 11 := Nat.and_two_pow_sub_one_eq_mod x 11
  rw [hmod, readers, writer]
  omega

/-- The bit of a spinning writer. -/
theorem spinning_writer_eq (x : Nat) : spinningWriter x = 2 ^ 11 * writerSpinning x := by
  rw [spinningWriter, kSpin, Nat.and_two_pow, Nat.toNat_testBit, writerSpinning, Nat.mul_comm]

/-- A priority: a multiple of `kPrio`. -/
def IsPrio (prio : Nat) : Prop := kPrio ∣ prio ∧ prio < 2 ^ 64

/-- A priority that is raised is one. -/
theorem raised_is_prio {prio : Nat} (h : IsPrio prio) : IsPrio (raised prio) := by
  simp only [IsPrio, raised, u64, kPrio] at *
  omega

/-- The first priority is one. -/
theorem k_prio_is_prio : IsPrio kPrio := by
  simp only [IsPrio, kPrio]
  omega

/-- A priority that is published is not the lowest, so that one can be taken off. -/
theorem published_prio {prio : Nat} (h : IsPrio prio) (hpos : 0 < prio) :
    2 ^ 12 ∣ u64 (prio + 2 ^ 64 - kPrio) ∧ u64 (prio + 2 ^ 64 - kPrio) < 2 ^ 64 := by
  simp only [IsPrio, u64, kPrio] at *
  omega

/-- The read and write bits are the lowest eleven. -/
theorem rw_lt (x : Nat) : rw x < 2 ^ 11 := by
  rw [rw_eq, readers, writer]
  omega

/-- The word of a writer that waits. -/
theorem writer_waits_eq {prio x : Nat} (h : IsPrio prio) (hpos : 0 < prio) :
    writerWaits prio x = u64 (prio + 2 ^ 64 - kPrio) + 2 ^ 11 + rw x := by
  obtain ⟨hdvd, -⟩ := published_prio h hpos
  rw [writerWaits, kSpin, Nat.or_comm (2 ^ 11), or_eq_add hdvd (by decide),
    or_eq_add (k := 11) (by omega) (rw_lt x)]

/-- The word of a reader that waits. -/
theorem reader_waits_eq {prio x : Nat} (h : IsPrio prio) (hpos : 0 < prio) :
    readerWaits prio x =
      u64 (prio + 2 ^ 64 - kPrio) + 2 ^ 11 * writerSpinning x + rw x := by
  obtain ⟨hdvd, -⟩ := published_prio h hpos
  have hspin : 2 ^ 11 * writerSpinning x < 2 ^ 12 := by
    rw [writerSpinning]
    omega
  rw [readerWaits, spinning_writer_eq, Nat.or_comm (2 ^ 11 * _), or_eq_add hdvd hspin,
    or_eq_add (k := 11) (by omega) (rw_lt x)]

/-- The word with one more reader. -/
theorem with_reader_eq {x : Nat} (h : rw x < kWrite - 1) :
    withReader x = 2 ^ 11 * writerSpinning x + (rw x + 1) := by
  rw [kWrite] at h
  rw [withReader, kRead, Nat.pow_zero, spinning_writer_eq,
    or_eq_add (k := 11) (Nat.dvd_mul_right _ _) (by omega)]

/-! ## What a step does to the fields -/

/-- Inside `WriteLock`. -/
def LockPc.inWriteLock : LockPc → Bool
  | .writeLoad _ | .writeTake _ _ | .writePublish _ _ => true
  | _ => false

/-- Inside `WriteLock` or `ReadLock`. -/
def LockPc.waits : LockPc → Bool
  | .readLoad _ | .readTake _ _ | .readPublish _ _ => true
  | pc => pc.inWriteLock

/-- What a thread has found before it exchanges the word. -/
def LockPc.Checked : LockPc → Prop
  | .idle | .tryWriteLoad | .tryReadLoad => True
  | .writeLoad prio | .readLoad prio => IsPrio prio
  | .writeTake prio x => IsPrio prio ∧ rw x = 0
  | .readTake prio x => IsPrio prio ∧ rw x < kWrite - 1
  | .writePublish prio _ | .readPublish prio _ => IsPrio prio ∧ 0 < prio
  | .tryWriteTake x => rw x = 0
  | .tryReadTake x => rw x < kWrite - 1

/-- A writer that has loaded the word goes on as a writer, with what it has checked. -/
theorem write_lock_loaded_checked {prio : Nat} (h : IsPrio prio) (x : Nat) :
    (writeLockLoaded prio x).Checked ∧ (writeLockLoaded prio x).inWriteLock = true := by
  unfold writeLockLoaded
  split_ifs with htake hpublish
  · exact ⟨⟨h, htake.1⟩, rfl⟩
  · exact ⟨⟨h, Nat.zero_lt_of_lt hpublish⟩, rfl⟩
  · exact ⟨raised_is_prio h, rfl⟩

/-- A reader that has loaded the word goes on as a reader, with what it has checked. -/
theorem read_lock_loaded_checked {prio : Nat} (h : IsPrio prio) (x : Nat) :
    (readLockLoaded prio x).Checked ∧ (readLockLoaded prio x).waits = true ∧
      (readLockLoaded prio x).inWriteLock = false := by
  unfold readLockLoaded
  split_ifs with htake hpublish
  · exact ⟨⟨h, htake.1⟩, rfl, rfl⟩
  · exact ⟨⟨h, Nat.zero_lt_of_lt hpublish.2⟩, rfl, rfl⟩
  · exact ⟨raised_is_prio h, rfl, rfl⟩

/-- The word and a thread go together: the word fits, readers and a writer do not hold together, and
what the thread holds is counted. -/
structure Counted (x : Nat) (th : LockThread) : Prop where
  word_lt : x < 2 ^ 64
  exclusive : writer x = 0 ∨ readers x = 0
  reads_le : th.reads ≤ readers x
  writes_le : th.writes ≤ writer x
  checked : th.pc.Checked

/-- What a step does to each field. A field of waiting threads that is set afterwards was set
before by a thread that goes on waiting, or the thread that takes the step waits. -/
structure Effect (x : Nat) (th : LockThread) (x' : Nat) (th' : LockThread) : Prop where
  word_lt : x' < 2 ^ 64
  exclusive : writer x' = 0 ∨ readers x' = 0
  readers_eq : readers x' + th.reads = readers x + th'.reads
  writer_eq : writer x' + th.writes = writer x + th'.writes
  checked : th'.pc.Checked
  spinning : writerSpinning x' ≠ 0 → th'.pc.inWriteLock = true ∨
    writerSpinning x ≠ 0 ∧ th.pc.inWriteLock = false
  waiting : priority x' ≠ 0 → th'.pc.waits = true ∨ priority x ≠ 0 ∧ th.pc.waits = false

variable {x x' : Nat} {th th' : LockThread}

/-- A step that leaves the word as it is, of a thread that goes on waiting if it waits. -/
theorem Counted.keep (h : Counted x th) (hreads : th'.reads = th.reads)
    (hwrites : th'.writes = th.writes) (hchecked : th'.pc.Checked)
    (hspin : th'.pc.inWriteLock = true ∨ th.pc.inWriteLock = false)
    (hwaits : th'.pc.waits = true ∨ th.pc.waits = false) : Effect x th x th' where
  word_lt := h.word_lt
  exclusive := h.exclusive
  readers_eq := by rw [hreads]
  writer_eq := by rw [hwrites]
  checked := hchecked
  spinning hset := hspin.imp_right fun hnot => ⟨hset, hnot⟩
  waiting hset := hwaits.imp_right fun hnot => ⟨hset, hnot⟩

/-- The fields of `kWrite`. -/
theorem k_write_fields : readers kWrite = 0 ∧ writer kWrite = 1 ∧ writerSpinning kWrite = 0 ∧
    priority kWrite = 0 := by
  decide

/-- The fields with one reader more. -/
theorem with_reader_fields (h : rw x < kWrite - 1) :
    readers (withReader x) = readers x + 1 ∧ writer (withReader x) = 0 ∧ writer x = 0 ∧
      writerSpinning (withReader x) = writerSpinning x ∧ priority (withReader x) = 0 ∧
      withReader x < 2 ^ 64 := by
  have hword := with_reader_eq h
  rw [kWrite] at h
  rw [rw_eq] at h hword
  simp only [readers, writer, writerSpinning, priority] at *
  omega

/-- A thread takes the lock for write. -/
theorem take_write {r w : Nat} {pc : LockPc} (hrw : rw x = 0) :
    Effect x ⟨r, w, pc⟩ kWrite ⟨r, w + 1, .idle⟩ := by
  obtain ⟨hreaders, hwriter, hspin, hprio⟩ := k_write_fields
  rw [rw_eq] at hrw
  refine ⟨by decide, .inr hreaders, ?_, ?_, trivial, fun hset => absurd hspin hset,
    fun hset => absurd hprio hset⟩
  · show readers kWrite + r = readers x + r
    omega
  · show writer kWrite + w = writer x + (w + 1)
    omega

/-- A thread takes the lock for read. -/
theorem take_read {r w : Nat} {pc : LockPc} (hrw : rw x < kWrite - 1)
    (hpc : pc.inWriteLock = false) :
    Effect x ⟨r, w, pc⟩ (withReader x) ⟨r + 1, w, .idle⟩ := by
  obtain ⟨hreaders, hnone, hwriter, hspin, hprio, hlt⟩ := with_reader_fields hrw
  refine ⟨hlt, .inl hnone, ?_, ?_, trivial, fun hset => .inr ⟨hspin ▸ hset, hpc⟩,
    fun hset => absurd hprio hset⟩
  · show readers (withReader x) + r = readers x + (r + 1)
    omega
  · show writer (withReader x) + w = writer x + w
    omega

/-- A thread publishes its priority. -/
theorem Counted.publish {r w : Nat} {pc pc' : LockPc} (h : Counted x ⟨r, w, pc⟩)
    (hlt : x' < 2 ^ 64) (hreaders : readers x' = readers x) (hwriter : writer x' = writer x)
    (hchecked : pc'.Checked) (hwaits : pc'.waits = true)
    (hspin : writerSpinning x' ≠ 0 → pc'.inWriteLock = true ∨
      writerSpinning x ≠ 0 ∧ pc.inWriteLock = false) :
    Effect x ⟨r, w, pc⟩ x' ⟨r, w, pc'⟩ where
  word_lt := hlt
  exclusive := by
    rw [hreaders, hwriter]
    exact h.exclusive
  readers_eq := by rw [hreaders]
  writer_eq := by rw [hwriter]
  checked := hchecked
  spinning := hspin
  waiting _ := .inl hwaits

/-- A writer that waits leaves the readers and the writer as they are. -/
theorem writer_waits_fields {prio : Nat} (h : IsPrio prio) (hpos : 0 < prio) :
    writerWaits prio x < 2 ^ 64 ∧ readers (writerWaits prio x) = readers x ∧
      writer (writerWaits prio x) = writer x := by
  obtain ⟨hdvd, hlt⟩ := published_prio h hpos
  have hword := writer_waits_eq (x := x) h hpos
  rw [rw_eq] at hword
  simp only [readers, writer] at *
  omega

/-- A reader that waits leaves the readers and the writer as they are, and whether one spins. -/
theorem reader_waits_fields {prio : Nat} (h : IsPrio prio) (hpos : 0 < prio) :
    readerWaits prio x < 2 ^ 64 ∧ readers (readerWaits prio x) = readers x ∧
      writer (readerWaits prio x) = writer x ∧
      writerSpinning (readerWaits prio x) = writerSpinning x := by
  obtain ⟨hdvd, hlt⟩ := published_prio h hpos
  have hword := reader_waits_eq (x := x) h hpos
  rw [rw_eq] at hword
  simp only [readers, writer, writerSpinning] at *
  omega

/-- What is subtracted by an unlock is in the word, so that no field borrows. -/
theorem unlock_fields (hlt : x < 2 ^ 64) :
    (0 < writer x →
      readers (u64 (x + 2 ^ 64 - kWrite)) = readers x ∧
        writer (u64 (x + 2 ^ 64 - kWrite)) + 1 = writer x ∧
        writerSpinning (u64 (x + 2 ^ 64 - kWrite)) = writerSpinning x ∧
        priority (u64 (x + 2 ^ 64 - kWrite)) = priority x) ∧
      (0 < readers x →
        readers (u64 (x + 2 ^ 64 - kRead)) + 1 = readers x ∧
          writer (u64 (x + 2 ^ 64 - kRead)) = writer x ∧
          writerSpinning (u64 (x + 2 ^ 64 - kRead)) = writerSpinning x ∧
          priority (u64 (x + 2 ^ 64 - kRead)) = priority x) := by
  simp only [readers, writer, writerSpinning, priority, u64, kWrite, kRead]
  omega

/-- A thread gives up a hold for write. -/
theorem Counted.write_unlock {r w : Nat} (h : Counted x ⟨r, w + 1, .idle⟩) :
    Effect x ⟨r, w + 1, .idle⟩ (u64 (x + 2 ^ 64 - kWrite)) ⟨r, w, .idle⟩ := by
  have hwriter : 0 < writer x := Nat.lt_of_lt_of_le (Nat.succ_pos w) h.writes_le
  obtain ⟨hreaders, hless, hspin, hprio⟩ := (unlock_fields h.word_lt).1 hwriter
  have hexclusive := h.exclusive
  refine ⟨Nat.mod_lt _ (by decide), .inr (by omega), ?_, ?_, trivial,
    fun hset => .inr ⟨hspin ▸ hset, rfl⟩, fun hset => .inr ⟨hprio ▸ hset, rfl⟩⟩
  · show _ + r = readers x + r
    omega
  · show _ + (w + 1) = writer x + w
    omega

/-- A thread gives up a hold for read. -/
theorem Counted.read_unlock {r w : Nat} (h : Counted x ⟨r + 1, w, .idle⟩) :
    Effect x ⟨r + 1, w, .idle⟩ (u64 (x + 2 ^ 64 - kRead)) ⟨r, w, .idle⟩ := by
  have hreader : 0 < readers x := Nat.lt_of_lt_of_le (Nat.succ_pos r) h.reads_le
  obtain ⟨hless, hwriter, hspin, hprio⟩ := (unlock_fields h.word_lt).2 hreader
  have hexclusive := h.exclusive
  refine ⟨Nat.mod_lt _ (by decide), .inl (by omega), ?_, ?_, trivial,
    fun hset => .inr ⟨hspin ▸ hset, rfl⟩, fun hset => .inr ⟨hprio ▸ hset, rfl⟩⟩
  · show _ + (r + 1) = readers x + r
    omega
  · show _ + w = writer x + w
    omega

/-- Every step has its effect on the fields. -/
theorem LockMoves.effect (hmove : LockMoves x th x' th') (h : Counted x th) :
    Effect x th x' th' := by
  have hchecked := h.checked
  cases hmove with
  | callWriteLock => exact h.keep rfl rfl k_prio_is_prio (.inl rfl) (.inl rfl)
  | writeLoad =>
      -- a load changes no field, only what the thread knows of the word
      obtain ⟨hnext, hin⟩ := write_lock_loaded_checked hchecked x
      refine h.keep rfl rfl hnext (.inl hin) (.inl ?_)
      revert hin
      simp only
      cases writeLockLoaded _ x <;> simp [LockPc.waits, LockPc.inWriteLock]
  | writeTaken => exact take_write hchecked.2
  | writeNotTaken => exact h.keep rfl rfl hchecked.1 (.inl rfl) (.inl rfl)
  | writePublished =>
      -- the priority is raised, and the counts stay
      obtain ⟨hlt, hreaders, hwriter⟩ := writer_waits_fields (x := x) hchecked.1 hchecked.2
      exact h.publish hlt hreaders hwriter (raised_is_prio hchecked.1) rfl fun _ => .inl rfl
  | writeNotPublished => exact h.keep rfl rfl (raised_is_prio hchecked.1) (.inl rfl) (.inl rfl)
  | callReadLock => exact h.keep rfl rfl k_prio_is_prio (.inr rfl) (.inl rfl)
  | readLoad =>
      obtain ⟨hnext, hin, -⟩ := read_lock_loaded_checked hchecked x
      exact h.keep rfl rfl hnext (.inr rfl) (.inl hin)
  | readTaken => exact take_read hchecked.2 rfl
  | readNotTaken => exact h.keep rfl rfl hchecked.1 (.inr rfl) (.inl rfl)
  | readPublished =>
      obtain ⟨hlt, hreaders, hwriter, hspin⟩ :=
        reader_waits_fields (x := x) hchecked.1 hchecked.2
      exact h.publish hlt hreaders hwriter (raised_is_prio hchecked.1) rfl
        fun hset => .inr ⟨hspin ▸ hset, rfl⟩
  | readNotPublished => exact h.keep rfl rfl (raised_is_prio hchecked.1) (.inr rfl) (.inl rfl)
  | callTryWriteLock => exact h.keep rfl rfl trivial (.inr rfl) (.inr rfl)
  | tryWriteLoad =>
      refine h.keep rfl rfl ?_ (.inr rfl) (.inr rfl)
      simp only [tryWriteLockLoaded]
      split_ifs with hheld
      · trivial
      · exact not_not.1 hheld
  | tryWriteTaken => exact take_write hchecked
  | tryWriteNotTaken => exact h.keep rfl rfl trivial (.inr rfl) (.inr rfl)
  | callTryReadLock => exact h.keep rfl rfl trivial (.inr rfl) (.inr rfl)
  | tryReadLoad =>
      refine h.keep rfl rfl ?_ (.inr rfl) (.inr rfl)
      simp only [tryReadLockLoaded]
      split_ifs with hfree
      · exact hfree.1
      · trivial
  | tryReadTaken => exact take_read hchecked rfl
  | tryReadNotTaken => exact h.keep rfl rfl trivial (.inr rfl) (.inr rfl)
  | writeUnlock => exact h.write_unlock
  | readUnlock => exact h.read_unlock

/-! ## What holds at all times -/

/-- What the fields mean. -/
structure Sound {T : Type} [Fintype T] (s : Threads Nat LockThread T) : Prop where
  word_lt : s.shared < 2 ^ 64
  exclusive : writer s.shared = 0 ∨ readers s.shared = 0
  readers_eq : readers s.shared = s.total LockThread.reads
  writer_eq : writer s.shared = s.total LockThread.writes
  checked : ∀ t, (s.thread t).pc.Checked
  spinning : writerSpinning s.shared ≠ 0 → ∃ t, (s.thread t).pc.inWriteLock = true
  waiting : priority s.shared ≠ 0 → ∃ t, (s.thread t).pc.waits = true

variable {T : Type} [Fintype T] [DecidableEq T] {s s' : Threads Nat LockThread T}

omit [DecidableEq T] in
/-- An unlocked lock is sound. -/
theorem unlocked_sound : Sound (unlocked T) where
  word_lt := Nat.two_pow_pos 64
  exclusive := .inl (show writer 0 = 0 from rfl)
  readers_eq := by simp [unlocked, Threads.total, readers]
  writer_eq := by simp [unlocked, Threads.total, writer]
  checked _ := trivial
  spinning h := absurd (show writerSpinning 0 = 0 from rfl) h
  waiting h := absurd (show priority 0 = 0 from rfl) h

omit [DecidableEq T] in
/-- Every thread is counted in the word. -/
theorem Sound.counted (h : Sound s) (t : T) : Counted s.shared (s.thread t) where
  word_lt := h.word_lt
  exclusive := h.exclusive
  reads_le := h.readers_eq ▸ le_total s LockThread.reads t
  writes_le := h.writer_eq ▸ le_total s LockThread.writes t
  checked := h.checked t

/-- Every step of every thread keeps it. -/
theorem Sound.step (h : Sound s) (hstep : Interleaves LockMoves s s') : Sound s' := by
  cases hstep with
  | @step t word th' hmove =>
      have heffect := hmove.effect (h.counted t)
      have hreads := total_step s LockThread.reads t word th'
      have hwrites := total_step s LockThread.writes t word th'
      refine ⟨heffect.word_lt, heffect.exclusive, ?_, ?_, fun u => ?_, fun hset => ?_,
        fun hset => ?_⟩
      · have hreaders := heffect.readers_eq
        have htotal := h.readers_eq
        show readers word = _
        omega
      · have hwriter := heffect.writer_eq
        have htotal := h.writer_eq
        show writer word = _
        omega
      · show (Function.update s.thread t th' u).pc.Checked
        by_cases heq : u = t
        · rw [heq, Function.update_self]
          exact heffect.checked
        · rw [Function.update_of_ne heq]
          exact h.checked u
      · rcases heffect.spinning hset with hin | ⟨hwas, hout⟩
        · exact ⟨t, by simpa using hin⟩
        · exact exists_step (p := fun th : LockThread => th.pc.inWriteLock = true) (h.spinning hwas)
            (.inr (by simp [hout]))
      · rcases heffect.waiting hset with hin | ⟨hwas, hout⟩
        · exact ⟨t, by simpa using hin⟩
        · exact exists_step (p := fun th : LockThread => th.pc.waits = true) (h.waiting hwas)
            (.inr (by simp [hout]))

/-- The fields determine the word. -/
theorem word_eq_zero {x : Nat} (hreaders : readers x = 0) (hwriter : writer x = 0)
    (hspin : writerSpinning x = 0) (hprio : priority x = 0) : x = 0 := by
  simp only [readers, writer, writerSpinning, priority] at *
  omega

/-- However many threads use the lock and however their steps interleave: the low bits count the
read holds, of which there are at most 1023; bit 10 is set exactly while the lock is held for
write, once and not for read as well; the spin bit is set only while a thread is inside `WriteLock`
and the priority only while one is inside `WriteLock` or `ReadLock`. When nobody holds or waits,
the word is 0, and the lock may be destructed. -/
theorem lock_sound (h : Reachable LockMoves (unlocked T) s) :
    readers s.shared = s.total LockThread.reads ∧ s.total LockThread.reads ≤ 1023 ∧
      writer s.shared = s.total LockThread.writes ∧ s.total LockThread.writes ≤ 1 ∧
      (s.total LockThread.reads = 0 ∨ s.total LockThread.writes = 0) ∧
      (writerSpinning s.shared ≠ 0 → ∃ t, (s.thread t).pc.inWriteLock = true) ∧
      (priority s.shared ≠ 0 → ∃ t, (s.thread t).pc.waits = true) ∧
      ((∀ t, (s.thread t).reads = 0 ∧ (s.thread t).writes = 0 ∧ (s.thread t).pc.waits = false) →
        s.shared = 0 ∧ destructorDies s.shared = false) := by
  have hsound := h.invariant unlocked_sound fun _ _ hs hstep => hs.step hstep
  have hreaders := hsound.readers_eq
  have hwriter := hsound.writer_eq
  have hreads : readers s.shared ≤ 1023 := Nat.le_of_lt_succ (Nat.mod_lt _ (by decide))
  have hwrites : writer s.shared ≤ 1 := Nat.le_of_lt_succ (Nat.mod_lt _ (by decide))
  have hexclusive := hsound.exclusive
  refine ⟨hreaders, by omega, hwriter, by omega, by omega, hsound.spinning, hsound.waiting,
    fun hidle => ?_⟩
  -- nobody holds, spins or waits, so each of the four fields is zero
  have hzero : s.shared = 0 := by
    refine word_eq_zero ?_ ?_ ?_ ?_
    · rw [hreaders]
      exact Finset.sum_eq_zero fun t _ => (hidle t).1
    · rw [hwriter]
      exact Finset.sum_eq_zero fun t _ => (hidle t).2.1
    · by_contra hset
      obtain ⟨t, ht⟩ := hsound.spinning hset
      have hwaits := (hidle t).2.2
      cases hpc : (s.thread t).pc <;> simp [hpc, LockPc.inWriteLock, LockPc.waits] at ht hwaits
    · by_contra hset
      obtain ⟨t, ht⟩ := hsound.waiting hset
      rw [(hidle t).2.2] at ht
      cases ht
  rw [hzero]
  exact ⟨rfl, rfl⟩

/-! ## Two threads that contend -/

section Contended

variable {cost : LockThread → Nat} {n x x' : Nat} {a a' b b' : LockThread}

/-- Two threads get there with steps of at most this cost. -/
def ReachedWithin (cost : LockThread → Nat) (n : Nat) (s : Threads Nat LockThread Bool) : Prop :=
  ∃ m ≤ n, ReachableAt LockMoves cost (unlocked Bool) m s

/-- The first of two threads moves. -/
theorem ReachedWithin.first (hcost : ∀ th, cost th ≤ 1) (h : ReachedWithin cost n (.two x a b))
    (hmove : LockMoves x a x' a') : ReachedWithin cost (n + 1) (.two x' a' b) := by
  obtain ⟨m, hm, hreached⟩ := h
  exact ⟨m + cost a, Nat.add_le_add hm (hcost a), hreached.first hmove⟩

/-- The second of two threads moves. -/
theorem ReachedWithin.second (hcost : ∀ th, cost th ≤ 1) (h : ReachedWithin cost n (.two x a b))
    (hmove : LockMoves x b x' b') : ReachedWithin cost (n + 1) (.two x' a b') := by
  obtain ⟨m, hm, hreached⟩ := h
  exact ⟨m + cost b, Nat.add_le_add hm (hcost b), hreached.second hmove⟩

/-- While the lock is held for read and no priority has been published, a writer goes on to raise
its own, up to the seventeenth round. -/
theorem raise_while_held (hcost : ∀ th, cost th ≤ 1)
    (h : ReachedWithin cost n (.two 1 a ⟨0, 0, .writeLoad kPrio⟩)) {k : Nat} (hk : k ≤ 16) :
    ReachedWithin cost (n + k) (.two 1 a ⟨0, 0, .writeLoad ((k + 1) * kPrio)⟩) := by
  induction k with
  | zero => simpa using h
  | succ k ih =>
      have hbefore := ih (by omega)
      have hraised : writeLockLoaded ((k + 1) * kPrio) 1 = .writeLoad ((k + 2) * kPrio) := by
        have hheld : rw 1 ≠ 0 := by decide
        have hlow : ¬ u64 (1 + 16 * kPrio) < (k + 1) * kPrio := by
          simp only [u64, kPrio]
          omega
        have hnext : raised ((k + 1) * kPrio) = (k + 2) * kPrio := by
          simp only [raised, u64, kPrio]
          omega
        rw [writeLockLoaded, if_neg fun htake => hheld htake.1, if_neg hlow, hnext]
      have hstep := hbefore.second hcost .writeLoad
      rwa [hraised] at hstep

/-- The first thread holds the lock for read, and the second one, in its eighteenth round of
`WriteLock`, has published its priority. -/
def contended : Threads Nat LockThread Bool :=
  .two (kSpin + 16 * kPrio + kRead) ⟨1, 0, .idle⟩ ⟨0, 0, .writeLoad (18 * kPrio)⟩

/-- The two threads get to contend. -/
theorem contended_reached (hcost : ∀ th, cost th ≤ 1) : ReachedWithin cost 22 contended := by
  have hstart : ReachedWithin cost 0 (.two 0 ⟨0, 0, .idle⟩ ⟨0, 0, .idle⟩) := by
    refine ⟨0, le_rfl, ?_⟩
    have hunlocked : unlocked Bool = .two 0 ⟨0, 0, .idle⟩ ⟨0, 0, .idle⟩ :=
      congrArg (Threads.mk _) (funext fun t => by cases t <;> rfl)
    rw [← hunlocked]
    exact .init
  have hload := (hstart.first hcost .callReadLock).first hcost .readLoad
  have hfree : readLockLoaded kPrio 0 = .readTake kPrio 0 := by
    rw [readLockLoaded, if_pos (by decide)]
  rw [hfree] at hload
  have hread : ReachedWithin cost 4 (.two 1 ⟨1, 0, .idle⟩ ⟨0, 0, .writeLoad kPrio⟩) :=
    (hload.first hcost .readTaken).second hcost .callWriteLock
  have hload := (raise_while_held hcost hread (le_refl 16)).second hcost .writeLoad
  have hpublishes : writeLockLoaded (17 * kPrio) 1 = .writePublish (17 * kPrio) 1 := by
    rw [writeLockLoaded, if_neg (by decide), if_pos (by decide)]
  rw [hpublishes] at hload
  exact hload.second hcost .writePublished

/-- Both fields of the word say what the threads do. -/
theorem contended_sound :
    readers contended.shared = contended.total LockThread.reads ∧
      readers contended.shared = 1 ∧ writer contended.shared = 0 ∧
      ∃ t, (contended.thread t).pc.inWriteLock = true := by
  have hcost : ∀ th : LockThread, (fun _ => 0) th ≤ 1 := fun _ => Nat.zero_le 1
  obtain ⟨m, -, hreached⟩ := contended_reached hcost
  obtain ⟨hreaders, -, -, -, -, hspinning, -⟩ := lock_sound hreached.reachable
  exact ⟨hreaders, by decide, by decide, hspinning (by decide)⟩

end Contended

end Codon.Util.Lock
