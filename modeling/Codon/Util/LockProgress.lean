import Codon.Util.Lock

/-!
# A free lock is taken

A waiting thread raises its priority in each round of its loop and gives up its place to nobody
who does not raise theirs. So priorities grow with the rounds that all threads have made, and
as long as these are fewer than `2 ^ 51` none wraps around. When nobody holds the lock, a thread
that runs alone gets it, however high the priority in the word is and whoever left it there.
-/

namespace Codon.Util.Lock

open Codon.Library

/-- The step of a thread inside `WriteLock` or `ReadLock` in which no compare-exchange fails though
the word is the expected one. -/
def proceed (x : Nat) (th : LockThread) : Nat × LockThread :=
  match th.pc with
  | .writeLoad prio => (x, { th with pc := writeLockLoaded prio x })
  | .writeTake prio expected =>
    if x = expected then (kWrite, ⟨th.reads, th.writes + 1, .idle⟩)
    else (x, { th with pc := .writeLoad prio })
  | .writePublish prio expected =>
    (if x = expected then writerWaits prio x else x, { th with pc := .writeLoad (raised prio) })
  | .readLoad prio => (x, { th with pc := readLockLoaded prio x })
  | .readTake prio expected =>
    if x = expected then (withReader x, ⟨th.reads + 1, th.writes, .idle⟩)
    else (x, { th with pc := .readLoad prio })
  | .readPublish prio expected =>
    (if x = expected then readerWaits prio x else x, { th with pc := .readLoad (raised prio) })
  | _ => (x, th)

/-- The word that a thread expects where it is about to exchange it. -/
def LockPc.expects : LockPc → Option Nat
  | .writeTake _ x | .writePublish _ x | .readTake _ x | .readPublish _ x => some x
  | _ => none

/-- The rest of a round: the load, if the thread is about to load, and the exchange after it. -/
def round (s : Nat × LockThread) : Nat × LockThread :=
  match s.2.pc.expects with
  | some _ => proceed s.1 s.2
  | none =>
    let loaded := proceed s.1 s.2
    match loaded.2.pc.expects with
    | some _ => proceed loaded.1 loaded.2
    | none => loaded

/-- A load in `WriteLock` or `ReadLock` begins a round. -/
def roundsBegun (th : LockThread) : Nat :=
  match th.pc with
  | .writeLoad _ | .readLoad _ => 1
  | _ => 0

section Steps

variable {x x' : Nat} {th th' : LockThread}

/-- It is a step that the thread can take. -/
theorem proceed_moves (h : th.pc.waits = true) :
    LockMoves x th (proceed x th).1 (proceed x th).2 := by
  obtain ⟨r, w, pc⟩ := th
  cases pc with
  | writeLoad prio => exact .writeLoad
  | writeTake prio expected =>
      simp only [proceed]
      split
      · rename_i heq
        subst heq
        exact .writeTaken
      · exact .writeNotTaken
  | writePublish prio expected =>
      simp only [proceed]
      split
      · rename_i heq
        subst heq
        exact .writePublished
      · exact .writeNotPublished
  | readLoad prio => exact .readLoad
  | readTake prio expected =>
      simp only [proceed]
      split
      · rename_i heq
        subst heq
        exact .readTaken
      · exact .readNotTaken
  | readPublish prio expected =>
      simp only [proceed]
      split
      · rename_i heq
        subst heq
        exact .readPublished
      · exact .readNotPublished
  | _ => cases h

/-- Any other step is an exchange that fails though the word is the expected one. -/
theorem moves_proceed_or_spurious (h : th.pc.waits = true) (hmove : LockMoves x th x' th') :
    (x', th') = proceed x th ∨ th.pc.expects = some x ∧ x' = x ∧ th'.pc.waits = true := by
  cases hmove with
  | writeLoad => exact .inl rfl
  | writeTaken => exact .inl (by simp [proceed])
  | @writeNotTaken expected _ _ _ _ =>
      by_cases heq : x = expected
      · exact .inr ⟨congrArg some heq.symm, rfl, rfl⟩
      · exact .inl (by simp [proceed, heq])
  | writePublished => exact .inl (by simp [proceed])
  | @writeNotPublished expected _ _ _ _ =>
      by_cases heq : x = expected
      · exact .inr ⟨congrArg some heq.symm, rfl, rfl⟩
      · exact .inl (by simp [proceed, heq])
  | readLoad => exact .inl rfl
  | readTaken => exact .inl (by simp [proceed])
  | @readNotTaken expected _ _ _ _ =>
      by_cases heq : x = expected
      · exact .inr ⟨congrArg some heq.symm, rfl, rfl⟩
      · exact .inl (by simp [proceed, heq])
  | readPublished => exact .inl (by simp [proceed])
  | @readNotPublished expected _ _ _ _ =>
      by_cases heq : x = expected
      · exact .inr ⟨congrArg some heq.symm, rfl, rfl⟩
      · exact .inl (by simp [proceed, heq])
  | _ => cases h

end Steps

section Priorities

variable {x x' n : Nat} {th th' : LockThread}

/-- What the priority of a thread can be after `n` rounds of all threads. -/
def PrioWithin (n : Nat) : LockPc → Prop
  | .writeLoad prio | .readLoad prio => kPrio ≤ prio ∧ prio ≤ (n + 1) * kPrio
  | .writeTake prio _ | .writePublish prio _ | .readTake prio _ | .readPublish prio _ =>
    kPrio ≤ prio ∧ prio ≤ n * kPrio
  | _ => True

/-- A larger bound is a bound. -/
theorem PrioWithin.mono {m : Nat} {pc : LockPc} (h : PrioWithin n pc) (hle : n ≤ m) :
    PrioWithin m pc := by
  have hmul : n * kPrio ≤ m * kPrio := Nat.mul_le_mul_right _ hle
  have hsucc : (n + 1) * kPrio ≤ (m + 1) * kPrio := Nat.mul_le_mul_right _ (by omega)
  cases pc <;> simp only [PrioWithin] at h ⊢ <;> omega

/-- A priority within the bound does not wrap around when it is raised. -/
theorem raised_within {prio : Nat} (hn : n < 2 ^ 51) (h : prio ≤ n * kPrio) :
    raised prio = prio + kPrio := by
  rw [raised, u64]
  simp only [kPrio] at *
  omega

/-- Loading the word raises the priority of a writer once at most. -/
theorem write_lock_loaded_within {prio : Nat} (hn : n + 1 < 2 ^ 51)
    (h : PrioWithin n (.writeLoad prio)) (x : Nat) :
    PrioWithin (n + 1) (writeLockLoaded prio x) := by
  unfold writeLockLoaded
  split_ifs with htake hpublish
  · exact h
  · exact h
  · rw [raised_within hn h.2]
    simp only [PrioWithin, kPrio] at *
    omega

/-- Loading the word raises the priority of a reader once at most. -/
theorem read_lock_loaded_within {prio : Nat} (hn : n + 1 < 2 ^ 51)
    (h : PrioWithin n (.readLoad prio)) (x : Nat) :
    PrioWithin (n + 1) (readLockLoaded prio x) := by
  unfold readLockLoaded
  split_ifs with htake hpublish
  · exact h
  · exact h
  · rw [raised_within hn h.2]
    simp only [PrioWithin, kPrio] at *
    omega

/-- A published priority is one that its thread has had before. -/
theorem published_lt {prio : Nat} (hprio : IsPrio prio) (hpos : 0 < prio) :
    writerWaits prio x < prio ∧ readerWaits prio x < prio := by
  have hrw := rw_lt x
  have hspin : writerSpinning x < 2 := Nat.mod_lt _ (by omega)
  rw [writer_waits_eq hprio hpos, reader_waits_eq hprio hpos, u64]
  simp only [IsPrio, kPrio] at *
  omega

/-- A priority that is raised once stays within one more round. -/
theorem raised_prio_within {prio : Nat} (hn : n < 2 ^ 51) (h : kPrio ≤ prio ∧ prio ≤ n * kPrio) :
    kPrio ≤ raised prio ∧ raised prio ≤ (n + 1) * kPrio := by
  rw [raised_within hn h.2]
  simp only [kPrio] at *
  omega

/-- With one more reader there is no priority in the word. -/
theorem with_reader_lt (hfree : rw x < kWrite - 1) : withReader x < kPrio := by
  have hword := with_reader_eq hfree
  have hspin : writerSpinning x < 2 := Nat.mod_lt _ (by omega)
  simp only [kWrite, kPrio] at *
  omega

/-- Priorities stay within the rounds that have been begun, the thread's own and the one in the
word. -/
theorem prio_within_step (hmove : LockMoves x th x' th') (h : Counted x th)
    (hn : n + roundsBegun th < 2 ^ 51) (hth : PrioWithin n th.pc) (hx : x < (n + 1) * kPrio) :
    PrioWithin (n + roundsBegun th) th'.pc ∧ x' < (n + roundsBegun th + 1) * kPrio := by
  have hchecked := h.checked
  have hlt := h.word_lt
  have hreads := h.reads_le
  have hwrites := h.writes_le
  have hkeep : x < (n + roundsBegun th + 1) * kPrio :=
    Nat.lt_of_lt_of_le hx (Nat.mul_le_mul_right _ (by omega))
  have hbase : kPrio ≤ (n + roundsBegun th + 1) * kPrio := Nat.le_mul_of_pos_left _ (by omega)
  cases hmove with
  | callWriteLock => exact ⟨⟨Nat.le_refl _, Nat.le_mul_of_pos_left _ (by omega)⟩, hkeep⟩
  | callReadLock => exact ⟨⟨Nat.le_refl _, Nat.le_mul_of_pos_left _ (by omega)⟩, hkeep⟩
  | writeLoad => exact ⟨write_lock_loaded_within hn hth x, hkeep⟩
  | readLoad => exact ⟨read_lock_loaded_within hn hth x, hkeep⟩
  | writeTaken =>
      refine ⟨trivial, Nat.lt_of_lt_of_le ?_ hbase⟩
      decide
  | readTaken => exact ⟨trivial, Nat.lt_of_lt_of_le (with_reader_lt hchecked.2) hbase⟩
  | writeNotTaken =>
      refine ⟨⟨hth.1, Nat.le_trans hth.2 (Nat.mul_le_mul_right _ ?_)⟩, hkeep⟩
      omega
  | readNotTaken =>
      refine ⟨⟨hth.1, Nat.le_trans hth.2 (Nat.mul_le_mul_right _ ?_)⟩, hkeep⟩
      omega
  | writePublished =>
      have hword := (published_lt (x := x) hchecked.1 hchecked.2).1
      have hprio := Nat.le_trans hth.2 (Nat.mul_le_mul_right kPrio (Nat.le_succ n))
      exact ⟨raised_prio_within hn hth, Nat.lt_of_lt_of_le hword hprio⟩
  | readPublished =>
      have hword := (published_lt (x := x) hchecked.1 hchecked.2).2
      have hprio := Nat.le_trans hth.2 (Nat.mul_le_mul_right kPrio (Nat.le_succ n))
      exact ⟨raised_prio_within hn hth, Nat.lt_of_lt_of_le hword hprio⟩
  | writeNotPublished => exact ⟨raised_prio_within hn hth, hkeep⟩
  | readNotPublished => exact ⟨raised_prio_within hn hth, hkeep⟩
  | callTryWriteLock => exact ⟨trivial, hkeep⟩
  | tryWriteLoad =>
      refine ⟨?_, hkeep⟩
      simp only [tryWriteLockLoaded]
      split <;> trivial
  | tryWriteTaken =>
      refine ⟨trivial, Nat.lt_of_lt_of_le ?_ hbase⟩
      decide
  | tryWriteNotTaken => exact ⟨trivial, hkeep⟩
  | callTryReadLock => exact ⟨trivial, hkeep⟩
  | tryReadLoad =>
      refine ⟨?_, hkeep⟩
      simp only [tryReadLockLoaded]
      split <;> trivial
  | tryReadTaken => exact ⟨trivial, Nat.lt_of_lt_of_le (with_reader_lt hchecked) hbase⟩
  | tryReadNotTaken => exact ⟨trivial, hkeep⟩
  | writeUnlock =>
      -- the word is not below what is taken off it
      refine ⟨trivial, Nat.lt_of_le_of_lt ?_ hkeep⟩
      have hheld : 0 < writer x := Nat.lt_of_lt_of_le (Nat.succ_pos _) hwrites
      simp only [writer, u64, kWrite] at *
      omega
  | readUnlock =>
      refine ⟨trivial, Nat.lt_of_le_of_lt ?_ hkeep⟩
      have hheld : 0 < readers x := Nat.lt_of_lt_of_le (Nat.succ_pos _) hreads
      simp only [readers, u64, kRead] at *
      omega

end Priorities

section Reached

variable {T : Type} [Fintype T] [DecidableEq T] {s : Threads Nat LockThread T} {n : Nat}

/-- Reached in `n` rounds of all threads together. -/
abbrev ReachedIn (n : Nat) (s : Threads Nat LockThread T) : Prop :=
  ReachableAt LockMoves roundsBegun (unlocked T) n s

/-- Priorities are bounded by the rounds that all threads have begun. -/
theorem reached_within (h : ReachedIn n s) (hn : n < 2 ^ 51) :
    Sound s ∧ (∀ t, PrioWithin n (s.thread t).pc) ∧ s.shared < (n + 1) * kPrio := by
  induction h with
  | init => exact ⟨unlocked_sound, fun _ => trivial, Nat.mul_pos (by omega) (by decide)⟩
  | @step n s _ t word th' hmove ih =>
      obtain ⟨hsound, hprio, hword⟩ := ih (by omega)
      obtain ⟨hpc, hlt⟩ := prio_within_step hmove (hsound.counted t) hn (hprio t) hword
      refine ⟨hsound.step (.step t hmove), fun u => ?_, hlt⟩
      show PrioWithin _ (Function.update s.thread t th' u).pc
      by_cases heq : u = t
      · rw [heq, Function.update_self]
        exact hpc
      · rw [Function.update_of_ne heq]
        exact (hprio u).mono (by omega)

end Reached

section Alone

variable {x r w prio : Nat}

/-- Rounds that raise the priority until it is above the word. -/
theorem rounds_of_gap {load : Nat → LockPc} {taken : Nat × LockThread}
    (htake : ∀ prio, x < prio → round (x, ⟨r, w, load prio⟩) = taken)
    (hraise : ∀ prio, prio ≤ x → round (x, ⟨r, w, load prio⟩) = (x, ⟨r, w, load (prio + kPrio)⟩))
    (gap : Nat) (hgap : x < prio + gap * kPrio) :
    ∃ k ≤ gap + 1, round^[k] (x, ⟨r, w, load prio⟩) = taken := by
  induction gap generalizing prio with
  | zero => exact ⟨1, by omega, htake prio (by omega)⟩
  | succ gap ih =>
      by_cases habove : x < prio
      · exact ⟨1, by omega, htake prio habove⟩
      · have hnext : x < prio + kPrio + gap * kPrio := by
          rw [Nat.succ_mul] at hgap
          omega
        obtain ⟨k, hk, hrounds⟩ := ih hnext
        refine ⟨k + 1, by omega, ?_⟩
        rw [Function.iterate_succ_apply, hraise prio (by omega)]
        exact hrounds

/-- A raised priority below the word does not wrap around. -/
theorem raised_below (hx : x < 2 ^ 63) (h : prio ≤ x) : raised prio = prio + kPrio := by
  simp only [raised, u64, kPrio]
  omega

/-- A priority up to the word is too low to be published. -/
theorem not_published (hx : x < 2 ^ 63) (h : prio ≤ x) : ¬u64 (x + 16 * kPrio) < prio := by
  simp only [u64, kPrio]
  omega

/-- A writer whose priority is above the word takes a free lock. -/
theorem write_round_takes (hfree : rw x = 0) (h : x < prio) :
    round (x, ⟨r, w, .writeLoad prio⟩) = (kWrite, ⟨r, w + 1, .idle⟩) := by
  have hloaded : writeLockLoaded prio x = .writeTake prio x := if_pos ⟨hfree, h⟩
  simp [round, proceed, LockPc.expects, hloaded]

/-- A writer whose priority is not above the word raises it. -/
theorem write_round_raises (hx : x < 2 ^ 63) (h : prio ≤ x) :
    round (x, ⟨r, w, .writeLoad prio⟩) = (x, ⟨r, w, .writeLoad (prio + kPrio)⟩) := by
  have hloaded : writeLockLoaded prio x = .writeLoad (prio + kPrio) := by
    have hlow : ¬(rw x = 0 ∧ x < prio) := fun hboth => absurd hboth.2 (by omega)
    rw [writeLockLoaded, if_neg hlow, if_neg (not_published hx h), raised_below hx h]
  simp [round, proceed, LockPc.expects, hloaded]

/-- No writer has precedence while the lock is free. -/
theorem writer_precedence_of_free (hfree : rw x = 0) : writerPrecedence x = false := by
  rw [writerPrecedence, hfree]
  rfl

/-- A reader whose priority is above the word takes a free lock. -/
theorem read_round_takes (hfree : rw x = 0) (h : x < prio) :
    round (x, ⟨r, w, .readLoad prio⟩) = (withReader x, ⟨r + 1, w, .idle⟩) := by
  have hroom : rw x < kWrite - 1 := by
    rw [hfree]
    decide
  have hloaded : readLockLoaded prio x = .readTake prio x :=
    if_pos ⟨hroom, writer_precedence_of_free hfree, h⟩
  simp [round, proceed, LockPc.expects, hloaded]

/-- A reader whose priority is not above the word raises it. -/
theorem read_round_raises (hx : x < 2 ^ 63) (h : prio ≤ x) :
    round (x, ⟨r, w, .readLoad prio⟩) = (x, ⟨r, w, .readLoad (prio + kPrio)⟩) := by
  have hloaded : readLockLoaded prio x = .readLoad (prio + kPrio) := by
    have hlow : ¬(rw x < kWrite - 1 ∧ writerPrecedence x = false ∧ x < prio) :=
      fun hall => absurd hall.2.2 (by omega)
    have hquiet : ¬(writerPrecedence x = false ∧ u64 (x + 16 * kPrio) < prio) :=
      fun hboth => not_published hx h hboth.2
    rw [readLockLoaded, if_neg hlow, if_neg hquiet, raised_below hx h]
  simp [round, proceed, LockPc.expects, hloaded]

/-- The thread holds the lock once more, for write or for read as it waited for, and the call is
over. -/
def Acquired (th : LockThread) (s : Nat × LockThread) : Prop :=
  s.2.pc = .idle ∧
    if th.pc.inWriteLock = true then
      s.1 = kWrite ∧ s.2.writes = th.writes + 1 ∧ s.2.reads = th.reads
    else readers s.1 = 1 ∧ s.2.reads = th.reads + 1 ∧ s.2.writes = th.writes

/-- A thread that is about to load gets the lock in at most one round for each `kPrio` in the word,
and one more. -/
theorem write_rounds (hfree : rw x = 0) (hx : x < 2 ^ 63) (hprio : kPrio ≤ prio) :
    ∃ k ≤ x / kPrio + 1, round^[k] (x, ⟨r, w, .writeLoad prio⟩) = (kWrite, ⟨r, w + 1, .idle⟩) := by
  apply rounds_of_gap
  · exact fun prio => write_round_takes hfree
  · exact fun prio => write_round_raises hx
  · simp only [kPrio] at *
    omega

/-- A reader takes a free lock after as many rounds as the word has priorities, and one more. -/
theorem read_rounds (hfree : rw x = 0) (hx : x < 2 ^ 63) (hprio : kPrio ≤ prio) :
    ∃ k ≤ x / kPrio + 1,
      round^[k] (x, ⟨r, w, .readLoad prio⟩) = (withReader x, ⟨r + 1, w, .idle⟩) := by
  apply rounds_of_gap
  · exact fun prio => read_round_takes hfree
  · exact fun prio => read_round_raises hx
  · simp only [kPrio] at *
    omega

/-- The lock is free exactly if nobody holds it. -/
theorem rw_eq_zero_iff : rw x = 0 ↔ readers x = 0 ∧ writer x = 0 := by
  rw [rw_eq]
  omega

/-- Nobody holds for read what a reader takes. -/
theorem readers_with_reader (hfree : rw x = 0) : readers (withReader x) = 1 := by
  have hroom : rw x < kWrite - 1 := by
    rw [hfree]
    decide
  rw [(with_reader_fields hroom).1, (rw_eq_zero_iff.1 hfree).1]

/-- What a waiting thread gets in some rounds it gets in one round more if it has to finish one
first. -/
theorem after_round (P : Nat × LockThread → Prop) {s s' : Nat × LockThread} {bound : Nat}
    (hround : round s = s') (h : ∃ k ≤ bound, P (round^[k] s')) :
    ∃ k ≤ bound + 1, P (round^[k] s) := by
  obtain ⟨k, hk, hp⟩ := h
  refine ⟨k + 1, by omega, ?_⟩
  rwa [Function.iterate_succ_apply, hround]

end Alone

section Progress

variable {T : Type} [Fintype T] [DecidableEq T] {s : Threads Nat LockThread T} {n : Nat}

/-- Inside `WriteLock`, wherever the thread stands. -/
theorem write_lock_acquires {x : Nat} {th : LockThread} (hn : n < 2 ^ 51) (hfree : rw x = 0)
    (hx : x < (n + 1) * kPrio) (hchecked : th.pc.Checked) (hprio : PrioWithin n th.pc)
    (hin : th.pc.inWriteLock = true) :
    ∃ k ≤ x / kPrio + 2, round^[k] (x, th) = (kWrite, ⟨th.reads, th.writes + 1, .idle⟩) := by
  obtain ⟨r, w, pc⟩ := th
  have hbelow : x < 2 ^ 63 := by
    simp only [kPrio] at hx
    omega
  have hone : 1 ≤ x / kPrio + 2 := Nat.le_add_left_of_le (by omega)
  cases pc with
  | writeLoad prio =>
      obtain ⟨k, hk, hrounds⟩ := write_rounds (r := r) (w := w) hfree hbelow hprio.1
      exact ⟨k, by omega, hrounds⟩
  | writeTake prio expected =>
      by_cases heq : x = expected
      · exact ⟨1, hone, by simp [round, proceed, LockPc.expects, heq]⟩
      · -- the word has changed since the load, so the thread loads again
        have hround : round (x, ⟨r, w, .writeTake prio expected⟩) =
            (x, ⟨r, w, .writeLoad prio⟩) := by
          simp [round, proceed, LockPc.expects, heq]
        exact after_round (· = (kWrite, ⟨r, w + 1, .idle⟩)) hround
          (write_rounds hfree hbelow hprio.1)
  | writePublish prio expected =>
      have hraised : raised prio = prio + kPrio := raised_within hn hprio.2
      by_cases heq : x = expected
      · -- the word is now the thread's last priority, and the next one is higher
        subst heq
        obtain ⟨-, hreaders, hwriter⟩ := writer_waits_fields (x := x) hchecked.1 hchecked.2
        have hfree' : rw (writerWaits prio x) = 0 := by
          rw [rw_eq_zero_iff, hreaders, hwriter]
          exact rw_eq_zero_iff.1 hfree
        have hlow := (published_lt (x := x) hchecked.1 hchecked.2).1
        have hpublished : round (x, ⟨r, w, .writePublish prio x⟩) =
            (writerWaits prio x, ⟨r, w, .writeLoad (prio + kPrio)⟩) := by
          simp [round, proceed, LockPc.expects, hraised]
        refine after_round (fun s => s = (kWrite, ⟨r, w + 1, .idle⟩)) hpublished
          ⟨1, Nat.le_add_left 1 _, ?_⟩
        rw [Function.iterate_one, write_round_takes hfree' (by omega)]
      · have hround : round (x, ⟨r, w, .writePublish prio expected⟩) =
            (x, ⟨r, w, .writeLoad (prio + kPrio)⟩) := by
          simp [round, proceed, LockPc.expects, heq, hraised]
        exact after_round (· = (kWrite, ⟨r, w + 1, .idle⟩)) hround
          (write_rounds hfree hbelow (Nat.le_add_left _ _))
  | _ => cases hin

/-- Inside `ReadLock`, wherever the thread stands. -/
theorem read_lock_acquires {x : Nat} {th : LockThread} (hn : n < 2 ^ 51) (hfree : rw x = 0)
    (hx : x < (n + 1) * kPrio) (hchecked : th.pc.Checked) (hprio : PrioWithin n th.pc)
    (hwaits : th.pc.waits = true) (hin : th.pc.inWriteLock = false) :
    ∃ k ≤ x / kPrio + 2, readers (round^[k] (x, th)).1 = 1 ∧
      (round^[k] (x, th)).2 = ⟨th.reads + 1, th.writes, .idle⟩ := by
  obtain ⟨r, w, pc⟩ := th
  have hbelow : x < 2 ^ 63 := by
    simp only [kPrio] at hx
    omega
  have hone : 1 ≤ x / kPrio + 2 := Nat.le_add_left_of_le (by omega)
  have hload (prio : Nat) (hprio : kPrio ≤ prio) : ∃ k ≤ x / kPrio + 1,
      readers (round^[k] (x, ⟨r, w, .readLoad prio⟩)).1 = 1 ∧
        (round^[k] (x, ⟨r, w, .readLoad prio⟩)).2 = ⟨r + 1, w, .idle⟩ := by
    obtain ⟨k, hk, hrounds⟩ := read_rounds (r := r) (w := w) hfree hbelow hprio
    refine ⟨k, hk, ?_⟩
    rw [hrounds]
    exact ⟨readers_with_reader hfree, rfl⟩
  cases pc with
  | readLoad prio =>
      obtain ⟨k, hk, hrounds⟩ := hload prio hprio.1
      exact ⟨k, by omega, hrounds⟩
  | readTake prio expected =>
      by_cases heq : x = expected
      · subst heq
        have htaken : round (x, ⟨r, w, .readTake prio x⟩) =
            (withReader x, ⟨r + 1, w, .idle⟩) := by
          simp [round, proceed, LockPc.expects]
        refine ⟨1, hone, ?_⟩
        rw [Function.iterate_one, htaken]
        exact ⟨readers_with_reader hfree, rfl⟩
      · -- the word has changed since the load, so the thread loads again
        have hround : round (x, ⟨r, w, .readTake prio expected⟩) =
            (x, ⟨r, w, .readLoad prio⟩) := by
          simp [round, proceed, LockPc.expects, heq]
        exact after_round (fun s => readers s.1 = 1 ∧ s.2 = ⟨r + 1, w, .idle⟩) hround
          (hload prio hprio.1)
  | readPublish prio expected =>
      have hraised : raised prio = prio + kPrio := raised_within hn hprio.2
      by_cases heq : x = expected
      · -- the word is now the thread's last priority, and the next one is higher
        subst heq
        obtain ⟨-, hreaders, hwriter, -⟩ := reader_waits_fields (x := x) hchecked.1 hchecked.2
        have hfree' : rw (readerWaits prio x) = 0 := by
          rw [rw_eq_zero_iff, hreaders, hwriter]
          exact rw_eq_zero_iff.1 hfree
        have hlow := (published_lt (x := x) hchecked.1 hchecked.2).2
        have hpublished : round (x, ⟨r, w, .readPublish prio x⟩) =
            (readerWaits prio x, ⟨r, w, .readLoad (prio + kPrio)⟩) := by
          simp [round, proceed, LockPc.expects, hraised]
        refine after_round (fun s => readers s.1 = 1 ∧ s.2 = ⟨r + 1, w, .idle⟩) hpublished
          ⟨1, Nat.le_add_left 1 _, ?_⟩
        rw [Function.iterate_one, read_round_takes hfree' (by omega)]
        exact ⟨readers_with_reader hfree', rfl⟩
      · have hround : round (x, ⟨r, w, .readPublish prio expected⟩) =
            (x, ⟨r, w, .readLoad (prio + kPrio)⟩) := by
          simp [round, proceed, LockPc.expects, heq, hraised]
        exact after_round (fun s => readers s.1 = 1 ∧ s.2 = ⟨r + 1, w, .idle⟩) hround
          (hload _ (Nat.le_add_left _ _))
  | _ =>
      first
        | exact absurd hwaits Bool.false_ne_true
        | exact absurd hin.symm Bool.false_ne_true

omit [Fintype T] in
/-- The rounds of one thread are steps that the threads can take. -/
theorem rounds_reachable {init : Threads Nat LockThread T} (h : Reachable LockMoves init s) (t : T)
    (k : Nat) :
    Reachable LockMoves init ⟨(round^[k] (s.shared, s.thread t)).1,
      Function.update s.thread t (round^[k] (s.shared, s.thread t)).2⟩ := by
  have hproceed {x : Nat} {th : LockThread}
      (hs : Reachable LockMoves init ⟨x, Function.update s.thread t th⟩) :
      Reachable LockMoves init
        ⟨(proceed x th).1, Function.update s.thread t (proceed x th).2⟩ := by
    by_cases hwaits : th.pc.waits = true
    · have hmove := proceed_moves (x := x) hwaits
      rw [show th = Function.update s.thread t th t by rw [Function.update_self]] at hmove
      have hstep := hs.step (.step t hmove)
      simpa using hstep
    · -- a thread that does not wait stays where it is
      have hidle : proceed x th = (x, th) := by
        obtain ⟨r, w, pc⟩ := th
        cases pc <;> first | rfl | exact absurd rfl hwaits
      rwa [hidle]
  induction k with
  | zero => simpa using h
  | succ k ih =>
      rw [Function.iterate_succ_apply']
      generalize round^[k] (s.shared, s.thread t) = u at ih
      unfold round
      split
      · exact hproceed ih
      · simp only
        split
        · exact hproceed (hproceed ih)
        · exact hproceed ih

/-- In every state that is reached in fewer than `2 ^ 51` rounds and in which nobody holds the lock,
a thread inside `WriteLock` or `ReadLock` that runs alone from there holds the lock after at most
`x / kPrio + 2` rounds, if `x` is the word. -/
theorem free_lock_is_acquired (h : ReachedIn n s) (hn : n < 2 ^ 51)
    (hnobody : ∀ t, (s.thread t).reads = 0 ∧ (s.thread t).writes = 0) (t : T)
    (hwaits : (s.thread t).pc.waits = true) :
    ∃ k ≤ s.shared / kPrio + 2,
      Acquired (s.thread t) (round^[k] (s.shared, s.thread t)) ∧
        Reachable LockMoves (unlocked T) ⟨(round^[k] (s.shared, s.thread t)).1,
          Function.update s.thread t (round^[k] (s.shared, s.thread t)).2⟩ := by
  obtain ⟨hsound, hprio, hword⟩ := reached_within h hn
  have hfree : rw s.shared = 0 := by
    rw [rw_eq_zero_iff, hsound.readers_eq, hsound.writer_eq]
    exact ⟨Finset.sum_eq_zero fun u _ => (hnobody u).1,
      Finset.sum_eq_zero fun u _ => (hnobody u).2⟩
  by_cases hin : (s.thread t).pc.inWriteLock = true
  · obtain ⟨k, hk, hrounds⟩ :=
      write_lock_acquires hn hfree hword (hsound.checked t) (hprio t) hin
    refine ⟨k, hk, ?_, rounds_reachable h.reachable t k⟩
    rw [Acquired, if_pos hin, hrounds]
    exact ⟨rfl, rfl, rfl, rfl⟩
  · obtain ⟨k, hk, hheld, hrounds⟩ := read_lock_acquires hn hfree hword (hsound.checked t)
      (hprio t) hwaits (Bool.eq_false_of_not_eq_true hin)
    refine ⟨k, hk, ?_, rounds_reachable h.reachable t k⟩
    rw [Acquired, if_neg hin, hrounds]
    exact ⟨rfl, hheld, rfl, rfl⟩

/-- The second of two threads is suspended in `WriteLock`, after it has published its priority.
Nobody holds the lock, and the first thread has called `ReadLock`. -/
def leftBehind : Threads Nat LockThread Bool :=
  .two (kSpin + 16 * kPrio) ⟨0, 0, .readLoad kPrio⟩ ⟨0, 0, .writeLoad (18 * kPrio)⟩

/-- The suspended thread has left its priority behind. -/
theorem left_behind_reached : ReachedWithin roundsBegun 24 leftBehind := by
  have hcost (th : LockThread) : roundsBegun th ≤ 1 := by
    unfold roundsBegun
    split <;> decide
  have hunlocked := (contended_reached hcost).first hcost .readUnlock
  exact hunlocked.first hcost .callReadLock

/-- The first thread gets the lock for read, though the priority in the word is not its own. -/
theorem left_behind_acquired :
    ∃ k ≤ 18, Acquired (leftBehind.thread true)
      (round^[k] (leftBehind.shared, leftBehind.thread true)) := by
  obtain ⟨n, hn, hreached⟩ := left_behind_reached
  have hnobody : ∀ t, (leftBehind.thread t).reads = 0 ∧ (leftBehind.thread t).writes = 0 := by
    decide
  obtain ⟨k, hk, hacquired, -⟩ :=
    free_lock_is_acquired hreached (lt_of_le_of_lt hn (by decide)) hnobody true rfl
  exact ⟨k, hk.trans (by decide), hacquired⟩

end Progress

end Codon.Util.Lock
