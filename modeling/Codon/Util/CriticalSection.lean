import Codon.Util.Lock

/-!
# Sections that hold the lock

A `WriteLockJanitor` or a `ReadLockJanitor` holds the lock from the end of its constructor to its
destructor. In between its thread accesses the data, one access at a time, with the other threads
going on. `Serial` runs the same sections one after the other, each without a break;
`sections_serial` says that every interleaving gives the data and every section what a serial run
of the finished sections gives them.
-/

namespace Codon.Util.Lock

open Codon.Library

/-- Inside `ReadLock`. -/
def LockPc.inReadLock : LockPc → Bool
  | .readLoad _ | .readTake _ _ | .readPublish _ _ => true
  | _ => false

/-- The section that a thread is in: its memory at the beginning, the accesses of the section, and
those that are left. A writer's access may change the data and the thread's memory, a reader's only
its memory. -/
inductive Janitor (V L : Type) where
  | outside
  | write (entry : L) (body rest : List (V × L → V × L))
  | read (entry : L) (body rest : List (V → L → L))

/-- A thread with its janitor and its own memory. -/
structure Guarded (V L : Type) where
  lock : LockThread
  janitor : Janitor V L
  memory : L

/-- A finished section, with the thread's memory at its beginning and at its end. -/
inductive Finished (V L : Type) where
  | wrote (entry : L) (body : List (V × L → V × L)) (result : L)
  | read (entry : L) (body : List (V → L → L)) (result : L)

/-- The word of the lock, the data, and the sections that have finished, in order. -/
structure Guarding (V L : Type) where
  word : Nat
  data : V
  finished : List (Finished V L)

variable {V L T : Type}

/-- A writer's accesses, one after the other. -/
def doWrites (body : List (V × L → V × L)) (p : V × L) : V × L :=
  body.foldl (fun p access => access p) p

/-- A reader's accesses, one after the other. -/
def doReads (body : List (V → L → L)) (data : V) (memory : L) : L :=
  body.foldl (fun memory access => access data memory) memory

/-- The sections run one after the other, each without a break: `Serial data sections data'`. -/
inductive Serial (data : V) : List (Finished V L) → V → Prop where
  | start : Serial data [] data
  | wrote {sections : List (Finished V L)} {v v' : V} (h : Serial data sections v) {entry : L}
      {body : List (V × L → V × L)} {result : L} (hbody : doWrites body (v, entry) = (v', result)) :
      Serial data (sections ++ [.wrote entry body result]) v'
  | read {sections : List (Finished V L)} {v : V} (h : Serial data sections v) {entry : L}
      {body : List (V → L → L)} {result : L} (hbody : doReads body v entry = result) :
      Serial data (sections ++ [.read entry body result]) v

/-- The steps of a thread: those of the lock inside the janitors' constructors, and one access at a
time in between. -/
inductive JanitorMoves : Guarding V L → Guarded V L → Guarding V L → Guarded V L → Prop where
  | compute {g lock memory} (memory' : L) :
      JanitorMoves g ⟨lock, .outside, memory⟩ g ⟨lock, .outside, memory'⟩
  | constructWrite {g r w memory} (body : List (V × L → V × L)) :
      JanitorMoves g ⟨⟨r, w, .idle⟩, .outside, memory⟩ g
        ⟨⟨r, w, .writeLoad kPrio⟩, .write memory body body, memory⟩
  | constructRead {g r w memory} (body : List (V → L → L)) :
      JanitorMoves g ⟨⟨r, w, .idle⟩, .outside, memory⟩ g
        ⟨⟨r, w, .readLoad kPrio⟩, .read memory body body, memory⟩
  | spin {g lock janitor memory word lock'} (hbusy : lock.pc ≠ .idle)
      (h : LockMoves g.word lock word lock') :
      JanitorMoves g ⟨lock, janitor, memory⟩ { g with word := word } ⟨lock', janitor, memory⟩
  | write {g r w entry body access rest memory} :
      JanitorMoves g ⟨⟨r, w, .idle⟩, .write entry body (access :: rest), memory⟩
        { g with data := (access (g.data, memory)).1 }
        ⟨⟨r, w, .idle⟩, .write entry body rest, (access (g.data, memory)).2⟩
  | read {g r w entry body access rest memory} :
      JanitorMoves g ⟨⟨r, w, .idle⟩, .read entry body (access :: rest), memory⟩ g
        ⟨⟨r, w, .idle⟩, .read entry body rest, access g.data memory⟩
  | destructWrite {g r w entry body memory} :
      JanitorMoves g ⟨⟨r, w + 1, .idle⟩, .write entry body [], memory⟩
        ⟨u64 (g.word + 2 ^ 64 - kWrite), g.data, g.finished ++ [.wrote entry body memory]⟩
        ⟨⟨r, w, .idle⟩, .outside, memory⟩
  | destructRead {g r w entry body memory} :
      JanitorMoves g ⟨⟨r + 1, w, .idle⟩, .read entry body [], memory⟩
        ⟨u64 (g.word + 2 ^ 64 - kRead), g.data, g.finished ++ [.read entry body memory]⟩
        ⟨⟨r, w, .idle⟩, .outside, memory⟩

/-- The lock as it is constructed, and threads that have not begun a section. -/
def unguarded (data : V) (memory : T → L) : Threads (Guarding V L) (Guarded V L) T :=
  ⟨⟨0, data, []⟩, fun t => ⟨⟨0, 0, .idle⟩, .outside, memory t⟩⟩

/-- What the lock sees of it. -/
def ofLock (s : Threads (Guarding V L) (Guarded V L) T) : Threads Nat LockThread T :=
  s.map Guarding.word Guarded.lock

/-- The sections use the lock as any threads use it. -/
theorem lock_moves_of_janitor {g g' : Guarding V L} {th th' : Guarded V L}
    (h : JanitorMoves g th g' th') :
    LockMoves g.word th.lock g'.word th'.lock ∨ g'.word = g.word ∧ th'.lock = th.lock := by
  cases h with
  | compute _ | write | read => exact .inr ⟨rfl, rfl⟩
  | constructWrite _ => exact .inl .callWriteLock
  | constructRead _ => exact .inl .callReadLock
  | spin _ h => exact .inl h
  | destructWrite => exact .inl .writeUnlock
  | destructRead => exact .inl .readUnlock

/-- How a thread's hold on the lock goes with its section. With what the finished sections have
left, and with the data, go the accesses that it has done. -/
inductive Guarded.Agrees (left data : V) : Guarded V L → Prop where
  | outside (memory : L) : Agrees left data ⟨⟨0, 0, .idle⟩, .outside, memory⟩
  | waitsToWrite {pc : LockPc} (hpc : pc.inWriteLock = true) (body : List (V × L → V × L))
      (memory : L) : Agrees left data ⟨⟨0, 0, pc⟩, .write memory body body, memory⟩
  | writes {entry memory : L} {done : List (V × L → V × L)}
      (hdone : doWrites done (left, entry) = (data, memory)) (rest : List (V × L → V × L)) :
      Agrees left data ⟨⟨0, 1, .idle⟩, .write entry (done ++ rest) rest, memory⟩
  | waitsToRead {pc : LockPc} (hpc : pc.inReadLock = true) (body : List (V → L → L)) (memory : L) :
      Agrees left data ⟨⟨0, 0, pc⟩, .read memory body body, memory⟩
  | reads {entry memory : L} {done : List (V → L → L)} (hdone : doReads done left entry = memory)
      (rest : List (V → L → L)) :
      Agrees left data ⟨⟨1, 0, .idle⟩, .read entry (done ++ rest) rest, memory⟩

/-- A thread that does not hold the lock does not see the data. -/
theorem Guarded.Agrees.unheld {left data left' data' : V} {th : Guarded V L}
    (h : th.Agrees left data) (hwrites : th.lock.writes = 0) (hreads : th.lock.reads = 0) :
    th.Agrees left' data' := by
  cases h with
  | outside memory => exact .outside memory
  | waitsToWrite hpc body memory => exact .waitsToWrite hpc body memory
  | writes _ _ => cases hwrites
  | waitsToRead hpc body memory => exact .waitsToRead hpc body memory
  | reads _ _ => cases hreads

/-- A step inside `WriteLock` stays there or takes the lock. -/
theorem write_lock_step {x x' : Nat} {pc : LockPc} {th' : LockThread}
    (h : LockMoves x ⟨0, 0, pc⟩ x' th') (hpc : pc.inWriteLock = true) :
    (∃ pc', th' = ⟨0, 0, pc'⟩ ∧ pc'.inWriteLock = true) ∨ th' = ⟨0, 1, .idle⟩ := by
  cases h with
  | writeLoad =>
      refine .inl ⟨_, rfl, ?_⟩
      unfold writeLockLoaded
      split_ifs <;> rfl
  | writeNotTaken | writePublished | writeNotPublished => exact .inl ⟨_, rfl, rfl⟩
  | writeTaken => exact .inr rfl
  | callWriteLock | callReadLock | readLoad | readTaken | readNotTaken | readPublished
  | readNotPublished | callTryWriteLock | tryWriteLoad | tryWriteTaken | tryWriteNotTaken _
  | callTryReadLock | tryReadLoad | tryReadTaken | tryReadNotTaken _ => cases hpc

/-- A step inside `ReadLock` stays there or takes the lock. -/
theorem read_lock_step {x x' : Nat} {pc : LockPc} {th' : LockThread}
    (h : LockMoves x ⟨0, 0, pc⟩ x' th') (hpc : pc.inReadLock = true) :
    (∃ pc', th' = ⟨0, 0, pc'⟩ ∧ pc'.inReadLock = true) ∨ th' = ⟨1, 0, .idle⟩ := by
  cases h with
  | readLoad =>
      refine .inl ⟨_, rfl, ?_⟩
      unfold readLockLoaded
      split_ifs <;> rfl
  | readNotTaken | readPublished | readNotPublished => exact .inl ⟨_, rfl, rfl⟩
  | readTaken => exact .inr rfl
  | callWriteLock | callReadLock | writeLoad | writeTaken | writeNotTaken | writePublished
  | writeNotPublished | callTryWriteLock | tryWriteLoad | tryWriteTaken | tryWriteNotTaken _
  | callTryReadLock | tryReadLoad | tryReadTaken | tryReadNotTaken _ => cases hpc

/-- With a writer, nobody else holds the lock. -/
theorem Sound.alone {T : Type} [Fintype T] {s : Threads Nat LockThread T} (h : Sound s) {t u : T}
    (hwrites : 0 < (s.thread t).writes) (hne : u ≠ t) :
    (s.thread u).writes = 0 ∧ (s.thread u).reads = 0 := by
  have htwo := add_le_total s LockThread.writes hne
  have hreads := le_total s LockThread.reads u
  have hle : writer s.shared ≤ 1 := Nat.le_of_lt_succ (Nat.mod_lt _ (by decide))
  have hone := le_total s LockThread.writes t
  rw [← h.writer_eq] at htwo hone
  rw [← h.readers_eq] at hreads
  have hexclusive := h.exclusive
  omega

/-- With a reader, nobody holds the lock for write. -/
theorem Sound.no_writer {T : Type} [Fintype T] {s : Threads Nat LockThread T} (h : Sound s)
    {t : T} (hreads : 0 < (s.thread t).reads) (u : T) : (s.thread u).writes = 0 := by
  have hread := le_total s LockThread.reads t
  have hwrite := le_total s LockThread.writes u
  rw [← h.writer_eq] at hwrite
  rw [← h.readers_eq] at hread
  have hexclusive := h.exclusive
  omega

/-- What holds at all times, with what the finished sections have left. -/
structure Guards (data : V) (s : Threads (Guarding V L) (Guarded V L) T) (left : V) : Prop where
  serial : Serial data s.shared.finished left
  threads (t : T) : (s.thread t).Agrees left s.shared.data
  unwritten (h : ∀ t, (s.thread t).lock.writes = 0) : s.shared.data = left

/-- Data that nobody has locked is guarded. -/
theorem unguarded_guards (data : V) (memory : T → L) : Guards data (unguarded data memory) data :=
  ⟨.start, fun t => .outside (memory t), fun _ => rfl⟩

section Steps

variable [DecidableEq T] {data left left' : V} {t : T} {g' : Guarding V L}
  {th th' : Guarded V L} {s s' : Threads (Guarding V L) (Guarded V L) T}

/-- After a step of one thread. -/
theorem Guards.update (hserial : Serial data g'.finished left') (hthread : th'.Agrees left' g'.data)
    (hothers : ∀ u, u ≠ t → (s.thread u).Agrees left' g'.data)
    (hunwritten : th'.lock.writes = 0 → (∀ u, u ≠ t → (s.thread u).lock.writes = 0) →
      g'.data = left') : Guards data ⟨g', Function.update s.thread t th'⟩ left' := by
  refine ⟨hserial, fun u => ?_, fun hwrites => hunwritten ?_ fun u hne => ?_⟩
  · show (Function.update s.thread t th' u).Agrees left' g'.data
    by_cases heq : u = t
    · rw [heq, Function.update_self]
      exact hthread
    · rw [Function.update_of_ne heq]
      exact hothers u heq
  · have hself := hwrites t
    rwa [show (⟨g', Function.update s.thread t th'⟩ : Threads (Guarding V L) (Guarded V L) T).thread
      t = th' from Function.update_self _ _ _] at hself
  · have hother := hwrites u
    rwa [show (⟨g', Function.update s.thread t th'⟩ : Threads (Guarding V L) (Guarded V L) T).thread
      u = s.thread u from Function.update_of_ne hne _ _] at hother

/-- The step changes neither the data nor which threads write. -/
theorem Guards.keep (h : Guards data s left) (hdata : g'.data = s.shared.data)
    (hfinished : g'.finished = s.shared.finished) (hthread : th'.Agrees left s.shared.data)
    (hwrites : (s.thread t).lock.writes = 0) :
    Guards data ⟨g', Function.update s.thread t th'⟩ left := by
  refine .update (hfinished ▸ h.serial) (hdata ▸ hthread) (fun u _ => hdata ▸ h.threads u)
    fun _ hothers => hdata.trans (h.unwritten fun u => ?_)
  by_cases heq : u = t
  · rw [heq]
    exact hwrites
  · exact hothers u heq

/-- Accesses of a writer are made one after the other. -/
theorem do_writes_append (done : List (V × L → V × L)) (access : V × L → V × L) (p : V × L) :
    doWrites (done ++ [access]) p = access (doWrites done p) :=
  List.foldl_append

/-- Accesses of a reader are made one after the other. -/
theorem do_reads_append (done : List (V → L → L)) (access : V → L → L) (data : V) (memory : L) :
    doReads (done ++ [access]) data memory = access data (doReads done data memory) :=
  List.foldl_append

/-- Every step of every thread keeps it; a writer's destructor decides what its section leaves. -/
theorem Guards.step [Fintype T] (h : Guards data s left) (hlock : Sound (ofLock s))
    (hlock' : Sound (ofLock s')) (hstep : Interleaves JanitorMoves s s') :
    ∃ left', Guards data s' left' := by
  cases hstep with
  | @step t g' th' hmove =>
      have hthread := h.threads t
      generalize hth : s.thread t = th at hmove hthread
      cases hmove with
      | compute memory' =>
          cases hthread with
          | outside _ => exact ⟨left, h.keep rfl rfl (.outside memory') (by rw [hth])⟩
      | constructWrite body =>
          cases hthread with
          | outside _ => exact ⟨left, h.keep rfl rfl (.waitsToWrite rfl body _) (by rw [hth])⟩
      | constructRead body =>
          cases hthread with
          | outside _ => exact ⟨left, h.keep rfl rfl (.waitsToRead rfl body _) (by rw [hth])⟩
      | @spin lock janitor memory word lock' hbusy hmove =>
          cases hthread with
          | outside _ => exact absurd rfl hbusy
          | waitsToWrite hpc body _ =>
              obtain ⟨pc', rfl, hpc'⟩ | rfl := write_lock_step hmove hpc
              · exact ⟨left, h.keep rfl rfl (.waitsToWrite hpc' body _) (by rw [hth])⟩
              · -- this thread writes from now on, so nobody wrote before
                have hdata : s.shared.data = left := h.unwritten fun u => by
                  by_cases heq : u = t
                  · rw [heq, hth]
                  · have halone := hlock'.alone (t := t) (u := u)
                      (by simp [ofLock, Threads.map]) heq
                    simpa [ofLock, Threads.map, Function.update_of_ne heq] using halone.1
                have hdone : doWrites [] (left, memory) = (s.shared.data, memory) := by
                  rw [hdata]
                  rfl
                exact ⟨left, h.keep rfl rfl (.writes hdone body) (by rw [hth])⟩
          | writes _ _ => exact absurd rfl hbusy
          | waitsToRead hpc body _ =>
              obtain ⟨pc', rfl, hpc'⟩ | rfl := read_lock_step hmove hpc
              · exact ⟨left, h.keep rfl rfl (.waitsToRead hpc' body _) (by rw [hth])⟩
              · have hdone : doReads [] left memory = memory := rfl
                exact ⟨left, h.keep rfl rfl (.reads hdone body) (by rw [hth])⟩
          | reads _ _ => exact absurd rfl hbusy
      | @write r w entry body access rest memory =>
          cases hthread with
          | waitsToWrite hpc _ _ => cases hpc
          | @writes _ _ done hdone _ =>
              have halone (u : T) (hne : u ≠ t) :=
                hlock.alone (t := t) (u := u) (by simp [ofLock, Threads.map, hth]) hne
              refine ⟨left, .update h.serial ?_ (fun u hne => ?_) fun hnone => by cases hnone⟩
              · have hdone' : doWrites (done ++ [access]) (left, entry) =
                    access (s.shared.data, memory) := by
                  rw [do_writes_append, hdone]
                have hmore := Guarded.Agrees.writes hdone' rest
                rwa [List.append_assoc] at hmore
              · exact (h.threads u).unheld (halone u hne).1 (halone u hne).2
      | @read r w entry body access rest memory =>
          cases hthread with
          | waitsToRead hpc _ _ => cases hpc
          | @reads _ _ done hdone _ =>
              have hdata : s.shared.data = left := h.unwritten fun u =>
                hlock.no_writer (t := t) (by simp [ofLock, Threads.map, hth]) u
              have hdone' : doReads (done ++ [access]) left entry =
                  access s.shared.data memory := by
                rw [do_reads_append, hdone, hdata]
              have hmore : Guarded.Agrees left s.shared.data _ := .reads hdone' rest
              rw [List.append_assoc] at hmore
              exact ⟨left, h.keep rfl rfl hmore (by rw [hth])⟩
      | @destructWrite r w entry body memory =>
          cases hthread with
          | @writes _ _ done hdone _ =>
              have halone (u : T) (hne : u ≠ t) :=
                hlock.alone (t := t) (u := u) (by simp [ofLock, Threads.map, hth]) hne
              rw [List.append_nil]
              refine ⟨s.shared.data, .update (h.serial.wrote hdone) (.outside memory)
                (fun u hne => ?_) fun _ _ => rfl⟩
              exact (h.threads u).unheld (halone u hne).1 (halone u hne).2
      | @destructRead r w entry body memory =>
          cases hthread with
          | @reads _ _ done hdone _ =>
              rw [List.append_nil]
              refine ⟨left, .update (h.serial.read hdone) (.outside memory)
                (fun u _ => h.threads u) fun _ _ => h.unwritten fun u => ?_⟩
              exact hlock.no_writer (t := t) (by simp [ofLock, Threads.map, hth]) u

end Steps

variable [Fintype T] [DecidableEq T] {data : V} {memory : T → L}
  {s : Threads (Guarding V L) (Guarded V L) T}

/-- The lock under critical sections is sound. -/
theorem of_lock_sound (h : Reachable JanitorMoves (unguarded data memory) s) : Sound (ofLock s) :=
  (h.map fun _ _ _ _ => lock_moves_of_janitor).invariant unlocked_sound
    fun _ _ hs hstep => hs.step hstep

/-- In every interleaving of any number of threads, the finished sections have had the effects of a
serial run in the order in which they finished: each ends with the thread's memory that it would
have had without a break, and while nobody writes the data is what they leave together. -/
theorem sections_serial (h : Reachable JanitorMoves (unguarded data memory) s) :
    ∃ left, Serial data s.shared.finished left ∧
      ((∀ t, (s.thread t).lock.writes = 0) → s.shared.data = left) ∧
      ∀ t u, u ≠ t → 0 < (s.thread t).lock.writes →
        (s.thread u).lock.writes = 0 ∧ (s.thread u).lock.reads = 0 := by
  have hguards : ∃ left, Guards data s left := by
    induction h with
    | init => exact ⟨data, unguarded_guards data memory⟩
    | step h hstep ih =>
        obtain ⟨left, hleft⟩ := ih
        exact hleft.step (of_lock_sound h) (of_lock_sound (h.step hstep)) hstep
  obtain ⟨left, hleft⟩ := hguards
  exact ⟨left, hleft.serial, hleft.unwritten, fun t u hne hwrites =>
    (of_lock_sound h).alone (t := t) (u := u) hwrites hne⟩

namespace Sample

/-- Reads the data into the thread's memory, and writes one more. -/
def increment : List (Nat × Nat → Nat × Nat) := [fun p => (p.1, p.1), fun p => (p.2 + 1, p.2)]

/-- Two threads have incremented the data one after the other. -/
def incremented : Threads (Guarding Nat Nat) (Guarded Nat Nat) Bool :=
  .two ⟨0, 9, [.wrote 0 increment 7, .wrote 0 increment 8]⟩ ⟨⟨0, 0, .idle⟩, .outside, 7⟩
    ⟨⟨0, 0, .idle⟩, .outside, 8⟩

/-- The second thread wants to begin its section while the first one is in its own. -/
theorem incremented_reachable : Reachable JanitorMoves (unguarded 7 fun _ => 0) incremented := by
  have hstart : ReachableAt JanitorMoves (fun _ => 0) (unguarded 7 fun _ => 0) 0
      (.two ⟨0, 7, []⟩ ⟨⟨0, 0, .idle⟩, .outside, 0⟩ ⟨⟨0, 0, .idle⟩, .outside, 0⟩) := by
    have hunguarded : unguarded 7 (fun _ => 0) =
        .two ⟨0, 7, []⟩ ⟨⟨0, 0, .idle⟩, .outside, 0⟩ ⟨⟨0, 0, .idle⟩, .outside, 0⟩ :=
      congrArg (Threads.mk _) (funext fun t => by cases t <;> rfl)
    rw [← hunguarded]
    exact .init
  have hload := (hstart.first (.constructWrite increment)).first (.spin (by simp) .writeLoad)
  have hfree : writeLockLoaded kPrio 0 = .writeTake kPrio 0 := by
    rw [writeLockLoaded, if_pos (by decide)]
  rw [hfree] at hload
  have htaken := hload.first (.spin (by simp) .writeTaken)
  -- the second thread finds the lock taken, between the accesses of the first one
  have hspin := (htaken.first .write).second (.constructWrite increment)
  have hload := hspin.second (.spin (by simp) .writeLoad)
  have hheld : writeLockLoaded kPrio kWrite = .writeLoad (2 * kPrio) := by
    rw [writeLockLoaded, if_neg (by decide), if_neg (by decide)]
    rfl
  rw [hheld] at hload
  have hleft := (hload.first .write).first .destructWrite
  have hload := hleft.second (.spin (by simp) .writeLoad)
  have hfree : writeLockLoaded (2 * kPrio) 0 = .writeTake (2 * kPrio) 0 := by
    rw [writeLockLoaded, if_pos (by decide)]
  have hword : u64 (kWrite + 2 ^ 64 - kWrite) = 0 := by decide
  simp only [hword, hfree] at hload
  have htaken := hload.second (.spin (by simp) .writeTaken)
  have hdone := ((htaken.second .write).second .write).second .destructWrite
  simp only [hword] at hdone
  exact hdone.reachable

/-- Two threads that contend increment one after the other. -/
theorem incremented_serial :
    ∃ left, Serial 7 [.wrote 0 increment 7, .wrote 0 increment 8] left ∧ 9 = left := by
  obtain ⟨left, hserial, hdata, -⟩ := sections_serial incremented_reachable
  exact ⟨left, hserial, hdata (by decide)⟩

end Sample

end Codon.Util.Lock
