import Codon.Io.FdStreamChannel
import Codon.Library.Run

/-!
# Flow control of stream channels

A run of a stream channel: descriptors are assigned, clients commit, pop, clear and close, and the
descriptor is ready to be read or written, where handlers commit, pop and clear. The sink takes
all changes of its events and there are no errors of the descriptor.

Write events are switched on by a commit and off once nothing is left; read events are switched
off when the read buffer is full and on by a pop or a clear. A pop of no bytes and a clear of an
empty buffer do not switch them on. Main result: `flow_controlled`.
-/

namespace Codon.Io

open Codon.Library

/-- The sink takes the changes of its events. -/
def StreamCall.Taken : StreamCall → Prop
  | .commit _ added | .popFront _ added | .clear added => added = true
  | .close removed => removed = true

/-- A call that handlers make: not `close`. -/
def StreamCall.OfHandler (call : StreamCall) : Prop :=
  call.Taken ∧ ∀ removed, call ≠ .close removed

/-- An emission whose handlers only make such calls. -/
def StreamEmission.Allowed (signal : StreamEmission) : Prop :=
  ∀ call ∈ signal.calls, call.OfHandler

/-- A read event without errors. -/
def StreamReadEvent.Allowed (e : StreamReadEvent) : Prop :=
  e.makeRoom.Allowed ∧ e.newData.Allowed ∧ e.removed = true ∧ e.broken = false

/-- A write event without errors. -/
def StreamWriteEvent.Allowed (e : StreamWriteEvent) : Prop :=
  e.askForData.Allowed ∧ e.moreData.Allowed ∧ e.removed = true ∧ e.broken = false

/-- What happens to a channel. -/
inductive StreamOp where
  | assign (sink fd : Nat) (reads writes : Bool)
  | call (call : StreamCall)
  | read (e : StreamReadEvent)
  | write (e : StreamWriteEvent)

/-- The assumptions of a run. -/
def StreamOp.Allowed : StreamOp → Prop
  | .assign _ _ _ _ => True
  | .call made => made.Taken
  | .read e => e.Allowed
  | .write e => e.Allowed

namespace FdStreamChannel

/-- The sink closes itself if a handler of an event fails, and has the channel called. -/
def settle (event : FdEvent) (result : Bool × FdStreamChannel) : FdStreamChannel :=
  if result.1 || result.2.fes.isNone then result.2 else (result.2.handleFdClose event true).2

/-- One operation. An event is only emitted while it is switched on. -/
def step (c : FdStreamChannel) : StreamOp → FdStreamChannel
  | .assign sink fd reads writes => (c.assignFd sink fd reads writes).2
  | .call call => c.call call
  | .read e =>
      match c.fes with
      | none => c
      | some s =>
          if s.readEv then settle ⟨s.sink, s.fd⟩ (c.handleFdRead ⟨s.sink, s.fd⟩ e) else c
  | .write e =>
      match c.fes with
      | none => c
      | some s =>
          if s.writeEv then settle ⟨s.sink, s.fd⟩ (c.handleFdWrite ⟨s.sink, s.fd⟩ e) else c

variable {c : FdStreamChannel} {s : FdEventSink}

/-! ## The invariant -/

/-- Write events are switched on while there is something to be written. -/
def Writes (c : FdStreamChannel) : Prop :=
  ∀ s ∈ c.fes, c.canWrite = true → c.input ≠ [] → s.writeEv = true

/-- While a channel that reads has its read events switched off, the read buffer was full at the
last read event, and no pop or clear has removed anything since. -/
def Reads (c : FdStreamChannel) : Prop :=
  ∀ s ∈ c.fes, c.canRead = true → c.isClosedFlag = false → s.readEv = false →
    c.history.fullAtRead = true ∧ ∀ n ∈ c.history.freedSince, n = 0

/-- What holds throughout a run, besides `Writes` and `Reads`. -/
structure Sound (c : FdStreamChannel) : Prop where
  writes : c.Writes
  reads : c.Reads
  bounded : c.output.length ≤ c.size
  balanced : c.fes.isSome = true → c.history.written ++ c.input = c.history.committed
  inOrder : c.history.written <+: c.history.committed
  closing : ∀ s ∈ c.fes, c.history.closeCalled = true → c.isClosedFlag = true
  pending : ∀ s ∈ c.fes, c.isClosedFlag = true → s.readEv = false
  flushed : c.history.closeCalled = true → c.fes = none →
    c.history.written = c.history.committed
  drained : c.fes = none → c.input = []

/-- A channel without a descriptor. -/
theorem Sound.of_lost (hlost : c.fes = none) (hbounded : c.output.length ≤ c.size)
    (hinOrder : c.history.written <+: c.history.committed)
    (hflushed : c.history.closeCalled = true → c.history.written = c.history.committed)
    (hdrained : c.input = []) : c.Sound where
  writes _ h := by cases hlost.symm.trans h
  reads _ h := by cases hlost.symm.trans h
  bounded := hbounded
  balanced h := by simp [hlost] at h
  inOrder := hinOrder
  closing _ h := by cases hlost.symm.trans h
  pending _ h := by cases hlost.symm.trans h
  flushed h _ := hflushed h
  drained _ := hdrained

/-- A new channel is sound. -/
theorem create_sound (size : Nat) : (create size).Sound :=
  .of_lost rfl (Nat.zero_le _) List.prefix_rfl nofun rfl

/-! ## Calls -/

/-- A handle that is held is used without harm. -/
theorem use_of_held (h : c.fes = some s) : c.use = c := by
  have hheld : c.fes.isSome = true := by rw [h]; rfl
  simp [use, hheld]

/-- What the sink takes, its events are. -/
theorem switch_taken (h : c.fes = some s) (ev : FdEv) (on : Bool) :
    c.switchEvents ev on true = { c with fes := some (s.switch ev on) } := by
  simp [switchEvents, use_of_held h, h]

/-- A channel is open exactly if it was not closed and holds its handle. -/
theorem open_iff : c.isClosed = false ↔ c.isClosedFlag = false ∧ ∃ s, c.fes = some s := by
  unfold isClosed
  cases c.fes <;> simp

/-- A change of the read buffer that switches read events on, as far as the channel reads. -/
theorem resume_reading_cases (c : FdStreamChannel) :
    (∃ s, c.fes = some s ∧ c.isClosedFlag = false ∧ c.canRead = true ∧
      (c.resumeReading true).2 = { c with fes := some (s.switch .read true) }) ∨
    (c.isClosedFlag = true ∨ c.fes = none ∨ c.canRead = false) ∧ (c.resumeReading true).2 = c := by
  unfold resumeReading
  cases hclosed : c.isClosed with
  | true =>
      refine .inr ⟨?_, by simp⟩
      unfold isClosed at hclosed
      cases hfes : c.fes <;> simp_all
  | false =>
      obtain ⟨hflag, s, hs⟩ := open_iff.1 hclosed
      cases hread : c.canRead with
      | false => exact .inr ⟨.inr (.inr rfl), by simp⟩
      | true =>
          refine .inl ⟨s, hs, hflag, rfl, ?_⟩
          simp [switch_taken hs, hread]

/-- A pop or a clear of the read buffer. -/
theorem Sound.freed (h : c.Sound) (output : List UInt8) (hlen : output.length ≤ c.output.length)
    (bytes : Nat) :
    ((FdStreamChannel.freed { c with output } bytes).resumeReading true).2.Sound := by
  obtain ⟨s, hs, hflag, hread, heq⟩ | ⟨hquiet, heq⟩ :=
    resume_reading_cases (FdStreamChannel.freed { c with output } bytes)
  · replace hs : c.fes = some s := hs
    rw [heq]
    refine ⟨?_, ?_, Nat.le_trans hlen h.bounded, fun _ => h.balanced (by rw [hs]; rfl), h.inOrder,
      fun s' hs' => h.closing s hs, ?_, fun _ hnone => (by cases hnone),
      fun hnone => by cases hnone⟩
    · rintro s' ⟨⟩
      exact h.writes s hs
    · rintro s' ⟨⟩ _ _ hoff
      cases hoff
    · rintro s' ⟨⟩ hclosed
      cases hflag.symm.trans hclosed
  · rw [heq]
    refine ⟨h.writes, ?_, Nat.le_trans hlen h.bounded, h.balanced, h.inOrder, h.closing,
      h.pending, h.flushed, h.drained⟩
    intro s hs hread hflag _
    obtain hclosed | hnone | hnot := hquiet
    · cases hflag.symm.trans hclosed
    · cases hs.symm.trans hnone
    · cases hread.symm.trans hnot

/-- Where nothing is removed, the events stay as they are. -/
theorem Sound.freed_nothing (h : c.Sound) : (c.freed 0).Sound := by
  refine ⟨h.writes, ?_, h.bounded, h.balanced, h.inOrder, h.closing, h.pending, h.flushed,
    h.drained⟩
  intro s hs hread hflag hoff
  obtain ⟨hfull, hzero⟩ := h.reads s hs hread hflag hoff
  refine ⟨hfull, fun n hn => ?_⟩
  obtain hold | hnew := List.mem_append.1 hn
  · exact hzero n hold
  · exact List.mem_singleton.1 hnew

/-- A commit switches write events on. -/
theorem Sound.commit (h : c.Sound) (bytes : List UInt8) : (c.commit bytes true).2.Sound := by
  unfold FdStreamChannel.commit
  cases hclosed : c.isClosed with
  | true => exact h
  | false =>
      obtain ⟨hflag, s, hs⟩ := open_iff.1 hclosed
      have hheld : c.fes.isSome = true := by rw [hs]; rfl
      rw [if_neg Bool.false_ne_true]
      unfold channelCommitDataframe
      split_ifs with _ hnone
      · exact h
      · simp [hs] at hnone
      · rw [switch_taken (c := c.take bytes) hs]
        have hbalanced := h.balanced hheld
        refine ⟨?_, ?_, h.bounded, fun _ => ?_, ?_, fun s' _ => h.closing s hs, ?_,
          fun _ hnone => (by cases hnone), fun hnone => by cases hnone⟩
        · rintro s' ⟨⟩ _ _
          rfl
        · rintro s' ⟨⟩
          exact h.reads s hs
        · exact (List.append_assoc ..).symm.trans (congrArg (· ++ bytes) hbalanced)
        · exact h.inOrder.trans (List.prefix_append ..)
        · rintro s' ⟨⟩
          exact h.pending s hs

/-! ## Closing -/

/-- What the end of reading does with a sink. -/
theorem stop_reading_eq (hs : c.fes = some s) (fesClosed : Bool) :
    c.stopReading fesClosed true = { c with
      isClosedFlag := true
      input := if fesClosed then [] else c.input
      fes := some (s.switch .read false) } :=
  switch_taken (c := { c with isClosedFlag := true, input := if fesClosed then [] else c.input })
    hs .read false

/-- The descriptor is closed if there is nothing to be written, or the sink is closed. -/
theorem channel_close_drops (hs : c.fes = some s) {fesClosed : Bool}
    (hempty : fesClosed = true ∨ c.input = []) :
    c.channelClose fesClosed true =
      (true, FdStreamChannel.drop { c with isClosedFlag := true, input := [] }) := by
  have hinput : (if fesClosed then [] else c.input) = [] := by
    obtain rfl | hnil := hempty
    · rfl
    · rw [hnil, ite_self]
  have hheld : c.fes.isNone = false := by rw [hs]; rfl
  rw [channelClose, stop_reading_eq hs]
  simp [hheld, hinput, FdStreamChannel.drop]

/-- Otherwise it is kept for writing. -/
theorem channel_close_waits (hs : c.fes = some s) (hinput : c.input ≠ []) :
    c.channelClose false true =
      (true, { c with isClosedFlag := true, fes := some (s.switch .read false) }) := by
  have hheld : c.fes.isNone = false := by rw [hs]; rfl
  rw [channelClose, stop_reading_eq hs]
  simp [hheld, hinput]

/-- Where a sink is closed, what has not been written is lost, unless there is nothing. -/
theorem Sound.drop (h : c.Sound) (hs : c.fes = some s)
    (hflushed : c.history.closeCalled = true → c.input = []) :
    (FdStreamChannel.drop { c with isClosedFlag := true, input := [] }).Sound := by
  refine .of_lost rfl h.bounded h.inOrder (fun hcalled => ?_) rfl
  have hbalanced := h.balanced (by rw [hs]; rfl)
  rwa [hflushed hcalled, List.append_nil] at hbalanced

/-- The channel is closed by a client: it is kept open for writing as long as there is something to
be written. -/
theorem Sound.close (h : c.Sound) : (c.close true).2.Sound := by
  rw [FdStreamChannel.close]
  by_cases hlost : c.fes = none
  · have hclose : FdStreamChannel.channelClose { c with
        history.closeCalled := c.history.closeCalled || c.fes.isSome } false true =
        (true, { c with isClosedFlag := true, input := [] }) := by
      simp [channelClose, hlost]
    rw [hclose]
    exact .of_lost hlost h.bounded h.inOrder (fun hcalled => h.flushed hcalled hlost) rfl
  · obtain ⟨s, hs⟩ := Option.ne_none_iff_exists'.1 hlost
    have hheld : c.fes.isSome = true := by rw [hs]; rfl
    have hbalanced := h.balanced hheld
    by_cases hinput : c.input = []
    · rw [channel_close_drops (c := { c with
        history.closeCalled := c.history.closeCalled || c.fes.isSome }) hs (.inr hinput)]
      refine .of_lost rfl h.bounded h.inOrder (fun _ => ?_) rfl
      rwa [hinput, List.append_nil] at hbalanced
    · rw [channel_close_waits (c := { c with
        history.closeCalled := c.history.closeCalled || c.fes.isSome }) hs hinput]
      refine ⟨?_, ?_, h.bounded, fun _ => hbalanced, h.inOrder, fun _ _ _ => rfl, ?_,
        fun _ hnone => (by cases hnone), fun hnone => by cases hnone⟩
      · rintro s' ⟨⟩
        exact h.writes s hs
      · rintro s' ⟨⟩ _ hopen
        cases hopen
      · rintro s' ⟨⟩ _
        rfl

/-- A call of a client. -/
theorem Sound.call (h : c.Sound) {made : StreamCall} (htaken : made.Taken) :
    (c.call made).Sound := by
  cases made with
  | commit bytes added =>
      obtain rfl : added = true := htaken
      exact h.commit bytes
  | popFront bytes added =>
      obtain rfl : added = true := htaken
      show (c.popFront bytes true).2.Sound
      unfold popFront
      split_ifs
      · exact h.freed_nothing
      · exact h
      · exact h.freed (c.output.drop bytes) (List.length_drop ▸ Nat.sub_le ..) bytes
  | clear added =>
      obtain rfl : added = true := htaken
      show (c.clear true).2.Sound
      unfold FdStreamChannel.clear
      split_ifs
      · exact h.freed_nothing
      · exact h.freed [] (Nat.zero_le _) _
  | close removed =>
      obtain rfl : removed = true := htaken
      exact h.close

/-! ## Calls of handlers -/

/-- What the calls of handlers leave as it is. Read events stay switched on, and what is removed
from the read buffer makes it shorter. -/
structure Steady (c c' : FdStreamChannel) : Prop where
  size : c'.size = c.size
  flag : c'.isClosedFlag = c.isClosedFlag
  held : c'.fes.isSome = c.fes.isSome
  canRead : c'.canRead = c.canRead
  readEv : c.fes.any FdEventSink.readEv = true → c'.fes.any FdEventSink.readEv = true
  fullAtRead : c'.history.fullAtRead = c.history.fullAtRead
  closeCalled : c'.history.closeCalled = c.history.closeCalled
  shorter : c'.output.length ≤ c.output.length
  freed : (∀ n ∈ c.history.freedSince, n = 0) →
    c'.output.length < c.output.length ∨ ∀ n ∈ c'.history.freedSince, n = 0

/-- Nothing need change. -/
theorem Steady.refl (c : FdStreamChannel) : Steady c c :=
  ⟨rfl, rfl, rfl, rfl, id, rfl, rfl, Nat.le_refl _, .inr⟩

/-- Steady changes follow each other. -/
theorem Steady.trans {c c' c'' : FdStreamChannel} (h : Steady c c') (h' : Steady c' c'') :
    Steady c c'' where
  size := h'.size.trans h.size
  flag := h'.flag.trans h.flag
  held := h'.held.trans h.held
  canRead := h'.canRead.trans h.canRead
  readEv := h'.readEv ∘ h.readEv
  fullAtRead := h'.fullAtRead.trans h.fullAtRead
  closeCalled := h'.closeCalled.trans h.closeCalled
  shorter := Nat.le_trans h'.shorter h.shorter
  freed hzero := by
    obtain hless | hzero' := h.freed hzero
    · exact .inl (Nat.lt_of_le_of_lt h'.shorter hless)
    · obtain hless | hzero'' := h'.freed hzero'
      · exact .inl (Nat.lt_of_lt_of_le hless h.shorter)
      · exact .inr hzero''

/-- Asking for events is steady. -/
theorem steady_switch (hs : c.fes = some s) (ev : FdEv) :
    Steady c (c.switchEvents ev true true) := by
  rw [switch_taken hs]
  refine ⟨rfl, rfl, by simp [hs], rfl, fun hread => ?_, rfl, rfl, Nat.le_refl _, .inr⟩
  rw [hs] at hread
  cases ev with
  | read => rfl
  | write => exact hread

/-- Resuming to read is steady. -/
theorem steady_resume (c : FdStreamChannel) : Steady c (c.resumeReading true).2 := by
  obtain ⟨s, hs, -, -, heq⟩ | ⟨-, heq⟩ := resume_reading_cases c
  · rw [heq, ← switch_taken hs]
    exact steady_switch hs .read
  · rw [heq]
    exact .refl c

/-- Bytes are removed, or none. -/
theorem steady_freed (output : List UInt8) {bytes : Nat}
    (hshorter : output.length ≤ c.output.length)
    (hless : bytes ≠ 0 → output.length < c.output.length) :
    Steady c (FdStreamChannel.freed { c with output } bytes) := by
  refine ⟨rfl, rfl, rfl, rfl, id, rfl, rfl, hshorter, fun hzero => ?_⟩
  by_cases hbytes : bytes = 0
  · refine .inr fun n hn => ?_
    obtain hold | hnew := List.mem_append.1 hn
    · exact hzero n hold
    · exact (List.mem_singleton.1 hnew).trans hbytes
  · exact .inl (hless hbytes)

/-- A call of a handler is steady. -/
theorem steady_call {made : StreamCall} (hhandler : made.OfHandler) : Steady c (c.call made) := by
  obtain ⟨htaken, hnot⟩ := hhandler
  cases made with
  | commit bytes added =>
      obtain rfl : added = true := htaken
      show Steady c (c.commit bytes true).2
      unfold FdStreamChannel.commit channelCommitDataframe
      split_ifs with hopen
      · exact .refl c
      · exact .refl c
      · exact ⟨rfl, rfl, rfl, rfl, id, rfl, rfl, Nat.le_refl _, .inr⟩
      · -- write events are switched on only where the buffer was empty before
        obtain ⟨-, s, hs⟩ := open_iff.1 (by simpa using hopen)
        have htake : Steady c (c.take bytes) :=
          ⟨rfl, rfl, rfl, rfl, id, rfl, rfl, Nat.le_refl _, .inr⟩
        exact htake.trans (steady_switch (c := c.take bytes) hs .write)
  | popFront bytes added =>
      obtain rfl : added = true := htaken
      show Steady c (c.popFront bytes true).2
      unfold popFront
      split_ifs with hbytes hlong
      · exact steady_freed c.output (Nat.le_refl _) (absurd rfl)
      · exact .refl c
      · refine (steady_freed (c.output.drop bytes) ?_ fun _ => ?_).trans (steady_resume _)
        all_goals
          rw [List.length_drop]
          omega
  | clear added =>
      obtain rfl : added = true := htaken
      show Steady c (c.clear true).2
      unfold FdStreamChannel.clear
      split_ifs with hempty
      · exact steady_freed c.output (Nat.le_refl _) (absurd rfl)
      · refine (steady_freed [] (Nat.zero_le _) fun hbytes => ?_).trans
          (steady_resume _)
        exact Nat.pos_of_ne_zero hbytes
  | close removed => exact absurd rfl (hnot removed)

/-- Handlers keep the invariant, and leave these things as they are. -/
theorem Sound.make (h : c.Sound) {signal : StreamEmission} (hallowed : signal.Allowed) :
    (c.make signal.calls).Sound ∧ Steady c (c.make signal.calls) := by
  obtain ⟨calls, result⟩ := signal
  unfold StreamEmission.Allowed at hallowed
  unfold FdStreamChannel.make
  induction calls generalizing c with
  | nil => exact ⟨h, .refl c⟩
  | cons made calls ih =>
      have hmade := hallowed made (.head _)
      obtain ⟨hsound, hsteady⟩ := ih (h.call hmade.1) fun call hcall =>
        hallowed call (.tail _ hcall)
      exact ⟨hsound, (steady_call hmade).trans hsteady⟩

/-! ## Events -/

/-- What a handler of an event leaves: if it fails after `close`, there is nothing left to be
written. -/
def Settles (result : Bool × FdStreamChannel) : Prop :=
  result.2.Sound ∧
    (result.1 = false → result.2.history.closeCalled = true → result.2.input = [])

/-- The sink leaves a sound channel behind. -/
theorem Settles.sound {result : Bool × FdStreamChannel} (h : Settles result) (event : FdEvent) :
    (settle event result).Sound := by
  obtain ⟨ok, after⟩ := result
  obtain ⟨hsound, hflushed⟩ := h
  unfold settle
  split_ifs with hstays
  · exact hsound
  · simp only [Bool.or_eq_true, not_or, Bool.not_eq_true] at hstays
    obtain ⟨hfailed, hheld⟩ := hstays
    obtain ⟨s, hs⟩ := Option.isSome_iff_exists.1 (by simpa using hheld)
    have hclosed := hsound.drop hs (hflushed hfailed)
    rwa [handleFdClose, channel_close_drops hs (.inl rfl)]

/-- Before `close` the invariant is enough. -/
theorem Settles.of_sound {result : Bool × FdStreamChannel} (h : result.2.Sound)
    (hopen : result.2.history.closeCalled = false) : Settles result :=
  ⟨h, fun _ hcalled => by cases hopen.symm.trans hcalled⟩

/-- A sound channel settles if the handler succeeds. -/
theorem Settles.of_success {after : FdStreamChannel} (h : after.Sound) : Settles (true, after) :=
  ⟨h, fun hfailed => by cases hfailed⟩

/-- Read events are switched off where the buffer is full, as it was when the event came. -/
theorem Sound.stop_reading (h : c.Sound) (hs : c.fes = some s)
    (hfull : c.history.fullAtRead = true ∧ ∀ n ∈ c.history.freedSince, n = 0) :
    (c.switchEvents .read false true).Sound := by
  rw [switch_taken hs]
  refine ⟨?_, fun _ _ _ _ _ => hfull, h.bounded, fun _ => h.balanced (by rw [hs]; rfl),
    h.inOrder, fun _ _ => h.closing s hs, ?_, fun _ hnone => (by cases hnone),
    fun hnone => by cases hnone⟩
  · rintro s' ⟨⟩
    exact h.writes s hs
  · rintro s' ⟨⟩ _
    rfl

/-- What is read is put into the read buffer. -/
theorem Sound.receive (h : c.Sound) (hs : c.fes = some s)
    (hopen : c.history.closeCalled = false)
    (hfull : c.Full → c.history.fullAtRead = true ∧ ∀ n ∈ c.history.freedSince, n = 0)
    {e : StreamReadEvent} (hallowed : e.Allowed) : Settles (c.receive e) := by
  obtain ⟨-, hnewData, hremoved, -⟩ := hallowed
  unfold FdStreamChannel.receive
  by_cases hnow : c.Full
  · rw [if_pos hnow, hremoved]
    exact .of_success (h.stop_reading hs (hfull hnow))
  · rw [if_neg hnow, use_of_held hs]
    cases e.received with
    | none => exact .of_sound h hopen
    | some available =>
        simp only
        split_ifs
        · exact .of_sound h hopen
        · have hroom : c.output.length < c.size := Nat.not_le.1 hnow
          have hread : Sound { c with
              output := c.output ++ available.take (c.size - c.output.length) } := by
            refine ⟨h.writes, h.reads, ?_, h.balanced, h.inOrder, h.closing, h.pending,
              h.flushed, h.drained⟩
            simp only [List.length_append, List.length_take]
            omega
          obtain ⟨hsound, hsteady⟩ := hread.make hnewData
          exact .of_sound hsound (hsteady.closeCalled.trans hopen)

/-- A read event that is switched on. -/
theorem Sound.handle_fd_read (h : c.Sound) (hs : c.fes = some s) (hread : s.readEv = true)
    {e : StreamReadEvent} (hallowed : e.Allowed) :
    Settles (c.handleFdRead ⟨s.sink, s.fd⟩ e) := by
  have hown : c.OwnEvent ⟨s.sink, s.fd⟩ := ⟨s, hs, rfl, rfl⟩
  have hflag : c.isClosedFlag ≠ true := fun hclosed => by
    cases hread.symm.trans (h.pending s hs hclosed)
  have hopen : c.history.closeCalled = false := by
    simpa using mt (h.closing s hs) hflag
  have hatRead : c.atRead.Sound := by
    refine ⟨h.writes, fun s' hs' _ _ hoff => ?_, h.bounded, h.balanced, h.inOrder, h.closing,
      h.pending, h.flushed, h.drained⟩
    obtain rfl : s = s' := Option.some.inj (hs.symm.trans hs')
    cases hread.symm.trans hoff
  have hroom : (c.withRoom e).Sound ∧ Steady c.atRead (c.withRoom e) := by
    unfold withRoom
    split_ifs
    · exact hatRead.make hallowed.1
    · exact ⟨hatRead, .refl _⟩
  obtain ⟨hsound, hsteady⟩ := hroom
  have hopen' := hsteady.closeCalled.trans hopen
  unfold handleFdRead
  rw [if_neg (not_not.2 hown)]
  split_ifs
  · exact .of_sound hsound hopen'
  · obtain ⟨s', hs'⟩ := Option.isSome_iff_exists.1 (hsteady.held.trans (by simp [atRead, hs]))
    refine hsound.receive hs' hopen' (fun hfull => ?_) hallowed
    -- the buffer is full after the handlers, so that it was full before and nothing was removed
    have hfull' : c.size ≤ (c.withRoom e).output.length := hsteady.size ▸ hfull
    have hshorter : (c.withRoom e).output.length ≤ c.output.length := hsteady.shorter
    have hbounded := h.bounded
    constructor
    · rw [hsteady.fullAtRead]
      exact decide_eq_true (Nat.le_trans hfull' hshorter)
    · refine (hsteady.freed fun n hn => by cases hn).resolve_left fun hless => ?_
      exact absurd (Nat.le_trans hbounded hfull') (Nat.not_le.2 hless)

/-- The end of a write event. -/
theorem Sound.finish_writing (h : c.Sound) : Settles (c.finishWriting true) := by
  unfold finishWriting
  cases hclosed : c.isClosed with
  | true =>
      simp only [Bool.not_true, Bool.false_eq_true, if_false]
      exact ⟨h, fun hempty _ => by simpa using hempty⟩
  | false =>
      obtain ⟨hflag, s, hs⟩ := open_iff.1 hclosed
      simp only [Bool.not_false, if_true]
      split_ifs with hinput
      · rw [switch_taken hs]
        refine .of_success ⟨?_, ?_, h.bounded, fun _ => h.balanced (by rw [hs]; rfl), h.inOrder,
          fun _ _ => h.closing s hs, ?_, fun _ hnone => (by cases hnone),
          fun hnone => by cases hnone⟩
        · intro _ _ _ hdata
          exact absurd (List.isEmpty_iff.1 hinput) hdata
        · rintro s' ⟨⟩
          exact h.reads s hs
        · rintro s' ⟨⟩
          exact h.pending s hs
      · exact .of_success h

/-- While the channel is open `close` was not called. -/
theorem Sound.not_called (h : c.Sound) (hopen : c.isClosed = false) :
    c.history.closeCalled = false := by
  obtain ⟨hflag, s, hs⟩ := open_iff.1 hopen
  have hnot : c.isClosedFlag ≠ true := fun hclosed => by cases hflag.symm.trans hclosed
  simpa using mt (h.closing s hs) hnot

/-- What follows a write settles. -/
theorem Sound.after_writing (h : c.Sound) (wasEmpty : Bool) {e : StreamWriteEvent}
    (hallowed : e.Allowed) : Settles (c.afterWriting wasEmpty e) := by
  obtain ⟨-, hmoreData, hremoved, -⟩ := hallowed
  unfold afterWriting
  rw [hremoved]
  split_ifs with hasks
  · exact (h.make hmoreData).1.finish_writing
  · obtain ⟨hsound, hsteady⟩ := h.make hmoreData
    exact .of_sound hsound (hsteady.closeCalled.trans (h.not_called hasks.1))
  · exact h.finish_writing

/-- What the descriptor takes is removed from the write buffer. -/
theorem Sound.write_out (h : c.Sound) (hs : c.fes = some s) {e : StreamWriteEvent}
    (hallowed : e.Allowed) : Settles (c.writeOut e) := by
  have hbroken := hallowed.2.2.2
  have hbalanced := h.balanced (by rw [hs]; rfl)
  unfold writeOut
  split_ifs with hinput
  · exact h.after_writing true hallowed
  · rw [use_of_held hs]
    cases e.accepted with
    | none =>
        rw [hbroken]
        exact .of_success h
    | some n =>
        have hmoved : c.history.written ++ c.input.take n ++ c.input.drop n =
            c.history.committed := by
          rw [List.append_assoc, List.take_append_drop, hbalanced]
        have hwritten : Sound { c with
            input := c.input.drop n
            history.written := c.history.written ++ c.input.take n } := by
          refine ⟨fun s' hs' hwrites hdata => ?_, h.reads, h.bounded, fun _ => hmoved,
            ⟨c.input.drop n, hmoved⟩, h.closing, h.pending, fun _ hnone => ?_, fun hnone => ?_⟩
          · refine h.writes s' hs' hwrites fun hnil => hdata ?_
            show c.input.drop n = []
            rw [hnil, List.drop_nil]
          · cases hs.symm.trans hnone
          · cases hs.symm.trans hnone
        exact hwritten.after_writing false hallowed

/-- A write event. -/
theorem Sound.handle_fd_write (h : c.Sound) (hs : c.fes = some s) {e : StreamWriteEvent}
    (hallowed : e.Allowed) : Settles (c.handleFdWrite ⟨s.sink, s.fd⟩ e) := by
  have hown : c.OwnEvent ⟨s.sink, s.fd⟩ := ⟨s, hs, rfl, rfl⟩
  have hdata : (c.withData e).Sound ∧ Steady c (c.withData e) := by
    unfold withData
    split_ifs
    · exact h.make hallowed.1
    · exact ⟨h, .refl c⟩
  obtain ⟨hsound, hsteady⟩ := hdata
  unfold handleFdWrite
  rw [if_neg (not_not.2 hown)]
  split_ifs with hfailed
  · exact .of_sound hsound (hsteady.closeCalled.trans (h.not_called hfailed.1.1))
  · obtain ⟨s', hs'⟩ := Option.isSome_iff_exists.1 (hsteady.held.trans (by simp [hs]))
    exact hsound.write_out hs' hallowed

/-! ## Runs -/

/-- A channel that is assigned a descriptor is sound. -/
theorem Sound.assign_fd (h : c.Sound) (sink fd : Nat) (reads writes : Bool) :
    (c.assignFd sink fd reads writes).2.Sound := by
  unfold assignFd
  split_ifs with hheld
  · exact h
  · exact h
  · have hinput := h.drained (by simpa using hheld)
    refine ⟨fun _ _ _ hdata => absurd hinput hdata, ?_, h.bounded, fun _ => hinput,
      List.prefix_rfl, ?_, ?_, fun hcalled => (by cases hcalled), fun hnone => by cases hnone⟩
    · rintro s ⟨⟩ hreads _ hoff
      cases hreads.symm.trans hoff
    · rintro s ⟨⟩ hcalled
      cases hcalled
    · rintro s ⟨⟩ hclosed
      cases hclosed

/-- Every operation keeps a channel sound. -/
theorem Sound.step (h : c.Sound) {op : StreamOp} (hallowed : op.Allowed) : (c.step op).Sound := by
  cases op with
  | assign sink fd reads writes => exact h.assign_fd sink fd reads writes
  | call made => exact h.call hallowed
  | read e =>
      unfold FdStreamChannel.step
      cases hs : c.fes with
      | none => exact h
      | some s =>
          simp only
          split_ifs with hread
          · exact (h.handle_fd_read hs hread hallowed).sound _
          · exact h
  | write e =>
      unfold FdStreamChannel.step
      cases hs : c.fes with
      | none => exact h
      | some s =>
          simp only
          split_ifs
          · exact (h.handle_fd_write hs hallowed).sound _
          · exact h

/-- Flow control and delivery. Write events are switched on while there is something to be written.
While a channel that reads has its read events switched off, the read buffer was full at the
last read event and no pop or clear has removed anything since. The bytes written to the
descriptor are a prefix of those committed. After `close` the descriptor is only closed once all
of them have been written. -/
def FlowControlled (c : FdStreamChannel) : Prop :=
  c.Writes ∧ c.Reads ∧ c.history.written <+: c.history.committed ∧
    (c.history.closeCalled = true → c.fes = none →
      c.input = [] ∧ c.history.written = c.history.committed)

/-- A sound channel controls its flow. -/
theorem Sound.flow_kept (h : c.Sound) : c.FlowControlled :=
  ⟨h.writes, h.reads, h.inOrder,
    fun hcalled hlost => ⟨h.drained hlost, h.flushed hcalled hlost⟩⟩

end FdStreamChannel

open FdStreamChannel in
/-- In every state of a run the channel has its flow controlled. -/
theorem flow_controlled (size : Nat) {ops : List StreamOp} (hallowed : ∀ op ∈ ops, op.Allowed) :
    (run step (create size) ops).FlowControlled := by
  refine Sound.flow_kept ?_
  exact run_invariant_of_mem (create_sound size) fun op hop _ h => h.step (hallowed op hop)

namespace Sample

/-- A descriptor with two bytes for a buffer of two bytes, and a read event when it is full. -/
def fillBuffer : List StreamOp :=
  [.assign 1 7 true true, .read ⟨⟨[], true⟩, true, some [1, 2], false, ⟨[], true⟩⟩,
    .read ⟨⟨[], true⟩, true, none, false, ⟨[], true⟩⟩]

end Sample

/-- A client commits two bytes, of which the descriptor takes one before and one after it is closed.
-/
theorem close_flushes :
    let flushed := run FdStreamChannel.step (.create 4) [.assign 1 7 true true,
      .call (.commit [1, 2] true), .write ⟨⟨[], true⟩, some 1, false, ⟨[], true⟩, true⟩,
      .call (.close true), .write ⟨⟨[], true⟩, some 1, false, ⟨[], true⟩, true⟩]
    flushed.FlowControlled ∧ flushed.history.written = [1, 2] ∧ flushed.fes = none := by
  refine ⟨flow_controlled 4 ?_, by decide, by decide⟩
  simp [StreamOp.Allowed, StreamCall.Taken, StreamWriteEvent.Allowed, StreamEmission.Allowed]

open FdStreamChannel in
/-- The read buffer is full and read events are switched off. A pop of no bytes succeeds, and so
does a clear where the buffer has no size: they stay switched off. -/
theorem empty_pop_keeps_reading_off :
    let popped := (run step (create 2) Sample.fillBuffer).popFront 0 true
    let cleared := (run step (create 0) Sample.fillBuffer).clear true
    (popped.1 = true ∧ popped.2.isClosed = false ∧ popped.2.canRead = true ∧
      popped.2.fes = some ⟨1, 7, false, true⟩ ∧ popped.2.history.freedSince ≠ []) ∧
    (cleared.1 = true ∧ cleared.2.isClosed = false ∧ cleared.2.canRead = true ∧
      cleared.2.fes = some ⟨1, 7, false, true⟩ ∧ cleared.2.history.freedSince ≠ []) := by
  decide

end Codon.Io
