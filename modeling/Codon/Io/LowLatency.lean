import Codon.Io.DgramMisuse
import Codon.Library.Run

/-!
# Datagram channels with low latency

`set_low_latency`: there is to be space only where a datagram could be written at once. That the
descriptor is writable is remembered by write events that are switched off, which
`handle_fd_write` does when it finds nothing to send. `clear_unwritten` does so too, if it is
called while a write event is handled. After a write that would have blocked this leaves space
although nothing can be written (`low_latency_iff`).
-/

namespace Codon.Io

open Codon.Library

/-- A call that was made: whether it is a commit, and then whether the sink takes the write event,
and the channel before and after it. -/
structure CallMade where
  commit : Option Bool
  before : FdDgramChannel
  after : FdDgramChannel

/-- The call has buffered a datagram. -/
def CallMade.buffers (m : CallMade) : Bool := m.before.input.length < m.after.input.length

namespace FdDgramChannel

variable (c : FdDgramChannel)

/-- `get_dataframe`: whether there is a data frame, for the space of the buffer and whether the
header can be masked. -/
def getDataframe (space : Nat) (masked : Bool) : Bool := c.spaceLeft space ≠ 0 && masked

/-- The calls that are made, those of the handlers that `clear_unwritten` calls among them. The call
of `clear_unwritten` itself comes before and after those. -/
def callsMade : FdDgramChannel → Calls → List CallMade
  | _, .done => []
  | c, .commit addr body fits added next =>
      ⟨some added, c, (c.commitDataframe addr body fits added).2⟩ ::
        callsMade (c.commitDataframe addr body fits added).2 next
  | c, .pop added next =>
      ⟨none, c, (c.popDgram added).2⟩ :: callsMade (c.popDgram added).2 next
  | c, .clear added next =>
      ⟨none, c, (c.clear added).2⟩ :: callsMade (c.clear added).2 next
  | c, .clearUnwritten space handlers signalled removed next =>
      if c.AsksForData space then
        let asked := make { c with input := [] } handlers
        let after := (asked.stopWriting signalled removed).2
        ⟨none, c, { c with input := [] }⟩ :: callsMade { c with input := [] } handlers ++
          ⟨none, asked, after⟩ :: callsMade after next
      else ⟨none, c, (c.clearQuietly removed).2⟩ :: callsMade (c.clearQuietly removed).2 next
  | c, .close removed next =>
      ⟨none, c, (c.channelClose false removed).2⟩ :: callsMade (c.channelClose false removed).2 next

/-- Every commit is made with a data frame from `get_dataframe`, and the sink takes the write
event. -/
def Framed (calls : Calls) : Prop :=
  ∀ m ∈ c.callsMade calls, ∀ added, m.commit = some added →
    added = true ∧ ∃ space masked, m.before.getDataframe space masked = true

/-- The datagrams that a pass of the loop of `handle_fd_write` hands to the kernel. -/
def passWrites : List Dgram := if c.fdType = .none then [] else c.input.take 1

/-- The datagrams that the loop hands to the kernel. -/
def loopWrites : FdDgramChannel → List Writing → List Dgram
  | _, [] => []
  | c, w :: writings =>
      c.passWrites ++
        match c.writePass w with
        | (.again, after) | (.committed, after) =>
            if after.isNonblocking && !after.isLowLatency then loopWrites after writings else []
        | (.stop, _) | (.fail, _) => []

/-- Whether `handle_fd_write` gives up after it has asked for data. -/
def GivesUp (e : WriteEvent) : Prop := c.Starved ∧ e.askForData.result = false

instance (e : WriteEvent) : Decidable (c.GivesUp e) := inferInstanceAs (Decidable (_ ∧ _))

/-- The datagrams that a write event hands to the kernel. -/
def eventWrites (e : WriteEvent) : List Dgram :=
  if c.GivesUp e then [] else (c.beforeWriting e).loopWrites (e.first :: e.writings)

/-- A write event that finds nothing to send. With low latency it does not ask for more. -/
def FindsNothing (e : WriteEvent) : Prop := ¬c.GivesUp e ∧ (c.beforeWriting e).input = []

instance (e : WriteEvent) : Decidable (c.FindsNothing e) := inferInstanceAs (Decidable (_ ∧ _))

/-- The sink of the channel dispatches a write event. It closes if the handler fails, and then takes
the change of its events or not. -/
def dispatchWrite (s : FdEventSink) (e : WriteEvent) (removed : Bool) : FdDgramChannel :=
  let (ok, after) := c.handleFdWrite ⟨s.sink, s.fd⟩ e
  if ok then after else (after.channelClose true removed).2

/-- The channel would have space if no write event were handled. -/
def HasRoom : Prop :=
  c.isClosed = false ∧ c.canWrite = true ∧ c.maxInputDgramLen ≠ 0 ∧ c.input = [] ∧
    c.fes.all FdEventSink.writeEv = false

/-- The handlers of a signal that the pass of a write event emits leave room, and do not have the
error ignored. With low latency this is the write error signal. -/
def LeavesRoom (e : WriteEvent) : Prop :=
  ¬c.GivesUp e ∧ ∃ x ∈ (c.beforeWriting e).passEmissions e.first,
    x.2.result = false ∧ (x.1.make x.2.calls).HasRoom

instance : Decidable c.HasRoom := inferInstanceAs (Decidable (_ ∧ _))

instance (e : WriteEvent) : Decidable (c.LeavesRoom e) :=
  inferInstanceAs (Decidable (_ ∧ ∃ x ∈ _, _))

end FdDgramChannel

/-! ## Runs -/

/-- A channel, and whether nothing has been buffered or written since the last write event, which
found nothing to send. -/
structure Watched where
  channel : FdDgramChannel
  idle : Bool

/-- What happens to a channel: it is assigned a descriptor, calls of clients, also from the handlers
of read events, or a write event. -/
inductive LatencyEvent where
  | assign (sink fd : Nat) (fdType : DgramFdType) (isNonblocking reads writes : Bool)
  | calls (calls : Calls)
  | write (e : WriteEvent) (removed : Bool)

namespace Watched

/-- A new channel with low latency. -/
def start (maxDgramLen : Nat) : Watched :=
  ⟨{ FdDgramChannel.create maxDgramLen with isLowLatency := true }, false⟩

/-- The channel after each of the calls. -/
def watch : Bool → List CallMade → List Watched
  | _, [] => []
  | idle, m :: made => ⟨m.after, idle && !m.buffers⟩ :: watch (idle && !m.buffers) made

/-- One step. Without a sink there are no write events. -/
def step (w : Watched) : LatencyEvent → Watched
  | .assign sink fd fdType isNonblocking reads writes =>
    match w.channel.assignFd sink fd fdType isNonblocking reads writes with
    | (true, channel) => ⟨channel, false⟩
    | (false, channel) => ⟨channel, w.idle⟩
  | .calls calls =>
      ⟨w.channel.make calls, w.idle && (w.channel.callsMade calls).all fun m => !m.buffers⟩
  | .write e removed =>
    match w.channel.fes with
    | none => w
    | some s => ⟨w.channel.dispatchWrite s e removed, decide (w.channel.FindsNothing e)⟩

/-- Commits are made with data frames, and no write breaks the descriptor. -/
def Allowed (w : Watched) : LatencyEvent → Prop
  | .assign .. => True
  | .calls calls => w.channel.Framed calls
  | .write e _ =>
      e.first.broken = false ∧ ∀ s ∈ w.channel.fes,
        ∀ x ∈ w.channel.writeEmissions ⟨s.sink, s.fd⟩ e, x.1.Framed x.2.calls

/-- There is at most one datagram, and space only where the channel is idle. -/
def Sound (w : Watched) : Prop :=
  w.channel.input.length ≤ 1 ∧ ∀ space, w.channel.spaceLeft space ≠ 0 → w.idle = true

/-- A step does what low latency is for: the channel is sound after each call outside of
`handle_fd_write`, and there is at most one datagram after each call inside, and one write. -/
def Right (w : Watched) (event : LatencyEvent) : Prop :=
  (w.step event).Sound ∧
    match event with
    | .assign .. => True
    | .calls calls => ∀ next ∈ watch w.idle (w.channel.callsMade calls), next.Sound
    | .write e _ => ∀ s ∈ w.channel.fes,
        (∀ x ∈ w.channel.writeEmissions ⟨s.sink, s.fd⟩ e, ∀ m ∈ x.1.callsMade x.2.calls,
          m.after.input.length ≤ 1) ∧
        (w.channel.eventWrites e).length ≤ 1

/-- No handlers of the write error signal leave room, unless they have the error ignored. -/
def KeepsBuffer (w : Watched) : LatencyEvent → Prop
  | .assign .. => True
  | .calls _ => True
  | .write e _ => w.channel.fes.isSome = true → ¬w.channel.LeavesRoom e

end Watched

namespace FdDgramChannel

variable {c : FdDgramChannel}

/-! ## Space -/

/-- With low latency there is space for one datagram, unless write events are switched on and none
is handled. -/
theorem has_space_iff (hlow : c.isLowLatency = true) :
    (∃ space, c.spaceLeft space ≠ 0) ↔
      c.isClosed = false ∧ c.canWrite = true ∧ c.maxInputDgramLen ≠ 0 ∧ c.input = [] ∧
        (c.fes.all FdEventSink.writeEv = false ∨ c.handlingWrite = true) := by
  constructor
  · rintro ⟨space, hspace⟩
    unfold spaceLeft at hspace
    split_ifs at hspace with hclosed hwrite hblocked hroom <;>
      first | exact absurd rfl hspace | skip
    rw [hlow, Bool.true_and] at hblocked
    simp only [Bool.or_eq_true, Bool.and_eq_true, not_or, not_and, Bool.not_eq_true',
      Bool.not_eq_true, List.isEmpty_eq_false_iff, not_not] at hblocked hclosed hwrite
    refine ⟨hclosed, by simpa using hwrite, fun hmax => ?_, hblocked.1, ?_⟩
    · rw [hmax, Nat.min_zero] at hspace
      exact hspace rfl
    · cases hall : c.fes.all FdEventSink.writeEv with
      | false => exact .inl rfl
      | true => exact .inr (by simpa using hblocked.2 hall)
  · rintro ⟨hclosed, hwrite, hmax, hinput, hroom⟩
    refine ⟨sizeofSockhead + 1, ?_⟩
    have hblocked : (c.isLowLatency &&
        (!c.input.isEmpty || c.fes.all FdEventSink.writeEv && !c.handlingWrite)) = false := by
      rcases hroom with hoff | hhandling
      · simp [hinput, hoff]
      · simp [hinput, hhandling]
    unfold spaceLeft
    rw [hclosed, hwrite, hblocked]
    simp only [Bool.false_eq_true, if_false, Bool.not_true]
    rw [if_neg (by omega)]
    omega

/-! ## Calls -/

/-- At most one datagram waits, and then for a write event. -/
structure Steady (c : FdDgramChannel) : Prop where
  lowLatency : c.isLowLatency = true
  length_le : c.input.length ≤ 1
  writeOn : c.isClosed = false → c.input ≠ [] → c.fes.all FdEventSink.writeEv = true
  drained : c.Drained

/-- A channel with nothing to write is steady. -/
theorem Steady.of_empty (hlow : c.isLowLatency = true) (hinput : c.input = []) : c.Steady where
  lowLatency := hlow
  length_le := by
    rw [hinput]
    exact Nat.zero_le 1
  writeOn _ hne := absurd hinput hne
  drained _ := hinput

/-- A steady channel that is closed stays steady, since it has no room. -/
theorem Steady.of_closed (h : c.Steady) {c' : FdDgramChannel} (hclosed : c'.isClosed = true)
    (hlow : c'.isLowLatency = c.isLowLatency) (hinput : c'.input.length ≤ c.input.length)
    (hdrained : c'.Drained) : c'.Steady where
  lowLatency := hlow.trans h.lowLatency
  length_le := Nat.le_trans hinput h.length_le
  writeOn hopen := by
    rw [hclosed] at hopen
    cases hopen
  drained := hdrained

/-- Asking for events leaves everything else that low latency is about. -/
theorem switch_events_low_latency (c : FdDgramChannel) (ev : FdEv) (on taken : Bool) :
    (c.switchEvents ev on taken).isLowLatency = c.isLowLatency ∧
      (c.switchEvents ev on taken).handlingWrite = c.handlingWrite ∧
      (c.switchEvents ev on taken).canWrite = c.canWrite ∧
      (c.switchEvents ev on taken).isClosed = c.isClosed := by
  unfold switchEvents isClosed
  split
  · refine ⟨rfl, rfl, rfl, ?_⟩
    cases c.fes <;> rfl
  · exact ⟨rfl, rfl, rfl, rfl⟩

/-- Switching the read event leaves the write event as it is. -/
theorem switch_read_write_ev (c : FdDgramChannel) (on taken : Bool) :
    (c.switchEvents .read on taken).fes.all FdEventSink.writeEv =
      c.fes.all FdEventSink.writeEv := by
  unfold switchEvents
  split
  · show (c.fes.map fun s => s.switch .read on).all FdEventSink.writeEv = _
    cases c.fes <;> rfl
  · rfl

/-- Asking for read events keeps a channel steady. -/
theorem Steady.switch_read (h : c.Steady) (on taken : Bool) :
    (c.switchEvents .read on taken).Steady := by
  obtain ⟨hlow, -, -, hclosed⟩ := switch_events_low_latency c .read on taken
  constructor
  case lowLatency => exact hlow.trans h.lowLatency
  case length_le =>
    rw [switch_events_input]
    exact h.length_le
  case writeOn =>
    rw [hclosed, switch_events_input, switch_read_write_ev]
    exact h.writeOn
  case drained => exact h.drained.switch_events .read on taken

/-- A commit with a data frame leaves one datagram, with write events switched on. -/
theorem Steady.commit_dataframe (h : c.Steady) (hspace : ∃ space, c.spaceLeft space ≠ 0)
    (addr : Option SockHead) (body : List UInt8) (fits : Bool) :
    (c.commitDataframe addr body fits true).2.Steady ∧
      ((c.commitDataframe addr body fits true).2 = c ∨
        (c.commitDataframe addr body fits true).2.fes.all FdEventSink.writeEv = true ∧
          (c.commitDataframe addr body fits true).2.input.length = 1) := by
  obtain ⟨hopen, -, -, hinput, -⟩ := (has_space_iff h.lowLatency).1 hspace
  obtain ⟨s, hfes⟩ := Option.isSome_iff_exists.1 (held_of_open hopen)
  have hsame : (c.channelCommitDataframe ⟨addr.getD {}, body⟩ fits true).2 = c ∨
      (c.channelCommitDataframe ⟨addr.getD {}, body⟩ fits true).2 =
        { c with
          input := [⟨addr.getD {}, body⟩]
          fes := some (s.switch .write true) } := by
    unfold channelCommitDataframe
    split_ifs with hrefused hnone
    · exact .inl rfl
    · rw [hfes] at hnone
      cases hnone
    · refine .inr ?_
      simp [switchEvents, use, hfes, hinput]
  unfold commitDataframe
  split_ifs
  · exact ⟨h, .inl rfl⟩
  · exact ⟨h, .inl rfl⟩
  · exact ⟨h, .inl rfl⟩
  · exact ⟨h, .inl rfl⟩
  · rcases hsame with hsame | hsame
    · rw [hsame]
      exact ⟨h, .inl rfl⟩
    · rw [hsame]
      refine ⟨?_, .inr ⟨rfl, rfl⟩⟩
      constructor
      case lowLatency => exact h.lowLatency
      case length_le => exact Nat.le_refl 1
      case writeOn => exact fun _ _ => rfl
      case drained => exact fun hlost => by cases hlost

/-- Resuming to read keeps a channel steady. -/
theorem Steady.resume_reading (h : c.Steady) (added : Bool) :
    (c.resumeReading added).2.Steady := by
  unfold resumeReading
  split
  · exact h.switch_read true added
  · exact h

/-- What was read does not matter. -/
theorem Steady.read (h : c.Steady) (output : List Dgram) : Steady { c with output } :=
  ⟨h.lowLatency, h.length_le, h.writeOn, h.drained⟩

/-- Closing a channel adds nothing to its buffer. -/
theorem channel_close_closed (c : FdDgramChannel) (fesClosed removed : Bool) :
    (c.channelClose fesClosed removed).2.isClosed = true ∧
      (c.channelClose fesClosed removed).2.isLowLatency = c.isLowLatency ∧
      (c.channelClose fesClosed removed).2.handlingWrite = c.handlingWrite ∧
      (c.channelClose fesClosed removed).2.input.length ≤ c.input.length := by
  have hinput : (c.stopReading fesClosed removed).input = if fesClosed then [] else c.input :=
    switch_events_input ..
  have hlength : (c.stopReading fesClosed removed).input.length ≤ c.input.length := by
    rw [hinput]
    split
    · exact Nat.zero_le _
    · exact Nat.le_refl _
  obtain ⟨hlow, hhandling, -, hclosed⟩ := switch_events_low_latency
    { c with isClosedFlag := true, input := if fesClosed then [] else c.input } .read false removed
  unfold channelClose
  split_ifs with hnone
  · exact ⟨rfl, rfl, rfl, Nat.zero_le _⟩
  · exact ⟨hclosed, hlow, hhandling, hlength⟩
  · exact ⟨hclosed, hlow, hhandling, hlength⟩
  · exact ⟨by simp [drop, isClosed], hlow, hhandling, hlength⟩

/-- Closing a channel keeps it steady. -/
theorem Steady.channel_close (h : c.Steady) (fesClosed removed : Bool) :
    (c.channelClose fesClosed removed).2.Steady := by
  obtain ⟨hclosed, hlow, -, hlength⟩ := channel_close_closed c fesClosed removed
  exact h.of_closed hclosed hlow hlength (Drained.channel_close c fesClosed removed)

/-- Clearing without asking for data keeps a channel steady. -/
theorem Steady.clear_quietly (h : c.Steady) (removed : Bool) :
    (c.clearQuietly removed).2.Steady := by
  have hempty : Steady { c with input := [] } := .of_empty h.lowLatency rfl
  unfold clearQuietly
  split_ifs
  · exact h
  · exact hempty.channel_close false removed
  · exact hempty

/-- The end of writing keeps a channel steady. -/
theorem Steady.stop_writing (h : c.Steady) (signalled removed : Bool) :
    (c.stopWriting signalled removed).2.Steady := by
  unfold stopWriting
  split_ifs with _ hinput
  · exact h
  · refine .of_empty ((switch_events_low_latency ..).1.trans h.lowLatency) ?_
    rw [switch_events_input]
    exact List.isEmpty_iff.1 hinput
  · exact h

/-- Calls that commit with data frames only leave at most one datagram, and none leaves more for a
moment. -/
theorem Steady.make (h : c.Steady) {calls : Calls} (hframed : c.Framed calls) :
    (∀ m ∈ c.callsMade calls, m.after.Steady) ∧ (c.make calls).Steady := by
  induction calls generalizing c with
  | done => exact ⟨List.forall_mem_nil _, h⟩
  | commit addr body fits added next ih =>
      obtain ⟨hfirst, hrest⟩ := List.forall_mem_cons.1 hframed
      obtain ⟨rfl, space, masked, hspace⟩ := hfirst added rfl
      have hspace : c.spaceLeft space ≠ 0 := by
        simpa using (Bool.and_eq_true_iff.1 hspace).1
      have hafter := (h.commit_dataframe ⟨space, hspace⟩ addr body fits).1
      obtain ⟨hmade, hlast⟩ := ih hafter hrest
      exact ⟨List.forall_mem_cons.2 ⟨hafter, hmade⟩, hlast⟩
  | pop added next ih =>
      have hafter : (c.popDgram added).2.Steady := by
        unfold popDgram
        split
        · exact h
        · exact (h.read _).resume_reading added
      obtain ⟨hmade, hlast⟩ := ih hafter (List.forall_mem_cons.1 hframed).2
      exact ⟨List.forall_mem_cons.2 ⟨hafter, hmade⟩, hlast⟩
  | clear added next ih =>
      have hafter : (c.clear added).2.Steady := by
        unfold FdDgramChannel.clear
        split
        · exact h
        · exact (h.read _).resume_reading added
      obtain ⟨hmade, hlast⟩ := ih hafter (List.forall_mem_cons.1 hframed).2
      exact ⟨List.forall_mem_cons.2 ⟨hafter, hmade⟩, hlast⟩
  | clearUnwritten space handlers signalled removed next ihandlers ih =>
      have hempty : Steady { c with input := [] } := .of_empty h.lowLatency rfl
      unfold Framed at hframed
      simp only [callsMade, FdDgramChannel.make] at hframed ⊢
      -- a cleared channel that was full may ask for data, in handlers of its own
      split_ifs at hframed ⊢ with hasks
      · simp only [List.cons_append, List.forall_mem_cons, List.forall_mem_append] at hframed ⊢
        obtain ⟨hmade, hasked⟩ := ihandlers hempty hframed.2.1
        have hafter := hasked.stop_writing signalled removed
        obtain ⟨hmade', hlast⟩ := ih hafter hframed.2.2.2
        exact ⟨⟨hempty, hmade, hafter, hmade'⟩, hlast⟩
      · have hafter := h.clear_quietly removed
        obtain ⟨hmade, hlast⟩ := ih hafter (List.forall_mem_cons.1 hframed).2
        exact ⟨List.forall_mem_cons.2 ⟨hafter, hmade⟩, hlast⟩
  | close removed next ih =>
      have hafter := h.channel_close false removed
      obtain ⟨hmade, hlast⟩ := ih hafter (List.forall_mem_cons.1 hframed).2
      exact ⟨List.forall_mem_cons.2 ⟨hafter, hmade⟩, hlast⟩

/-- No call switches low latency off or ends the handling of a write event. -/
theorem make_flags (c : FdDgramChannel) (calls : Calls) :
    (c.make calls).isLowLatency = c.isLowLatency ∧
      (c.make calls).handlingWrite = c.handlingWrite := by
  have hswitch (c : FdDgramChannel) (ev : FdEv) (on taken : Bool) :
      (c.switchEvents ev on taken).isLowLatency = c.isLowLatency ∧
        (c.switchEvents ev on taken).handlingWrite = c.handlingWrite :=
    ⟨(switch_events_low_latency c ev on taken).1, (switch_events_low_latency c ev on taken).2.1⟩
  refine make_induction (R := fun c c' => c'.isLowLatency = c.isLowLatency ∧
      c'.handlingWrite = c.handlingWrite) (fun _ => ⟨rfl, rfl⟩)
    (fun h h' => ⟨h'.1.trans h.1, h'.2.trans h.2⟩) ?_ ?_ (fun _ _ _ => ⟨rfl, rfl⟩)
    (fun _ => ⟨rfl, rfl⟩) ?_ (fun c removed => ?_) c calls
  · intro c addr body fits added
    unfold commitDataframe channelCommitDataframe
    split_ifs
    all_goals first | exact ⟨rfl, rfl⟩ | exact hswitch ..
  · intro c added
    unfold resumeReading
    split_ifs
    · exact hswitch ..
    · exact ⟨rfl, rfl⟩
  · intro c signalled removed
    unfold stopWriting
    split_ifs
    · exact ⟨rfl, rfl⟩
    · exact hswitch ..
    · exact ⟨rfl, rfl⟩
  · obtain ⟨-, hlow, hhandling, -⟩ := channel_close_closed c false removed
    exact ⟨hlow, hhandling⟩

/-- A closed channel has no room. -/
theorem not_has_room_of_closed (h : c.isClosed = true) : ¬c.HasRoom := by
  intro hroom
  have hopen := hroom.1
  rw [h] at hopen
  cases hopen

/-- A channel with something to write has no room. -/
theorem not_has_room_of_input (h : c.input ≠ []) : ¬c.HasRoom :=
  fun hroom => h hroom.2.2.2.1

/-- A channel that waits for a write event has no room. -/
theorem not_has_room_of_write_ev (h : c.fes.all FdEventSink.writeEv = true) : ¬c.HasRoom := by
  intro hroom
  have hoff := hroom.2.2.2.2
  rw [h] at hoff
  cases hoff

/-- Reading has nothing to do with the room for writing. -/
theorem resume_reading_has_room_iff (c : FdDgramChannel) (added : Bool) :
    ((c.resumeReading added).2.HasRoom ↔ c.HasRoom) ∧
      (c.resumeReading added).2.input = c.input := by
  unfold resumeReading
  split
  · obtain ⟨-, -, hwrite, hclosed⟩ := switch_events_low_latency c .read true added
    have hmax : (c.switchEvents .read true added).maxInputDgramLen = c.maxInputDgramLen := by
      unfold switchEvents
      split <;> rfl
    refine ⟨?_, switch_events_input ..⟩
    rw [HasRoom, HasRoom, hclosed, hwrite, hmax, switch_events_input, switch_read_write_ev]
  · exact ⟨Iff.rfl, rfl⟩

/-- A datagram that is popped makes no room. -/
theorem pop_dgram_room {added : Bool} (hroom : (c.popDgram added).2.HasRoom) :
    c.HasRoom ∧ (c.popDgram added).2.input = c.input := by
  simp only [popDgram] at hroom ⊢
  split at hroom
  next hempty => exact ⟨hroom, by rw [if_pos hempty]⟩
  next hempty =>
    rw [if_neg hempty]
    obtain ⟨hiff, hinput⟩ := resume_reading_has_room_iff { c with output := c.output.tail } added
    exact ⟨hiff.1 hroom, hinput⟩

/-- Nor does clearing what has been read. -/
theorem clear_room {added : Bool} (hroom : (c.clear added).2.HasRoom) :
    c.HasRoom ∧ (c.clear added).2.input = c.input := by
  simp only [FdDgramChannel.clear] at hroom ⊢
  split at hroom
  next hempty => exact ⟨hroom, by rw [if_pos hempty]⟩
  next hempty =>
    rw [if_neg hempty]
    obtain ⟨hiff, hinput⟩ := resume_reading_has_room_iff { c with output := [] } added
    exact ⟨hiff.1 hroom, hinput⟩

/-- What is cleared before it is written had write events switched on. -/
theorem Steady.clear_quietly_room (h : c.Steady) {removed : Bool}
    (hroom : (c.clearQuietly removed).2.HasRoom) :
    c.HasRoom ∧ (c.clearQuietly removed).2.input = c.input := by
  simp only [clearQuietly] at hroom ⊢
  split_ifs at hroom ⊢ with hempty hclosed
  · exact ⟨hroom, rfl⟩
  · exact absurd hroom (not_has_room_of_closed (channel_close_closed ..).1)
  · refine absurd hroom (not_has_room_of_write_ev ?_)
    exact h.writeOn (Bool.eq_false_iff.2 hclosed) fun hinput => hempty (List.isEmpty_iff.2 hinput)

/-- Outside of write events, what waits waits for one, so that clearing it leaves no space. -/
theorem Steady.not_asks_for_data (h : c.Steady) (houtside : c.handlingWrite = false)
    (space : Nat) : ¬c.AsksForData space := by
  rintro ⟨hinput, hopen, hspace⟩
  have hempty := (has_space_iff (c := { c with input := [] }) h.lowLatency).1 ⟨space, hspace⟩
  rcases hempty.2.2.2.2 with hoff | hhandling
  · rw [show ({ c with input := [] } : FdDgramChannel).fes = c.fes from rfl,
      h.writeOn hopen hinput] at hoff
    cases hoff
  · rw [show ({ c with input := [] } : FdDgramChannel).handlingWrite = false from houtside]
      at hhandling
    cases hhandling

end FdDgramChannel

/-! ## Write events -/

namespace FdDgramChannel

variable {c : FdDgramChannel} {w : Writing}

/-- With low latency no more data are asked for after a datagram was written. -/
theorem after_writing_eq (hlow : c.isLowLatency = true) (origDgramsAvail : Nat) (w : Writing) :
    c.afterWriting origDgramsAvail w = c.finishPass origDgramsAvail w ∧
      c.afterEmissions origDgramsAvail w = [] := by
  have hmade : ¬c.MadeRoom origDgramsAvail := by
    rintro ⟨-, -, hnot⟩
    rw [hlow] at hnot
    cases hnot
  exact ⟨if_neg hmade, if_neg hmade⟩

/-- A channel with nothing to write may stop waiting for write events. -/
theorem Steady.switch_write_off (h : c.Steady) (hinput : c.input = []) (removed : Bool) :
    (c.switchEvents .write false removed).Steady := by
  refine .of_empty ((switch_events_low_latency ..).1.trans h.lowLatency) ?_
  rw [switch_events_input, hinput]

/-- A pass that finds nothing. -/
theorem Steady.pass_of_empty (h : c.Steady) (hinput : c.input = []) (w : Writing) :
    (c.writePass w).2.Steady ∧ c.passEmissions w = [] := by
  obtain ⟨hafter, hnone⟩ := after_writing_eq h.lowLatency 0 w
  unfold writePass passEmissions
  rw [hinput]
  simp only [hafter, hnone, and_true]
  unfold finishPass
  split_ifs
  all_goals first | exact h | exact h.switch_write_off hinput w.removed

/-- A pass that had something to write and leaves the channel open is followed by another one. -/
theorem finish_pass_of_open (hlow : c.isLowLatency = true) (hopen : c.isClosed = false)
    {origDgramsAvail : Nat} (horig : origDgramsAvail ≠ 0) :
    c.finishPass origDgramsAvail w = (.again, c) := by
  simp [finishPass, hopen, hlow, horig]

/-- A pass that leaves the channel closed and empty fails. -/
theorem finish_pass_of_closed (hclosed : c.isClosed = true) (hinput : c.input = [])
    {origDgramsAvail : Nat} : c.finishPass origDgramsAvail w = (.fail, c) := by
  simp [finishPass, hclosed, hinput]

/-- What was written is taken from the buffer, and write events stay switched on. -/
theorem Steady.pop_written (h : c.Steady) (origDgramsAvail bodylen : Nat) (written : Nat)
    (w : Writing) (horig : origDgramsAvail ≠ 0) :
    (c.popWritten origDgramsAvail bodylen (some written) w).2.Steady ∧
      ((c.popWritten origDgramsAvail bodylen (some written) w).1 ≠ .fail →
        ¬(c.popWritten origDgramsAvail bodylen (some written) w).2.HasRoom) := by
  simp only [popWritten]
  split_ifs with hwritten hinput
  · exact ⟨h, fun hfail => absurd rfl hfail⟩
  · exact ⟨h, fun hfail => absurd rfl hfail⟩
  · have htail : c.input.tail = [] := by
      have hlength := h.length_le
      rw [← List.length_eq_zero_iff, List.length_tail]
      omega
    have hempty : Steady { c with input := c.input.tail } := .of_empty h.lowLatency htail
    rw [(after_writing_eq hempty.lowLatency origDgramsAvail w).1]
    cases hclosed : ({ c with input := c.input.tail } : FdDgramChannel).isClosed with
    | true =>
        rw [finish_pass_of_closed hclosed htail]
        exact ⟨hempty, fun hfail => absurd rfl hfail⟩
    | false =>
        have hon := h.writeOn hclosed fun hnil => hinput (List.isEmpty_iff.2 hnil)
        rw [finish_pass_of_open hempty.lowLatency hclosed horig]
        exact ⟨hempty, fun _ => not_has_room_of_write_ev hon⟩

/-- A write that failed leaves the channel as it is. -/
theorem pop_written_none (hbroken : w.broken = false) (c : FdDgramChannel)
    (origDgramsAvail bodylen : Nat) :
    c.popWritten origDgramsAvail bodylen none w = (.stop, c) := by
  simp only [popWritten, hbroken]
  split <;> rfl

/-- No more signals follow the writing. -/
theorem Steady.pop_emissions (h : c.Steady) (origDgramsAvail bodylen : Nat)
    (retval : Option Nat) (w : Writing) :
    c.popEmissions origDgramsAvail bodylen retval w = [] := by
  unfold popEmissions
  split
  · exact (after_writing_eq (c := { c with input := c.input.tail }) h.lowLatency
      origDgramsAvail w).2
  · rfl

/-- A steady channel with something to write holds its handle. -/
theorem Steady.use_eq (h : c.Steady) (hinput : c.input ≠ []) : c.use = c :=
  use_of_held (Option.isSome_iff_ne_none.2 fun hlost => hinput (h.drained hlost))

/-- A pass that finds a datagram and reports no error. -/
theorem Steady.pass_unreported (h : c.Steady) {dgram : Dgram} {rest : List Dgram}
    (hinput : c.input = dgram :: rest) (hbroken : w.broken = false) (htype : c.fdType ≠ .none)
    (hreported : c.reportedError dgram.body.length w = none) :
    (c.writePass w).2.Steady ∧ ((c.writePass w).1 ≠ .fail → ¬(c.writePass w).2.HasRoom) ∧
      c.passEmissions w = [] := by
  have hne : c.input ≠ [] := by simp [hinput]
  have huse := h.use_eq hne
  have hlength : (dgram :: rest).length ≠ 0 := Nat.succ_ne_zero _
  unfold writePass passEmissions
  simp only [hinput, if_neg htype, huse, hreported]
  refine ⟨?_, ?_, h.pop_emissions ..⟩
  · cases c.eatErrors dgram.body.length w with
    | none =>
        rw [pop_written_none hbroken]
        exact h
    | some written => exact (h.pop_written _ _ written w hlength).1
  · cases c.eatErrors dgram.body.length w with
    | none =>
        rw [pop_written_none hbroken]
        exact fun _ => not_has_room_of_input hne
    | some written => exact (h.pop_written _ _ written w hlength).2

/-- A pass that finds a datagram and emits the write error signal. -/
theorem Steady.pass_reported (h : c.Steady) {dgram : Dgram} {rest : List Dgram}
    (hinput : c.input = dgram :: rest) (hbroken : w.broken = false) (htype : c.fdType ≠ .none)
    {signal : Emission} (hreported : c.reportedError dgram.body.length w = some signal)
    (hframed : c.Framed signal.calls) :
    (c.writePass w).2.Steady ∧
      ((c.writePass w).1 ≠ .fail →
        ((c.writePass w).2.HasRoom ↔ signal.result = false ∧ (c.make signal.calls).HasRoom)) ∧
      (signal.result = false → (c.writePass w).1 ≠ .fail) ∧
      c.passEmissions w = [(c, signal)] := by
  have hne : c.input ≠ [] := by simp [hinput]
  have huse := h.use_eq hne
  have hlength : (dgram :: rest).length ≠ 0 := Nat.succ_ne_zero _
  have hmade := (h.make hframed).2
  unfold writePass passEmissions
  simp only [hinput, if_neg htype, huse, hreported, hmade.pop_emissions, and_true]
  cases hresult : signal.result with
  | true =>
      simp only [if_true]
      obtain ⟨hsteady, hroom⟩ := hmade.pop_written (dgram :: rest).length dgram.body.length
        dgram.body.length w hlength
      exact ⟨hsteady, fun hpass => iff_of_false (hroom hpass) (by simp), by simp⟩
  | false =>
      simp only [Bool.false_eq_true, if_false, pop_written_none hbroken]
      exact ⟨hmade, fun _ => (and_iff_right trivial).symm, fun _ => by simp⟩

/-- A pass leaves room if it finds nothing, or if the handlers of the write error signal do. -/
theorem Steady.write_pass (h : c.Steady) (hbroken : w.broken = false)
    (hframed : ∀ x ∈ c.passEmissions w, x.1.Framed x.2.calls) :
    (c.writePass w).2.Steady ∧
      ((c.writePass w).1 ≠ .fail ∧ (c.writePass w).2.HasRoom ∧ c.input ≠ [] ↔
        ∃ x ∈ c.passEmissions w, x.2.result = false ∧ (x.1.make x.2.calls).HasRoom) ∧
      ∀ x ∈ c.passEmissions w, ∀ m ∈ x.1.callsMade x.2.calls, m.after.input.length ≤ 1 := by
  cases hinput : c.input with
  | nil =>
      obtain ⟨hsteady, hnone⟩ := h.pass_of_empty hinput w
      rw [hnone]
      exact ⟨hsteady, iff_of_false (fun hroom => hroom.2.2 rfl) (by simp), List.forall_mem_nil _⟩
  | cons dgram rest =>
      by_cases htype : c.fdType = .none
      · have hpass : c.writePass w = (.fail, c) := by simp [writePass, hinput, htype]
        have hnone : c.passEmissions w = [] := by simp [passEmissions, hinput, htype]
        rw [hpass, hnone]
        exact ⟨h, iff_of_false (fun hroom => hroom.1 rfl) (by simp), List.forall_mem_nil _⟩
      · cases hreported : c.reportedError dgram.body.length w with
        | none =>
            obtain ⟨hsteady, hroom, hnone⟩ := h.pass_unreported hinput hbroken htype hreported
            rw [hnone]
            exact ⟨hsteady, iff_of_false (fun hboth => hroom hboth.1 hboth.2.1) (by simp),
              List.forall_mem_nil _⟩
        | some signal =>
            have hmem : (c, signal) ∈ c.passEmissions w := by
              simp [passEmissions, hinput, htype, h.use_eq (by simp [hinput]), hreported]
            have hsignal := hframed (c, signal) hmem
            obtain ⟨hsteady, hroom, hpass, hone⟩ :=
              h.pass_reported hinput hbroken htype hreported hsignal
            simp only [hone, List.mem_singleton, exists_eq_left, forall_eq]
            refine ⟨hsteady, ⟨fun hboth => (hroom hboth.1).1 hboth.2.1, fun hleft => ?_⟩,
              fun m hm => ((h.make hsignal).1 m hm).length_le⟩
            have hgoes := hpass hleft.1
            exact ⟨hgoes, (hroom hgoes).2 hleft, List.cons_ne_nil _ _⟩

/-- A pass of writing leaves the low latency on. -/
theorem write_pass_low_latency (c : FdDgramChannel) (w : Writing) :
    (c.writePass w).2.isLowLatency = c.isLowLatency :=
  write_pass_induction (R := fun c c' => c'.isLowLatency = c.isLowLatency) (fun _ => rfl)
    (fun h h' => h'.trans h) (fun _ => rfl) (fun c calls => (make_flags c calls).1) (fun _ => rfl)
    (fun c removed => (switch_events_low_latency c .write false removed).1) c w

/-- With low latency the loop of `handle_fd_write` is left after one pass. -/
theorem write_loop_eq (hlow : c.isLowLatency = true) (w : Writing) (writings : List Writing) :
    c.writeLoop (w :: writings) = (decide ((c.writePass w).1 ≠ .fail), (c.writePass w).2) ∧
      c.loopEmissions (w :: writings) = c.passEmissions w ∧
      c.loopWrites (w :: writings) = c.passWrites := by
  have hafter := (write_pass_low_latency c w).trans hlow
  simp only [writeLoop, loopEmissions, loopWrites]
  generalize c.writePass w = result at hafter
  obtain ⟨end_, after⟩ := result
  cases end_ with
  | fail | stop => simp
  | again | committed =>
      have hafter : after.isLowLatency = true := hafter
      simp [hafter]

/-- Whether a write event is being handled does not matter. -/
theorem Steady.set_handling_write (h : c.Steady) (handlingWrite : Bool) :
    Steady { c with handlingWrite } :=
  ⟨h.lowLatency, h.length_le, h.writeOn, h.drained⟩

/-- The event of the sink of a channel is its own. -/
theorem own_event {s : FdEventSink} (hfes : c.fes = some s) : c.OwnEvent ⟨s.sink, s.fd⟩ := by
  rw [OwnEvent, hfes]
  exact ⟨s, rfl, rfl, rfl⟩

variable {s : FdEventSink} {e : WriteEvent}

/-- The signals of a write event: the one that asks for data, and those of the loop. -/
theorem write_emissions_eq (hfes : c.fes = some s) (houtside : c.handlingWrite = false) :
    c.writeEmissions ⟨s.sink, s.fd⟩ e =
      (if c.Starved then [({ c with handlingWrite := true }, e.askForData)] else []) ++
        if c.GivesUp e then [] else (c.beforeWriting e).loopEmissions (e.first :: e.writings) := by
  unfold writeEmissions
  rw [houtside, if_neg Bool.false_ne_true, if_neg (not_not.2 (own_event hfes))]
  rfl

/-- The channel when the loop is entered. -/
theorem Steady.before_writing (h : c.Steady) (hfes : c.fes = some s)
    (houtside : c.handlingWrite = false)
    (hframed : ∀ x ∈ c.writeEmissions ⟨s.sink, s.fd⟩ e, x.1.Framed x.2.calls) :
    (c.beforeWriting e).Steady ∧
      (c.Starved → ∀ m ∈ FdDgramChannel.callsMade { c with handlingWrite := true }
        e.askForData.calls, m.after.input.length ≤ 1) := by
  have hstart : Steady { c with handlingWrite := true } := h.set_handling_write true
  rw [write_emissions_eq hfes houtside] at hframed
  by_cases hstarved : c.Starved
  · have hsignal : Framed { c with handlingWrite := true } e.askForData.calls :=
      hframed _ (List.mem_append_left _ (by rw [if_pos hstarved]; exact List.mem_singleton_self _))
    have hmade := hstart.make hsignal
    have hbefore : c.beforeWriting e =
        FdDgramChannel.make { c with handlingWrite := true } e.askForData.calls := if_pos hstarved
    rw [hbefore]
    exact ⟨hmade.2, fun _ m hm => (hmade.1 m hm).length_le⟩
  · have hbefore : c.beforeWriting e = { c with handlingWrite := true } := if_neg hstarved
    rw [hbefore]
    exact ⟨hstart, fun h => absurd h hstarved⟩

/-- What a write event leaves of the channel. -/
theorem dispatch_write_eq (hfes : c.fes = some s) (houtside : c.handlingWrite = false)
    (removed : Bool) :
    c.dispatchWrite s e removed =
      if c.GivesUp e then
        (channelClose { c.beforeWriting e with handlingWrite := false } true removed).2
      else
        let (ok, after) := (c.beforeWriting e).writeLoop (e.first :: e.writings)
        if ok then { after with handlingWrite := false }
        else (channelClose { after with handlingWrite := false } true removed).2 := by
  unfold dispatchWrite handleFdWrite
  rw [houtside, if_neg Bool.false_ne_true, if_neg (not_not.2 (own_event hfes))]
  by_cases hgives : c.Starved ∧ e.askForData.result = false
  · rw [if_pos hgives, if_pos (show c.GivesUp e from hgives)]
    rfl
  · rw [if_neg hgives, if_neg (show ¬c.GivesUp e from hgives)]

/-- A write event. -/
theorem Steady.dispatch_write (h : c.Steady) (hfes : c.fes = some s)
    (houtside : c.handlingWrite = false) (hbroken : e.first.broken = false)
    (hframed : ∀ x ∈ c.writeEmissions ⟨s.sink, s.fd⟩ e, x.1.Framed x.2.calls) (removed : Bool) :
    (c.dispatchWrite s e removed).Steady ∧ (c.dispatchWrite s e removed).handlingWrite = false ∧
      ((c.dispatchWrite s e removed).HasRoom ∧ ¬c.FindsNothing e ↔ c.LeavesRoom e) ∧
      (∀ x ∈ c.writeEmissions ⟨s.sink, s.fd⟩ e, ∀ m ∈ x.1.callsMade x.2.calls,
        m.after.input.length ≤ 1) ∧
      (c.eventWrites e).length ≤ 1 := by
  obtain ⟨hbefore, hstarved⟩ := h.before_writing hfes houtside hframed
  rw [write_emissions_eq hfes houtside] at hframed ⊢
  rw [dispatch_write_eq hfes houtside, eventWrites]
  -- nothing came of asking for data, so the channel is closed without writing
  by_cases hgives : c.GivesUp e
  · have hclosed := channel_close_closed { c.beforeWriting e with handlingWrite := false } true
      removed
    simp only [if_pos hgives, if_pos hgives.1, List.append_nil, List.forall_mem_singleton]
    refine ⟨(hbefore.set_handling_write false).channel_close true removed, hclosed.2.2.1,
      iff_of_false (fun hboth => not_has_room_of_closed hclosed.1 hboth.1)
        (fun hleaves => hleaves.1 hgives),
      hstarved hgives.1, Nat.zero_le _⟩
  · simp only [if_neg hgives, List.forall_mem_append] at hframed ⊢
    -- with low latency the loop makes one pass
    obtain ⟨hloop, hone, hwrites⟩ := write_loop_eq hbefore.lowLatency e.first e.writings
    rw [hone] at hframed ⊢
    obtain ⟨hafter, hleaves, hmade⟩ := hbefore.write_pass hbroken hframed.2
    rw [hloop, hwrites]
    simp only [decide_eq_true_eq]
    have hstart : ∀ x ∈ (if c.Starved then [({ c with handlingWrite := true }, e.askForData)]
        else []), ∀ m ∈ x.1.callsMade x.2.calls, m.after.input.length ≤ 1 := by
      split
      next hempty => exact List.forall_mem_singleton.2 (hstarved hempty)
      next => exact List.forall_mem_nil _
    have hwritten : (c.beforeWriting e).passWrites.length ≤ 1 := by
      unfold passWrites
      split
      · exact Nat.zero_le _
      · exact List.length_take_le 1 _
    -- a write that fails closes the channel
    by_cases hpass : ((c.beforeWriting e).writePass e.first).1 = .fail
    · have hclosed := channel_close_closed
        { ((c.beforeWriting e).writePass e.first).2 with handlingWrite := false } true removed
      rw [if_neg (not_not.2 hpass)]
      refine ⟨(hafter.set_handling_write false).channel_close true removed, hclosed.2.2.1,
        iff_of_false (fun hboth => not_has_room_of_closed hclosed.1 hboth.1) ?_,
        ⟨hstart, hmade⟩, hwritten⟩
      exact fun hleft => (hleaves.2 hleft.2).1 hpass
    · rw [if_pos hpass]
      refine ⟨hafter.set_handling_write false, rfl, ?_, ⟨hstart, hmade⟩, hwritten⟩
      constructor
      · rintro ⟨hroom, hfound⟩
        exact ⟨hgives, hleaves.1 ⟨hpass, hroom, fun hinput => hfound ⟨hgives, hinput⟩⟩⟩
      · intro hleft
        obtain ⟨-, hroom, hinput⟩ := hleaves.2 hleft.2
        exact ⟨hroom, fun hfound => hinput hfound.2⟩

end FdDgramChannel

namespace Watched

open FdDgramChannel

variable {c : FdDgramChannel} {idle : Bool}

/-- What holds outside of write events. -/
structure Settled (w : Watched) : Prop where
  steady : w.channel.Steady
  outside : w.channel.handlingWrite = false
  idle_of_room : w.channel.HasRoom → w.idle = true

/-- What holds outside of write events is what low latency is for. -/
theorem Settled.sound {w : Watched} (h : w.Settled) : w.Sound := by
  refine ⟨h.steady.length_le, fun space hspace => h.idle_of_room ?_⟩
  obtain ⟨hopen, hwrite, hmax, hinput, hoff⟩ :=
    (has_space_iff h.steady.lowLatency).1 ⟨space, hspace⟩
  refine ⟨hopen, hwrite, hmax, hinput, hoff.resolve_right ?_⟩
  rw [h.outside]
  exact Bool.false_ne_true

/-- A call keeps it if there is no new room after it. -/
theorem Settled.call (h : Settled ⟨c, idle⟩) {m : CallMade} (hbefore : m.before = c)
    (hsteady : m.after.Steady) (houtside : m.after.handlingWrite = c.handlingWrite)
    (hroom : m.after.HasRoom → c.HasRoom ∧ m.after.input = c.input) :
    Settled ⟨m.after, idle && !m.buffers⟩ where
  steady := hsteady
  outside := houtside.trans h.outside
  idle_of_room hafter := by
    obtain ⟨hroom, hinput⟩ := hroom hafter
    have hidle : idle = true := h.idle_of_room hroom
    simp [hidle, CallMade.buffers, hbefore, hinput]

/-- A call and those after it leave the channel settled after each. -/
theorem Settled.cons {m : CallMade} {made : List CallMade}
    (h : Settled ⟨m.after, idle && !m.buffers⟩)
    (hrest : (∀ next ∈ watch (idle && !m.buffers) made, next.Settled) ∧
      Settled ⟨c, (idle && !m.buffers) && made.all fun m => !m.buffers⟩) :
    (∀ next ∈ watch idle (m :: made), next.Settled) ∧
      Settled ⟨c, idle && (m :: made).all fun m => !m.buffers⟩ := by
  rw [List.all_cons, ← Bool.and_assoc]
  exact ⟨List.forall_mem_cons.2 ⟨h, hrest.1⟩, hrest.2⟩

/-- Calls of clients keep it. -/
theorem Settled.calls (h : Settled ⟨c, idle⟩) {calls : Calls} (hframed : c.Framed calls) :
    (∀ next ∈ watch idle (c.callsMade calls), next.Settled) ∧
      Settled ⟨c.make calls, idle && (c.callsMade calls).all fun m => !m.buffers⟩ := by
  have hsteady := (h.steady.make hframed).1
  induction calls generalizing c idle with
  | done => exact ⟨List.forall_mem_nil _, by simpa [callsMade, FdDgramChannel.make] using h⟩
  | commit addr body fits added next ih =>
      -- a commit has been asked for, so there is space, which it takes
      obtain ⟨hfirst, hrest⟩ := List.forall_mem_cons.1 hframed
      obtain ⟨rfl, space, masked, hspace⟩ := hfirst added rfl
      have hspace : c.spaceLeft space ≠ 0 := by
        simpa using (Bool.and_eq_true_iff.1 hspace).1
      obtain ⟨hafter, hchange⟩ := h.steady.commit_dataframe ⟨space, hspace⟩ addr body fits
      have hnext := h.call (m := ⟨some true, c, (c.commitDataframe addr body fits true).2⟩) rfl
        hafter (make_flags c (.commit addr body fits true .done)).2 fun hroom => by
          rcases hchange with hsame | ⟨hon, -⟩
          · simp only [hsame] at hroom ⊢
            exact ⟨hroom, trivial⟩
          · exact absurd hroom (not_has_room_of_write_ev hon)
      exact hnext.cons (ih hnext hrest (hnext.steady.make hrest).1)
  | pop added next ih =>
      obtain ⟨hafter, -⟩ := List.forall_mem_cons.1 hsteady
      have hrest := (List.forall_mem_cons.1 hframed).2
      have hnext := h.call (m := ⟨none, c, (c.popDgram added).2⟩) rfl hafter
        (make_flags c (.pop added .done)).2 pop_dgram_room
      exact hnext.cons (ih hnext hrest (hnext.steady.make hrest).1)
  | clear added next ih =>
      obtain ⟨hafter, -⟩ := List.forall_mem_cons.1 hsteady
      have hrest := (List.forall_mem_cons.1 hframed).2
      have hnext := h.call (m := ⟨none, c, (c.clear added).2⟩) rfl hafter
        (make_flags c (.clear added .done)).2 clear_room
      exact hnext.cons (ih hnext hrest (hnext.steady.make hrest).1)
  | clearUnwritten space handlers signalled removed next ihandlers ih =>
      -- outside of the write handler a full buffer asks for no data
      have hquiet := h.steady.not_asks_for_data h.outside space
      unfold Framed at hframed
      simp only [callsMade, FdDgramChannel.make, if_neg hquiet] at hframed hsteady ⊢
      obtain ⟨hafter, -⟩ := List.forall_mem_cons.1 hsteady
      have hrest := (List.forall_mem_cons.1 hframed).2
      have hmake := (make_flags c (.clearUnwritten space handlers signalled removed .done)).2
      rw [FdDgramChannel.make, if_neg hquiet] at hmake
      have hnext := h.call (m := ⟨none, c, (c.clearQuietly removed).2⟩) rfl hafter hmake
        h.steady.clear_quietly_room
      exact hnext.cons (ih hnext hrest (hnext.steady.make hrest).1)
  | close removed next ih =>
      obtain ⟨hafter, -⟩ := List.forall_mem_cons.1 hsteady
      have hrest := (List.forall_mem_cons.1 hframed).2
      have hnext := h.call (m := ⟨none, c, (c.channelClose false removed).2⟩) rfl hafter
        (make_flags c (.close removed .done)).2 fun hroom =>
          absurd hroom (not_has_room_of_closed (channel_close_closed ..).1)
      exact hnext.cons (ih hnext hrest (hnext.steady.make hrest).1)

/-- A new descriptor keeps it. Write events are switched on if there may be writes. -/
theorem Settled.assign {w : Watched} (h : w.Settled) (sink fd : Nat) (fdType : DgramFdType)
    (isNonblocking reads writes : Bool) :
    (w.step (.assign sink fd fdType isNonblocking reads writes)).Settled := by
  simp only [step, assignFd]
  split_ifs with hheld
  · exact h
  · exact h
  · exact h
  · have hinput : w.channel.input = [] :=
      h.steady.drained (Option.not_isSome_iff_eq_none.1 hheld)
    constructor
    case steady => exact .of_empty h.steady.lowLatency hinput
    case outside => exact h.outside
    case idle_of_room =>
      rintro ⟨-, hwrite, -, -, hoff⟩
      have hon : writes = true := hwrite
      have hoff : writes = false := hoff
      rw [hon] at hoff
      cases hoff

/-- A write event is right exactly if the handlers of the write error signal leave no room. -/
theorem Settled.write {w : Watched} (h : w.Settled) {e : WriteEvent} {removed : Bool}
    (hallowed : w.Allowed (.write e removed)) :
    (w.Right (.write e removed) ↔ w.KeepsBuffer (.write e removed)) ∧
      (w.KeepsBuffer (.write e removed) → (w.step (.write e removed)).Settled) := by
  cases hfes : w.channel.fes with
  | none =>
      have hsame : w.step (.write e removed) = w := by simp only [step, hfes]
      have hkeeps : w.KeepsBuffer (.write e removed) := fun hheld => by simp [hfes] at hheld
      have hright : w.Right (.write e removed) := by
        rw [Right, hsame]
        exact ⟨h.sound, fun s hs => by simp [hfes] at hs⟩
      rw [hsame]
      exact ⟨iff_of_true hright hkeeps, fun _ => h⟩
  | some s =>
      obtain ⟨hbroken, hframed⟩ := hallowed
      have hframed := hframed s hfes
      obtain ⟨hsteady, houtside, hroom, hmade, hwrites⟩ :=
        h.steady.dispatch_write hfes h.outside hbroken hframed removed
      have hstep : w.step (.write e removed) =
          ⟨w.channel.dispatchWrite s e removed, decide (w.channel.FindsNothing e)⟩ := by
        simp only [step, hfes]
      have hsettled (hkeeps : ¬w.channel.LeavesRoom e) : (w.step (.write e removed)).Settled := by
        rw [hstep]
        refine ⟨hsteady, houtside, fun hafter => decide_eq_true ?_⟩
        exact not_not.1 fun hfound => hkeeps (hroom.1 ⟨hafter, hfound⟩)
      have hheld : w.channel.fes.isSome = true := by rw [hfes]; rfl
      refine ⟨⟨fun hright _ hleaves => ?_, fun hkeeps => ⟨(hsettled (hkeeps hheld)).sound, ?_⟩⟩,
        fun hkeeps => hsettled (hkeeps hheld)⟩
      · -- there is space after the event, which has found something
        obtain ⟨hafter, hfound⟩ := hroom.2 hleaves
        obtain ⟨space, hspace⟩ := (has_space_iff hsteady.lowLatency).2
          ⟨hafter.1, hafter.2.1, hafter.2.2.1, hafter.2.2.2.1, .inl hafter.2.2.2.2⟩
        have hsound := hright.1
        rw [hstep] at hsound
        exact hfound (of_decide_eq_true (hsound.2 space hspace))
      · intro s' hs'
        rw [hfes] at hs'
        cases hs'
        exact ⟨hmade, hwrites⟩

/-- A new channel is settled. -/
theorem start_settled (maxDgramLen : Nat) : (start maxDgramLen).Settled where
  steady := .of_empty rfl rfl
  outside := rfl
  idle_of_room hroom := by
    have hclosed : true = false := hroom.1
    cases hclosed

/-- One step is right exactly if it keeps the buffer, and the next one starts as it did. -/
theorem Settled.step {w : Watched} (h : w.Settled) {event : LatencyEvent}
    (hallowed : w.Allowed event) :
    (w.Right event ↔ w.KeepsBuffer event) ∧ (w.KeepsBuffer event → (w.step event).Settled) := by
  cases event with
  | assign sink fd fdType isNonblocking reads writes =>
      have hnext := h.assign sink fd fdType isNonblocking reads writes
      exact ⟨iff_of_true ⟨hnext.sound, trivial⟩ trivial, fun _ => hnext⟩
  | calls calls =>
      obtain ⟨hmade, hnext⟩ := Settled.calls h hallowed
      exact ⟨iff_of_true ⟨hnext.sound, fun next hmem => (hmade next hmem).sound⟩ trivial,
        fun _ => hnext⟩
  | write e removed => exact h.write hallowed

/-- In a run in which all commits are made with data frames and no write breaks the descriptor,
low latency works exactly if no handlers of the write error signal leave room: there is never more
than one datagram, a write event writes one at most, and there is space outside of
`handle_fd_write` only where nothing has been buffered or written since the last write event, which
found nothing to send. -/
theorem low_latency_iff {maxDgramLen : Nat} {events : List LatencyEvent}
    (hallowed : Along Watched.step Allowed (start maxDgramLen) events) :
    Along Watched.step Right (start maxDgramLen) events ↔
      Along Watched.step KeepsBuffer (start maxDgramLen) events := by
  have hboth : Along Watched.step (fun w event => w.Allowed event ∧ w.Right event)
      (start maxDgramLen) events ↔
        Along Watched.step (fun w event => w.Allowed event ∧ w.KeepsBuffer event)
          (start maxDgramLen) events :=
    along_iff_along (I := Settled) (fun w event h hmeets => (h.step hmeets.1).2 hmeets.2)
      (fun w event h => and_congr_right fun hmeets => (h.step hmeets).1)
      (start_settled maxDgramLen)
  rw [along_and_iff, along_and_iff, and_iff_right hallowed, and_iff_right hallowed] at hboth
  exact hboth

/-! ## Two runs -/

/-- Commits are made with data frames if the buffer has this space. -/
theorem framed_of_space {calls : Calls} (space : Nat)
    (h : ∀ m ∈ c.callsMade calls, m.commit = none ∨
      m.commit = some true ∧ m.before.getDataframe space true = true) : c.Framed calls := by
  intro m hm added hadded
  rcases h m hm with hnone | ⟨hcommit, hframe⟩
  · rw [hnone] at hadded
    cases hadded
  · rw [hcommit] at hadded
    cases hadded
    exact ⟨rfl, space, true, hframe⟩

/-- A write event is allowed if its handlers commit where there is space. -/
theorem allowed_of_space {w : Watched} {e : WriteEvent} {removed : Bool} (space : Nat)
    (hbroken : e.first.broken = false)
    (h : ∀ s ∈ w.channel.fes, ∀ x ∈ w.channel.writeEmissions ⟨s.sink, s.fd⟩ e,
      ∀ m ∈ x.1.callsMade x.2.calls, m.commit = none ∨
        m.commit = some true ∧ m.before.getDataframe space true = true) :
    w.Allowed (.write e removed) :=
  ⟨hbroken, fun s hs x hx => framed_of_space space (h s hs x hx)⟩

/-- A write event whose write would block, if there is something to write. -/
def blocked (writeError : Option Emission) : WriteEvent where
  askForData := ⟨.done, true⟩
  first :=
    { written := none
      errno := .other
      broken := false
      writeError
      moreData := ⟨.done, true⟩
      removed := true }
  writings := []

/-- A write event finds nothing, a client commits a datagram, and the write would block. -/
def blockedRun (writeError : Option Emission) : List LatencyEvent :=
  [.assign 1 3 .connSocket true true true, .write (blocked none) true,
    .calls (.commit none [7] true true .done), .write (blocked writeError) true]

/-- The handler of the write error signal throws the datagram away. -/
def throwAway : Emission := ⟨.clearUnwritten 1000 .done true true .done, false⟩

/-- A handler of the write signal commits a datagram, but the write would block. -/
def askedAndBlocked : WriteEvent :=
  { blocked none with askForData := ⟨.commit none [7] true true .done, true⟩ }

/-- The write takes the datagram. -/
def taken : WriteEvent :=
  { blocked none with first := { (blocked none).first with written := some 1 } }

/-- A datagram that a handler commits waits for the next write event, and one that a client commits
then, after a write event that has found nothing, waits as well. -/
def waitingRun : List LatencyEvent :=
  [.assign 1 3 .connSocket true true true, .write askedAndBlocked true, .write taken true,
    .write (blocked none) true, .calls (.commit none [8] true true .done),
    .write (blocked none) true]

/-- The datagrams of the run wait for the next write event, one at a time. -/
theorem blocked_datagram_waits : Along Watched.step Right (start 64) waitingRun := by
  have hallowed : Along Watched.step Allowed (start 64) waitingRun :=
    ⟨trivial, allowed_of_space 1000 rfl (by decide), allowed_of_space 1000 rfl (by decide),
      allowed_of_space 1000 rfl (by decide), framed_of_space 1000 (by decide),
      allowed_of_space 1000 rfl (by decide), trivial⟩
  exact (low_latency_iff hallowed).2
    ⟨trivial, fun _ => by decide, fun _ => by decide, fun _ => by decide, trivial,
      fun _ => by decide, trivial⟩

/-- There is space after a write that would have blocked. -/
theorem space_after_blocked_write :
    Along Watched.step Allowed (start 64) (blockedRun throwAway) ∧
      ¬Along Watched.step Right (start 64) (blockedRun throwAway) := by
  constructor
  · exact ⟨trivial, allowed_of_space 1000 rfl (by decide), framed_of_space 1000 (by decide),
      allowed_of_space 1000 rfl (by decide), trivial⟩
  · rintro ⟨-, -, -, hwrite, -⟩
    have hidle := hwrite.1.2 1000 (by decide)
    revert hidle
    decide

end Watched

end Codon.Io
