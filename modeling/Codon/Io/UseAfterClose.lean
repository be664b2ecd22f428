import Codon.Io.DgramMisuse
import Codon.Io.FdStreamChannel

/-!
# Uses of a descriptor after the channel has closed it

The same for stream channels, whose write events are safe too and whose handlers cannot call
`clear_unwritten`, and the two together: `never_misused_iff`.
-/

namespace Codon.Io

namespace FdStreamChannel

variable {c : FdStreamChannel}

/-- Without a descriptor there is nothing to be written. -/
def Drained (c : FdStreamChannel) : Prop := c.fes = none → c.input = []

/-- With a handle there may be something to write. -/
theorem Drained.of_held (h : c.fes.isSome = true) : c.Drained :=
  fun hfes => by simp [hfes] at h

/-- An open channel holds its handle. -/
theorem held_of_open (h : c.isClosed = false) : c.fes.isSome = true := by
  unfold isClosed at h
  cases hfes : c.fes with
  | none => simp [hfes] at h
  | some s => rfl

/-- To use a handle that is held is no misuse. -/
theorem use_misuses_of_held (h : c.fes.isSome = true) : c.use.misuses = c.misuses := by
  simp [use, h]

/-- Asking for events is one use of the handle. -/
theorem switch_events_misuses (c : FdStreamChannel) (ev : FdEv) (on taken : Bool) :
    (c.switchEvents ev on taken).misuses = c.use.misuses := by
  unfold switchEvents
  split_ifs <;> rfl

/-- Asking for events is no misuse while the handle is held. -/
theorem switch_events_misuses_of_held (h : c.fes.isSome = true) (ev : FdEv) (on taken : Bool) :
    (c.switchEvents ev on taken).misuses = c.misuses :=
  (switch_events_misuses ..).trans (use_misuses_of_held h)

/-- Asking for events keeps the handle. -/
theorem switch_events_fes (c : FdStreamChannel) (ev : FdEv) (on taken : Bool) :
    (c.switchEvents ev on taken).fes.isSome = c.fes.isSome := by
  unfold switchEvents
  split_ifs
  · exact Option.isSome_map ..
  · rfl

/-- Asking for events leaves what is to be written. -/
theorem switch_events_input (c : FdStreamChannel) (ev : FdEv) (on taken : Bool) :
    (c.switchEvents ev on taken).input = c.input := by
  unfold switchEvents
  split_ifs <;> rfl

/-- Asking for events keeps a channel drained. -/
theorem Drained.switch_events (h : c.Drained) (ev : FdEv) (on taken : Bool) :
    (c.switchEvents ev on taken).Drained := by
  intro hfes
  rw [switch_events_input]
  refine h (Option.not_isSome_iff_eq_none.1 ?_)
  rw [← switch_events_fes c ev on taken, hfes]
  exact Bool.false_ne_true

/-- Reading is only resumed with an open channel. -/
theorem resume_reading_misuses (c : FdStreamChannel) (added : Bool) :
    (c.resumeReading added).2.misuses = c.misuses := by
  unfold resumeReading
  split_ifs with hopen
  · exact switch_events_misuses_of_held (held_of_open (by simp_all)) ..
  · rfl

/-- Resuming to read keeps a channel drained. -/
theorem Drained.resume_reading (h : c.Drained) (added : Bool) :
    (c.resumeReading added).2.Drained := by
  unfold resumeReading
  split_ifs
  · exact h.switch_events .read true added
  · exact h

/-- Closing the channel is no misuse. -/
theorem channel_close_misuses (c : FdStreamChannel) (fesClosed removed : Bool) :
    (c.channelClose fesClosed removed).2.misuses = c.misuses := by
  by_cases hfes : c.fes = none
  · simp [channelClose, hfes]
  · have hheld : c.fes.isSome = true := Option.isSome_iff_ne_none.2 hfes
    have hstop : (c.stopReading fesClosed removed).misuses = c.misuses :=
      switch_events_misuses_of_held
        (c := { c with isClosedFlag := true, input := if fesClosed then [] else c.input }) hheld ..
    unfold channelClose
    split_ifs
    · rfl
    · exact hstop
    · exact hstop
    · exact hstop

/-- The descriptor is only closed once everything has been written or thrown away. -/
theorem Drained.channel_close (c : FdStreamChannel) (fesClosed removed : Bool) :
    (c.channelClose fesClosed removed).2.Drained := by
  unfold channelClose
  split_ifs with hfes _ hinput
  · exact fun _ => rfl
  all_goals
    have hheld : c.fes.isSome = true := by simpa [Option.isSome_iff_ne_none] using hfes
  · exact .of_held ((switch_events_fes ..).trans hheld)
  · exact .of_held ((switch_events_fes ..).trans hheld)
  · intro _
    simpa [drop] using hinput

/-- A call misuses nothing. -/
theorem call_misuses (h : c.Drained) (call : StreamCall) :
    (c.call call).misuses = c.misuses ∧ (c.call call).Drained := by
  cases call with
  | commit bytes added =>
      simp only [FdStreamChannel.call, commit]
      cases hclosed : c.isClosed with
      | true => exact ⟨rfl, h⟩
      | false =>
          have hheld := held_of_open hclosed
          rw [if_neg Bool.false_ne_true]
          unfold channelCommitDataframe
          split_ifs
          · exact ⟨rfl, h⟩
          · exact ⟨rfl, .of_held hheld⟩
          · exact ⟨switch_events_misuses_of_held (c := c.take bytes) hheld ..,
              .of_held ((switch_events_fes ..).trans hheld)⟩
  | popFront bytes added =>
      simp only [FdStreamChannel.call, popFront]
      split_ifs
      · exact ⟨rfl, h⟩
      · exact ⟨rfl, h⟩
      · exact ⟨resume_reading_misuses .., Drained.resume_reading
          (c := FdStreamChannel.freed { c with output := c.output.drop bytes } bytes) h added⟩
  | clear added =>
      simp only [FdStreamChannel.call, clear]
      split_ifs
      · exact ⟨rfl, h⟩
      · exact ⟨resume_reading_misuses .., Drained.resume_reading
          (c := FdStreamChannel.freed { c with output := [] } c.output.length) h added⟩
  | close removed => exact ⟨channel_close_misuses .., Drained.channel_close _ false removed⟩

/-- Calls of handlers are no misuses. -/
theorem make_misuses (h : c.Drained) (calls : List StreamCall) :
    (c.make calls).misuses = c.misuses ∧ (c.make calls).Drained := by
  unfold make
  induction calls generalizing c with
  | nil => exact ⟨rfl, h⟩
  | cons call calls ih =>
      obtain ⟨hmisuses, hdrained⟩ := call_misuses h call
      obtain ⟨hrest, hfinal⟩ := ih hdrained
      exact ⟨hrest.trans hmisuses, hfinal⟩

/-- A channel whose event is handled holds its handle. -/
theorem OwnEvent.held {event : FdEvent} (h : c.OwnEvent event) : c.fes.isSome = true := by
  obtain ⟨s, hs, -⟩ := h
  exact Option.isSome_of_mem hs

/-- The handlers that are asked to make room do not close the descriptor, unless they fail. -/
def KeepsRoom (c : FdStreamChannel) (event : FdEvent) (e : StreamReadEvent) : Prop :=
  c.OwnEvent event → c.Full → e.makeRoom.result = true → (c.withRoom e).fes.isSome = true

/-- After the emission, `handle_fd_read` uses the sink or the descriptor. -/
theorem receive_misuses (h : c.Drained) (e : StreamReadEvent) :
    (c.receive e).2.misuses = c.use.misuses := by
  unfold receive
  by_cases hfull : c.Full
  · rw [if_pos hfull]
    exact switch_events_misuses ..
  · rw [if_neg hfull]
    cases e.received with
    | none => rfl
    | some available =>
        simp only
        split_ifs
        · rfl
        · exact (make_misuses (c := { c.use with output := c.output ++ _ }) h _).1

/-- `handle_fd_read` misuses the descriptor exactly if the handlers that are asked to make room
close it. -/
theorem handle_fd_read_misuses_iff (c : FdStreamChannel) (event : FdEvent) (e : StreamReadEvent) :
    (c.handleFdRead event e).2.misuses = c.misuses ↔ c.KeepsRoom event e := by
  unfold handleFdRead KeepsRoom
  by_cases hown : c.OwnEvent event
  · have hroom : (c.withRoom e).misuses = c.misuses ∧ (c.withRoom e).Drained := by
      unfold withRoom
      split_ifs
      · exact make_misuses (c := c.atRead) (.of_held hown.held) _
      · exact ⟨rfl, .of_held hown.held⟩
    by_cases hfull : c.Full
    · cases hresult : e.makeRoom.result with
      | false => simp [hown, hfull, hroom.1]
      | true =>
          simp only [hown, hfull, not_true_eq_false, if_false, Bool.true_eq_false, and_false,
            receive_misuses hroom.2, forall_const]
          rw [← hroom.1]
          cases hfes : (c.withRoom e).fes <;> simp [use, hfes]
    · have hheld : (c.withRoom e).fes.isSome = true := by
        rw [withRoom, if_neg hfull]
        exact hown.held
      simp [hown, hfull, receive_misuses hroom.2, use_misuses_of_held hheld, hroom.1]
  · simp [hown]

/-- The end of writing is no misuse. -/
theorem finish_writing_misuses (c : FdStreamChannel) (removed : Bool) :
    (c.finishWriting removed).2.misuses = c.misuses := by
  cases hclosed : c.isClosed with
  | false =>
      have hswitch := switch_events_misuses_of_held (held_of_open hclosed) .write false removed
      simp only [finishWriting, hclosed, Bool.not_false, if_true]
      split_ifs
      · exact hswitch
      · rfl
  | true => simp [finishWriting, hclosed]

/-- What follows a write is no misuse. -/
theorem after_writing_misuses (h : c.Drained) (wasEmpty : Bool) (e : StreamWriteEvent) :
    (c.afterWriting wasEmpty e).2.misuses = c.misuses := by
  unfold afterWriting
  split_ifs
  · exact (finish_writing_misuses ..).trans (make_misuses h _).1
  · exact (make_misuses h _).1
  · exact finish_writing_misuses ..

/-- `handle_fd_write` misuses nothing. -/
theorem handle_fd_write_misuses (c : FdStreamChannel) (event : FdEvent) (e : StreamWriteEvent) :
    (c.handleFdWrite event e).2.misuses = c.misuses := by
  unfold handleFdWrite
  by_cases hown : c.OwnEvent event
  · have hdata : (c.withData e).misuses = c.misuses ∧ (c.withData e).Drained := by
      unfold withData
      split_ifs
      · exact make_misuses (.of_held hown.held) _
      · exact ⟨rfl, .of_held hown.held⟩
    rw [if_neg (not_not.2 hown)]
    split_ifs
    · exact hdata.1
    · refine Eq.trans ?_ hdata.1
      unfold writeOut
      split_ifs with hinput
      · exact after_writing_misuses hdata.2 ..
      · have hheld : (c.withData e).fes.isSome = true := by
          rw [Option.isSome_iff_ne_none]
          exact fun hfes => hinput (List.isEmpty_iff.2 (hdata.2 hfes))
        have huse := use_misuses_of_held hheld
        cases e.accepted with
        | none => exact huse
        | some n =>
            refine Eq.trans (after_writing_misuses ?_ ..) huse
            exact .of_held hheld
  · rw [if_pos hown]

end FdStreamChannel

/-- No use is made of the handle of the sink after it was cleared, nor of the descriptor after it
was closed, exactly under these conditions. In `handle_fd_read` the handlers that are asked to make
room do not close the descriptor, unless they fail. In `clear_unwritten`, also where handlers call
it, neither do its handlers. -/
theorem never_misused_iff (c : FdDgramChannel) (s : FdStreamChannel) (event : FdEvent) :
    (∀ e, c.fdType ≠ .none →
      ((c.handleFdRead event e).2.2.misuses = c.misuses ↔
        (∀ x ∈ c.readEmissions event e, x.1.Orderly x.2.calls) ∧ c.KeepsRoom event e)) ∧
    (∀ e, (c.handleFdWrite event e).2.misuses = c.misuses ↔
      ∀ x ∈ c.writeEmissions event e, x.1.Orderly x.2.calls) ∧
    (∀ space signal removed,
      (c.clearUnwritten space signal removed).2.misuses = c.misuses ↔
        c.Orderly (.clearUnwritten space signal.calls signal.result removed .done)) ∧
    (∀ e, (s.handleFdRead event e).2.misuses = s.misuses ↔ s.KeepsRoom event e) ∧
    ∀ e, (s.handleFdWrite event e).2.misuses = s.misuses :=
  ⟨fun e hassigned => FdDgramChannel.handle_fd_read_misuses_iff hassigned event e,
    c.handle_fd_write_misuses_iff event, c.clear_unwritten_misuses_iff,
    s.handle_fd_read_misuses_iff event, s.handle_fd_write_misuses event⟩

namespace Sample

/-- A stream channel whose read buffer of two bytes is full. -/
def fullStream : FdStreamChannel where
  size := 2
  input := []
  output := [1, 2]
  canRead := true
  canWrite := true
  fes := some ⟨1, 7, true, true⟩
  isClosedFlag := false
  misuses := 0
  history := {}

/-- A read event of the stream whose handlers make some calls when they are asked to make room. -/
def makeRoom (calls : List StreamCall) : StreamReadEvent where
  makeRoom := ⟨calls, true⟩
  removed := true
  received := some [3]
  broken := false
  newData := ⟨[], true⟩

/-- A reading that finds no space. -/
def noSpace : Reading where
  space := 0
  removed := true
  received := none
  broken := false
  head := {}
  firewall := []
  committed := true

end Sample

/-- The handlers of a channel close it: when `handle_fd_read` asks for room and they make none, and
when it asks and they make room, for both kinds of channels, and when `clear_unwritten` asks for
data. -/
theorem used_after_close :
    (Sample.fullStream.handleFdRead ⟨1, 7⟩ (Sample.makeRoom [.close true])).2.misuses = 1 ∧
    (Sample.fullStream.handleFdRead ⟨1, 7⟩
      (Sample.makeRoom [.popFront 1 true, .close true])).2.misuses = 1 ∧
    (Sample.udpChannel.handleFdRead ⟨1, 7⟩
      ⟨0, ⟨.close true .done, true⟩, Sample.noSpace, [], ⟨.done, true⟩⟩).2.2.misuses = 1 ∧
    (Sample.udpChannel.handleFdRead ⟨1, 7⟩
      ⟨0, ⟨.close true .done, true⟩, Sample.rejected 2 16, [], ⟨.done, true⟩⟩).2.2.misuses = 1 ∧
    ({ Sample.udpChannel with input := [⟨{}, [1]⟩] }.clearUnwritten 200
      ⟨.close true .done, true⟩ true).2.misuses = 1 := by
  decide

/-- The slots of the firewall accept a datagram. A handler of the read signal takes it and closes
the channel. -/
def Sample.popAndClose : ReadEvent :=
  { oneDatagram { rejected 2 16 with firewall := [] } with
    newData := ⟨.pop true (.close true .done), true⟩ }

/-- A handler may close the channel when it is told of new data. -/
theorem popped_and_closed_not_misused :
    (Sample.udpChannel.handleFdRead ⟨1, 7⟩ Sample.popAndClose).2.2.misuses = 0 ∧
      (Sample.udpChannel.handleFdRead ⟨1, 7⟩ Sample.popAndClose).2.2.fes = none := by
  have hnever := never_misused_iff Sample.udpChannel Sample.fullStream ⟨1, 7⟩
  refine ⟨(hnever.1 _ (by decide)).2 ⟨?_, fun _ hspace => absurd hspace (by decide)⟩, by decide⟩
  have hemits : Sample.udpChannel.readEmissions ⟨1, 7⟩ Sample.popAndClose =
      [({ Sample.udpChannel with output := [⟨⟨16, ⟨2, []⟩⟩, [1]⟩] },
        Sample.popAndClose.newData)] := rfl
  rw [hemits, List.forall_mem_singleton]
  exact trivial

end Codon.Io
