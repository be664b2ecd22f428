import Codon.Io.StreamFlow

/-!
# Two stream channels over a connection

What a channel receives from its descriptor is what its clients have taken out of the read buffer
and what is still there. Two channels whose descriptors are the ends of a connection, which keeps
the bytes in order and loses none, then account for every byte: `stream_accounted` says where the
bytes are that a client has committed on the one side, in every state of every run, and
`stream_not_stuck` that something can be done about those that the other side has not consumed.
-/

namespace Codon.Io

open Codon.Library

namespace FdStreamChannel

variable (c : FdStreamChannel)

/-! ## What a channel receives and what its clients consume -/

/-- The bytes that a call takes out of the read buffer. -/
def consumedBy : StreamCall → List UInt8
  | .popFront bytes _ => if c.output.length < bytes then [] else c.output.take bytes
  | .clear _ => c.output
  | .commit _ _ | .close _ => []

/-- The bytes that the calls of handlers take out of the read buffer. -/
def consumedByAll : FdStreamChannel → List StreamCall → List UInt8
  | _, [] => []
  | c, made :: calls => c.consumedBy made ++ (c.call made).consumedByAll calls

/-- The bytes that the part of `handle_fd_read` after asking for room reads. -/
def received (e : StreamReadEvent) : List UInt8 :=
  if c.Full then []
  else
    match e.received with
    | none => []
    | some available => available.take (c.size - c.output.length)

/-- The bytes that the read signal for new data has consumed. -/
def consumedOfNewData (e : StreamReadEvent) : List UInt8 :=
  if (c.received e).isEmpty then []
  else { c.use with output := c.output ++ c.received e }.consumedByAll e.newData.calls

/-- The bytes that `handle_fd_read` reads, and those that its handlers consume. -/
def readFlow (e : StreamReadEvent) : List UInt8 × List UInt8 :=
  let room := if c.Full then c.atRead.consumedByAll e.makeRoom.calls else []
  if c.Full ∧ e.makeRoom.result = false then ([], room)
  else ((c.withRoom e).received e, room ++ (c.withRoom e).consumedOfNewData e)

/-- The bytes that the write signal after writing has consumed. -/
def consumedAfterWriting (wasEmpty : Bool) (e : StreamWriteEvent) : List UInt8 :=
  if c.isClosed = false ∧ wasEmpty = false ∧ c.input = [] then c.consumedByAll e.moreData.calls
  else []

/-- The bytes that are consumed while `handle_fd_write` writes. -/
def consumedOfWriting (e : StreamWriteEvent) : List UInt8 :=
  if c.input.isEmpty then c.consumedAfterWriting true e
  else
    match e.accepted with
    | none => []
    | some n =>
        { c.use with
          input := c.input.drop n
          history.written := c.history.written ++ c.input.take n }.consumedAfterWriting false e

/-- The bytes that the handlers of `handle_fd_write` consume. -/
def writeFlow (e : StreamWriteEvent) : List UInt8 :=
  let asked := if c.Starved then c.consumedByAll e.askForData.calls else []
  if c.Starved ∧ e.askForData.result = false then asked
  else asked ++ (c.withData e).consumedOfWriting e

/-- The bytes that an operation reads from the descriptor, and those that clients consume in it. -/
def flow : StreamOp → List UInt8 × List UInt8
  | .assign _ _ _ _ => ([], [])
  | .call made => ([], c.consumedBy made)
  | .read e =>
      match c.fes with
      | none => ([], [])
      | some s => if s.readEv then c.readFlow e else ([], [])
  | .write e =>
      match c.fes with
      | none => ([], [])
      | some s => if s.writeEv then ([], c.writeFlow e) else ([], [])

/-! ## What a step does with the bytes -/

variable {c} {c' c'' : FdStreamChannel} {r r' k k' : List UInt8}

/-- If the read buffer was full at the last read event and nothing has been removed since, it is
full. -/
def StaysFull (c : FdStreamChannel) : Prop :=
  c.history.fullAtRead = true → (∀ n ∈ c.history.freedSince, n = 0) → c.Full

/-- The channel receives bytes into the read buffer, and clients consume bytes from its front. -/
structure Moves (c : FdStreamChannel) (received consumed : List UInt8) (c' : FdStreamChannel) :
    Prop where
  bytes : c.output ++ received = consumed ++ c'.output
  written : c.history.written <+: c'.history.written
  full : c.StaysFull → c'.StaysFull
  size : c'.size = c.size
  held : c'.fes.isSome = true →
    c.fes.isSome = true ∧ c'.canRead = c.canRead ∧ c'.canWrite = c.canWrite

/-- Where nothing is read or consumed, the read buffer stays the same. -/
theorem Moves.refl (c : FdStreamChannel) : Moves c [] [] c :=
  ⟨List.append_nil _, List.prefix_rfl, id, rfl, fun h => ⟨h, rfl, rfl⟩⟩

/-- Moves are continued. -/
theorem Moves.trans (h : Moves c r k c') (h' : Moves c' r' k' c'') :
    Moves c (r ++ r') (k ++ k') c'' where
  bytes :=
    calc c.output ++ (r ++ r') = c.output ++ r ++ r' := (List.append_assoc _ _ _).symm
      _ = k ++ (c'.output ++ r') := by rw [h.bytes, List.append_assoc]
      _ = k ++ k' ++ c''.output := by rw [h'.bytes, List.append_assoc]
  written := h.written.trans h'.written
  full := h'.full ∘ h.full
  size := h'.size.trans h.size
  held hsome := by
    obtain ⟨hsome, hread', hwrite'⟩ := h'.held hsome
    obtain ⟨hsome, hread, hwrite⟩ := h.held hsome
    exact ⟨hsome, hread'.trans hread, hwrite'.trans hwrite⟩

/-- Nothing is received after a step. -/
theorem Moves.then (h : Moves c r k c') (h' : Moves c' [] k' c'') : Moves c r (k ++ k') c'' := by
  have hboth := h.trans h'
  rwa [List.append_nil] at hboth

/-- Nothing is received before a step. -/
theorem Moves.after (h : Moves c [] k c') (h' : Moves c' r' k' c'') :
    Moves c r' (k ++ k') c'' := h.trans h'

/-- Nothing happens to the bytes after a step. -/
theorem Moves.quiet (h : Moves c r k c') (h' : Moves c' [] [] c'') : Moves c r k c'' := by
  have hboth := h.then h'
  rwa [List.append_nil] at hboth

/-- What does not concern the bytes. -/
theorem Moves.same (hsize : c'.size = c.size) (houtput : c'.output = c.output)
    (hwritten : c'.history.written = c.history.written)
    (hfull : c'.history.fullAtRead = c.history.fullAtRead)
    (hfreed : c'.history.freedSince = c.history.freedSince)
    (hheld : c'.fes.isSome = true →
      c.fes.isSome = true ∧ c'.canRead = c.canRead ∧ c'.canWrite = c.canWrite) :
    Moves c [] [] c' := by
  refine ⟨(List.append_nil _).trans houtput.symm, hwritten ▸ List.prefix_rfl, ?_, hsize, hheld⟩
  unfold StaysFull Full
  rw [hsize, houtput, hfull, hfreed]
  exact id

/-- Asking for events moves no bytes. -/
theorem switch_moves (c : FdStreamChannel) (ev : FdEv) (on taken : Bool) :
    Moves c [] [] (c.switchEvents ev on taken) := by
  unfold switchEvents
  split_ifs
  · exact .same rfl rfl rfl rfl rfl fun h => ⟨by simpa using h, rfl, rfl⟩
  · exact .same rfl rfl rfl rfl rfl fun h => ⟨h, rfl, rfl⟩

/-- Resuming to read moves no bytes. -/
theorem resume_moves (c : FdStreamChannel) (added : Bool) :
    Moves c [] [] (c.resumeReading added).2 := by
  unfold resumeReading
  split_ifs
  · exact switch_moves c .read true added
  · exact .refl c

/-- Closing a channel moves no bytes. -/
theorem close_moves (c : FdStreamChannel) (fesClosed removed : Bool) :
    Moves c [] [] (c.channelClose fesClosed removed).2 := by
  have hbefore : Moves c [] [] { c with
      isClosedFlag := true, input := if fesClosed then [] else c.input } :=
    .same rfl rfl rfl rfl rfl fun h => ⟨h, rfl, rfl⟩
  have hstop : Moves c [] [] (c.stopReading fesClosed removed) :=
    hbefore.quiet (switch_moves _ .read false removed)
  unfold channelClose
  split_ifs
  · exact .same rfl rfl rfl rfl rfl fun h => ⟨h, rfl, rfl⟩
  · exact hstop
  · exact hstop
  · exact hstop.quiet (.same rfl rfl rfl rfl rfl fun h => by cases h)

/-- What a call removes, it notes. -/
theorem freed_moves (output : List UInt8) {bytes : Nat} (h : c.output = k ++ output)
    (hnoted : bytes = 0 → k = []) :
    Moves c [] k (FdStreamChannel.freed { c with output } bytes) := by
  refine ⟨(List.append_nil _).trans h, List.prefix_rfl, fun hstays hfull hzero => ?_, rfl,
    fun h => ⟨h, rfl, rfl⟩⟩
  have hbytes : bytes = 0 := hzero bytes (List.mem_append_right _ List.mem_cons_self)
  have hsame : c.output = output := by rw [h, hnoted hbytes, List.nil_append]
  have hnow : c.Full := hstays hfull fun n hn => hzero n (List.mem_append_left _ hn)
  show c.size ≤ output.length
  rw [← hsame]
  exact hnow

/-- A call takes what it consumes from the front of the read buffer. -/
theorem call_moves (c : FdStreamChannel) (made : StreamCall) :
    Moves c [] (c.consumedBy made) (c.call made) := by
  cases made with
  | commit bytes added =>
      show Moves c [] [] (c.commit bytes added).2
      unfold commit channelCommitDataframe
      have htake : Moves c [] [] (c.take bytes) := .same rfl rfl rfl rfl rfl fun h => ⟨h, rfl, rfl⟩
      split_ifs
      · exact .refl c
      · exact .refl c
      · exact htake
      · exact htake.quiet (switch_moves _ .write true added)
  | popFront bytes added =>
      show Moves c [] (if c.output.length < bytes then [] else c.output.take bytes)
        (c.popFront bytes added).2
      unfold popFront
      split_ifs with hshort hzero hzero
      · subst hzero
        exact absurd hshort (Nat.not_lt_zero _)
      · exact .refl c
      · subst hzero
        -- nothing is asked for, and reading does not go on
        exact freed_moves c.output rfl fun _ => rfl
      · have hfreed : Moves c [] (c.output.take bytes)
            (FdStreamChannel.freed { c with output := c.output.drop bytes } bytes) :=
          freed_moves _ (List.take_append_drop bytes c.output).symm fun hnone => absurd hnone hzero
        exact hfreed.quiet (resume_moves _ added)
  | clear added =>
      show Moves c [] c.output (c.clear added).2
      unfold clear
      split_ifs with hempty
      · have hnil : c.output = [] := List.isEmpty_iff.1 hempty
        exact freed_moves c.output (by simp [hnil]) fun _ => hnil
      · have hfreed : Moves c [] c.output
            (FdStreamChannel.freed { c with output := [] } c.output.length) :=
          freed_moves _ (List.append_nil _).symm List.eq_nil_of_length_eq_zero
        exact hfreed.quiet (resume_moves _ added)
  | close removed =>
      have hcalled : Moves c [] [] { c with
          history.closeCalled := c.history.closeCalled || c.fes.isSome } :=
        .same rfl rfl rfl rfl rfl fun h => ⟨h, rfl, rfl⟩
      exact hcalled.quiet (close_moves _ false removed)

/-- The calls of handlers consume bytes from the front. -/
theorem make_moves (c : FdStreamChannel) (calls : List StreamCall) :
    Moves c [] (c.consumedByAll calls) (c.make calls) := by
  induction calls generalizing c with
  | nil => exact .refl c
  | cons made calls ih => exact (call_moves c made).then (ih (c.call made))

/-- Reading appends to the read buffer, and the handlers consume from its front. -/
theorem receive_moves (c : FdStreamChannel) (e : StreamReadEvent) :
    Moves c (c.received e) (c.consumedOfNewData e) (c.receive e).2 := by
  have hnothing (h : c.received e = []) : c.consumedOfNewData e = [] := by
    simp [consumedOfNewData, h]
  by_cases hfull : c.Full
  · have hreceived : c.received e = [] := if_pos hfull
    rw [hnothing hreceived, hreceived, receive, if_pos hfull]
    exact switch_moves c .read false e.removed
  · rw [receive, if_neg hfull]
    cases hevent : e.received with
    | none =>
        have hreceived : c.received e = [] := by simp [received, hfull, hevent]
        rw [hnothing hreceived, hreceived]
        exact .same rfl rfl rfl rfl rfl fun h => ⟨h, rfl, rfl⟩
    | some available =>
        have hreceived : c.received e = available.take (c.size - c.output.length) := by
          simp [received, hfull, hevent]
        rw [consumedOfNewData, hreceived]
        dsimp only
        split_ifs with hempty
        · rw [List.isEmpty_iff.1 hempty]
          exact .same rfl rfl rfl rfl rfl fun h => ⟨h, rfl, rfl⟩
        · generalize available.take (c.size - c.output.length) = bytes
          have happend : Moves c bytes [] { c.use with output := c.output ++ bytes } := by
            refine ⟨rfl, List.prefix_rfl, fun hstays hat hzero => ?_, rfl, fun h => ⟨h, rfl, rfl⟩⟩
            exact absurd (hstays hat hzero) hfull
          exact happend.then (make_moves _ e.newData.calls)

/-- Asking for room lets handlers consume bytes. -/
theorem with_room_moves (c : FdStreamChannel) (e : StreamReadEvent) :
    Moves c [] (if c.Full then c.atRead.consumedByAll e.makeRoom.calls else []) (c.withRoom e) := by
  have hat : Moves c [] [] c.atRead :=
    ⟨List.append_nil _, List.prefix_rfl, fun _ hfull _ => of_decide_eq_true hfull, rfl,
      fun h => ⟨h, rfl, rfl⟩⟩
  unfold withRoom
  split_ifs
  · exact hat.then (make_moves c.atRead e.makeRoom.calls)
  · exact hat

/-- A read event reads bytes, and its handlers consume some. -/
theorem handle_fd_read_moves {event : FdEvent} (hown : c.OwnEvent event) (e : StreamReadEvent) :
    Moves c (c.readFlow e).1 (c.readFlow e).2 (c.handleFdRead event e).2 := by
  have hroom := with_room_moves c e
  unfold readFlow handleFdRead
  rw [if_neg (not_not.2 hown)]
  dsimp only
  generalize (if c.Full then c.atRead.consumedByAll e.makeRoom.calls else []) = room at hroom ⊢
  split_ifs
  · exact hroom
  · exact hroom.after (receive_moves (c.withRoom e) e)

/-- The end of writing moves no bytes. -/
theorem finish_writing_moves (c : FdStreamChannel) (removed : Bool) :
    Moves c [] [] (c.finishWriting removed).2 := by
  unfold finishWriting
  split_ifs
  · exact switch_moves c .write false removed
  · exact .refl c
  · exact .refl c

/-- The handlers of the write signal after writing consume bytes. -/
theorem after_writing_moves (c : FdStreamChannel) (wasEmpty : Bool) (e : StreamWriteEvent) :
    Moves c [] (c.consumedAfterWriting wasEmpty e) (c.afterWriting wasEmpty e).2 := by
  unfold consumedAfterWriting afterWriting
  split_ifs
  · exact (make_moves c e.moreData.calls).quiet (finish_writing_moves _ e.removed)
  · exact make_moves c e.moreData.calls
  · exact finish_writing_moves c e.removed

/-- Writing lets handlers consume bytes. -/
theorem write_out_moves (c : FdStreamChannel) (e : StreamWriteEvent) :
    Moves c [] (c.consumedOfWriting e) (c.writeOut e).2 := by
  unfold consumedOfWriting writeOut
  split_ifs
  · exact after_writing_moves c true e
  · cases e.accepted with
    | none => exact .same rfl rfl rfl rfl rfl fun h => ⟨h, rfl, rfl⟩
    | some n =>
        have hwrite : Moves c [] [] { c.use with
            input := c.input.drop n
            history.written := c.history.written ++ c.input.take n } :=
          ⟨List.append_nil _, List.prefix_append _ _, id, rfl, fun h => ⟨h, rfl, rfl⟩⟩
        exact hwrite.then (after_writing_moves _ false e)

/-- A write event lets handlers consume bytes. -/
theorem handle_fd_write_moves {event : FdEvent} (hown : c.OwnEvent event) (e : StreamWriteEvent) :
    Moves c [] (c.writeFlow e) (c.handleFdWrite event e).2 := by
  have hdata : Moves c [] (if c.Starved then c.consumedByAll e.askForData.calls else [])
      (c.withData e) := by
    unfold withData
    split_ifs
    · exact make_moves c e.askForData.calls
    · exact .refl c
  unfold writeFlow handleFdWrite
  rw [if_neg (not_not.2 hown)]
  dsimp only
  generalize (if c.Starved then c.consumedByAll e.askForData.calls else []) = asked at hdata ⊢
  split_ifs
  · exact hdata
  · exact hdata.then (write_out_moves (c.withData e) e)

/-- The sink of an event moves no bytes when it closes. -/
theorem settle_moves (event : FdEvent) (result : Bool × FdStreamChannel) :
    Moves result.2 [] [] (settle event result) := by
  unfold settle handleFdClose
  split_ifs
  · exact .refl _
  · exact close_moves result.2 true true

/-- Every operation but the assignment of a descriptor. -/
theorem step_moves (c : FdStreamChannel) (op : StreamOp)
    (hheld : ∀ sink fd reads writes, op ≠ .assign sink fd reads writes) :
    Moves c (c.flow op).1 (c.flow op).2 (c.step op) := by
  cases op with
  | assign sink fd reads writes => exact absurd rfl (hheld sink fd reads writes)
  | call made => exact call_moves c made
  | read e =>
      unfold flow step
      cases hs : c.fes with
      | none => exact .refl c
      | some s =>
          dsimp only
          split_ifs
          · have hown : c.OwnEvent ⟨s.sink, s.fd⟩ := ⟨s, hs, rfl, rfl⟩
            exact (handle_fd_read_moves hown e).quiet (settle_moves _ _)
          · exact .refl c
  | write e =>
      unfold flow step
      cases hs : c.fes with
      | none => exact .refl c
      | some s =>
          dsimp only
          split_ifs
          · have hown : c.OwnEvent ⟨s.sink, s.fd⟩ := ⟨s, hs, rfl, rfl⟩
            exact (handle_fd_write_moves hown e).quiet (settle_moves _ _)
          · exact .refl c

/-- What is read is the beginning of what there is to be read. -/
theorem flow_received (c : FdStreamChannel) {op : StreamOp} {incoming : List UInt8}
    (h : ∀ e, op = .read e → ∀ available ∈ e.received, available <+: incoming) :
    (c.flow op).1 <+: incoming := by
  -- what is read is the front of what the descriptor offers, as far as there is room
  have hread (c : FdStreamChannel) (e : StreamReadEvent) (he : op = .read e) :
      c.received e <+: incoming := by
    unfold received
    split_ifs
    · exact List.nil_prefix
    · cases hevent : e.received with
      | none => exact List.nil_prefix
      | some available => exact (List.take_prefix _ _).trans (h e he available hevent)
  cases op with
  | assign sink fd reads writes => exact List.nil_prefix
  | call made => exact List.nil_prefix
  | read e =>
      unfold flow
      cases c.fes with
      | none => exact List.nil_prefix
      | some s =>
          dsimp only
          by_cases hon : s.readEv = true
          · rw [if_pos hon, readFlow]
            by_cases hrefused : c.Full ∧ e.makeRoom.result = false
            · rw [if_pos hrefused]
              exact List.nil_prefix
            · rw [if_neg hrefused]
              exact hread _ e rfl
          · rw [if_neg hon]
            exact List.nil_prefix
  | write e =>
      unfold flow
      cases c.fes with
      | none => exact List.nil_prefix
      | some s =>
          dsimp only
          split_ifs
          · exact List.nil_prefix
          · exact List.nil_prefix

end FdStreamChannel

/-! ## Connections -/

/-- What happens to a channel at an end of a connection where these bytes are in flight to it: its
descriptor stays the same, and what there is to be read is the beginning of them. -/
def StreamOp.Offered (incoming : List UInt8) : StreamOp → Prop
  | .assign _ _ _ _ => False
  | .call made => made.Taken
  | .read e => e.Allowed ∧ ∀ available ∈ e.received, available <+: incoming
  | .write e => e.Allowed

/-- An end of a connection: its channel, and the bytes that have been read from the descriptor and
that the clients have consumed. -/
structure StreamEnd where
  channel : FdStreamChannel
  received : List UInt8
  consumed : List UInt8
deriving DecidableEq

namespace StreamEnd

/-- A channel that has just got its descriptor. -/
def start (size sink fd : Nat) : StreamEnd where
  channel := ((FdStreamChannel.create size).assignFd sink fd true true).2
  received := []
  consumed := []

/-- An end after an operation. -/
def after (e : StreamEnd) (op : StreamOp) : StreamEnd where
  channel := e.channel.step op
  received := e.received ++ (e.channel.flow op).1
  consumed := e.consumed ++ (e.channel.flow op).2

/-- The bytes that an operation writes to the descriptor. -/
def sent (e : StreamEnd) (op : StreamOp) : List UInt8 :=
  (e.channel.step op).history.written.drop e.channel.history.written.length

/-- Every byte that was committed on one end is consumed by clients of the other, in its read
buffer, in flight or, while the descriptor is there, in the write buffer, in this order. Once
the channel has been closed by a client and its descriptor is gone, none has been lost. -/
structure Accounted (sender receiver : StreamEnd) (inFlight : List UInt8) : Prop where
  inOrder : receiver.consumed ++ receiver.channel.output ++ inFlight <+:
    sender.channel.history.committed
  all : sender.channel.fes.isSome = true →
    receiver.consumed ++ receiver.channel.output ++ inFlight ++ sender.channel.input =
      sender.channel.history.committed
  flushed : sender.channel.history.closeCalled = true → sender.channel.fes = none →
    receiver.consumed ++ receiver.channel.output ++ inFlight = sender.channel.history.committed

/-- A byte can be written, read or consumed. -/
def CanMove (sender receiver : StreamEnd) (inFlight : List UInt8) : Prop :=
  (sender.channel.input ≠ [] ∧ ∃ s ∈ sender.channel.fes, s.writeEv = true) ∨
    (inFlight ≠ [] ∧ ∃ s ∈ receiver.channel.fes, s.readEv = true) ∨
    receiver.channel.output ≠ []

variable {e sender receiver : StreamEnd} {inFlight : List UInt8} {op : StreamOp}

/-- What holds at each end. -/
structure Sound (e : StreamEnd) : Prop where
  sound : e.channel.Sound
  full : e.channel.StaysFull
  both : e.channel.fes.isSome = true → e.channel.canRead = true ∧ e.channel.canWrite = true
  received : e.received = e.consumed ++ e.channel.output

/-- An end that has just got its descriptor is sound. -/
theorem start_sound (size sink fd : Nat) : (start size sink fd).Sound where
  sound := (FdStreamChannel.create_sound size).assign_fd sink fd true true
  full hfull := by cases hfull
  both _ := ⟨rfl, rfl⟩
  received := rfl

/-- An operation of an end moves the bytes of its flow. -/
theorem moves_of_offered {incoming : List UInt8} (h : op.Offered incoming) (e : StreamEnd) :
    FdStreamChannel.Moves e.channel (e.channel.flow op).1 (e.channel.flow op).2
      (e.channel.step op) := by
  refine FdStreamChannel.step_moves e.channel op fun sink fd reads writes heq => ?_
  subst heq
  exact h

/-- What happens at an end is allowed for its channel. -/
theorem allowed_of_offered {incoming : List UInt8} (h : op.Offered incoming) : op.Allowed := by
  cases op with
  | assign sink fd reads writes => exact h.elim
  | call made => exact h
  | read e => exact h.1
  | write e => exact h

/-- An operation keeps an end sound. -/
theorem Sound.after {incoming : List UInt8} (h : e.Sound) (hop : op.Offered incoming) :
    (e.after op).Sound := by
  have hmoves := moves_of_offered hop e
  refine ⟨h.sound.step (allowed_of_offered hop), hmoves.full h.full, fun hsome => ?_, ?_⟩
  · obtain ⟨hsome, hread, hwrite⟩ := hmoves.held hsome
    have hboth := h.both hsome
    exact ⟨hread.trans hboth.1, hwrite.trans hboth.2⟩
  · show e.received ++ (e.channel.flow op).1 =
      e.consumed ++ (e.channel.flow op).2 ++ (e.channel.step op).output
    rw [h.received, List.append_assoc, hmoves.bytes, ← List.append_assoc]

/-- What was written on one end was read on the other or is in flight. -/
def Carried (sender receiver : StreamEnd) (inFlight : List UInt8) : Prop :=
  receiver.received ++ inFlight = sender.channel.history.written

/-- The sender moves. -/
theorem Carried.send {incoming : List UInt8} (h : Carried sender receiver inFlight)
    (hop : op.Offered incoming) :
    Carried (sender.after op) receiver (inFlight ++ sender.sent op) := by
  obtain ⟨more, hmore⟩ := (moves_of_offered hop sender).written
  have hsent : sender.sent op = more := by rw [sent, ← hmore, List.drop_left]
  show receiver.received ++ (inFlight ++ sender.sent op) = (sender.channel.step op).history.written
  rw [hsent, ← List.append_assoc, h, hmore]

/-- The receiver moves. -/
theorem Carried.receive (h : Carried sender receiver inFlight) (hop : op.Offered inFlight) :
    Carried sender (receiver.after op)
      (inFlight.drop (receiver.channel.flow op).1.length) := by
  have hprefix : (receiver.channel.flow op).1 <+: inFlight := by
    refine receiver.channel.flow_received fun e he available hmem => ?_
    subst he
    exact hop.2 available hmem
  obtain ⟨rest, hrest⟩ := hprefix
  show receiver.received ++ (receiver.channel.flow op).1 ++
    inFlight.drop (receiver.channel.flow op).1.length = sender.channel.history.written
  calc receiver.received ++ (receiver.channel.flow op).1 ++
        inFlight.drop (receiver.channel.flow op).1.length
      = receiver.received ++ ((receiver.channel.flow op).1 ++ rest) := by
        rw [← hrest, List.drop_left, List.append_assoc]
    _ = receiver.received ++ inFlight := by rw [hrest]
    _ = sender.channel.history.written := h

/-- Where the bytes are. -/
theorem Carried.accounted (h : Carried sender receiver inFlight) (hsender : sender.Sound)
    (hreceiver : receiver.Sound) : Accounted sender receiver inFlight := by
  have hwritten : receiver.consumed ++ receiver.channel.output ++ inFlight =
      sender.channel.history.written := by rw [← hreceiver.received]; exact h
  refine ⟨?_, fun hsome => ?_, fun hcalled hlost => ?_⟩
  · rw [hwritten]
    exact hsender.sound.inOrder
  · rw [hwritten]
    exact hsender.sound.balanced hsome
  · rw [hwritten]
    exact hsender.sound.flushed hcalled hlost

/-- With nothing in the read buffer, a channel that reads has its read events switched on. -/
theorem Sound.reads_of_empty (h : e.Sound) (hsize : 0 < e.channel.size)
    (hopen : e.channel.isClosed = false) (hempty : e.channel.output = []) :
    ∃ s ∈ e.channel.fes, s.readEv = true := by
  obtain ⟨hflag, s, hs⟩ := FdStreamChannel.open_iff.1 hopen
  refine ⟨s, hs, ?_⟩
  by_contra hoff
  have hread : e.channel.canRead = true := (h.both (by rw [hs]; rfl)).1
  obtain ⟨hfull, hfreed⟩ := h.sound.reads s hs hread hflag (by simpa using hoff)
  have hstill : e.channel.size ≤ e.channel.output.length := h.full hfull hfreed
  rw [hempty] at hstill
  exact absurd hsize (Nat.not_lt.2 hstill)

/-- As long as something that was committed is not consumed, a byte can move. -/
theorem Accounted.can_move (h : Accounted sender receiver inFlight) (hsender : sender.Sound)
    (hreceiver : receiver.Sound) (hsize : 0 < receiver.channel.size)
    (hheld : sender.channel.fes.isSome = true) (hopen : receiver.channel.isClosed = false)
    (hmissing : receiver.consumed ≠ sender.channel.history.committed) :
    CanMove sender receiver inFlight := by
  by_cases houtput : receiver.channel.output = []
  · by_cases hflight : inFlight = []
    · have hinput : sender.channel.input ≠ [] := by
        intro hinput
        have hall := h.all hheld
        rw [houtput, hflight, hinput] at hall
        exact hmissing (by simpa using hall)
      obtain ⟨s, hs⟩ := Option.isSome_iff_exists.1 hheld
      exact .inl ⟨hinput, s, hs, hsender.sound.writes s hs (hsender.both hheld).2 hinput⟩
    · exact .inr (.inl ⟨hflight, hreceiver.reads_of_empty hsize hopen houtput⟩)
  · exact .inr (.inr houtput)

end StreamEnd

/-- Two channels whose descriptors are the ends of a connection, which keeps the bytes in order and
loses none, with the bytes in flight to each. -/
structure StreamConnection where
  near : StreamEnd
  far : StreamEnd
  toFar : List UInt8
  toNear : List UInt8
deriving DecidableEq

/-- An operation at an end of a connection. -/
inductive ConnectionOp where
  | near (op : StreamOp)
  | far (op : StreamOp)

namespace StreamConnection

/-- A new connection. -/
def start (nearSize farSize : Nat) : StreamConnection where
  near := .start nearSize 0 0
  far := .start farSize 1 1
  toFar := []
  toNear := []

/-- One operation. -/
def step (k : StreamConnection) : ConnectionOp → StreamConnection
  | .near op =>
      { k with
        near := k.near.after op
        toFar := k.toFar ++ k.near.sent op
        toNear := k.toNear.drop (k.near.channel.flow op).1.length }
  | .far op =>
      { k with
        far := k.far.after op
        toNear := k.toNear ++ k.far.sent op
        toFar := k.toFar.drop (k.far.channel.flow op).1.length }

/-- What can happen: only bytes in flight are read. -/
def Offers (k : StreamConnection) : ConnectionOp → Prop
  | .near op => op.Offered k.toNear
  | .far op => op.Offered k.toFar

/-- What holds throughout a run. -/
structure Sound (k : StreamConnection) : Prop where
  near : k.near.Sound
  far : k.far.Sound
  outward : StreamEnd.Carried k.near k.far k.toFar
  homeward : StreamEnd.Carried k.far k.near k.toNear

/-- A connection without bytes in flight is sound. -/
theorem start_sound (nearSize farSize : Nat) : (start nearSize farSize).Sound where
  near := StreamEnd.start_sound nearSize 0 0
  far := StreamEnd.start_sound farSize 1 1
  outward := rfl
  homeward := rfl

/-- A step keeps a connection sound. -/
theorem Sound.step {k : StreamConnection} (h : k.Sound) {op : ConnectionOp} (hop : k.Offers op) :
    (k.step op).Sound := by
  cases op with
  | near op => exact ⟨h.near.after hop, h.far, h.outward.send hop, h.homeward.receive hop⟩
  | far op => exact ⟨h.near, h.far.after hop, h.outward.receive hop, h.homeward.send hop⟩

/-- The sizes of the buffers stay the same. -/
theorem sizes_kept {k : StreamConnection} {op : ConnectionOp} (hop : k.Offers op) :
    (k.step op).near.channel.size = k.near.channel.size ∧
      (k.step op).far.channel.size = k.far.channel.size := by
  cases op with
  | near op => exact ⟨(StreamEnd.moves_of_offered hop k.near).size, rfl⟩
  | far op => exact ⟨rfl, (StreamEnd.moves_of_offered hop k.far).size⟩

end StreamConnection

namespace Sample

/-- Three bytes are committed, two of them written, and the one that there is room for on the other
side is read and consumed. -/
def deliver : List ConnectionOp :=
  [.near (.call (.commit [1, 2, 3] true)),
    .near (.write ⟨⟨[], true⟩, some 2, false, ⟨[], true⟩, true⟩),
    .far (.read ⟨⟨[], true⟩, true, some [1, 2], false, ⟨[.popFront 1 true], true⟩⟩)]

/-- The steps of the sample are offered. -/
theorem deliver_offered :
    Along StreamConnection.step StreamConnection.Offers (.start 4 1) deliver := by
  refine ⟨rfl, ⟨?_, ?_, rfl, rfl⟩, ⟨⟨?_, ?_, rfl, rfl⟩, ?_⟩, trivial⟩
  · simp [StreamEmission.Allowed]
  · simp [StreamEmission.Allowed]
  · simp [StreamEmission.Allowed]
  · simp [StreamEmission.Allowed, StreamCall.OfHandler, StreamCall.Taken]
  · intro available havailable
    have heq : available = [1, 2] := (Option.mem_some.1 havailable).symm
    rw [heq]
    decide

end Sample

section

open StreamConnection

variable {nearSize farSize : Nat} {ops : List ConnectionOp}

/-- Every run keeps a connection sound. -/
theorem connection_sound
    (hops : Along StreamConnection.step Offers (.start nearSize farSize) ops) :
    (run StreamConnection.step (.start nearSize farSize) ops).Sound :=
  hops.invariant (StreamConnection.start_sound nearSize farSize) fun _ _ h hop => h.step hop

/-- In every state of a run, every byte committed on either side is accounted for. -/
theorem stream_accounted
    (hops : Along StreamConnection.step Offers (.start nearSize farSize) ops) :
    let k := run StreamConnection.step (.start nearSize farSize) ops
    StreamEnd.Accounted k.near k.far k.toFar ∧ StreamEnd.Accounted k.far k.near k.toNear := by
  have h := connection_sound hops
  exact ⟨h.outward.accounted h.near h.far, h.homeward.accounted h.far h.near⟩

/-- The bytes of the sample are those consumed, those in flight and those in the buffers. -/
theorem deliver_accounted :
    let k := run StreamConnection.step (.start 4 1) Sample.deliver
    (StreamEnd.Accounted k.near k.far k.toFar ∧ StreamEnd.Accounted k.far k.near k.toNear) ∧
      k.far.consumed = [1] ∧ k.toFar = [2] ∧ k.near.channel.input = [3] :=
  ⟨stream_accounted Sample.deliver_offered, by decide, by decide, by decide⟩

/-- In every state of a run in which both sides have their descriptors and the receiving one is not
closed, a byte can move as long as not all that was committed has been consumed. -/
theorem stream_not_stuck
    (hops : Along StreamConnection.step Offers (.start nearSize farSize) ops)
    (hnear : 0 < nearSize) (hfar : 0 < farSize) :
    let k := run StreamConnection.step (.start nearSize farSize) ops
    (k.near.channel.fes.isSome = true → k.far.channel.isClosed = false →
      k.far.consumed ≠ k.near.channel.history.committed → StreamEnd.CanMove k.near k.far k.toFar) ∧
    (k.far.channel.fes.isSome = true → k.near.channel.isClosed = false →
      k.near.consumed ≠ k.far.channel.history.committed →
        StreamEnd.CanMove k.far k.near k.toNear) := by
  have h := connection_sound hops
  have hsizes : (run StreamConnection.step (.start nearSize farSize) ops).near.channel.size =
        nearSize ∧
      (run StreamConnection.step (.start nearSize farSize) ops).far.channel.size = farSize := by
    refine hops.invariant (P := fun k => k.near.channel.size = nearSize ∧
      k.far.channel.size = farSize) ⟨rfl, rfl⟩ fun k op hk hop => ?_
    have hkept := sizes_kept hop
    exact ⟨hkept.1.trans hk.1, hkept.2.trans hk.2⟩
  refine ⟨fun hheld hopen hmissing => ?_, fun hheld hopen hmissing => ?_⟩
  · have hall := h.outward.accounted h.near h.far
    exact hall.can_move h.near h.far (by rw [hsizes.2]; exact hfar) hheld hopen hmissing
  · have hall := h.homeward.accounted h.far h.near
    exact hall.can_move h.far h.near (by rw [hsizes.1]; exact hnear) hheld hopen hmissing

/-- The sample's connection can go on. -/
theorem deliver_not_stuck :
    let k := run StreamConnection.step (.start 4 1) Sample.deliver
    k.far.consumed ≠ k.near.channel.history.committed ∧ StreamEnd.CanMove k.near k.far k.toFar :=
  ⟨by decide, (stream_not_stuck Sample.deliver_offered (by decide) (by decide)).1 (by decide)
    (by decide) (by decide)⟩

end

end Codon.Io
