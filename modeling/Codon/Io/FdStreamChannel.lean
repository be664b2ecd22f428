import Codon.Io.FdDgramChannel

/-!
# Stream channels

`FdStreamChannel`: a stream channel over a file descriptor, with the calls of clients, also from
the handlers of its signals, and the events of the descriptor. The buffers, which are not in the
source tree, are first in first out and hold a number of bytes that is fixed. The sink and the
base class are as for datagram channels.

The channel keeps an account of what has happened since its descriptor was assigned.
-/

namespace Codon.Io

/-- What has happened since the descriptor was assigned: the bytes committed by clients and written
to the descriptor, whether the read buffer was full at the last read event, how many bytes each pop
or clear has removed that has succeeded since then, and whether `close` was called. -/
structure History where
  committed : List UInt8 := []
  written : List UInt8 := []
  fullAtRead : Bool := false
  freedSince : List Nat := []
  closeCalled : Bool := false
deriving DecidableEq

/-- `FdStreamChannel`, with the size of its buffers, the count of misuses as for datagram channels
and its account. -/
structure FdStreamChannel where
  size : Nat
  input : List UInt8
  output : List UInt8
  canRead : Bool
  canWrite : Bool
  fes : Option FdEventSink
  isClosedFlag : Bool
  misuses : Nat
  history : History
deriving DecidableEq

/-- A call of a client. `added` and `removed` say whether the sink takes the change of its events.
-/
inductive StreamCall where
  | commit (bytes : List UInt8) (added : Bool)
  | popFront (bytes : Nat) (added : Bool)
  | clear (added : Bool)
  | close (removed : Bool)
deriving DecidableEq

/-- An emission of a signal: the calls that its handlers make, and what it returns. -/
structure StreamEmission where
  calls : List StreamCall
  result : Bool
deriving DecidableEq

namespace FdStreamChannel

variable (c : FdStreamChannel)

/-- A new channel. -/
def create (size : Nat) : FdStreamChannel where
  size
  input := []
  output := []
  canRead := false
  canWrite := false
  fes := none
  isClosedFlag := true
  misuses := 0
  history := {}

/-- `is_closed`. -/
def isClosed : Bool := c.isClosedFlag || c.fes.isNone

/-- A use of the sink behind the handle, or of the descriptor. -/
def use : FdStreamChannel :=
  { c with misuses := c.misuses + if c.fes.isSome then 0 else 1 }

/-- `fes->add_events` and `fes->remove_events`. -/
def switchEvents (ev : FdEv) (on taken : Bool) : FdStreamChannel :=
  if taken then { c.use with fes := c.fes.map (·.switch ev on) } else c.use

/-- `assign_fd`, with the mode as what it permits. The sink is open and takes its events. -/
def assignFd (sink fd : Nat) (reads writes : Bool) : Bool × FdStreamChannel :=
  if c.fes.isSome then (false, c)
  else if !reads && !writes then (false, c)
  else
    (true, { c with
      canRead := reads
      canWrite := writes
      fes := some ⟨sink, fd, reads, writes⟩
      isClosedFlag := false
      history := {} })

/-- The account with bytes removed from the read buffer. -/
def freed (bytes : Nat) : FdStreamChannel :=
  { c with history.freedSince := c.history.freedSince ++ [bytes] }

/-- What `pop_front` and `channel_clear` do about the events of the sink. -/
def resumeReading (added : Bool) : Bool × FdStreamChannel :=
  if !c.isClosed && c.canRead then (added, c.switchEvents .read true added) else (true, c)

/-- `pop_front`. -/
def popFront (bytes : Nat) (added : Bool) : Bool × FdStreamChannel :=
  if bytes = 0 then (true, c.freed 0)
  else if c.output.length < bytes then (false, c)
  else ({ c with output := c.output.drop bytes }.freed bytes).resumeReading added

/-- `clear`. -/
def clear (added : Bool) : Bool × FdStreamChannel :=
  if c.output.isEmpty then (true, c.freed 0)
  else ({ c with output := [] }.freed c.output.length).resumeReading added

/-- The buffer takes bytes that were committed. -/
def take (bytes : List UInt8) : FdStreamChannel :=
  { c with
    input := c.input ++ bytes
    history.committed := c.history.committed ++ bytes }

/-- `channel_commit_dataframe`, for bytes that the frame holds. -/
def channelCommitDataframe (bytes : List UInt8) (added : Bool) : Bool × FdStreamChannel :=
  if !c.canWrite || c.size < c.input.length + bytes.length then (false, c)
  else if c.fes.isNone then (false, c.take bytes)
  else (added, (c.take bytes).switchEvents .write true added)

/-- A client writes: `get_dataframe` gives no frame if the channel is closed. -/
def commit (bytes : List UInt8) (added : Bool) : Bool × FdStreamChannel :=
  if c.isClosed then (false, c) else c.channelCommitDataframe bytes added

/-- The first part of `channel_close`, where there is a sink: reading ends. -/
def stopReading (fesClosed removed : Bool) : FdStreamChannel :=
  { c with isClosedFlag := true, input := if fesClosed then [] else c.input }.switchEvents
    .read false removed

/-- The last part of `channel_close`: the sink is closed and the handle cleared. -/
def drop : FdStreamChannel := { c with fes := none, canRead := false, canWrite := false }

/-- `channel_close`. The sink is only closed already where it calls `handle_fd_close` itself. Where
it is closed here it does so too, which changes nothing more. -/
def channelClose (fesClosed removed : Bool) : Bool × FdStreamChannel :=
  if c.fes.isNone then (true, { c with isClosedFlag := true, input := [] })
  else if !removed then (false, c.stopReading fesClosed removed)
  else if !(c.stopReading fesClosed removed).input.isEmpty then
    (true, c.stopReading fesClosed removed)
  else (true, (c.stopReading fesClosed removed).drop)

/-- `close`. -/
def close (removed : Bool) : Bool × FdStreamChannel :=
  { c with history.closeCalled := c.history.closeCalled || c.fes.isSome }.channelClose false removed

/-- What a call leaves of the channel. -/
def call : StreamCall → FdStreamChannel
  | .commit bytes added => (c.commit bytes added).2
  | .popFront bytes added => (c.popFront bytes added).2
  | .clear added => (c.clear added).2
  | .close removed => (c.close removed).2

/-- What the calls of handlers leave. -/
def make (calls : List StreamCall) : FdStreamChannel := calls.foldl call c

/-- Whether the event comes from the sink of the channel. -/
def OwnEvent (event : FdEvent) : Prop :=
  ∃ s ∈ c.fes, s.sink = event.sink ∧ s.fd = event.fd

instance (event : FdEvent) : Decidable (c.OwnEvent event) :=
  inferInstanceAs (Decidable (∃ s ∈ c.fes, _))

end FdStreamChannel

/-! ## Events -/

/-- What `handle_fd_read` finds outside: the read signal for lack of space, whether the sink takes
the change of its events, what there is to be read (nothing if the call fails, `broken` if the
descriptor is), and the read signal for new data. -/
structure StreamReadEvent where
  makeRoom : StreamEmission
  removed : Bool
  received : Option (List UInt8)
  broken : Bool
  newData : StreamEmission
deriving DecidableEq

/-- What `handle_fd_write` finds outside: the write signal if there are no data, how many bytes the
descriptor takes, the write signal once all are written, and whether the sink takes the change
of its events. -/
structure StreamWriteEvent where
  askForData : StreamEmission
  accepted : Option Nat
  broken : Bool
  moreData : StreamEmission
  removed : Bool
deriving DecidableEq

namespace FdStreamChannel

variable (c : FdStreamChannel)

/-- `output.space_left() == 0`. -/
def Full : Prop := c.size ≤ c.output.length

instance : Decidable c.Full := inferInstanceAs (Decidable (_ ≤ _))

/-- The account at a read event. -/
def atRead : FdStreamChannel :=
  { c with history.fullAtRead := decide c.Full, history.freedSince := [] }

/-- The channel when `handle_fd_read` has asked for room, if it has to. -/
def withRoom (e : StreamReadEvent) : FdStreamChannel :=
  if c.Full then c.atRead.make e.makeRoom.calls else c.atRead

/-- The part of `handle_fd_read` that follows. -/
def receive (e : StreamReadEvent) : Bool × FdStreamChannel :=
  if c.Full then
    (e.removed, c.switchEvents .read false e.removed)
  else
    match e.received with
    | none => (!e.broken, c.use)
    | some available =>
        let bytes := available.take (c.size - c.output.length)
        if bytes.isEmpty then (false, c.use)
        else (e.newData.result, { c.use with output := c.output ++ bytes }.make e.newData.calls)

/-- `handle_fd_read`. -/
def handleFdRead (event : FdEvent) (e : StreamReadEvent) : Bool × FdStreamChannel :=
  if ¬c.OwnEvent event then (false, c)
  else if c.Full ∧ e.makeRoom.result = false then (false, c.withRoom e)
  else (c.withRoom e).receive e

/-- Whether `handle_fd_write` asks for data first. -/
def Starved : Prop := c.isClosed = false ∧ c.input = []

instance : Decidable c.Starved := inferInstanceAs (Decidable (_ ∧ _))

/-- The end of `handle_fd_write`. -/
def finishWriting (removed : Bool) : Bool × FdStreamChannel :=
  if !c.isClosed then
    if c.input.isEmpty then (removed, c.switchEvents .write false removed) else (true, c)
  else (!c.input.isEmpty, c)

/-- The part of `handle_fd_write` after the data were written. -/
def afterWriting (wasEmpty : Bool) (e : StreamWriteEvent) : Bool × FdStreamChannel :=
  if c.isClosed = false ∧ wasEmpty = false ∧ c.input = [] then
    if e.moreData.result then (c.make e.moreData.calls).finishWriting e.removed
    else (false, c.make e.moreData.calls)
  else c.finishWriting e.removed

/-- The part of `handle_fd_write` that writes. -/
def writeOut (e : StreamWriteEvent) : Bool × FdStreamChannel :=
  if c.input.isEmpty then c.afterWriting true e
  else
    match e.accepted with
    | none => (!e.broken, c.use)
    | some n =>
        { c.use with
          input := c.input.drop n
          history.written := c.history.written ++ c.input.take n }.afterWriting false e

/-- The channel when `handle_fd_write` has asked for data, if it has to. -/
def withData (e : StreamWriteEvent) : FdStreamChannel :=
  if c.Starved then c.make e.askForData.calls else c

/-- `handle_fd_write`. -/
def handleFdWrite (event : FdEvent) (e : StreamWriteEvent) : Bool × FdStreamChannel :=
  if ¬c.OwnEvent event then (false, c)
  else if c.Starved ∧ e.askForData.result = false then (false, c.withData e)
  else (c.withData e).writeOut e

/-- `handle_fd_close`, where the sink has been closed. -/
def handleFdClose (event : FdEvent) (removed : Bool) : Bool × FdStreamChannel :=
  (decide (c.OwnEvent event) && (c.channelClose true removed).1, (c.channelClose true removed).2)

end FdStreamChannel

end Codon.Io
