import Codon.Core
import Mathlib.Tactic.SplitIfs

/-!
# Datagram channels

`FdDgramChannel`: a datagram channel over a file descriptor, with the calls that clients make,
also from the handlers of its signals, and the read and write events of the descriptor.

Not in the source tree are the sink of the descriptor, the buffers and the base class that
emits the signals. Whether the sink takes a change of its events, how much space a buffer
has and what the handlers of an emission do are arguments. Handlers of the close signal do
nothing here.
-/

namespace Codon.Io

/-- The read and write events of `fd_event_t`. -/
inductive FdEv where
  | read
  | write
deriving DecidableEq

/-- `FdEventSink`, as far as the channels use it. -/
structure FdEventSink where
  sink : Nat
  fd : Nat
  readEv : Bool
  writeEv : Bool
deriving DecidableEq

/-- The sink with an event switched on or off. -/
def FdEventSink.switch (s : FdEventSink) : FdEv → Bool → FdEventSink
  | .read, on => { s with readEv := on }
  | .write, on => { s with writeEv := on }

/-- `FdEvent`, with the sink that generates it. -/
structure FdEvent where
  sink : Nat
  fd : Nat

/-- `dgram_fd_type_t`. -/
inductive DgramFdType where
  | none
  | nonSocket
  | deviceFile
  | connSocket
  | uconnSocket
  | tun
deriving DecidableEq

/-- An address: its family and the bytes that follow. -/
structure SockAddr where
  family : Nat := 0
  data : List UInt8 := []
deriving DecidableEq

/-- `AF_UNIX`. -/
def afUnix : Nat := 1

/-- `sizeof(sockaddr)`. -/
def sizeofSockaddr : Nat := 16

/-- `sizeof(safe_sockaddr_t)`: that of `sockaddr_un`, aligned. -/
def sizeofSafeSockaddr : Nat := 112

/-- `sizeof(sockhead_t)`. -/
def sizeofSockhead : Nat := 116

/-- `sockhead_t`. -/
structure SockHead where
  length : Nat := 0
  addr : SockAddr := {}
deriving DecidableEq

/-- A datagram in a buffer. -/
structure Dgram where
  head : SockHead
  body : List UInt8
deriving DecidableEq

/-- `real_len`. -/
def realLen (dgramLen : Nat) : Nat := dgramLen + sizeofSockhead

/-- `FdDgramChannel`. The last field counts the uses of the handle of the sink after it was cleared
and of the descriptor after it was closed, which happen together. -/
structure FdDgramChannel where
  input : List Dgram
  output : List Dgram
  maxInputDgramLen : Nat
  maxOutputDgramLen : Nat
  canRead : Bool
  canWrite : Bool
  fes : Option FdEventSink
  isClosedFlag : Bool
  isNonblocking : Bool
  fdType : DgramFdType
  handlingWrite : Bool
  isLowLatency : Bool
  ignoreWriteErrors : Bool
  keepOnlyLastDgram : Bool
  misuses : Nat
deriving DecidableEq

/-- The calls that the handlers of an emission make, one after the other, each with what it finds
outside: whether the datagram fits into the buffer, what space the buffer has, whether the sink
takes a change of its events, and what the handlers of `clear_unwritten` do and return. -/
inductive Calls where
  | done
  | commit (addr : Option SockHead) (body : List UInt8) (fits added : Bool) (next : Calls)
  | pop (added : Bool) (next : Calls)
  | clear (added : Bool) (next : Calls)
  | clearUnwritten (space : Nat) (handlers : Calls) (signalled removed : Bool) (next : Calls)
  | close (removed : Bool) (next : Calls)

/-- An emission of a signal: what its handlers do, and what it returns. -/
structure Emission where
  calls : Calls
  result : Bool

namespace FdDgramChannel

variable (c : FdDgramChannel)

/-- A new channel. -/
def create (maxDgramLen : Nat) : FdDgramChannel where
  input := []
  output := []
  maxInputDgramLen := maxDgramLen
  maxOutputDgramLen := maxDgramLen
  canRead := false
  canWrite := false
  fes := none
  isClosedFlag := true
  isNonblocking := false
  fdType := .none
  handlingWrite := false
  isLowLatency := false
  ignoreWriteErrors := false
  keepOnlyLastDgram := false
  misuses := 0

/-- `is_closed`. -/
def isClosed : Bool := c.isClosedFlag || c.fes.isNone

/-- `assign_fd`, with the mode as what it permits. The sink is open and takes its events. -/
def assignFd (sink fd : Nat) (fdType : DgramFdType) (isNonblocking reads writes : Bool) :
    Bool × FdDgramChannel :=
  if c.fes.isSome then (false, c)
  else if fdType = .none then (false, c)
  else if !reads && !writes then (false, c)
  else
    (true, { c with
      canRead := reads
      canWrite := writes
      fes := some ⟨sink, fd, reads, writes⟩
      isClosedFlag := false
      isNonblocking
      fdType })

/-- `space_left`, for the space that the buffer has. -/
def spaceLeft (space : Nat) : Nat :=
  if c.isClosed then 0
  else if !c.canWrite then 0
  else if c.isLowLatency &&
      (!c.input.isEmpty || c.fes.all FdEventSink.writeEv && !c.handlingWrite) then 0
  else if space < sizeofSockhead then 0
  else min (space - sizeofSockhead) c.maxInputDgramLen

/-- A use of the sink behind the handle, or of the descriptor. -/
def use : FdDgramChannel :=
  { c with misuses := c.misuses + if c.fes.isSome then 0 else 1 }

/-- `fes->add_events` and `fes->remove_events`. -/
def switchEvents (ev : FdEv) (on taken : Bool) : FdDgramChannel :=
  if taken then { c.use with fes := c.fes.map (·.switch ev on) } else c.use

/-- `channel_commit_dataframe`. -/
def channelCommitDataframe (dgram : Dgram) (fits added : Bool) : Bool × FdDgramChannel :=
  if !c.canWrite || !fits then (false, c)
  else if c.fes.isNone then (false, { c with input := c.input ++ [dgram] })
  else (added, { c with input := c.input ++ [dgram] }.switchEvents .write true added)

/-- `commit_dataframe`, or `commit_dataframe_to` with an address. -/
def commitDataframe (addr : Option SockHead) (body : List UInt8) (fits added : Bool) :
    Bool × FdDgramChannel :=
  if c.isClosed then (false, c)
  else if addr.any fun head => head.length = 0 || sizeofSafeSockaddr < head.length then (false, c)
  else if (c.fdType = .uconnSocket) ≠ (addr.isSome = true) then (false, c)
  else if c.maxInputDgramLen < body.length then (false, c)
  else c.channelCommitDataframe ⟨addr.getD {}, body⟩ fits added

/-- What `pop_dgram` and `channel_clear` do about the events of the sink. -/
def resumeReading (added : Bool) : Bool × FdDgramChannel :=
  if !c.isClosed && c.canRead then (added, c.switchEvents .read true added) else (true, c)

/-- `pop_dgram`. -/
def popDgram (added : Bool) : Bool × FdDgramChannel :=
  if c.output.isEmpty then (false, c)
  else { c with output := c.output.tail }.resumeReading added

/-- `clear`. -/
def clear (added : Bool) : Bool × FdDgramChannel :=
  if c.output.isEmpty then (true, c) else { c with output := [] }.resumeReading added

/-- The first part of `channel_close`, where there is a sink: reading ends. -/
def stopReading (fesClosed removed : Bool) : FdDgramChannel :=
  { c with isClosedFlag := true, input := if fesClosed then [] else c.input }.switchEvents
    .read false removed

/-- The last part of `channel_close`: the sink is closed and the handle cleared. -/
def drop : FdDgramChannel := { c with fes := none, canRead := false, canWrite := false }

/-- `channel_close`. The sink is only closed already where it calls `handle_fd_close` itself. Where
it is closed here it does so too, which changes nothing more. -/
def channelClose (fesClosed removed : Bool) : Bool × FdDgramChannel :=
  if c.fes.isNone then (true, { c with isClosedFlag := true, input := [] })
  else if !removed then (false, c.stopReading fesClosed removed)
  else if !(c.stopReading fesClosed removed).input.isEmpty then
    (true, c.stopReading fesClosed removed)
  else (true, (c.stopReading fesClosed removed).drop)

/-- The part of `clear_unwritten` that follows the emission of the write signal. -/
def stopWriting (signalled removed : Bool) : Bool × FdDgramChannel :=
  if !signalled then (false, c)
  else if c.input.isEmpty then (removed, c.switchEvents .write false removed)
  else (true, c)

/-- Whether `clear_unwritten` emits the write signal. -/
def AsksForData (space : Nat) : Prop :=
  c.input ≠ [] ∧ c.isClosed = false ∧ { c with input := [] }.spaceLeft space ≠ 0

instance (space : Nat) : Decidable (c.AsksForData space) :=
  inferInstanceAs (Decidable (_ ∧ _ ∧ _))

/-- What `clear_unwritten` does where it emits no signal. -/
def clearQuietly (removed : Bool) : Bool × FdDgramChannel :=
  if c.input.isEmpty then (true, c)
  else if c.isClosed then { c with input := [] }.channelClose false removed
  else (true, { c with input := [] })

/-- What the calls leave of the channel. The call of `clear_unwritten` emits the write signal, so
that the handlers' calls come before its last part. -/
def make : FdDgramChannel → Calls → FdDgramChannel
  | c, .done => c
  | c, .commit addr body fits added next => make (c.commitDataframe addr body fits added).2 next
  | c, .pop added next => make (c.popDgram added).2 next
  | c, .clear added next => make (c.clear added).2 next
  | c, .clearUnwritten space handlers signalled removed next =>
      if c.AsksForData space then
        make ((make { c with input := [] } handlers).stopWriting signalled removed).2 next
      else make (c.clearQuietly removed).2 next
  | c, .close removed next => make (c.channelClose false removed).2 next

/-- `clear_unwritten`. -/
def clearUnwritten (space : Nat) (signal : Emission) (removed : Bool) : Bool × FdDgramChannel :=
  if c.AsksForData space then
    ({ c with input := [] }.make signal.calls).stopWriting signal.result removed
  else c.clearQuietly removed

/-! ### What calls preserve -/

/-- A relation between a channel and what the calls of a handler leave of it holds if each call
keeps it. -/
theorem make_induction {R : FdDgramChannel → FdDgramChannel → Prop}
    (refl : ∀ c, R c c) (trans : ∀ {c c' c''}, R c c' → R c' c'' → R c c'')
    (commit : ∀ c addr body fits added, R c (c.commitDataframe addr body fits added).2)
    (resume : ∀ c added, R c (c.resumeReading added).2)
    (read : ∀ c output, output.Sublist c.output → R c { c with output })
    (empty : ∀ c, R c { c with input := [] })
    (stop : ∀ c signalled removed, R c (c.stopWriting signalled removed).2)
    (close : ∀ c removed, R c (c.channelClose false removed).2) (c : FdDgramChannel)
    (calls : Calls) : R c (c.make calls) := by
  have hquiet : ∀ c removed, R c (clearQuietly c removed).2 := by
    intro c removed
    unfold clearQuietly
    split_ifs
    · exact refl c
    · exact trans (empty c) (close _ removed)
    · exact empty c
  induction calls generalizing c with
  | done => exact refl c
  | commit addr body fits added next ih => exact trans (commit c addr body fits added) (ih _)
  | pop added next ih =>
      refine trans ?_ (ih _)
      unfold popDgram
      split_ifs
      · exact refl c
      · exact trans (read c _ (List.tail_sublist _)) (resume _ added)
  | clear added next ih =>
      refine trans ?_ (ih _)
      unfold clear
      split_ifs
      · exact refl c
      · exact trans (read c _ (List.nil_sublist _)) (resume _ added)
  | clearUnwritten space handlers signalled removed next ihandlers ih =>
      simp only [make]
      split_ifs
      · exact trans (trans (trans (empty c) (ihandlers _)) (stop _ signalled removed)) (ih _)
      · exact trans (hquiet c removed) (ih _)
  | close removed next ih => exact trans (close c removed) (ih _)

/-! ## Read events -/

end FdDgramChannel

/-- What a pass of the loop of `handle_fd_read` finds outside: the space of the data frame, whether
the sink takes the change of its events, what is received (nothing if the call fails, `broken` if
the descriptor is), from where, the slots of the firewall and whether the buffer takes it. -/
structure Reading where
  space : Nat
  removed : Bool
  received : Option (List UInt8)
  broken : Bool
  head : SockHead
  firewall : List (SockAddr → Nat → Bool)
  committed : Bool

/-- The address length that is used: never more than what could be stored. -/
def Reading.length (r : Reading) : Nat := min r.head.length sizeofSafeSockaddr

/-- Whether all slots of the firewall accept the sender. -/
def Reading.accepted (r : Reading) : Bool :=
  r.firewall.all fun slot => slot r.head.addr r.length

/-- How a pass ends: the loop is continued, after a datagram was committed or without, or left, or
the function fails. -/
inductive Pass where
  | again
  | committed
  | stop
  | fail
deriving DecidableEq

namespace FdDgramChannel

variable (c : FdDgramChannel)

/-- `reserve_len`. -/
def reserveLen : Nat := realLen c.maxOutputDgramLen + 1

/-- Whether the source address comes with the datagram. -/
def isSocket : Bool := c.fdType = .connSocket || c.fdType = .uconnSocket

/-- A pass of the loop, once a datagram was received. -/
def takeDgram (head : SockHead) (r : Reading) : Pass × FdDgramChannel :=
  match r.received with
  | none => (if r.broken then .fail else .stop, c)
  | some body =>
      if c.maxOutputDgramLen < body.length then (.again, c)
      else if (c.fdType = .nonSocket || c.fdType = .tun) && body.isEmpty then (.fail, c)
      else if !r.committed then (.fail, c)
      else
        let output := c.output ++ [⟨head, body⟩]
        (.committed, { c with
          output := if c.keepOnlyLastDgram && 1 < output.length then output.tail else output })

/-- A pass of the loop of `handle_fd_read`. -/
def readPass (r : Reading) : Pass × FdDgramChannel :=
  if r.space < c.reserveLen then
    (if r.removed then .stop else .fail, c.switchEvents .read false r.removed)
  else if c.isSocket then
    -- an address longer than a `sockaddr` is taken for a local one
    if r.firewall ≠ [] ∧ r.length ≤ sizeofSockaddr ∧ r.accepted = false then (.again, c.use)
    else c.use.takeDgram ⟨r.length, r.head.addr⟩ r
  else if c.fdType = .none then (.fail, c)
  else c.use.takeDgram {} r

/-- The loop: whether the function goes on after it, and the readings that were committed. -/
def readLoop : FdDgramChannel → List Reading → List Reading → Bool × List Reading × FdDgramChannel
  | c, dgramsRead, [] => (true, dgramsRead, c)
  | c, dgramsRead, r :: readings =>
      match c.readPass r with
      | (.fail, c) => (false, dgramsRead, c)
      | (.stop, c) => (true, dgramsRead, c)
      | (.again, c) =>
          if c.isNonblocking then readLoop c dgramsRead readings else (true, dgramsRead, c)
      | (.committed, c) =>
          let dgramsRead := dgramsRead ++ [r]
          if c.isNonblocking then readLoop c dgramsRead readings else (true, dgramsRead, c)

/-- Whether the event comes from the sink of the channel. -/
def OwnEvent (event : FdEvent) : Prop :=
  ∃ s ∈ c.fes, s.sink = event.sink ∧ s.fd = event.fd

instance (event : FdEvent) : Decidable (c.OwnEvent event) :=
  inferInstanceAs (Decidable (∃ s ∈ c.fes, _))

end FdDgramChannel

/-- What `handle_fd_read` finds outside: the space of the buffer, the read signal for lack of space,
the readings of its loop, of which there is at least one, and the read signal for new data. -/
structure ReadEvent where
  space : Nat
  makeRoom : Emission
  first : Reading
  readings : List Reading
  newData : Emission

namespace FdDgramChannel

variable (c : FdDgramChannel)

/-- The channel when the loop of `handle_fd_read` is entered. -/
def beforeReading (e : ReadEvent) : FdDgramChannel :=
  if e.space < c.reserveLen then c.make e.makeRoom.calls else c

/-- The part of `handle_fd_read` from its loop on, with the readings that were committed. -/
def readAll (e : ReadEvent) : Bool × List Reading × FdDgramChannel :=
  match c.readLoop [] (e.first :: e.readings) with
  | (false, dgramsRead, c) => (false, dgramsRead, c)
  | (true, dgramsRead, c) =>
      if dgramsRead.isEmpty then (true, dgramsRead, c)
      else (e.newData.result, dgramsRead, c.make e.newData.calls)

/-- `handle_fd_read`, with the readings that were committed. -/
def handleFdRead (event : FdEvent) (e : ReadEvent) : Bool × List Reading × FdDgramChannel :=
  if ¬c.OwnEvent event then (false, [], c)
  else if e.space < c.reserveLen ∧ e.makeRoom.result = false then (false, [], c.beforeReading e)
  else (c.beforeReading e).readAll e

end FdDgramChannel

/-! ## Write events -/

/-- `errno`, as far as the channels tell errors apart. -/
inductive Errno where
  | einval
  | eacces
  | econnrefused
  | enoent
  | other
deriving DecidableEq

/-- What a pass of the loop of `handle_fd_write` finds outside: how much is written (nothing if the
call fails, with what error, `broken` if the descriptor is), the write error signal if it has
handlers, whose result says whether the error is ignored, the write signal for more data and
whether the sink takes the change of its events. -/
structure Writing where
  written : Option Nat
  errno : Errno
  broken : Bool
  writeError : Option Emission
  moreData : Emission
  removed : Bool

/-- What `handle_fd_write` finds outside: the write signal if there are no data, and the passes of
its loop. -/
structure WriteEvent where
  askForData : Emission
  first : Writing
  writings : List Writing

namespace FdDgramChannel

variable (c : FdDgramChannel)

/-- The end of a pass of `handle_fd_write`, for the number of datagrams at its start. -/
def finishPass (origDgramsAvail : Nat) (w : Writing) : Pass × FdDgramChannel :=
  if !c.isClosed then
    if origDgramsAvail = 0 || !c.isLowLatency && c.input.isEmpty then
      (if w.removed then .stop else .fail, c.switchEvents .write false w.removed)
    else (.again, c)
  else if c.input.isEmpty then (.fail, c)
  else (.again, c)

/-- Whether the write signal is emitted after a pass has made room. -/
def MadeRoom (origDgramsAvail : Nat) : Prop :=
  c.isClosed = false ∧ c.input.length < origDgramsAvail ∧ c.isLowLatency = false

instance (origDgramsAvail : Nat) : Decidable (c.MadeRoom origDgramsAvail) :=
  inferInstanceAs (Decidable (_ ∧ _ ∧ _))

/-- The part of a pass that follows the writing. -/
def afterWriting (origDgramsAvail : Nat) (w : Writing) : Pass × FdDgramChannel :=
  if c.MadeRoom origDgramsAvail then
    if w.moreData.result then (c.make w.moreData.calls).finishPass origDgramsAvail w
    else (.fail, c.make w.moreData.calls)
  else c.finishPass origDgramsAvail w

/-- What was written of a datagram, with an invalid packet to a Tun device taken as written. -/
def eatErrors (bodylen : Nat) (w : Writing) : Option Nat :=
  if c.fdType = .tun && w.written.isNone && w.errno = .einval then some bodylen else w.written

/-- The write error signal that is emitted, if the writing failed and there are handlers. -/
def reportedError (bodylen : Nat) (w : Writing) : Option Emission :=
  if (c.eatErrors bodylen w).isNone then w.writeError else none

/-- A pass of the loop of `handle_fd_write` from where the datagram has been handed to the kernel
and the write error signal emitted. `stop` also stands for the returns with success. -/
def popWritten (origDgramsAvail bodylen : Nat) (retval : Option Nat) (w : Writing) :
    Pass × FdDgramChannel :=
  match retval with
  | none =>
      if c.ignoreWriteErrors && (w.errno = .eacces || w.errno = .econnrefused ||
        w.errno = .enoent) then (.stop, c)
      else (if w.broken then .fail else .stop, c)
  | some written =>
      if written ≠ bodylen then (.fail, c)
      else if c.input.isEmpty then (.fail, c)
      else { c with input := c.input.tail }.afterWriting origDgramsAvail w

/-- A pass of the loop of `handle_fd_write`. -/
def writePass (w : Writing) : Pass × FdDgramChannel :=
  match c.input with
  | [] => c.afterWriting 0 w
  | dgram :: _ =>
      if c.fdType = .none then (.fail, c)
      else
        let bodylen := dgram.body.length
        let origDgramsAvail := c.input.length
        match c.use.reportedError bodylen w with
        | none => c.use.popWritten origDgramsAvail bodylen (c.eatErrors bodylen w) w
        | some signal =>
            (c.use.make signal.calls).popWritten origDgramsAvail bodylen
              (if signal.result then some bodylen else none) w

/-- The loop of `handle_fd_write`. -/
def writeLoop : FdDgramChannel → List Writing → Bool × FdDgramChannel
  | c, [] => (true, c)
  | c, w :: writings =>
      match c.writePass w with
      | (.fail, c) => (false, c)
      | (.stop, c) => (true, c)
      | (_, c) => if c.isNonblocking && !c.isLowLatency then writeLoop c writings else (true, c)

/-- Whether `handle_fd_write` asks for data first. -/
def Starved : Prop := c.isClosed = false ∧ c.input = []

instance : Decidable c.Starved := inferInstanceAs (Decidable (_ ∧ _))

/-- The channel when the loop of `handle_fd_write` is entered. -/
def beforeWriting (e : WriteEvent) : FdDgramChannel :=
  let c := { c with handlingWrite := true }
  if c.Starved then c.make e.askForData.calls else c

/-- `handle_fd_write`. -/
def handleFdWrite (event : FdEvent) (e : WriteEvent) : Bool × FdDgramChannel :=
  if c.handlingWrite then (false, c)
  else if ¬c.OwnEvent event then (false, c)
  else
    let (ok, after) :=
      if c.Starved ∧ e.askForData.result = false then (false, c.beforeWriting e)
      else (c.beforeWriting e).writeLoop (e.first :: e.writings)
    (ok, { after with handlingWrite := false })

end FdDgramChannel

end Codon.Io
