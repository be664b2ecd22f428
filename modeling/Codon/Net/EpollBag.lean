import Codon.Net.FdBag

/-!
# What a bag of file descriptors asks of epoll

An `FdBag` registers with `epoll` the events that its sinks ask for. It notes in each sink
what it has asked for, and counts the sinks that wait for reading or writing
(`update_epoll`, `remove_fes`). Here a bag is the list of its attached sinks; `BagSlots` says
that they are those in its slots.

The kernel keeps the registrations by descriptor. Every descriptor belongs to one sink, so
here it keeps them by sink. What `epoll_ctl` and `eventfd` answer is part of the operation
that calls them; a call that makes no sense for the registration fails anyway. A sink that
cannot be polled has the sink of an eventfd as its stand-in, which nobody else holds.

The methods of `FdEventSink` are not part of the source. What a bag relies on of them is in
`SinkMethods`.
-/

namespace Codon.Net

/-- Events, as far as `epoll` can report them: the bits of `fd_epoll_ev`. -/
structure Events where
  read : Bool
  write : Bool
  except : Bool
deriving DecidableEq

namespace Events

/-- No events. -/
def empty : Events := ⟨false, false, false⟩

/-- The events that are in `fd_rw_ev`. -/
def rw (events : Events) : Events := { events with except := false }

/-- Whether one of the events is in `fd_rw_ev`. -/
def active (events : Events) : Bool := events.read || events.write

/-- Without exceptions, reading and writing are all there is. -/
theorem rw_of_not_except {events : Events} (h : events.except = false) : events.rw = events := by
  rw [rw, ← h]

end Events

/-- The operations of `epoll_ctl`. -/
inductive CtlOp where
  | add
  | mod
  | del
deriving DecidableEq

/-- `FdEventSink`, as far as `epoll` is concerned: the events asked for, the events noted in
`epoll_events`, and the stand-in. -/
structure EpollSink (S : Type) where
  events : Events
  epollEvents : Events
  nonPollableStandin : Standin S

/-- A bag with its attached sinks, all sinks, and the registrations of the kernel. `active_count` is
an integer here: it is a `size_t` that may drop below zero, which is no number of sinks either
way. -/
structure EpollBag (S : Type) where
  maxFds : Nat
  attached : List S
  sinks : S → EpollSink S
  epoll : S → Option Events
  activeCount : Int

/-- What `epoll_ctl` answers when `attach_fes` adds a descriptor, to see whether it can be polled,
and deletes it. -/
structure Probe where
  add : Bool
  del : Bool

namespace EpollBag

variable {S : Type}

/-- A bag without sinks. -/
def start (S : Type) (maxFds : Nat) : EpollBag S where
  maxFds
  attached := []
  sinks _ := ⟨.empty, .empty, .none⟩
  epoll _ := none
  activeCount := 0

variable [DecidableEq S]

def setSink (s : EpollBag S) (f : S) (sink : EpollSink S) : EpollBag S :=
  { s with sinks := Function.update s.sinks f sink }

/-- Sets the events that a sink asks for. -/
def ask (s : EpollBag S) (f : S) (events : Events) : EpollBag S :=
  s.setSink f { s.sinks f with events }

/-- Notes in a sink what is asked for. -/
def note (s : EpollBag S) (f : S) (epollEvents : Events) : EpollBag S :=
  s.setSink f { s.sinks f with epollEvents }

def register (s : EpollBag S) (f : S) (events : Option Events) : EpollBag S :=
  { s with epoll := Function.update s.epoll f events }

end EpollBag

/-- The methods of `FdEventSink` that a bag relies on. `update` is `update_epoll` and `remove` is
`remove_fes` of the bag, each for that sink. -/
class SinkMethods (S : Type) [DecidableEq S] where
  setEvents (update : EpollBag S → Bool × EpollBag S) (s : EpollBag S) (f : S) (events : Events) :
    Bool × EpollBag S
  close (remove : EpollBag S → Bool × EpollBag S) (s : EpollBag S) (f : S) : EpollBag S
  /-- `set_events` of an attached sink stores the events and has the bag update it. -/
  set_events_attached {update : EpollBag S → Bool × EpollBag S} {s : EpollBag S} {f : S}
    {events : Events} (hf : f ∈ s.attached) : setEvents update s f events = update (s.ask f events)
  /-- `set_events` of another sink only stores the events. -/
  set_events_detached {update : EpollBag S → Bool × EpollBag S} {s : EpollBag S} {f : S}
    {events : Events} (hf : f ∉ s.attached) : setEvents update s f events = (true, s.ask f events)
  /-- `close` of an attached sink has the bag remove it, and closes its descriptor whether or not
  the bag does so. The kernel lets go of a closed descriptor. -/
  close_attached {remove : EpollBag S → Bool × EpollBag S} {s : EpollBag S} {f : S}
    (hf : f ∈ s.attached) : close remove s f = (remove s).2.register f none
  /-- `close` of another sink only closes its descriptor. -/
  close_detached {remove : EpollBag S → Bool × EpollBag S} {s : EpollBag S} {f : S}
    (hf : f ∉ s.attached) : close remove s f = s.register f none

namespace EpollBag

variable {S : Type} [DecidableEq S]

/-- `epoll_ctl`, which fails or changes the registration. -/
def epollCtl (s : EpollBag S) (op : CtlOp) (f : S) (events : Events) (answer : Bool) :
    Option (EpollBag S) :=
  match op with
  | .add => if answer ∧ s.epoll f = none then some (s.register f (some events)) else none
  | .mod => if answer ∧ s.epoll f ≠ none then some (s.register f (some events)) else none
  | .del => if answer ∧ s.epoll f ≠ none then some (s.register f none) else none

/-- The operation that leads from some events to others. -/
def ctlOp (oldState newState : Events) : CtlOp :=
  if oldState = .empty then .add else if newState = .empty then .del else .mod

omit [DecidableEq S] in
/-- The active and inactive transitions at the end of `update_epoll`. -/
def countTransition (s : EpollBag S) (oldState newState : Events) : EpollBag S :=
  if oldState.active = false ∧ newState.active = true then
    { s with activeCount := s.activeCount + 1 }
  else if newState.active = false ∧ oldState.active = true then
    { s with activeCount := s.activeCount - 1 }
  else s

/-- `update_epoll` of a sink without stand-in. -/
def updateOwn (s : EpollBag S) (f : S) (ctl : Bool) : Bool × EpollBag S :=
  let oldState := (s.sinks f).epollEvents
  let newState := (s.sinks f).events
  let s := s.note f newState
  if newState = oldState then (true, s)
  else
    match s.epollCtl (ctlOp oldState newState) f newState ctl with
    | none => (false, s)
    | some s => (true, s.countTransition oldState newState)

variable [SinkMethods S]

/-- `update_epoll`. The events of a stand-in are set, which updates it in turn; `ctl` is what the
only call of `epoll_ctl` answers, or what the error sink answers. -/
def updateEpoll (s : EpollBag S) (f : S) (ctl : Bool) : Bool × EpollBag S :=
  let oldState := (s.sinks f).epollEvents
  let newState := (s.sinks f).events
  match (s.sinks f).nonPollableStandin with
  | .none => s.updateOwn f ctl
  | .errorFes =>
      let s := s.note f newState
      if newState = oldState then (true, s)
      else if ctl then (true, s.countTransition oldState newState)
      else (false, s)
  | .sink e =>
      let s := s.note f newState
      if newState = oldState then (true, s)
      else
        match SinkMethods.setEvents (fun s => s.updateOwn e ctl) s e newState.rw with
        | (false, s) => (false, s)
        | (true, s) => (true, s.countTransition oldState newState)

/-- Attaches a sink, up to the probe. `isFree` is whether the sink is open and has no owner outside
of this bag. -/
def insertFes (s : EpollBag S) (f : S) (isFree : Bool) : Option (EpollBag S) :=
  if !isFree then none
  else if f ∈ s.attached then none
  else if s.maxFds ≤ s.attached.length then none
  else some ({ s with attached := s.attached ++ [f] }.note f .empty)

/-- Adds a descriptor without events and deletes it, whatever comes of it. -/
def probe (s : EpollBag S) (f : S) (p : Probe) : EpollBag S :=
  let s := (s.epollCtl .add f .empty p.add).getD s
  (s.epollCtl .del f .empty p.del).getD s

/-- Gives a sink the sink of a new eventfd as stand-in, or the error sink if that could not be
attached. `mod` is what `epoll_ctl` answers when the eventfd is pointed back at the sink. -/
def standIn (s : EpollBag S) (f e : S) (p : Probe) (mod : Bool) : EpollBag S :=
  let s := (s.setSink e ⟨.empty, .empty, .none⟩).register e none
  match s.insertFes e true with
  | none => s.setSink f { s.sinks f with nonPollableStandin := .errorFes }
  | some s =>
      let s := ((s.probe e p).updateEpoll e true).2
      let s := s.setSink f { s.sinks f with nonPollableStandin := .sink e }
      (s.epollCtl .mod e .empty mod).getD s

/-- `attach_fes`. A descriptor that cannot be polled gets a stand-in, if there is an eventfd. -/
def attachFes (s : EpollBag S) (f : S) (isFree pollable : Bool) (p : Probe)
    (eventfd : Option (S × Probe × Bool)) (ctl : Bool) : Bool × EpollBag S :=
  match s.insertFes f isFree with
  | none => (false, s)
  | some s =>
      if pollable then (s.probe f p).updateEpoll f ctl
      else
        match eventfd with
        | none => (false, s)
        | some (e, p, mod) => (s.standIn f e p mod).updateEpoll f ctl

/-- The end of `remove_fes`: the sink leaves its slot. -/
def dropFes (s : EpollBag S) (f : S) : EpollBag S := { s with attached := s.attached.erase f }

omit [DecidableEq S] in
/-- The start of `remove_fes`: a sink that waits for reading or writing is no longer counted. -/
def uncount (s : EpollBag S) (f : S) : EpollBag S :=
  if (s.sinks f).epollEvents.active then { s with activeCount := s.activeCount - 1 } else s

/-- `remove_fes` of a sink without stand-in. -/
def removeOwn (s : EpollBag S) (f : S) (ctl : Bool) : Bool × EpollBag S :=
  let s := s.uncount f
  if (s.sinks f).epollEvents = .empty then (true, s.dropFes f)
  else
    match s.epollCtl .del f .empty ctl with
    | none => (false, s)
    | some s => (true, s.dropFes f)

/-- `remove_fes`. -/
def removeFes (s : EpollBag S) (f : S) (ctl : Bool) : Bool × EpollBag S :=
  if f ∉ s.attached then (false, s)
  else
    let clear (s : EpollBag S) : EpollBag S :=
      (s.setSink f { s.sinks f with nonPollableStandin := .none }).dropFes f
    match (s.sinks f).nonPollableStandin with
    | .none => s.removeOwn f ctl
    | .errorFes => (true, clear (s.uncount f))
    | .sink e =>
        (true, clear (SinkMethods.close (fun s => s.removeOwn e ctl) (s.uncount f) e))

/-- A sink is the stand-in of an attached one. -/
def isStandin (s : EpollBag S) (f : S) : Bool :=
  s.attached.any fun g =>
    match (s.sinks g).nonPollableStandin with
    | .sink e => e = f
    | .none | .errorFes => false

/-- What clients and sinks ask of a bag. A sink has itself removed when it is detached or closed. -/
inductive Op (S : Type) where
  | attach (f : S) (isFree pollable : Bool) (p : Probe) (eventfd : Option (S × Probe × Bool))
      (ctl : Bool)
  | setEvents (f : S) (events : Events) (ctl : Bool)
  | remove (f : S) (ctl : Bool)

/-- An operation can be made: an eventfd is new, and nobody but the bag holds a stand-in. -/
def Possible (s : EpollBag S) : Op S → Prop
  | .attach f _ _ _ eventfd _ => ∀ e ∈ eventfd.map Prod.fst, e ∉ s.attached ∧ e ≠ f
  | .setEvents f _ _ | .remove f _ => s.isStandin f = false

instance (s : EpollBag S) : (op : Op S) → Decidable (s.Possible op)
  | .attach f _ _ _ eventfd _ =>
      inferInstanceAs (Decidable (∀ e ∈ eventfd.map Prod.fst, e ∉ s.attached ∧ e ≠ f))
  | .setEvents f _ _ | .remove f _ => inferInstanceAs (Decidable (s.isStandin f = false))

/-- `set_events` of a sink that a client holds. -/
def setEvents (s : EpollBag S) (f : S) (events : Events) (ctl : Bool) : Bool × EpollBag S :=
  SinkMethods.setEvents (fun s => s.updateEpoll f ctl) s f events

/-- One operation. -/
def step (s : EpollBag S) (op : Op S) : EpollBag S :=
  if s.Possible op then
    match op with
    | .attach f isFree pollable p eventfd ctl =>
        (s.attachFes f isFree pollable p eventfd ctl).2
    | .setEvents f events ctl => (s.setEvents f events ctl).2
    | .remove f ctl => (s.removeFes f ctl).2
  else s

end EpollBag

end Codon.Net
