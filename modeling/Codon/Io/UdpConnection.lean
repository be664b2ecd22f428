import Codon.Io.FdDgramChannel
import Codon.Library.Run
import Codon.Signals.Signal

/-!
# UDP connections

`UdpConnection`: a datagram connection that opens a new socket when its descriptor closes, with
its reconnect timer and its record of multicast subscriptions.

Opening a socket, losing one and an event of the timer emit the connect signal, whose handlers
may call the connection again. A call that would emit the signal from one of its handlers ends the
process in the assertion of `Signal::emit`, unless all slots have been disconnected. The functions
of the source that emit take the emission as a function of the connection.

Not in the source tree are the timer, the base classes and what resolves addresses and joins
groups. `close` is taken to be `channel_close` and `signal_connect` that of `StreamConnection`,
sinks take all handlers and changes of their events, and the handlers of the close signal do
nothing. What the kernel answers is an argument, but it refuses to join a group twice on one
socket.
-/

namespace Codon.Io

/-! ## Addresses and sockets -/

/-- `AF_INET`. -/
def afInet : Nat := 2

/-- `AF_INET6`. -/
def afInet6 : Nat := 10

/-- `sizeof(sockaddr_in6)`. That of `sockaddr_in` is that of `sockaddr`. -/
def sizeofSockaddrIn6 : Nat := 28

/-- A port in network byte order. -/
def htons (port : Nat) : List UInt8 := [.ofNat (port / 256), .ofNat port]

namespace SockAddr

/-- A `sockaddr_in`, or a `sockaddr_in6` without flow information. -/
def ofHost (isIpv6 : Bool) (port : Nat) (host : List UInt8) : SockAddr :=
  if isIpv6 then ⟨afInet6, htons port ++ [0, 0, 0, 0] ++ host⟩
  else ⟨afInet, htons port ++ host⟩

/-- The address with another port. -/
def withPort (a : SockAddr) (port : Nat) : SockAddr :=
  { a with data := htons port ++ a.data.drop 2 }

/-- `sin_addr` or `sin6_addr`. -/
def host (isIpv6 : Bool) (a : SockAddr) : List UInt8 :=
  if isIpv6 then (a.data.drop 6).take 16 else (a.data.drop 2).take 4

/-- Whether there is no host in the address. -/
def isUnspecified (isIpv6 : Bool) (a : SockAddr) : Bool := (a.host isIpv6).all (· = 0)

end SockAddr

/-- `multicast_subscription`: `s_addr` of the group and the interface. -/
structure Subscription where
  group : Nat
  interface : Nat
deriving DecidableEq

/-- A UDP socket, as the kernel sees it: the address of `::connect` and the groups joined. -/
structure Socket where
  connectedTo : Option SockAddr := none
  memberships : List Subscription := []
deriving DecidableEq

namespace Socket

/-- `multicast_subscribe`, which the kernel may refuse. -/
def subscribe (socket : Socket) (s : Subscription) (accepted : Bool) : Option Socket :=
  if accepted ∧ s ∉ socket.memberships then
    some { socket with memberships := socket.memberships ++ [s] }
  else none

/-- `multicast_unsubscribe`, which the kernel may refuse. -/
def unsubscribe (socket : Socket) (s : Subscription) (removed : Bool) : Option Socket :=
  if removed ∧ s ∈ socket.memberships then
    some { socket with memberships := socket.memberships.filter (· ≠ s) }
  else none

/-- The loop of `open_socket` over the recorded subscriptions. -/
def subscribeAll (accepts : Subscription → Bool) : Socket → List Subscription → Option Socket
  | socket, [] => some socket
  | socket, s :: subscriptions =>
      match socket.subscribe s (accepts s) with
      | none => none
      | some socket => subscribeAll accepts socket subscriptions

end Socket

/-! ## The connection -/

/-- `UdpConnection`. `socket` is the one behind the channel. A slot of `connect_sig` whose handler
is destroyed counts as one that is disconnected, and its function is not looked at. `strays` counts
the sockets that the channel was assigned and whose handle it has cleared without closing them, and
`orphans` those that it has refused; both stay in the bag. The last two fields say whether a call of
`connect` has failed and left the channel open, and whether a call of `multicast_group_join` has
failed and left the record changed. -/
structure UdpConnection where
  isIpv6 : Bool
  fdChannel : FdDgramChannel
  socket : Socket
  timerEnabled : Bool
  requestedPort : Nat
  localAddr : SockAddr
  remoteAddr : SockAddr
  connectedSocket : Bool
  reuseAddr : Bool
  isClosedFlag : Bool
  isDisconnectedFlag : Bool
  multicastSubscriptions : List Subscription
  connectSig : Signals.Signal Unit
  strays : Nat
  orphans : Nat
  leftOpen : Bool
  changedByFailure : Bool
deriving DecidableEq

/-- What `open_socket` finds outside: whether a socket is created with its options, its name if it
is bound, whether the options for multicast are set and the bag takes the descriptor, which
subscriptions the kernel accepts, and the sink and descriptor. -/
structure SocketSetup where
  created : Bool
  bound : Option SockAddr
  configured : Bool
  subscribes : Subscription → Bool
  sink : Nat
  fd : Nat

/-- The arguments of `open`, with `my_addr` as it is parsed, and what the call finds outside. -/
structure Opening where
  myPort : Nat
  reuseAddr : Bool
  myAddr : Option (List UInt8)
  setup : SocketSetup
  timerMade : Bool

/-- What `set_remote_addr` finds outside: whether its argument is resolved, what is in `remote_addr`
afterwards, and the answer to `::connect`. -/
structure Resolution where
  resolved : Bool
  address : SockAddr
  connects : Bool

namespace UdpConnection

variable (u : UdpConnection)

/-- A new connection. -/
def create (maxDgramLen : Nat) (isIpv6 : Bool) : UdpConnection where
  isIpv6
  fdChannel := .create maxDgramLen
  socket := {}
  timerEnabled := false
  requestedPort := 0
  localAddr := {}
  remoteAddr := {}
  connectedSocket := false
  reuseAddr := false
  isClosedFlag := false
  isDisconnectedFlag := true
  multicastSubscriptions := []
  connectSig := .create
  strays := 0
  orphans := 0
  leftOpen := false
  changedByFailure := false

/-- `is_connected`. -/
def isConnected : Bool := !u.fdChannel.isClosed

/-- `open_socket`. A sink that the channel refuses has got the close handler of the connection all
the same. -/
def openSocket (s : SocketSetup) : Bool × UdpConnection :=
  if u.isConnected || !s.created then (false, u)
  else
    match s.bound with
    | none => (false, { u with localAddr := u.localAddr.withPort u.requestedPort })
    | some name =>
        match Socket.subscribeAll s.subscribes {} u.multicastSubscriptions with
        | none => (false, { u with localAddr := name })
        | some socket =>
            if !s.configured then (false, { u with localAddr := name })
            else
              match u.fdChannel.assignFd s.sink s.fd
                (if u.connectedSocket then .connSocket else .uconnSocket) true true true with
              | (false, _) => (false, { u with localAddr := name, orphans := u.orphans + 1 })
              | (true, fdChannel) => (true, { u with localAddr := name, socket, fdChannel })

/-- `connect_socket`, for the answer to `::connect`. -/
def connectSocket (connects : Bool) : Bool × UdpConnection :=
  if !u.connectedSocket then (false, u)
  else if u.remoteAddr.isUnspecified u.isIpv6 then (false, u)
  else if u.fdChannel.fes.isNone then (false, u)
  else if !connects then (false, u)
  else (true, { u with socket.connectedTo := some u.remoteAddr })

/-- `set_remote_addr`. -/
def setRemoteAddr (r : Resolution) : Bool × UdpConnection :=
  if u.isClosedFlag then (false, u)
  else if !r.resolved then (false, { u with remoteAddr := r.address })
  else if u.connectedSocket then { u with remoteAddr := r.address }.connectSocket r.connects
  else (true, { u with remoteAddr := r.address })

/-- The connection when `open` calls `open_socket`. -/
def prepare (o : Opening) (host : List UInt8) : UdpConnection :=
  { u with
    requestedPort := o.myPort
    localAddr := .ofHost u.isIpv6 o.myPort host
    remoteAddr := if u.connectedSocket then u.remoteAddr else {}
    reuseAddr := o.reuseAddr }

/-- `open`, up to its emission of the connect signal: whether it comes to that. -/
def beginOpen (o : Opening) : Bool × UdpConnection :=
  if u.isConnected || u.timerEnabled then (false, u)
  else
    match o.myAddr with
    | none =>
        (false, { u with requestedPort := o.myPort, localAddr := .ofHost u.isIpv6 o.myPort [] })
    | some host =>
        match (u.prepare o host).openSocket o.setup with
        | (false, u) => (false, u)
        | (true, u) =>
            if !o.timerMade then (false, u)
            else (true, { u with isClosedFlag := false, isDisconnectedFlag := false })

/-- Whether `open` gets a socket. -/
def GetsSocket (o : Opening) : Prop :=
  u.isConnected = false ∧ u.timerEnabled = false ∧
    ∃ host ∈ o.myAddr, ((u.prepare o host).openSocket o.setup).1 = true

instance (o : Opening) : Decidable (u.GetsSocket o) :=
  inferInstanceAs (Decidable (_ ∧ _ ∧ ∃ host ∈ o.myAddr, _))

/-- `connect`, up to the emission by `open`. -/
def beginConnect (connectedSocket : Bool) (o : Opening) : Bool × UdpConnection :=
  { u with connectedSocket }.beginOpen o

/-- The account of a call of `connect` that fails. -/
def failedConnect : UdpConnection := { u with leftOpen := u.leftOpen || u.isConnected }

/-- `connect` after its call of `open`. -/
def endConnect (r : Resolution) : Bool × UdpConnection → Bool × UdpConnection
  | (false, u) => (false, u.failedConnect)
  | (true, u) =>
      match u.setRemoteAddr r with
      | (false, u) => (false, u.failedConnect)
      | (true, u) => (true, u)

/-- `fd_channel.close()`, up to the close event of its sink, if it comes to that. -/
def shut : UdpConnection := { u with fdChannel := (u.fdChannel.channelClose false true).2 }

/-- Whether `fd_channel.close()` closes the sink. -/
def Shuts : Prop := u.fdChannel.fes.isSome = true ∧ u.fdChannel.input = []

instance : Decidable u.Shuts := inferInstanceAs (Decidable (_ ∧ _))

/-- The end of `channel_close`, once more: the handle is cleared, also if it is that of a socket
that was opened since the sink was closed. -/
def dropFd : UdpConnection :=
  { u with
    fdChannel := u.fdChannel.drop
    strays := u.strays + if u.fdChannel.fes.isSome then 1 else 0 }

/-- `disconnect`, up to `fd_channel.close()`. -/
def beginDisconnect : UdpConnection := { u with isDisconnectedFlag := true, timerEnabled := false }

/-- `channel_close`, up to `fd_channel.close()`. -/
def beginClose : UdpConnection := { u with isClosedFlag := true }.beginDisconnect

/-- The end of `handle_fd_close`: the connection starts to reconnect if the signal succeeded. -/
def startReconnecting (signalled : Bool) : UdpConnection :=
  if signalled && !u.isDisconnectedFlag then { u with timerEnabled := true } else u

/-! ### Multicast -/

/-- The account of a call of `multicast_group_join`, for the record before it. -/
def noteJoin (recorded : List Subscription) : Bool × UdpConnection → Bool × UdpConnection
  | (true, u) => (true, u)
  | (false, u) =>
      (false, { u with
        changedByFailure := u.changedByFailure || u.multicastSubscriptions ≠ recorded })

/-- `multicast_group_join`, with the group as it is parsed. -/
def multicastGroupJoin (group : Option Nat) (interface : Nat) (accepted : Bool) :
    Bool × UdpConnection :=
  noteJoin u.multicastSubscriptions <|
    if u.isIpv6 then (false, u)
    else
      match group with
      | none => (false, u)
      | some group =>
          let recorded := u.multicastSubscriptions ++ [⟨group, interface⟩]
          if u.isConnected then
            match u.socket.subscribe ⟨group, interface⟩ accepted with
            | none => (false, { u with multicastSubscriptions := recorded })
            | some socket => (true, { u with multicastSubscriptions := recorded, socket })
          else (true, { u with multicastSubscriptions := recorded })

/-- The loop of `multicast_group_join` over several interfaces, each with the answer for it. -/
def joinAll (group : Option Nat) : UdpConnection → List (Nat × Bool) → Bool × UdpConnection
  | u, [] => (true, u)
  | u, (interface, accepted) :: interfaces =>
      match u.multicastGroupJoin group interface accepted with
      | (false, u) => (false, u)
      | (true, u) => joinAll group u interfaces

/-- `multicast_group_join` on several interfaces. -/
def multicastGroupJoinAll (group : Option Nat) (interfaces : List (Nat × Bool)) :
    Bool × UdpConnection :=
  noteJoin u.multicastSubscriptions <|
    if u.isIpv6 then (false, u) else u.joinAll group interfaces

/-- `multicast_group_leave`, with the group as it is parsed. -/
def multicastGroupLeave (group : Option Nat) (interface : Nat) (removed : Bool) :
    Bool × UdpConnection :=
  if u.isIpv6 then (false, u)
  else
    match group with
    | none => (false, u)
    | some group =>
        let recorded := u.multicastSubscriptions.filter (· ≠ ⟨group, interface⟩)
        if u.isConnected then
          match u.socket.unsubscribe ⟨group, interface⟩ removed with
          | none => (false, { u with multicastSubscriptions := recorded })
          | some socket => (true, { u with multicastSubscriptions := recorded, socket })
        else (true, { u with multicastSubscriptions := recorded })

/-- The loop of `multicast_group_leave` over several interfaces, each with the answer for it. -/
def leaveAll (group : Option Nat) : UdpConnection → List (Nat × Bool) → Bool × UdpConnection
  | u, [] => (true, u)
  | u, (interface, removed) :: interfaces =>
      match u.multicastGroupLeave group interface removed with
      | (false, u) => (false, u)
      | (true, u) => leaveAll group u interfaces

/-- `multicast_group_leave` on several interfaces. -/
def multicastGroupLeaveAll (group : Option Nat) (interfaces : List (Nat × Bool)) :
    Bool × UdpConnection :=
  if u.isIpv6 then (false, u) else u.leaveAll group interfaces

/-! ### Writing -/

/-- A datagram is committed to the channel. -/
def commit (addr : Option SockHead) (body : List UInt8) (fits : Bool) : Bool × UdpConnection :=
  ((u.fdChannel.commitDataframe addr body fits true).1,
    { u with fdChannel := (u.fdChannel.commitDataframe addr body fits true).2 })

/-- `commit_dataframe`. -/
def commitDataframe (body : List UInt8) (fits : Bool) : Bool × UdpConnection :=
  if u.isClosedFlag || u.remoteAddr.isUnspecified u.isIpv6 then (false, u)
  else if u.connectedSocket then u.commit none body fits
  else
    let length := if u.isIpv6 then sizeofSockaddrIn6 else sizeofSockaddr
    u.commit (some ⟨length, u.remoteAddr⟩) body fits

/-- `write_to`. -/
def writeTo (addr : SockHead) (body : List UInt8) (fits : Bool) : Bool × UdpConnection :=
  if u.connectedSocket then (false, u) else u.commit (some addr) body fits

/-- `commit_dataframe_to`. -/
def commitDataframeTo (addr : SockHead) (body : List UInt8) (fits : Bool) : Bool × UdpConnection :=
  if u.isIpv6 then (false, u) else u.writeTo addr body fits

end UdpConnection

/-! ## The connect signal -/

/-- What `signal_connect` returns and what it leaves, with the call of `close` where it returns
false. The process may end in an assertion. -/
abbrev Emit := UdpConnection → Option (Bool × UdpConnection)

namespace UdpConnection

variable (u : UdpConnection)

/-- Whether the function of a slot of `connect_sig` is not empty. -/
def callable : Unit → Bool := fun _ => true

/-- The connection while its handlers are called. -/
def beginEmission : UdpConnection := { u with connectSig.locked := true }

/-- The connection after that. -/
def endEmission : UdpConnection := { u with connectSig := u.connectSig.finish callable }

/-- `signal_connect`, for what the handlers do and return. Without a slot nothing is emitted, and a
signal that is being emitted is not emitted again. -/
def signalConnect (handlers : UdpConnection → Option UdpConnection) (result : Bool) :
    Option (Bool × UdpConnection) :=
  if u.connectSig.empty callable then some (true, u)
  else do
    fswAssert (u.connectSig.locked = false)
    let u ← handlers u.beginEmission
    some (result, u.endEmission)

/-- `signal_connect` in a call by a handler. No handler runs in it. -/
def nested : Emit := fun u => u.signalConnect (fun _ => none) true

/-- `open`. -/
def openWith (o : Opening) (emit : Emit) : Option (Bool × UdpConnection) :=
  if (u.beginOpen o).1 then (emit (u.beginOpen o).2).map fun emitted => (true, emitted.2)
  else some (u.beginOpen o)

/-- `connect`. -/
def connectWith (connectedSocket : Bool) (o : Opening) (emit : Emit) (r : Resolution) :
    Option (Bool × UdpConnection) :=
  if u.isConnected then some (false, u.failedConnect)
  else ({ u with connectedSocket }.openWith o emit).map (endConnect r)

/-- `handle_fd_close`. Its assertion holds where the close handler of the channel has run before. -/
def handleFdClose (emit : Emit) (u : UdpConnection) : Option UdpConnection :=
  (emit u).map fun emitted => emitted.2.startReconnecting emitted.1

/-- `fd_channel.close()`. The close event goes to the channel first and then to the connection. -/
def closeChannel (emit : Emit) : Option UdpConnection :=
  if u.Shuts then (handleFdClose emit u.shut).map dropFd else some u.shut

end UdpConnection

/-- A call that emits no signal. The last ones are those of `connect_sig` itself. -/
inductive UdpCall where
  | setRemoteAddr (r : Resolution)
  | commitDataframe (body : List UInt8) (fits : Bool)
  | commitDataframeTo (addr : SockHead) (body : List UInt8) (fits : Bool)
  | writeTo (addr : SockHead) (body : List UInt8) (fits : Bool)
  | groupJoin (group : Option Nat) (interface : Nat) (accepted : Bool)
  | groupJoinAll (group : Option Nat) (interfaces : List (Nat × Bool))
  | groupLeave (group : Option Nat) (interface : Nat) (removed : Bool)
  | groupLeaveAll (group : Option Nat) (interfaces : List (Nat × Bool))
  | connectSlot
  | disconnectSlot (connection : Signals.SignalConnection)
  | clearSlots

/-- A call by a client or by a handler. -/
inductive ClientCall where
  | plain (c : UdpCall)
  | opens (o : Opening)
  | connects (connectedSocket : Bool) (o : Opening) (r : Resolution)
  | disconnects
  | closes

/-- What the handlers do when the connect signal is emitted: the calls they make, one after the
other, and what they return. Where they fail `close` is called, which may emit the signal again. -/
inductive ConnectSignal where
  | succeeds (calls : List ClientCall)
  | fails (calls : List ClientCall) (closing : ConnectSignal)

namespace UdpConnection

/-- What a call leaves of the connection. -/
def call (u : UdpConnection) : UdpCall → UdpConnection
  | .setRemoteAddr r => (u.setRemoteAddr r).2
  | .commitDataframe body fits => (u.commitDataframe body fits).2
  | .commitDataframeTo addr body fits => (u.commitDataframeTo addr body fits).2
  | .writeTo addr body fits => (u.writeTo addr body fits).2
  | .groupJoin group interface accepted => (u.multicastGroupJoin group interface accepted).2
  | .groupJoinAll group interfaces => (u.multicastGroupJoinAll group interfaces).2
  | .groupLeave group interface removed => (u.multicastGroupLeave group interface removed).2
  | .groupLeaveAll group interfaces => (u.multicastGroupLeaveAll group interfaces).2
  | .connectSlot => { u with connectSig := (u.connectSig.insert callable (some ())).2 }
  | .disconnectSlot connection =>
      { u with connectSig := connection.disconnect callable u.connectSig }
  | .clearSlots => { u with connectSig := u.connectSig.clear callable }

/-- What a call leaves, for the emission that it may make. -/
def make (emit : Emit) (u : UdpConnection) : ClientCall → Option UdpConnection
  | .plain c => some (u.call c)
  | .opens o => (u.openWith o emit).map Prod.snd
  | .connects connectedSocket o r => (u.connectWith connectedSocket o emit r).map Prod.snd
  | .disconnects => u.beginDisconnect.closeChannel emit
  | .closes => u.beginClose.closeChannel emit

/-- What the calls of handlers leave. -/
def makeAll : List ClientCall → UdpConnection → Option UdpConnection
  | [], u => some u
  | c :: calls, u => do makeAll calls (← u.make nested c)

/-- The call of `close` where the signal has failed. -/
def closeIfFailed (emit : Emit) : Bool × UdpConnection → Option (Bool × UdpConnection)
  | (true, u) => some (true, u)
  | (false, u) => (u.make emit .closes).map (Prod.mk false)

/-- `signal_connect`, with the call of `close` where it fails. -/
def emit : ConnectSignal → Emit
  | .succeeds calls, u => u.signalConnect (makeAll calls) true
  | .fails calls closing, u => do
      closeIfFailed (emit closing) (← u.signalConnect (makeAll calls) false)

end UdpConnection

/-! ## Events -/

/-- What `handle_timer` finds outside: a new socket, the answer to `::connect`, what the handlers do
where the socket is closed again, and the connect signal. -/
structure TimerEvent where
  setup : SocketSetup
  connects : Bool
  closing : ConnectSignal
  signal : ConnectSignal

/-- What happens to a connection: a client calls it, also from the handlers of read and write
signals; the descriptor closes; a socket closes whose handle was cleared; one closes that the
channel has refused; datagrams are written; the timer fires. -/
inductive UdpOp where
  | calls (c : ClientCall) (signal : ConnectSignal)
  | fdCloses (signal : ConnectSignal)
  | strayCloses (closing signal : ConnectSignal)
  | orphanCloses (signal : ConnectSignal)
  | written (dgrams : Nat) (signal : ConnectSignal)
  | timer (t : TimerEvent)

namespace UdpConnection

variable (u : UdpConnection)

/-- `handle_timer` with a new socket, up to the connect signal: whether it comes to that. -/
def connectAgain (t : TimerEvent) : Option (Bool × UdpConnection) :=
  if !u.connectedSocket then some (true, u)
  else
    match u.connectSocket t.connects with
    | (false, u) => (u.closeChannel (emit t.closing)).map (Prod.mk false)
    | (true, u) => some (true, u)

/-- `handle_timer` of a connection that is not closed, up to the connect signal: whether it comes to
that. -/
def beginTimer (t : TimerEvent) : Option (Bool × UdpConnection) :=
  if u.isConnected then some (true, u)
  else
    match u.openSocket t.setup with
    | (false, u) => some (false, u)
    | (true, u) => u.connectAgain t

/-- The end of `handle_timer`, where it comes to that: the connect signal is emitted and the timer
disabled. -/
def finishTimer (signal : ConnectSignal) : Bool × UdpConnection → Option UdpConnection
  | (false, u) => some u
  | (true, u) => (emit signal u).map fun emitted => { emitted.2 with timerEnabled := false }

/-- `handle_timer`, where the timer is enabled. -/
def handleTimer (t : TimerEvent) : Option UdpConnection :=
  if u.isClosedFlag then some { u with timerEnabled := false }
  else do finishTimer t.signal (← u.beginTimer t)

/-- The connection after the close handler of the channel, where its own sink has closed. -/
def loseFd : UdpConnection := { u with fdChannel := (u.fdChannel.channelClose true true).2 }

/-- The connection with the first datagrams of the channel written. -/
def wrote (dgrams : Nat) : UdpConnection :=
  { u with fdChannel.input := u.fdChannel.input.drop dgrams }

/-- An event. Its result is `none` where an assertion fails, of `handle_fd_close` or of the signal.
-/
def step : UdpOp → Option UdpConnection
  | .calls c signal => u.make (emit signal) c
  | .fdCloses signal =>
      if u.fdChannel.fes.isNone then some u else handleFdClose (emit signal) u.loseFd
  | .strayCloses closing signal =>
      if u.strays = 0 then some u
      else do
        handleFdClose (emit signal)
          (← { u with strays := u.strays - 1 }.closeChannel (emit closing))
  | .orphanCloses signal =>
      if u.orphans = 0 then some u
      else do
        fswAssert (u.isConnected = false)
        handleFdClose (emit signal) { u with orphans := u.orphans - 1 }
  | .written dgrams signal =>
      if u.fdChannel.fes.isNone then some u
      -- the handler returns false once a channel that is closed has written everything
      else if (u.wrote dgrams).fdChannel.isClosed && (u.wrote dgrams).fdChannel.input.isEmpty then
        handleFdClose (emit signal) (u.wrote dgrams).loseFd
      else some (u.wrote dgrams)
  | .timer t => if u.timerEnabled then u.handleTimer t else some u

/-- An event, if the process still runs. -/
def next (u : Option UdpConnection) (op : UdpOp) : Option UdpConnection := u.bind (·.step op)

/-- The connection after the events, if the process still runs. -/
def after (ops : List UdpOp) : Option UdpConnection := Library.run next (some u) ops

/-- Every event meets the condition in the state in which it happens. -/
def Along (C : UdpConnection → UdpOp → Prop) (ops : List UdpOp) : Prop :=
  Library.Along next (fun u op => ∀ v ∈ u, C v op) (some u) ops

instance (C : UdpConnection → UdpOp → Prop) [∀ u op, Decidable (C u op)] (ops : List UdpOp) :
    Decidable (u.Along C ops) :=
  Library.decidableAlong ..

variable {u} in
/-- What every event that meets the condition keeps holds after the events. -/
theorem Along.keeps {C : UdpConnection → UdpOp → Prop} {P : UdpConnection → Prop}
    {ops : List UdpOp} (h : u.Along C ops) (hu : P u)
    (hstep : ∀ {u op v}, P u → C u op → u.step op = some v → P v) :
    ∀ v ∈ u.after ops, P v := by
  refine Library.Along.invariant (P := fun u => ∀ v ∈ u, P v) h (fun v hv => ?_) ?_
  · cases hv
    exact hu
  · intro s op hs hC v hv
    obtain ⟨w, hw, hnext⟩ := Option.bind_eq_some_iff.1 hv
    exact hstep (hs w hw) (hC w hw) hnext

end UdpConnection

end Codon.Io
