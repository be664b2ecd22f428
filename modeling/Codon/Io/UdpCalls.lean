import Codon.Io.UdpConnection

/-!
# What calls keep

A call may emit the connect signal, whose handlers make calls again, so a property of a UDP
connection is followed through emissions: `ConnectSignal.Each` says that all the calls meet a
condition, and `CallsKeep.emit` that what single calls keep is kept by what handlers do. Most
functions leave a connection as it is, unless they close it (`LikeOrClosed`).
-/

namespace Codon.Io

namespace FdDgramChannel

variable (c : FdDgramChannel)

/-- A channel that was closed is closed. -/
theorem close_is_closed (fesClosed removed : Bool) :
    (c.channelClose fesClosed removed).2.isClosed = true := by
  have hstop : (c.stopReading fesClosed removed).isClosed = true := by
    unfold stopReading switchEvents
    split_ifs <;> rfl
  unfold channelClose
  split_ifs
  · rfl
  · exact hstop
  · exact hstop
  · simp [drop, isClosed]

/-- A channel that was given a descriptor is open. -/
theorem assign_is_open {c : FdDgramChannel} {sink fd : Nat} {fdType : DgramFdType}
    {isNonblocking reads writes : Bool} {c' : FdDgramChannel}
    (h : c.assignFd sink fd fdType isNonblocking reads writes = (true, c')) :
    c'.isClosed = false ∧ c'.fes.isSome = true := by
  unfold assignFd at h
  split_ifs at h
  · cases h
  · cases h
  · cases h
  · cases h
    exact ⟨rfl, rfl⟩

/-- A commit leaves the channel as open as it was. -/
theorem commit_is_closed (addr : Option SockHead) (body : List UInt8) (fits added : Bool) :
    (c.commitDataframe addr body fits added).2.isClosed = c.isClosed := by
  unfold commitDataframe channelCommitDataframe switchEvents
  split_ifs <;> simp [isClosed, use]

end FdDgramChannel

namespace UdpConnection

variable (u : UdpConnection)

/-- A socket that is opened has the recorded subscriptions; otherwise nothing that matters changes.
-/
theorem open_socket_cases (s : SocketSetup) :
    (∃ name orphans, u.openSocket s = (false, { u with localAddr := name, orphans })) ∨
    ∃ name socket fdChannel,
      u.openSocket s = (true, { u with localAddr := name, socket, fdChannel }) ∧
      Socket.subscribeAll s.subscribes {} u.multicastSubscriptions = some socket ∧
      fdChannel.isClosed = false := by
  unfold openSocket
  split
  · exact .inl ⟨_, _, rfl⟩
  · cases s.bound with
    | none => exact .inl ⟨_, _, rfl⟩
    | some name =>
        cases hsubs : Socket.subscribeAll s.subscribes {} u.multicastSubscriptions with
        | none => exact .inl ⟨_, _, rfl⟩
        | some socket =>
            dsimp only
            split
            · exact .inl ⟨_, _, rfl⟩
            · split
              · exact .inl ⟨_, _, rfl⟩
              · next hassign =>
                  exact .inr ⟨_, _, _, rfl, rfl, (FdDgramChannel.assign_is_open hassign).1⟩

/-- An `open` that gets no socket changes nothing that matters but the address of an unconnected
socket. -/
theorem begin_open_of_no_socket {o : Opening} (h : ¬u.GetsSocket o) :
    ∃ port addr remote reuse orphans,
      u.beginOpen o = (false, { u with
        requestedPort := port, localAddr := addr, remoteAddr := remote, reuseAddr := reuse,
        orphans }) ∧
      (u.isConnected = true ∨ u.connectedSocket = true → remote = u.remoteAddr) := by
  unfold beginOpen
  split
  · exact ⟨_, _, _, _, _, rfl, fun _ => rfl⟩
  · next hidle =>
    simp only [Bool.or_eq_true, not_or, Bool.not_eq_true] at hidle
    cases haddr : o.myAddr with
    | none => exact ⟨_, _, _, _, _, rfl, fun _ => rfl⟩
    | some host =>
        obtain ⟨_, _, heq⟩ | ⟨_, _, _, heq, -⟩ := (u.prepare o host).open_socket_cases o.setup
        · refine ⟨_, _, _, _, _, by simp only [heq]; rfl, fun h => ?_⟩
          simp_all [prepare]
        · exact absurd ⟨hidle.1, hidle.2, host, haddr, congrArg Prod.fst heq⟩ h

/-- An `open` that gets a socket fails if there is no timer, and then leaves the socket open. -/
theorem begin_open_of_gets_socket {o : Opening} (h : u.GetsSocket o) :
    ∃ port addr remote reuse socket fdChannel isClosed isDisconnected,
      u.beginOpen o = (o.timerMade, { u with
        requestedPort := port, localAddr := addr, remoteAddr := remote, reuseAddr := reuse,
        socket, fdChannel, isClosedFlag := isClosed, isDisconnectedFlag := isDisconnected }) ∧
      Socket.subscribeAll o.setup.subscribes {} u.multicastSubscriptions = some socket ∧
      fdChannel.isClosed = false ∧
      (o.timerMade = true ∧ isClosed = false ∧ isDisconnected = false ∨
        o.timerMade = false ∧ isClosed = u.isClosedFlag ∧
          isDisconnected = u.isDisconnectedFlag) := by
  obtain ⟨hclosed, hidle, host, haddr, hsocket⟩ := h
  unfold beginOpen
  rw [if_neg (by simp [hclosed, hidle]), Option.mem_def.1 haddr]
  obtain ⟨_, _, heq⟩ | ⟨name, socket, fdChannel, heq, hsubs, hopen⟩ :=
    (u.prepare o host).open_socket_cases o.setup
  · simp [heq] at hsocket
  · cases htimer : o.timerMade with
    | false =>
        exact ⟨_, _, _, _, _, _, _, _, by simp only [heq]; rfl, hsubs, hopen, .inr ⟨rfl, rfl, rfl⟩⟩
    | true =>
        exact ⟨_, _, _, _, _, _, _, _, by simp only [heq]; rfl, hsubs, hopen, .inl ⟨rfl, rfl, rfl⟩⟩

/-- A connection that was shut is not connected. -/
theorem shut_not_connected : u.shut.isConnected = false := by
  simp [isConnected, shut, FdDgramChannel.close_is_closed]

/-- A connection that has dropped its descriptor is not connected. -/
theorem drop_fd_not_connected : u.dropFd.isConnected = false := by
  simp [isConnected, dropFd, FdDgramChannel.drop, FdDgramChannel.isClosed]

/-- A connection that has lost its descriptor is not connected. -/
theorem lose_fd_not_connected : u.loseFd.isConnected = false := by
  simp [isConnected, loseFd, FdDgramChannel.close_is_closed]

/-- Only the account, the record and the memberships differ. -/
def SameButMulticast (v : UdpConnection) : Prop :=
  ∃ recorded memberships changed, v = { u with
    multicastSubscriptions := recorded
    socket.memberships := memberships
    changedByFailure := changed }

variable {u} in
/-- Two changes of the memberships are one. -/
theorem SameButMulticast.trans {v w : UdpConnection} (h : u.SameButMulticast v)
    (h' : v.SameButMulticast w) : u.SameButMulticast w := by
  obtain ⟨_, _, _, rfl⟩ := h
  obtain ⟨_, _, _, rfl⟩ := h'
  exact ⟨_, _, _, rfl⟩

variable {u} in
/-- The account of a join is part of the memberships. -/
theorem SameButMulticast.noteJoin {recorded : List Subscription} {r : Bool × UdpConnection}
    (h : u.SameButMulticast r.2) : u.SameButMulticast (noteJoin recorded r).2 := by
  obtain ⟨ok, v⟩ := r
  cases ok with
  | false => exact h.trans ⟨_, _, _, rfl⟩
  | true => exact h

/-- Joining a group changes the memberships only. -/
theorem same_but_multicast_join (group : Option Nat) (interface : Nat) (accepted : Bool) :
    u.SameButMulticast (u.multicastGroupJoin group interface accepted).2 := by
  refine SameButMulticast.noteJoin ?_
  split
  · exact ⟨_, _, _, rfl⟩
  · cases group with
    | none => exact ⟨_, _, _, rfl⟩
    | some group =>
        dsimp only
        split
        · unfold Socket.subscribe
          split_ifs <;> exact ⟨_, _, _, rfl⟩
        · exact ⟨_, _, _, rfl⟩

/-- Leaving a group changes the memberships only. -/
theorem same_but_multicast_leave (group : Option Nat) (interface : Nat) (removed : Bool) :
    u.SameButMulticast (u.multicastGroupLeave group interface removed).2 := by
  unfold multicastGroupLeave
  split
  · exact ⟨_, _, _, rfl⟩
  · cases group with
    | none => exact ⟨_, _, _, rfl⟩
    | some group =>
        dsimp only
        split
        · unfold Socket.unsubscribe
          split_ifs <;> exact ⟨_, _, _, rfl⟩
        · exact ⟨_, _, _, rfl⟩

/-- Joining a group on all interfaces changes the memberships only. -/
theorem same_but_multicast_join_all (group : Option Nat) (interfaces : List (Nat × Bool)) :
    u.SameButMulticast (u.joinAll group interfaces).2 := by
  induction interfaces generalizing u with
  | nil => exact ⟨_, _, _, rfl⟩
  | cons p interfaces ih =>
      have hjoin := u.same_but_multicast_join group p.1 p.2
      unfold joinAll
      split
      · next heq => rwa [heq] at hjoin
      · next heq =>
          rw [heq] at hjoin
          exact hjoin.trans (ih _)

/-- Leaving a group on all interfaces changes the memberships only. -/
theorem same_but_multicast_leave_all (group : Option Nat) (interfaces : List (Nat × Bool)) :
    u.SameButMulticast (u.leaveAll group interfaces).2 := by
  induction interfaces generalizing u with
  | nil => exact ⟨_, _, _, rfl⟩
  | cons p interfaces ih =>
      have hleave := u.same_but_multicast_leave group p.1 p.2
      unfold leaveAll
      split
      · next heq => rwa [heq] at hleave
      · next heq =>
          rw [heq] at hleave
          exact hleave.trans (ih _)

/-- Only the signal and the channel differ, which is as open as before. -/
def SameButChannel (v : UdpConnection) : Prop :=
  ∃ fdChannel connectSig, v = { u with fdChannel, connectSig } ∧
    fdChannel.isClosed = u.fdChannel.isClosed

/-- A commit leaves the connection as it is, apart from its channel. -/
theorem same_but_channel_commit (addr : Option SockHead) (body : List UInt8) (fits : Bool) :
    u.SameButChannel (u.commit addr body fits).2 :=
  ⟨_, _, rfl, FdDgramChannel.commit_is_closed ..⟩

/-- A write to an address leaves the connection as it is, apart from its channel. -/
theorem same_but_channel_write_to (addr : SockHead) (body : List UInt8) (fits : Bool) :
    u.SameButChannel (u.writeTo addr body fits).2 := by
  unfold writeTo
  split_ifs
  · exact ⟨_, _, rfl, rfl⟩
  · exact u.same_but_channel_commit ..

/-- A commit of a dataframe leaves the connection as it is, apart from its channel. -/
theorem same_but_channel_commit_dataframe (body : List UInt8) (fits : Bool) :
    u.SameButChannel (u.commitDataframe body fits).2 := by
  unfold commitDataframe
  split_ifs
  · exact ⟨_, _, rfl, rfl⟩
  · exact u.same_but_channel_commit ..
  all_goals exact u.same_but_channel_commit ..

/-- A commit of a dataframe to an address leaves the connection as it is, apart from its channel. -/
theorem same_but_channel_commit_dataframe_to (addr : SockHead) (body : List UInt8) (fits : Bool) :
    u.SameButChannel (u.commitDataframeTo addr body fits).2 := by
  unfold commitDataframeTo
  split_ifs
  · exact ⟨_, _, rfl, rfl⟩
  · exact u.same_but_channel_write_to ..

/-- A call that is not `set_remote_addr` changes the signal, the channel without closing it, or what
there is about multicast. -/
theorem call_cases (c : UdpCall) :
    (∃ r, c = .setRemoteAddr r) ∨ u.SameButChannel (u.call c) ∨ u.SameButMulticast (u.call c) := by
  cases c with
  | setRemoteAddr r => exact .inl ⟨r, rfl⟩
  | commitDataframe body fits =>
      exact .inr (.inl (u.same_but_channel_commit_dataframe ..))
  | commitDataframeTo addr body fits =>
      exact .inr (.inl (u.same_but_channel_commit_dataframe_to ..))
  | writeTo addr body fits => exact .inr (.inl (u.same_but_channel_write_to ..))
  | groupJoin group interface accepted => exact .inr (.inr (u.same_but_multicast_join ..))
  | groupJoinAll group interfaces =>
      refine .inr (.inr (SameButMulticast.noteJoin ?_))
      split_ifs
      · exact ⟨_, _, _, rfl⟩
      · exact u.same_but_multicast_join_all ..
  | groupLeave group interface removed => exact .inr (.inr (u.same_but_multicast_leave ..))
  | groupLeaveAll group interfaces =>
      refine .inr (.inr ?_)
      simp only [call, multicastGroupLeaveAll]
      split_ifs
      · exact ⟨_, _, _, rfl⟩
      · exact u.same_but_multicast_leave_all ..
  | connectSlot | disconnectSlot connection | clearSlots => exact .inr (.inl ⟨_, _, rfl, rfl⟩)

/-- Connecting the socket changes what it is connected to, at most. -/
theorem connect_socket_cases (connects : Bool) :
    ∃ connectedTo, (u.connectSocket connects).2 = { u with socket.connectedTo := connectedTo } := by
  unfold connectSocket
  split_ifs <;> exact ⟨_, rfl⟩

/-- `set_remote_addr` only changes the address and what the socket is connected to. -/
theorem set_remote_addr_cases (r : Resolution) :
    ∃ remoteAddr connectedTo, (u.setRemoteAddr r).2 =
      { u with remoteAddr, socket.connectedTo := connectedTo } := by
  unfold setRemoteAddr
  split_ifs
  · exact ⟨_, _, rfl⟩
  · exact ⟨_, _, rfl⟩
  · obtain ⟨_, heq⟩ := connect_socket_cases { u with remoteAddr := r.address } r.connects
    exact ⟨_, _, heq⟩
  · exact ⟨_, _, rfl⟩

end UdpConnection

/-! ## What calls keep -/

/-- Where a call is made: by handlers while a call of `connect` emits its signal, and while a
descriptor that is closed does. -/
structure Within where
  connecting : Bool := false
  closing : Bool := false

/-- Within a call of `connect`. -/
def Within.connect (x : Within) : Within := { x with connecting := true }

/-- Within the closing of a descriptor. -/
def Within.close (x : Within) : Within := { x with closing := true }

open UdpConnection

/-- Where and on what connection a call emits the signal, if it gets that far. -/
def ClientCall.emission (x : Within) (u : UdpConnection) :
    ClientCall → Option (Within × UdpConnection)
  | .plain _ => none
  | .opens o => if (u.beginOpen o).1 then some (x, (u.beginOpen o).2) else none
  | .connects connectedSocket o _ =>
      if (u.beginConnect connectedSocket o).1 then
        some (x.connect, (u.beginConnect connectedSocket o).2)
      else none
  | .disconnects => if u.beginDisconnect.Shuts then some (x.close, u.beginDisconnect.shut) else none
  | .closes => if u.beginClose.Shuts then some (x.close, u.beginClose.shut) else none

section Each

variable (K : Within → Emit → UdpConnection → ClientCall → Prop)

/-- Every one of the calls of handlers meets the condition in the state in which it is made. -/
def EachMade (x : Within) : List ClientCall → UdpConnection → Prop
  | [], _ => True
  | c :: calls, u => K x nested u c ∧ ∀ v ∈ u.make nested c, EachMade x calls v

/-- Every call that the handlers of an emission make, and of the emission by `close` after it, meets
the condition. -/
def ConnectSignal.Each : ConnectSignal → Within → UdpConnection → Prop
  | .succeeds calls, x, u =>
      u.connectSig.empty callable = false → EachMade K x calls u.beginEmission
  | .fails calls closing, x, u =>
      u.connectSig.empty callable = false → EachMade K x calls u.beginEmission ∧
        ∀ v ∈ makeAll calls u.beginEmission, ∀ e ∈ ClientCall.closes.emission x v.endEmission,
          closing.Each e.1 e.2

instance decidableEachMade [∀ x emit u c, Decidable (K x emit u c)] (x : Within) :
    (calls : List ClientCall) → (u : UdpConnection) → Decidable (EachMade K x calls u)
  | [], _ => inferInstanceAs (Decidable True)
  | c :: calls, u =>
      have := decidableEachMade x calls
      inferInstanceAs (Decidable (_ ∧ ∀ v ∈ u.make nested c, EachMade K x calls v))

instance decidableEach [∀ x emit u c, Decidable (K x emit u c)] :
    (s : ConnectSignal) → (x : Within) → (u : UdpConnection) → Decidable (s.Each K x u)
  | .succeeds _, _, _ => inferInstanceAs (Decidable (_ → _))
  | .fails calls closing, x, u =>
      have := decidableEach closing
      inferInstanceAs (Decidable (_ → _ ∧ ∀ v ∈ makeAll calls u.beginEmission,
        ∀ e ∈ ClientCall.closes.emission x v.endEmission, closing.Each K e.1 e.2))

end Each

/-- Where the signal fails the connection is disconnected afterwards, or its timer is enabled. -/
def Reconnects (emit : Emit) : Prop :=
  ∀ u v, emit u = some (false, v) → v.isDisconnectedFlag = false → v.timerEnabled = true

/-- What single calls keep, for what the emissions that they make keep. A call that emits is seen in
two parts: what is kept has to hold when the signal is emitted, and holds in the end if the emission
has kept it. `close` may always be called. -/
structure CallsKeep (K : Within → Emit → UdpConnection → ClientCall → Prop)
    (I : Within → UdpConnection → Prop) : Prop where
  signal : ∀ {x u} (connectSig : Signals.Signal Unit), I x u → I x { u with connectSig }
  emission : ∀ {x emit u c}, K x emit u c → I x u → ∀ e ∈ c.emission x u, I e.1 e.2
  made : ∀ {x emit u c v}, K x emit u c → I x u → Reconnects emit →
    (∀ e ∈ c.emission x u, ∀ ok w, emit e.2 = some (ok, w) → I e.1 w) →
    u.make emit c = some v → I x v
  close : ∀ {x emit u}, K x emit u .closes

namespace UdpConnection

variable {u v : UdpConnection}

/-- The handlers' calls emit nothing, or end the process. -/
theorem nested_eq_some {ok : Bool} (h : u.nested = some (ok, v)) : ok = true ∧ v = u := by
  unfold nested signalConnect at h
  split_ifs at h
  · cases h
    exact ⟨rfl, rfl⟩
  · obtain ⟨_, -, h⟩ := Option.bind_eq_some_iff.1 h
    cases h

/-- An emission that returns has called the handlers, if there are any. -/
theorem signal_connect_cases {handlers : UdpConnection → Option UdpConnection} {result ok : Bool}
    (h : u.signalConnect handlers result = some (ok, v)) :
    ok = true ∧ v = u ∨ u.connectSig.empty callable = false ∧ ok = result ∧
      ∃ w, handlers u.beginEmission = some w ∧ v = w.endEmission := by
  unfold signalConnect at h
  split_ifs at h with hempty
  · cases h
    exact .inl ⟨rfl, rfl⟩
  · obtain ⟨_, -, h⟩ := Option.bind_eq_some_iff.1 h
    obtain ⟨w, hw, h⟩ := Option.bind_eq_some_iff.1 h
    cases h
    exact .inr ⟨by simpa using hempty, rfl, w, hw, rfl⟩

/-- A failed emission in a call by a handler leaves the connection disconnected or its timer
enabled. -/
theorem nested_reconnects : Reconnects nested :=
  fun _ _ h => absurd (nested_eq_some h).1 Bool.false_ne_true

/-- A descriptor that is closed leaves the connection disconnected or enables the timer. -/
theorem close_channel_reconnects {emit : Emit} (hemit : Reconnects emit)
    (hu : u.isDisconnectedFlag = true) (h : u.closeChannel emit = some v)
    (hactive : v.isDisconnectedFlag = false) : v.timerEnabled = true := by
  unfold closeChannel at h
  split_ifs at h
  · obtain ⟨w, hw, rfl⟩ := Option.map_eq_some_iff.1 h
    obtain ⟨⟨ok, w⟩, hemitted, rfl⟩ := Option.map_eq_some_iff.1 hw
    cases hok : ok && !w.isDisconnectedFlag with
    | true => simp [dropFd, startReconnecting, hok]
    | false =>
        simp only [dropFd, startReconnecting, hok, Bool.false_eq_true, if_false] at hactive ⊢
        have hfailed : ok = false := by simpa [hactive] using hok
        subst hfailed
        exact hemit _ _ hemitted hactive
  · cases h
    exact absurd (hu.symm.trans hactive) (by simp)

/-- A failed emission leaves the connection disconnected or its timer enabled. -/
theorem emit_reconnects (s : ConnectSignal) : Reconnects (emit s) := by
  induction s with
  | succeeds calls =>
      intro u v h
      obtain ⟨hok, -⟩ | ⟨-, hok, -⟩ := signal_connect_cases h <;> cases hok
  | fails calls closing ih =>
      intro u v h
      obtain ⟨⟨ok, w⟩, -, h⟩ := Option.bind_eq_some_iff.1 h
      cases ok with
      | true => cases h
      | false =>
          obtain ⟨v, hclosed, hv⟩ := Option.map_eq_some_iff.1 h
          cases hv
          exact close_channel_reconnects ih rfl hclosed

end UdpConnection

section CallsKeep

variable {K : Within → Emit → UdpConnection → ClientCall → Prop}
  {I : Within → UdpConnection → Prop} {x : Within} {u v : UdpConnection}

/-- What single calls keep, the calls of handlers keep. -/
theorem CallsKeep.make_all (hk : CallsKeep K I) {calls : List ClientCall}
    (heach : EachMade K x calls u) (hu : I x u) (h : makeAll calls u = some v) : I x v := by
  induction calls generalizing u with
  | nil =>
      cases h
      exact hu
  | cons c calls ih =>
      obtain ⟨hfirst, hrest⟩ := heach
      obtain ⟨w, hw, h⟩ := Option.bind_eq_some_iff.1 h
      have hmade : I x w := by
        refine hk.made hfirst hu nested_reconnects (fun e he ok w hnested => ?_) hw
        rw [(nested_eq_some hnested).2]
        exact hk.emission hfirst hu e he
      exact ih (hrest w hw) hmade h

/-- What single calls keep, an emission keeps. -/
theorem CallsKeep.emit (hk : CallsKeep K I) {s : ConnectSignal} (heach : s.Each K x u) (hu : I x u)
    {ok : Bool} (h : emit s u = some (ok, v)) : I x v := by
  induction s generalizing x u v ok with
  | succeeds calls =>
      obtain ⟨-, rfl⟩ | ⟨hslots, -, w, hw, rfl⟩ := signal_connect_cases h
      · exact hu
      · exact hk.signal _ (hk.make_all (heach hslots) (hk.signal _ hu) hw)
  | fails calls closing ih =>
      obtain ⟨⟨signalled, w⟩, hsignal, hend⟩ := Option.bind_eq_some_iff.1 h
      obtain ⟨rfl, rfl⟩ | ⟨hslots, rfl, w, hw, rfl⟩ := signal_connect_cases hsignal
      · cases hend
        exact hu
      · obtain ⟨hcalls, hclosing⟩ := heach hslots
        have hended : I x w.endEmission := hk.signal _ (hk.make_all hcalls (hk.signal _ hu) hw)
        obtain ⟨v, hclosed, hv⟩ := Option.map_eq_some_iff.1 hend
        cases hv
        have hclose : K x (UdpConnection.emit closing) w.endEmission .closes := hk.close
        refine hk.made hclose hended (emit_reconnects closing) (fun e he ok v => ?_) hclosed
        exact ih (hclosing w hw e he) (hk.emission hclose hended e he)

end CallsKeep

namespace UdpConnection

/-- The second connection is like the first, or closed, as far as sockets and subscriptions go. -/
structure LikeOrClosed (u v : UdpConnection) : Prop where
  recorded : v.multicastSubscriptions = u.multicastSubscriptions
  leftOpen : v.leftOpen = u.leftOpen
  changedByFailure : v.changedByFailure = u.changedByFailure
  kept : v.isConnected = true → u.isConnected = true ∧ v.socket = u.socket ∧
    v.connectedSocket = u.connectedSocket ∧ v.remoteAddr = u.remoteAddr

variable (u : UdpConnection)

/-- A connection that only differs in its channel is like it was. -/
theorem SameButChannel.like {v : UdpConnection} (h : u.SameButChannel v) : u.LikeOrClosed v := by
  obtain ⟨fdChannel, connectSig, rfl, hclosed⟩ := h
  refine ⟨rfl, rfl, rfl, fun hopen => ⟨?_, rfl, rfl, rfl⟩⟩
  simpa [isConnected, hclosed] using hopen

/-- A connection that is shut is closed. -/
theorem like_shut : u.LikeOrClosed u.shut :=
  ⟨rfl, rfl, rfl, fun h => by simp [shut_not_connected] at h⟩

/-- A connection that drops its descriptor is closed. -/
theorem like_drop_fd : u.LikeOrClosed u.dropFd :=
  ⟨rfl, rfl, rfl, fun h => by simp [drop_fd_not_connected] at h⟩

/-- A connection that loses its descriptor is closed. -/
theorem like_lose_fd : u.LikeOrClosed u.loseFd :=
  ⟨rfl, rfl, rfl, fun h => by simp [lose_fd_not_connected] at h⟩

/-- Reconnecting leaves the connection like it was or closed. -/
theorem like_start_reconnecting (signalled : Bool) :
    u.LikeOrClosed (u.startReconnecting signalled) := by
  unfold startReconnecting
  split_ifs <;> exact ⟨rfl, rfl, rfl, fun h => ⟨h, rfl, rfl, rfl⟩⟩

/-- A socket that could not be opened leaves the connection like it was or closed. -/
theorem like_open_socket {s : SocketSetup} (h : (u.openSocket s).1 = false) :
    u.LikeOrClosed (u.openSocket s).2 := by
  obtain ⟨_, _, heq⟩ | ⟨_, _, _, heq, -⟩ := u.open_socket_cases s
  · rw [heq]
    exact ⟨rfl, rfl, rfl, fun h => ⟨h, rfl, rfl, rfl⟩⟩
  · simp [heq] at h

/-- A socket that is opened and closed again. -/
theorem like_open_socket_shut (s : SocketSetup) : u.LikeOrClosed (u.openSocket s).2.shut := by
  obtain ⟨_, _, heq⟩ | ⟨_, _, _, heq, -⟩ := u.open_socket_cases s <;>
  · rw [heq]
    exact ⟨rfl, rfl, rfl, fun h => by simp [shut_not_connected] at h⟩

/-- The signal does not matter. -/
theorem like_signal (connectSig : Signals.Signal Unit) : u.LikeOrClosed { u with connectSig } :=
  ⟨rfl, rfl, rfl, fun h => ⟨h, rfl, rfl, rfl⟩⟩

/-- The timer gets to the connect signal once it has at most connected the socket. Where `::connect`
fails on it, it closes the channel. -/
theorem connect_again_cases {t : TimerEvent} {ok : Bool} {v : UdpConnection}
    (h : u.connectAgain t = some (ok, v)) :
    ok = true ∧ (∃ connectedTo, v = { u with socket.connectedTo := connectedTo }) ∧
        (u.connectedSocket = true → (u.connectSocket t.connects).1 = true ∧
          v = (u.connectSocket t.connects).2) ∨
      ok = false ∧ (u.connectSocket t.connects).1 = false ∧
        u.closeChannel (emit t.closing) = some v := by
  unfold connectAgain at h
  split at h
  · next hunconnected =>
    cases h
    exact .inl ⟨rfl, ⟨_, rfl⟩, fun hconnected => by simp [hconnected] at hunconnected⟩
  · obtain ⟨connectedTo, hconnect⟩ := u.connect_socket_cases t.connects
    split at h
    · next heq =>
      obtain ⟨w, hw, hv⟩ := Option.map_eq_some_iff.1 h
      cases hv
      refine .inr ⟨rfl, congrArg Prod.fst heq, ?_⟩
      unfold connectSocket at heq
      split_ifs at heq <;> cases heq <;> exact hw
    · next heq =>
      cases h
      rw [heq] at hconnect ⊢
      exact .inl ⟨rfl, ⟨connectedTo, hconnect⟩, fun _ => ⟨rfl, rfl⟩⟩

/-- What `connect` leaves has a property if a call that is refused, an `open` that fails and what
`set_remote_addr` does after one that succeeds leave it. -/
theorem connect_with_rule {R : UdpConnection → Prop} {connectedSocket : Bool} {o : Opening}
    {emit : Emit} {r : Resolution} (hrefused : u.isConnected = true → R u.failedConnect)
    (hopen : u.isConnected = false → ∀ w,
      { u with connectedSocket }.openWith o emit = some (false, w) → R w.failedConnect)
    (hset : u.isConnected = false → ∀ w,
      { u with connectedSocket }.openWith o emit = some (true, w) →
        ∀ ok v, w.setRemoteAddr r = (ok, v) → R (if ok then v else v.failedConnect))
    {result : Bool × UdpConnection} (h : u.connectWith connectedSocket o emit r = some result) :
    R result.2 := by
  unfold connectWith at h
  split_ifs at h with hconnected
  · cases h
    exact hrefused hconnected
  · rw [Bool.not_eq_true] at hconnected
    obtain ⟨⟨ok, w⟩, hopened, rfl⟩ := Option.map_eq_some_iff.1 h
    cases ok with
    | false => exact hopen hconnected w hopened
    | true =>
        have hend := hset hconnected w hopened
        rcases hresult : w.setRemoteAddr r with ⟨_ | _, v⟩ <;>
        · simp only [endConnect, hresult]
          exact hend _ _ hresult

/-- An `open` that gets no socket. -/
theorem like_begin_open {o : Opening} (h : ¬u.GetsSocket o) :
    u.LikeOrClosed (u.beginOpen o).2 ∧ (u.beginOpen o).1 = false := by
  obtain ⟨_, _, _, _, _, heq, hremote⟩ := u.begin_open_of_no_socket h
  rw [heq]
  exact ⟨⟨rfl, rfl, rfl, fun hopen => ⟨hopen, rfl, rfl, hremote (.inl hopen)⟩⟩, rfl⟩

/-- An `open` that returns has failed before its signal, or emitted it. -/
theorem open_with_cases {o : Opening} {emit : Emit} {ok : Bool} {v : UdpConnection}
    (h : u.openWith o emit = some (ok, v)) :
    (u.beginOpen o).1 = false ∧ (ok, v) = u.beginOpen o ∨
      (u.beginOpen o).1 = true ∧ ok = true ∧
        ∃ signalled, emit (u.beginOpen o).2 = some (signalled, v) := by
  unfold openWith at h
  split_ifs at h with hbegins
  · obtain ⟨⟨signalled, w⟩, hemitted, hv⟩ := Option.map_eq_some_iff.1 h
    cases hv
    exact .inr ⟨hbegins, rfl, signalled, hemitted⟩
  · exact .inl ⟨by simpa using hbegins, (Option.some.inj h).symm⟩

/-- Closing the channel keeps what is kept by shutting it and by the emission of its sink. -/
theorem close_channel_keeps {R : UdpConnection → Prop} {emit : Emit} {v : UdpConnection}
    (hshut : R u.shut)
    (hemitted : u.Shuts → ∀ ok w, emit u.shut = some (ok, w) →
      R (w.startReconnecting ok).dropFd)
    (h : u.closeChannel emit = some v) : R v := by
  unfold closeChannel at h
  split_ifs at h with hshuts
  · obtain ⟨w, hw, rfl⟩ := Option.map_eq_some_iff.1 h
    obtain ⟨⟨ok, w⟩, hemit, rfl⟩ := Option.map_eq_some_iff.1 hw
    exact hemitted hshuts ok w hemit
  · cases h
    exact hshut

end UdpConnection

/-- Every call that is made in an event meets the condition in the state in which it is made. -/
def UdpOp.Each (K : Within → Emit → UdpConnection → ClientCall → Prop) :
    UdpOp → UdpConnection → Prop
  | .calls c signal, u =>
      K {} (emit signal) u c ∧ ∀ e ∈ c.emission {} u, signal.Each K e.1 e.2
  | .fdCloses signal, u => signal.Each K { closing := true } u.loseFd
  | .strayCloses closing signal, u =>
      (({ u with strays := u.strays - 1 } : UdpConnection).Shuts →
        closing.Each K { closing := true } { u with strays := u.strays - 1 }.shut) ∧
      ∀ v ∈ { u with strays := u.strays - 1 }.closeChannel (emit closing),
        signal.Each K { closing := true } v
  | .orphanCloses signal, u =>
      u.isConnected = false → signal.Each K { closing := true } { u with orphans := u.orphans - 1 }
  | .written dgrams signal, u =>
      (u.wrote dgrams).fdChannel.isClosed = true →
        signal.Each K { closing := true } (u.wrote dgrams).loseFd
  | .timer t, u =>
      u.isClosedFlag = false →
        ((u.openSocket t.setup).1 = true →
          ((u.openSocket t.setup).2.connectSocket t.connects).1 = false →
          t.closing.Each K { closing := true } (u.openSocket t.setup).2.shut) ∧
        ∀ begun ∈ u.beginTimer t, begun.1 = true → t.signal.Each K {} begun.2

instance (K : Within → Emit → UdpConnection → ClientCall → Prop)
    [∀ x emit u c, Decidable (K x emit u c)] :
    (op : UdpOp) → (u : UdpConnection) → Decidable (op.Each K u)
  | .calls c signal, u =>
      inferInstanceAs (Decidable (_ ∧ ∀ e ∈ c.emission {} u, signal.Each K e.1 e.2))
  | .fdCloses signal, u => inferInstanceAs (Decidable (signal.Each K _ u.loseFd))
  | .strayCloses closing signal, u =>
      inferInstanceAs (Decidable ((({ u with strays := u.strays - 1 } : UdpConnection).Shuts →
          closing.Each K { closing := true } { u with strays := u.strays - 1 }.shut) ∧
        ∀ v ∈ { u with strays := u.strays - 1 }.closeChannel (emit closing),
          signal.Each K { closing := true } v))
  | .orphanCloses _, _ => inferInstanceAs (Decidable (_ → _))
  | .written _ _, _ => inferInstanceAs (Decidable (_ → _))
  | .timer t, u =>
      inferInstanceAs (Decidable (_ → (_ → _ → t.closing.Each K _ _) ∧
        ∀ begun ∈ u.beginTimer t, begun.1 = true → t.signal.Each K {} begun.2))

/-! ## What is kept while sockets are -/

section Kept

variable (K : Within → Emit → UdpConnection → ClientCall → Prop)
  (I : Within → UdpConnection → Prop)

/-- A property is kept where the connection stays like it is or is closed, and by the calls that
meet a condition. It is the same while a descriptor closes. -/
structure KeptByCalls : Prop where
  like : ∀ {x u v}, I x u → u.LikeOrClosed v → I x v
  close : ∀ {x u}, I x.close u ↔ I x u
  closes : ∀ {x emit u}, K x emit u .closes
  call : ∀ {x emit u c}, K x emit u (.plain c) → I x u → I x (u.call c)
  opened : ∀ {x emit u o}, K x emit u (.opens o) → I x u → u.GetsSocket o → I x (u.beginOpen o).2
  connect : ∀ {x emit u connectedSocket o r}, K x emit u (.connects connectedSocket o r) → I x u →
    ((u.beginConnect connectedSocket o).1 = true →
      I x.connect (u.beginConnect connectedSocket o).2) ∧
    (((u.beginConnect connectedSocket o).1 = true → ∀ ok w,
        emit (u.beginConnect connectedSocket o).2 = some (ok, w) → I x.connect w) →
      ∀ result, u.connectWith connectedSocket o emit r = some result → I x result.2)

variable {K I} {x : Within} {u v : UdpConnection} {emit : Emit}

/-- What is kept holds before `open` emits. -/
theorem KeptByCalls.begin_open (hk : KeptByCalls K I) {o : Opening} (hK : K x emit u (.opens o))
    (hu : I x u) : I x (u.beginOpen o).2 := by
  by_cases hgets : u.GetsSocket o
  · exact hk.opened hK hu hgets
  · exact hk.like hu (u.like_begin_open hgets).1

/-- What is kept holds before a close emits. -/
theorem KeptByCalls.begin_close (hk : KeptByCalls K I) (hu : I x u) :
    I x u.beginDisconnect ∧ I x u.beginClose :=
  ⟨hk.like hu ⟨rfl, rfl, rfl, fun hopen => ⟨hopen, rfl, rfl, rfl⟩⟩,
    hk.like hu ⟨rfl, rfl, rfl, fun hopen => ⟨hopen, rfl, rfl, rfl⟩⟩⟩

/-- Closing the channel keeps it, if the emission of its sink does. -/
theorem KeptByCalls.close_channel (hk : KeptByCalls K I) (hu : I x u)
    (hemitted : u.Shuts → ∀ ok w, emit u.shut = some (ok, w) → I x.close w)
    (h : u.closeChannel emit = some v) : I x v := by
  refine u.close_channel_keeps (hk.like hu u.like_shut) (fun hshuts ok w hemit => ?_) h
  have hw := hk.close.1 (hemitted hshuts ok w hemit)
  exact hk.like (hk.like hw (like_start_reconnecting ..)) (like_drop_fd _)

/-- What is kept is kept by the two parts of every call. -/
theorem KeptByCalls.calls_keep (hk : KeptByCalls K I) : CallsKeep K I where
  signal connectSig hu := hk.like hu (like_signal _ connectSig)
  close := hk.closes
  emission := by
    intro x emit u c hK hu e he
    cases c with
    | plain c => cases he
    | opens o =>
        obtain ⟨-, he⟩ := Option.ite_none_right_eq_some.1 he
        cases he
        exact hk.begin_open hK hu
    | connects connectedSocket o r =>
        obtain ⟨hbegins, he⟩ := Option.ite_none_right_eq_some.1 he
        cases he
        exact (hk.connect hK hu).1 hbegins
    | disconnects =>
        obtain ⟨-, he⟩ := Option.ite_none_right_eq_some.1 he
        cases he
        exact hk.close.2 (hk.like (hk.begin_close hu).1 (like_shut _))
    | closes =>
        obtain ⟨-, he⟩ := Option.ite_none_right_eq_some.1 he
        cases he
        exact hk.close.2 (hk.like (hk.begin_close hu).2 (like_shut _))
  made := by
    intro x emit u c v hK hu _ hemitted h
    cases c with
    | plain c =>
        cases h
        exact hk.call hK hu
    | opens o =>
        obtain ⟨⟨ok, v⟩, hopened, rfl⟩ := Option.map_eq_some_iff.1 h
        -- without a socket `open` emits nothing
        obtain ⟨-, heq⟩ | ⟨hbegins, -, signalled, hemit⟩ := u.open_with_cases hopened
        · rw [heq]
          exact hk.begin_open hK hu
        · exact hemitted (x, (u.beginOpen o).2) (if_pos hbegins) _ _ hemit
    | connects connectedSocket o r =>
        obtain ⟨result, hconnected, rfl⟩ := Option.map_eq_some_iff.1 h
        exact (hk.connect hK hu).2 (fun hbegins => hemitted (x.connect, _) (if_pos hbegins)) _
          hconnected
    | disconnects =>
        exact hk.close_channel (hk.begin_close hu).1
          (fun hshuts => hemitted (x.close, _) (if_pos hshuts)) h
    | closes =>
        exact hk.close_channel (hk.begin_close hu).2
          (fun hshuts => hemitted (x.close, _) (if_pos hshuts)) h

/-- What is kept survives the loss of the descriptor. -/
theorem KeptByCalls.handle_fd_close (hk : KeptByCalls K I) {signal : ConnectSignal}
    (heach : signal.Each K x.close u) (hu : I x u)
    (h : handleFdClose (UdpConnection.emit signal) u = some v) : I x v := by
  obtain ⟨⟨ok, w⟩, hemit, rfl⟩ := Option.map_eq_some_iff.1 h
  exact hk.like (hk.close.1 (hk.calls_keep.emit heach (hk.close.2 hu) hemit))
    (like_start_reconnecting ..)

/-- What `handle_timer` does up to the connect signal keeps the property, if it is as it should be
where the timer has opened a socket and connected it. -/
theorem KeptByCalls.begin_timer (hk : KeptByCalls K I) {t : TimerEvent} (hu : I {} u)
    (hreopen : ∀ w, u.isConnected = false → (u.openSocket t.setup).1 = true →
      (u.openSocket t.setup).2.connectAgain t = some (true, w) → I {} w)
    (hclosing : (u.openSocket t.setup).1 = true →
      ((u.openSocket t.setup).2.connectSocket t.connects).1 = false →
      t.closing.Each K { closing := true } (u.openSocket t.setup).2.shut)
    {ok : Bool} (h : u.beginTimer t = some (ok, v)) : I {} v := by
  unfold beginTimer at h
  split at h
  · cases h
    exact hu
  · next hopen =>
    have hlike := u.like_open_socket (s := t.setup)
    have hshut := hk.like hu (u.like_open_socket_shut t.setup)
    rcases hsocket : u.openSocket t.setup with ⟨_ | _, w⟩ <;>
      simp only [hsocket, true_imp_iff] at hlike hreopen hclosing hshut h
    · cases h
      exact hk.like hu hlike
    · obtain ⟨rfl, -⟩ | ⟨rfl, hfails, hclosed⟩ := w.connect_again_cases h
      · exact hreopen v (by simpa using hopen) h
      · refine w.close_channel_keeps hshut (fun _ ok w hemit => ?_) hclosed
        have hw := hk.calls_keep.emit (hclosing hfails) (hk.close.2 hshut) hemit
        exact hk.like (hk.like (hk.close.1 hw) (like_start_reconnecting ..)) (like_drop_fd _)

/-- The property is kept by an event. -/
theorem KeptByCalls.step (hk : KeptByCalls K I)
    (hreopen : ∀ {u w : UdpConnection} {t : TimerEvent}, I {} u → u.isConnected = false →
      (u.openSocket t.setup).1 = true →
      (u.openSocket t.setup).2.connectAgain t = some (true, w) → I {} w)
    {op : UdpOp} (hop : op.Each K u) (hu : I {} u) (hstep : u.step op = some v) : I {} v := by
  -- accounts, timers and other sockets are not part of what is kept
  have hlike : ∀ {v w : UdpConnection}, I {} v → v.LikeOrClosed w → I {} w := hk.like
  cases op with
  | calls c signal =>
      refine hk.calls_keep.made hop.1 hu (emit_reconnects signal) (fun e he ok w hemit => ?_) hstep
      exact hk.calls_keep.emit (hop.2 e he) (hk.calls_keep.emission hop.1 hu e he) hemit
  | fdCloses signal =>
      simp only [UdpConnection.step] at hstep
      split_ifs at hstep
      · cases hstep
        exact hu
      · exact hk.handle_fd_close (x := {}) hop (hlike hu u.like_lose_fd) hstep
  | strayCloses closing signal =>
      simp only [UdpConnection.step] at hstep
      split_ifs at hstep
      · cases hstep
        exact hu
      · obtain ⟨w, hclosed, hstep⟩ := Option.bind_eq_some_iff.1 hstep
        -- the socket that closes is not the one behind the channel
        have hstray : I {} { u with strays := u.strays - 1 } :=
          hlike hu ⟨rfl, rfl, rfl, fun h => ⟨h, rfl, rfl, rfl⟩⟩
        refine hk.handle_fd_close (x := {}) (hop.2 w hclosed) ?_ hstep
        refine hk.close_channel hstray (fun hshuts ok w hemit => ?_) hclosed
        exact hk.calls_keep.emit (hop.1 hshuts) (hk.close.2 (hlike hstray (like_shut _))) hemit
  | orphanCloses signal =>
      simp only [UdpConnection.step] at hstep
      split_ifs at hstep
      · cases hstep
        exact hu
      · obtain ⟨_, hassert, hstep⟩ := Option.bind_eq_some_iff.1 hstep
        exact hk.handle_fd_close (x := {}) (hop (fsw_assert_eq_some.1 hassert))
          (hlike hu ⟨rfl, rfl, rfl, fun h => ⟨h, rfl, rfl, rfl⟩⟩) hstep
  | written dgrams signal =>
      simp only [UdpConnection.step] at hstep
      have hwrote : I {} (u.wrote dgrams) := hlike hu ⟨rfl, rfl, rfl, fun h => ⟨h, rfl, rfl, rfl⟩⟩
      split_ifs at hstep with _ hclosed
      · cases hstep
        exact hu
      · rw [Bool.and_eq_true] at hclosed
        exact hk.handle_fd_close (x := {}) (hop hclosed.1) (hlike hwrote (like_lose_fd _)) hstep
      · cases hstep
        exact hwrote
  | timer t =>
      simp only [UdpConnection.step, handleTimer] at hstep
      split_ifs at hstep with henabled hclosed
      · cases hstep
        exact hlike hu ⟨rfl, rfl, rfl, fun h => ⟨h, rfl, rfl, rfl⟩⟩
      · obtain ⟨hclosing, hsignal⟩ := hop (by simpa using hclosed)
        obtain ⟨⟨ok, w⟩, hbegin, hstep⟩ := Option.bind_eq_some_iff.1 hstep
        -- the signal is emitted only where the timer has opened a socket
        have hbegun := hk.begin_timer hu (fun w => hreopen hu) hclosing hbegin
        cases ok with
        | false =>
            cases hstep
            exact hbegun
        | true =>
            obtain ⟨⟨signalled, w'⟩, hemit, rfl⟩ := Option.map_eq_some_iff.1 hstep
            exact hlike (hk.calls_keep.emit (hsignal _ hbegin rfl) hbegun hemit)
              ⟨rfl, rfl, rfl, fun h => ⟨h, rfl, rfl, rfl⟩⟩
      · cases hstep
        exact hu

end Kept

/-! ## A connection to try things on -/

namespace UdpSample

/-- The kernel refuses nothing. -/
def setup : SocketSetup where
  created := true
  bound := some (.ofHost false 9 [0, 0, 0, 0])
  configured := true
  subscribes _ := true
  sink := 1
  fd := 7

def opening : Opening where
  myPort := 9
  reuseAddr := false
  myAddr := some [0, 0, 0, 0]
  setup
  timerMade := true

/-- A host that is found, with the answer to `::connect`. -/
def resolution (connects : Bool) : Resolution where
  resolved := true
  address := .ofHost false 80 [10, 0, 0, 1]
  connects

/-- The timer fires, with these handlers of the connect signal. -/
def timer (signal : ConnectSignal) : UdpOp := .timer ⟨setup, true, .succeeds [], signal⟩

/-- A connection without a socket. -/
def start : UdpConnection := create 1500 false

end UdpSample

end Codon.Io
