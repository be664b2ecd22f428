import Codon.Io.UdpCalls

/-!
# Connected sockets

Where `connected_socket` is set, the kernel is to restrict the traffic of the socket to the remote
address. `connected_to_remote` says what a run has to meet so that the socket of an open channel
is connected to it in every state, and a `connect` that fails leaves the channel closed.

The reconnect timer connects a new socket or closes it again. `open` and `connect` do not:
`set_remote_addr` may fail once the socket is open, or change the address first.
-/

namespace Codon.Io

namespace UdpConnection

/-- The socket is connected to the remote address, where it should be. -/
def ConnectedToRemote (u : UdpConnection) : Prop :=
  u.isConnected = true → u.connectedSocket = true → u.socket.connectedTo = some u.remoteAddr

instance (u : UdpConnection) : Decidable u.ConnectedToRemote :=
  inferInstanceAs (Decidable (_ → _ → _))

/-- An open connection does what `set_remote_addr` is called for. -/
def Reaches (u : UdpConnection) (r : Resolution) : Prop :=
  u.isClosedFlag = false ∧ r.resolved = true ∧
    (u.connectedSocket = true → r.address.isUnspecified u.isIpv6 = false ∧ r.connects = true)

instance (u : UdpConnection) (r : Resolution) : Decidable (u.Reaches r) :=
  inferInstanceAs (Decidable (_ ∧ _ ∧ (_ → _ ∧ _)))

end UdpConnection

open UdpConnection

/-- A call that keeps the socket connected to the remote address. On a connected socket
`set_remote_addr` does what it is called for, or leaves the address as it is. `open` gets no socket
that is to be connected. `connect` is called on a closed channel and does all it is called for, if
its handlers leave the channel open; while it emits its signal the others are free. -/
def KeepsConnected (x : Within) (emit : Emit) (u : UdpConnection) : ClientCall → Prop
  | .plain (.setRemoteAddr r) =>
      x.connecting = false → u.isConnected = true → u.connectedSocket = true →
        u.isClosedFlag = false → r.address ≠ u.remoteAddr → u.Reaches r
  | .opens o => x.connecting = false → u.connectedSocket = true → ¬u.GetsSocket o
  | .connects connectedSocket o r =>
      u.isConnected = false ∧
      ({ u with connectedSocket }.GetsSocket o → o.timerMade = true) ∧
      ((u.beginConnect connectedSocket o).1 = true →
        ∀ emitted ∈ emit (u.beginConnect connectedSocket o).2,
          emitted.2.isConnected = true → emitted.2.Reaches r)
  | _ => True

/-- What is kept: also inside a call of `connect` no such call has failed with the channel open. -/
def SoundlyConnected (x : Within) (u : UdpConnection) : Prop :=
  u.leftOpen = false ∧ (x.connecting = false → u.ConnectedToRemote)

namespace UdpConnection

variable {u v : UdpConnection}

/-- What differs from a connected socket at most by being closed is not connected elsewhere. -/
theorem LikeOrClosed.still_connected (h : u.LikeOrClosed v) (hu : u.ConnectedToRemote) :
    v.ConnectedToRemote := by
  intro hopen hconnected
  obtain ⟨hwas, hsocket, hflag, hremote⟩ := h.kept hopen
  rw [hsocket, hremote]
  exact hu hwas (hflag ▸ hconnected)

/-- The same within an emission. -/
theorem LikeOrClosed.soundly_connected {x : Within} (h : u.LikeOrClosed v)
    (hu : SoundlyConnected x u) : SoundlyConnected x v :=
  ⟨h.leftOpen.trans hu.1, fun hx => h.still_connected (hu.2 hx)⟩

/-- A new remote address opens and closes nothing. -/
theorem set_remote_addr_is_connected (u : UdpConnection) (r : Resolution) :
    (u.setRemoteAddr r).2.isConnected = u.isConnected := by
  obtain ⟨_, _, heq⟩ := u.set_remote_addr_cases r
  rw [heq]
  rfl

/-- It does not touch what a failed connect left open. -/
theorem set_remote_addr_left_open (u : UdpConnection) (r : Resolution) :
    (u.setRemoteAddr r).2.leftOpen = u.leftOpen := by
  obtain ⟨_, _, heq⟩ := u.set_remote_addr_cases r
  rw [heq]

/-- It does not change whether the socket is a connected one. -/
theorem set_remote_addr_connected_socket (u : UdpConnection) (r : Resolution) :
    (u.setRemoteAddr r).2.connectedSocket = u.connectedSocket := by
  obtain ⟨_, _, heq⟩ := u.set_remote_addr_cases r
  rw [heq]

/-- A socket that `connect` accepts is connected to the remote address. -/
theorem connect_socket_connected {connects : Bool} (h : (u.connectSocket connects).1 = true) :
    (u.connectSocket connects).2.ConnectedToRemote := by
  unfold connectSocket at h ⊢
  split_ifs at h ⊢
  exact fun _ _ => rfl

/-- On an open connection `::connect` is called for the address that is given. -/
theorem connect_socket_of_open {connects : Bool} (hopen : u.isConnected = true)
    (hconnected : u.connectedSocket = true)
    (hspecified : u.remoteAddr.isUnspecified u.isIpv6 = false) (hconnects : connects = true) :
    (u.connectSocket connects).1 = true := by
  have hheld : u.fdChannel.fes.isNone = false := by
    simp only [isConnected, FdDgramChannel.isClosed, Bool.not_eq_true', Bool.or_eq_false_iff]
      at hopen
    exact hopen.2
  simp [connectSocket, hconnected, hspecified, hheld, hconnects]

/-- A new remote address that is resolved and accepted is the one connected to. -/
theorem set_remote_addr_of_reaches {r : Resolution} (hopen : u.isConnected = true)
    (h : u.Reaches r) : (u.setRemoteAddr r).1 = true ∧ (u.setRemoteAddr r).2.ConnectedToRemote := by
  obtain ⟨hclosed, hresolved, hconnect⟩ := h
  unfold setRemoteAddr
  rw [if_neg (by simp [hclosed]), if_neg (by simp [hresolved])]
  split_ifs with hconnected
  · obtain ⟨hspecified, hconnects⟩ := hconnect hconnected
    have hreached : ({ u with remoteAddr := r.address }.connectSocket r.connects).1 = true :=
      connect_socket_of_open hopen hconnected hspecified hconnects
    exact ⟨hreached, connect_socket_connected hreached⟩
  · exact ⟨rfl, fun _ h => absurd h hconnected⟩

/-- An address that is given again stays connected to, whatever else fails. -/
theorem set_remote_addr_same {r : Resolution} (h : r.address = u.remoteAddr)
    (hu : u.ConnectedToRemote) : (u.setRemoteAddr r).2.ConnectedToRemote := by
  have hsame : { u with remoteAddr := r.address } = u := by rw [h]
  unfold setRemoteAddr
  simp only [hsame]
  split_ifs
  · exact hu
  · exact hu
  · cases hconnect : (u.connectSocket r.connects).1 with
    | true => exact connect_socket_connected hconnect
    | false =>
        unfold connectSocket at hconnect ⊢
        split_ifs at hconnect ⊢ <;> exact hu
  · exact hu

/-- A retry that succeeds is connected to the remote address. -/
theorem connect_again_connected {t : TimerEvent} (h : u.connectAgain t = some (true, v)) :
    v.ConnectedToRemote := by
  obtain ⟨-, ⟨_, rfl⟩, hconnects⟩ | ⟨hfails, -⟩ := u.connect_again_cases h
  · intro hopen hconnected
    obtain ⟨hok, heq⟩ := hconnects hconnected
    rw [heq] at hopen hconnected ⊢
    exact connect_socket_connected hok hopen hconnected
  · cases hfails

/-- A connect that fails leaves a connection that is not connected elsewhere. -/
theorem failed_connect_sound {x : Within} (hleft : u.leftOpen = false)
    (hclosed : u.isConnected = false) : SoundlyConnected x u.failedConnect := by
  refine ⟨by simp [failedConnect, hleft, hclosed], fun _ hopen => ?_⟩
  have hstill : u.isConnected = true := hopen
  rw [hclosed] at hstill
  cases hstill

/-- A `connect` on a closed channel whose `open` gets no socket or ends as it should. -/
theorem connect_with_sound {x : Within} {connectedSocket : Bool} {o : Opening} {emit : Emit}
    {r : Resolution} (hclosed : u.isConnected = false)
    (hopened : ∀ ok w, { u with connectedSocket }.openWith o emit = some (ok, w) →
      w.leftOpen = false ∧ (ok = false → w.isConnected = false) ∧
        (ok = true → w.isConnected = true → w.Reaches r))
    {result : Bool × UdpConnection} (h : u.connectWith connectedSocket o emit r = some result) :
    SoundlyConnected x result.2 := by
  refine u.connect_with_rule (fun hopen => ?_) (fun _ w hw => ?_) (fun _ w hw ok v hresult => ?_) h
  · exact absurd (hopen.symm.trans hclosed) (by simp)
  · obtain ⟨hleft, hfails, -⟩ := hopened false w hw
    exact failed_connect_sound hleft (hfails rfl)
  · obtain ⟨hleft, -, hreaches⟩ := hopened true w hw
    have hset := fun hopen => set_remote_addr_of_reaches hopen (hreaches rfl hopen)
    have hkept := set_remote_addr_is_connected w r
    have hsound := (set_remote_addr_left_open w r).trans hleft
    rw [hresult] at hset hkept hsound
    cases ok with
    | false =>
        refine failed_connect_sound hsound ?_
        rw [← Bool.not_eq_true, hkept]
        exact fun hopen => absurd (hset hopen).1 Bool.false_ne_true
    | true => exact ⟨hsound, fun _ hopen => (hset (hkept.symm.trans hopen)).2 hopen⟩

end UdpConnection

/-- The calls that meet the condition keep the socket connected. -/
theorem keeps_connected_kept : KeptByCalls KeepsConnected SoundlyConnected where
  like hu h := h.soundly_connected hu
  close := Iff.rfl
  closes := trivial
  call := by
    intro x emit u c hK hu
    obtain ⟨r, rfl⟩ | hchannel | ⟨_, _, _, heq⟩ := u.call_cases c
    · refine ⟨(u.set_remote_addr_left_open r).trans hu.1, fun hx hopen hconnected => ?_⟩
      have hwas : u.isConnected = true := (u.set_remote_addr_is_connected r).symm.trans hopen
      have hflag := (u.set_remote_addr_connected_socket r).symm.trans hconnected
      revert hopen hconnected
      show (u.setRemoteAddr r).2.ConnectedToRemote
      -- the source looks at nothing else when the address is the old one
      by_cases hsame : r.address = u.remoteAddr
      · exact set_remote_addr_same hsame (hu.2 hx)
      · cases hclosed : u.isClosedFlag with
        | true =>
            rw [setRemoteAddr, if_pos hclosed]
            exact hu.2 hx
        | false => exact (set_remote_addr_of_reaches hwas (hK hx hwas hflag hclosed hsame)).2
    · exact hchannel.like.soundly_connected hu
    · rw [heq]
      exact hu
  opened := by
    intro x emit u o hK hu hgets
    obtain ⟨_, _, _, _, _, _, _, _, heq, -⟩ := u.begin_open_of_gets_socket hgets
    rw [heq]
    -- a new socket is not connected, which the condition excludes
    exact ⟨hu.1, fun hx _ hflag => absurd hgets (hK hx hflag)⟩
  connect := by
    intro x emit u connectedSocket o r hK hu
    obtain ⟨hclosed, htimer, hreaches⟩ := hK
    -- `connect_socket` comes after the emission, in which the handlers have been
    by_cases hgets : { u with connectedSocket }.GetsSocket o
    · obtain ⟨_, _, _, _, _, _, _, _, heq, -⟩ := begin_open_of_gets_socket _ hgets
      rw [htimer hgets] at heq
      have hbegins : (u.beginConnect connectedSocket o).1 = true := congrArg Prod.fst heq
      refine ⟨fun _ => ?_, fun hemitted result => connect_with_sound hclosed fun ok w hopened => ?_⟩
      · rw [beginConnect, heq]
        exact ⟨hu.1, fun hx => by cases hx⟩
      · obtain ⟨hfails, -⟩ | ⟨-, rfl, signalled, hemit⟩ := open_with_cases _ hopened
        · exact absurd (hbegins.symm.trans hfails) (by simp)
        · refine ⟨(hemitted hbegins signalled w hemit).1, (fun h => by cases h), fun _ => ?_⟩
          exact hreaches hbegins (signalled, w) hemit
    · obtain ⟨_, _, _, _, _, heq, -⟩ := begin_open_of_no_socket _ hgets
      have hfails : (u.beginConnect connectedSocket o).1 = false := congrArg Prod.fst heq
      refine ⟨fun h => absurd (hfails.symm.trans h) Bool.false_ne_true,
        fun _ result => connect_with_sound hclosed fun ok w hopened => ?_⟩
      obtain ⟨-, hw⟩ | ⟨hbegins, -⟩ := open_with_cases _ hopened
      · rw [heq] at hw
        cases hw
        exact ⟨hu.1, fun _ => hclosed, fun h => by cases h⟩
      · exact absurd (hfails.symm.trans hbegins) Bool.false_ne_true

/-- In a run whose calls meet the condition the socket of an open channel is connected to the remote
address where it should be, and no call of `connect` fails and leaves the channel open. -/
theorem connected_to_remote (maxDgramLen : Nat) (isIpv6 : Bool) {ops : List UdpOp}
    (h : (create maxDgramLen isIpv6).Along (fun u op => op.Each KeepsConnected u) ops) :
    ∀ u ∈ (create maxDgramLen isIpv6).after ops, u.ConnectedToRemote ∧ u.leftOpen = false := by
  intro u hu
  have hsound : SoundlyConnected {} u := by
    refine h.keeps ⟨rfl, fun _ _ hflag => by cases hflag⟩ ?_ u hu
    intro u op v hu hop hstep
    refine keeps_connected_kept.step ?_ hop hu hstep
    intro u w t hu hclosed hsocket hagain
    refine ⟨?_, fun _ => connect_again_connected hagain⟩
    obtain ⟨-, ⟨_, rfl⟩, -⟩ | ⟨hfails, -⟩ := connect_again_cases _ hagain
    · exact (u.like_open_socket_shut t.setup).leftOpen.trans hu.1
    · cases hfails
  exact ⟨hsound.2 rfl, hsound.1⟩

instance (x : Within) (emit : Emit) (u : UdpConnection) :
    (c : ClientCall) → Decidable (KeepsConnected x emit u c)
  | .plain c =>
      match c with
      | .setRemoteAddr _ => instDecidableForall
      | .commitDataframe .. | .commitDataframeTo .. | .writeTo .. | .groupJoin ..
      | .groupJoinAll .. | .groupLeave .. | .groupLeaveAll .. | .connectSlot | .disconnectSlot _
      | .clearSlots => .isTrue trivial
  | .opens .. => instDecidableForall
  | .connects .. => instDecidableAnd
  | .disconnects | .closes => .isTrue trivial

namespace UdpSample

/-- A connected socket is opened, with a handler that gives it an address; it is given that again,
lost and opened by the timer. -/
def reconnect : List UdpOp :=
  [.calls (.plain .connectSlot) (.succeeds []),
    .calls (.connects true opening (resolution true))
      (.succeeds [.plain (.setRemoteAddr (resolution false))]),
    .calls (.plain (.setRemoteAddr (resolution false))) (.succeeds []), .fdCloses (.succeeds []),
    timer (.succeeds [])]

end UdpSample

open UdpSample

/-- The theorem on a run that connects, closes and connects again. -/
theorem reconnected_to_remote :
    start.Along (fun u op => op.Each KeepsConnected u) reconnect ∧
    (∃ u ∈ start.after reconnect, u.isConnected = true ∧ u.connectedSocket = true) ∧
    ∀ u ∈ start.after reconnect, u.ConnectedToRemote ∧ u.leftOpen = false := by
  have h : start.Along (fun u op => op.Each KeepsConnected u) reconnect := by decide
  exact ⟨h, by decide, connected_to_remote 1500 false h⟩

/-- Where `::connect` fails `connect` returns false, and the socket is open and not connected. -/
theorem failed_connect_leaves_open :
    ¬∀ (maxDgramLen : Nat) (isIpv6 : Bool) (ops : List UdpOp),
      ∀ u ∈ (create maxDgramLen isIpv6).after ops, u.ConnectedToRemote ∧ u.leftOpen = false := by
  intro h
  have hfails := h 1500 false
    [.calls (.connects true opening (resolution false)) (.succeeds [])]
  exact absurd hfails (by decide)

end Codon.Io
