import Codon.Io.UdpCalls

/-!
# Reconnecting

After a successful `open` a connection is meant to be open or to have its timer enabled, until it
is disconnected. `never_gives_up` says when it is.

What handlers do is not the trouble as such: a descriptor that closes enables the timer once its
handlers have returned. But where a handler fails the connect signal of the timer, and a handler of
the emission that the closing makes disconnects all slots and opens the connection again, the new
socket is dropped when it returns, and `handle_timer` then disables the timer all the same.
-/

namespace Codon.Io

namespace UdpConnection

/-- The second connection has the flags and the timer of the first and is open if that is. -/
structure KeepsStatus (u v : UdpConnection) : Prop where
  closed : v.isClosedFlag = u.isClosedFlag
  disconnected : v.isDisconnectedFlag = u.isDisconnectedFlag
  timer : v.timerEnabled = u.timerEnabled
  connected : u.isConnected = true → v.isConnected = true

variable {u v : UdpConnection}

/-- Setting the remote address keeps the status. -/
theorem keeps_status_set_remote_addr (u : UdpConnection) (r : Resolution) :
    u.KeepsStatus (u.setRemoteAddr r).2 := by
  obtain ⟨_, _, heq⟩ := u.set_remote_addr_cases r
  rw [heq]
  exact ⟨rfl, rfl, rfl, id⟩

/-- A call that opens and closes nothing keeps the status. -/
theorem keeps_status_call (u : UdpConnection) (c : UdpCall) : u.KeepsStatus (u.call c) := by
  obtain ⟨r, rfl⟩ | ⟨fdChannel, _, heq, hclosed⟩ | ⟨_, _, _, heq⟩ := u.call_cases c
  · exact u.keeps_status_set_remote_addr r
  · rw [heq]
    exact ⟨rfl, rfl, rfl, fun hopen => by simpa [isConnected, hclosed] using hopen⟩
  · rw [heq]
    exact ⟨rfl, rfl, rfl, id⟩

/-- An `open` that gets to its signal leaves the connection open and not disconnected. -/
theorem begin_open_of_true {o : Opening} (h : (u.beginOpen o).1 = true) :
    (u.beginOpen o).2.isConnected = true ∧ (u.beginOpen o).2.isClosedFlag = false ∧
      (u.beginOpen o).2.isDisconnectedFlag = false := by
  by_cases hgets : u.GetsSocket o
  · obtain ⟨_, _, _, _, _, _, _, _, heq, -, hopen, hflags⟩ := u.begin_open_of_gets_socket hgets
    rw [heq] at h ⊢
    obtain ⟨-, rfl, rfl⟩ | ⟨htimer, -⟩ := hflags
    · exact ⟨by simpa [isConnected] using hopen, rfl, rfl⟩
    · exact absurd (htimer.symm.trans h) Bool.false_ne_true
  · exact absurd ((u.like_begin_open hgets).2.symm.trans h) Bool.false_ne_true

/-- `open` keeps the status where it does not get to emit. -/
theorem keeps_status_begin_open {o : Opening} (h : (u.beginOpen o).1 = false) :
    u.KeepsStatus (u.beginOpen o).2 := by
  by_cases hgets : u.GetsSocket o
  · obtain ⟨_, _, _, _, _, _, _, _, heq, -, hopen, hflags⟩ := u.begin_open_of_gets_socket hgets
    rw [heq] at h ⊢
    obtain ⟨htimer, -⟩ | ⟨-, rfl, rfl⟩ := hflags
    · exact absurd (htimer.symm.trans h) (by simp)
    · exact ⟨rfl, rfl, rfl, fun _ => by simpa [isConnected] using hopen⟩
  · obtain ⟨_, _, _, _, _, heq, -⟩ := u.begin_open_of_no_socket hgets
    rw [heq]
    exact ⟨rfl, rfl, rfl, id⟩

/-- After the open that it begins with `connect` changes neither flags nor timer. -/
theorem keeps_status_connect_with {connectedSocket : Bool} {o : Opening} {emit : Emit}
    {r : Resolution} {result : Bool × UdpConnection}
    (h : u.connectWith connectedSocket o emit r = some result) :
    (∃ ok w, { u with connectedSocket }.openWith o emit = some (ok, w) ∧ w.KeepsStatus result.2) ∨
      u.KeepsStatus result.2 := by
  refine u.connect_with_rule (R := fun v => (∃ ok w, { u with connectedSocket }.openWith o emit =
    some (ok, w) ∧ w.KeepsStatus v) ∨ u.KeepsStatus v) (fun _ => .inr ⟨rfl, rfl, rfl, id⟩)
    (fun _ w hw => .inl ⟨_, w, hw, ⟨rfl, rfl, rfl, id⟩⟩) (fun _ w hw ok v hresult => ?_) h
  have hset := keeps_status_set_remote_addr w r
  rw [hresult] at hset
  refine .inl ⟨_, w, hw, ?_⟩
  cases ok with
  | false => exact ⟨hset.closed, hset.disconnected, hset.timer, hset.connected⟩
  | true => exact hset

/-! ## What calls keep -/

/-- A connection that is closed is disconnected; one that is not disconnected is open or has its
timer enabled, except while a descriptor closes. -/
structure Trying (u : UdpConnection) (x : Within) : Prop where
  disconnected : u.isClosedFlag = true → u.isDisconnectedFlag = true
  retries : x.closing = false → u.isDisconnectedFlag = false →
    u.isConnected = true ∨ u.timerEnabled = true

/-- A connection of the same status tries as before. -/
theorem KeepsStatus.trying {x : Within} (h : u.KeepsStatus v) (hu : u.Trying x) : v.Trying x where
  disconnected hclosed := h.disconnected.trans (hu.disconnected (h.closed.symm.trans hclosed))
  retries hx hactive := by
    rw [h.timer]
    exact (hu.retries hx (h.disconnected.symm.trans hactive)).imp_left h.connected

/-- A connection whose signal has been emitted by a descriptor that closes is disconnected or has
its timer enabled. -/
theorem start_reconnecting_enables {emit : Emit} (hemit : Reconnects emit) {ok : Bool}
    (h : emit u = some (ok, v)) (hactive : (v.startReconnecting ok).isDisconnectedFlag = false) :
    (v.startReconnecting ok).timerEnabled = true := by
  unfold startReconnecting at hactive ⊢
  split_ifs at hactive ⊢ with hreconnects
  · rfl
  · have hfailed : ok = false := by simpa [hactive] using hreconnects
    subst hfailed
    exact hemit u v h hactive

/-- Reconnecting changes neither of the two flags. -/
theorem start_reconnecting_flags (u : UdpConnection) (signalled : Bool) :
    (u.startReconnecting signalled).isClosedFlag = u.isClosedFlag ∧
      (u.startReconnecting signalled).isDisconnectedFlag = u.isDisconnectedFlag := by
  unfold startReconnecting
  split_ifs <;> exact ⟨rfl, rfl⟩

/-- What an emission by a descriptor that closes leaves of the connection tries again. -/
theorem Trying.start_reconnecting {emit : Emit} (hemit : Reconnects emit) {ok : Bool} {x y : Within}
    (h : emit u = some (ok, v)) (hv : v.Trying x) : (v.startReconnecting ok).Trying y where
  disconnected hclosed := by
    obtain ⟨hclosedFlag, hdisconnected⟩ := start_reconnecting_flags v ok
    exact hdisconnected.trans (hv.disconnected (hclosedFlag.symm.trans hclosed))
  retries _ hactive := .inr (start_reconnecting_enables hemit h hactive)

/-- A connection whose channel is closed still tries, if the handlers of its signal let it. -/
theorem Trying.close_channel {emit : Emit} (hemit : Reconnects emit) {x : Within}
    (hshut : u.shut.Trying x)
    (hsignal : u.Shuts → ∀ ok w, emit u.shut = some (ok, w) → w.Trying x.close)
    (h : u.closeChannel emit = some v) : v.Trying x := by
  refine u.close_channel_keeps (R := (·.Trying x)) hshut (fun hshuts ok w hemitted => ?_) h
  have hclosed := (hsignal hshuts ok w hemitted).start_reconnecting (y := {}) hemit hemitted
  exact ⟨hclosed.disconnected, fun _ hactive =>
    .inr (start_reconnecting_enables hemit hemitted hactive)⟩

/-- A connection that tries still does when `open` is called. -/
theorem Trying.begin_open {x : Within} (hu : u.Trying x) (o : Opening) :
    (u.beginOpen o).2.Trying x := by
  cases hok : (u.beginOpen o).1 with
  | false => exact (keeps_status_begin_open hok).trying hu
  | true =>
      obtain ⟨hopen, hclosed, -⟩ := begin_open_of_true hok
      exact ⟨fun h => absurd (hclosed.symm.trans h) Bool.false_ne_true, fun _ _ => .inl hopen⟩

/-- A connection that tries still does after `open`. -/
theorem Trying.open_with {x : Within} {o : Opening} {emit : Emit} {ok : Bool} (hu : u.Trying x)
    (hemitted : (u.beginOpen o).1 = true → ∀ ok w, emit (u.beginOpen o).2 = some (ok, w) →
      w.Trying x)
    (h : u.openWith o emit = some (ok, v)) : v.Trying x := by
  obtain ⟨-, heq⟩ | ⟨hbegins, -, signalled, hemit⟩ := u.open_with_cases h
  · have hbegun := hu.begin_open o
    rwa [← heq] at hbegun
  · exact hemitted hbegins signalled v hemit

/-- A connection that is disconnected need not try. -/
theorem trying_of_disconnected {x : Within} (h : u.isDisconnectedFlag = true) : u.Trying x :=
  ⟨fun _ => h, fun _ hactive => absurd (h.symm.trans hactive) (by simp)⟩

/-- Whatever calls handlers make, the connection keeps trying. -/
theorem trying_kept : CallsKeep (fun _ _ _ _ => True) fun x u => u.Trying x where
  signal _ hu := ⟨hu.disconnected, hu.retries⟩
  close := trivial
  emission := by
    intro x emit u c _ hu e he
    cases c with
    | plain c => cases he
    | opens o =>
        obtain ⟨-, he⟩ := Option.ite_none_right_eq_some.1 he
        cases he
        exact hu.begin_open o
    | connects connectedSocket o r =>
        obtain ⟨-, he⟩ := Option.ite_none_right_eq_some.1 he
        cases he
        have hbegun : (u.beginConnect connectedSocket o).2.Trying x :=
          Trying.begin_open (u := { u with connectedSocket }) ⟨hu.disconnected, hu.retries⟩ o
        exact ⟨hbegun.disconnected, hbegun.retries⟩
    | disconnects | closes =>
        obtain ⟨-, he⟩ := Option.ite_none_right_eq_some.1 he
        cases he
        exact trying_of_disconnected rfl
  made := by
    intro x emit u c v _ hu hemit hemitted h
    cases c with
    | plain c =>
        cases h
        exact (keeps_status_call ..).trying hu
    | opens o =>
        obtain ⟨⟨ok, v⟩, hopened, rfl⟩ := Option.map_eq_some_iff.1 h
        exact hu.open_with (fun hbegins => hemitted (x, _) (if_pos hbegins)) hopened
    | connects connectedSocket o r =>
        obtain ⟨result, hconnected, rfl⟩ := Option.map_eq_some_iff.1 h
        obtain ⟨ok, w, hopened, hkept⟩ | hkept := keeps_status_connect_with hconnected
        · refine hkept.trying (Trying.open_with (u := { u with connectedSocket })
            ⟨hu.disconnected, hu.retries⟩ (fun hbegins signalled w hemit => ?_) hopened)
          have hw := hemitted (x.connect, _) (if_pos hbegins) signalled w hemit
          exact ⟨hw.disconnected, hw.retries⟩
        · exact hkept.trying hu
    | disconnects | closes =>
        exact Trying.close_channel hemit (trying_of_disconnected rfl)
          (fun hshuts => hemitted (x.close, _) (if_pos hshuts)) h

/-- A condition that always holds holds of every call. -/
theorem each_made_of_forall (x : Within) (calls : List ClientCall) (u : UdpConnection) :
    EachMade (fun _ _ _ _ => True) x calls u := by
  induction calls generalizing u with
  | nil => trivial
  | cons c calls ih => exact ⟨trivial, fun _ _ => ih ..⟩

/-- A condition that always holds is met by every call. -/
theorem each_of_forall (s : ConnectSignal) (x : Within) (u : UdpConnection) :
    s.Each (fun _ _ _ _ => True) x u := by
  induction s generalizing x u with
  | succeeds calls => exact fun _ => each_made_of_forall ..
  | fails calls closing ih => exact fun _ => ⟨each_made_of_forall .., fun _ _ _ _ => ih ..⟩

/-- A connection that tries still does after an emission. -/
theorem Trying.emit {x : Within} {s : ConnectSignal} {ok : Bool} (hu : u.Trying x)
    (h : emit s u = some (ok, v)) : v.Trying x :=
  trying_kept.emit (each_of_forall s x u) hu h

/-! ## The connect signal of the timer -/

end UdpConnection

open UdpConnection

/-- While a descriptor closes no `open` gets to its signal. -/
def OpensNothingClosing (x : Within) (_ : Emit) (u : UdpConnection) : ClientCall → Prop
  | .opens o => x.closing = true → (u.beginOpen o).1 = false
  | .connects connectedSocket o _ =>
      x.closing = true → (u.beginConnect connectedSocket o).1 = false
  | _ => True

instance (x : Within) (emit : Emit) (u : UdpConnection) :
    (c : ClientCall) → Decidable (OpensNothingClosing x emit u c)
  | .opens _ | .connects .. => inferInstanceAs (Decidable (_ → _))
  | .plain _ | .disconnects | .closes => inferInstanceAs (Decidable True)

namespace UdpConnection

variable {u v : UdpConnection}

/-- A connection that is disconnected, or open and not in the emission of a descriptor that closes.
-/
def OpenOrDisconnected (x : Within) (u : UdpConnection) : Prop :=
  u.isDisconnectedFlag = true ∨ x.closing = false ∧ u.isConnected = true

/-- A connection of the same status is as open or disconnected as before. -/
theorem KeepsStatus.open_or_disconnected {x : Within} (h : u.KeepsStatus v)
    (hu : OpenOrDisconnected x u) : OpenOrDisconnected x v :=
  hu.imp h.disconnected.trans fun ⟨hx, hopen⟩ => ⟨hx, h.connected hopen⟩

/-- `open` leaves the connection open or disconnected before it emits. -/
theorem OpenOrDisconnected.begin_open {x : Within} {o : Opening} (hu : OpenOrDisconnected x u)
    (h : x.closing = true → (u.beginOpen o).1 = false) :
    OpenOrDisconnected x (u.beginOpen o).2 := by
  cases hok : (u.beginOpen o).1 with
  | false => exact (keeps_status_begin_open hok).open_or_disconnected hu
  | true =>
      refine .inr ⟨?_, (begin_open_of_true hok).1⟩
      cases hx : x.closing with
      | false => rfl
      | true => exact absurd (hok.symm.trans (h hx)) (by simp)

/-- `open` leaves the connection open or disconnected. -/
theorem OpenOrDisconnected.open_with {x : Within} {o : Opening} {emit : Emit} {ok : Bool}
    (hu : OpenOrDisconnected x u) (hnone : x.closing = true → (u.beginOpen o).1 = false)
    (hemitted : (u.beginOpen o).1 = true → ∀ ok w, emit (u.beginOpen o).2 = some (ok, w) →
      OpenOrDisconnected x w)
    (h : u.openWith o emit = some (ok, v)) : OpenOrDisconnected x v := by
  obtain ⟨-, heq⟩ | ⟨hbegins, -, signalled, hemit⟩ := u.open_with_cases h
  · have hbegun := hu.begin_open hnone
    rwa [← heq] at hbegun
  · exact hemitted hbegins signalled v hemit

/-- A connection that is closed is disconnected after that. -/
theorem disconnected_of_close_channel {emit : Emit} {x : Within}
    (hflag : u.isDisconnectedFlag = true)
    (hsignal : u.Shuts → ∀ ok w, emit u.shut = some (ok, w) → OpenOrDisconnected x.close w)
    (h : u.closeChannel emit = some v) : v.isDisconnectedFlag = true := by
  refine u.close_channel_keeps (R := fun v => v.isDisconnectedFlag = true) hflag
    (fun hshuts ok w hemit => ?_) h
  refine (start_reconnecting_flags ..).2.trans ((hsignal hshuts ok w hemit).resolve_right ?_)
  exact fun hopen => by cases hopen.1

/-- The calls that meet the condition leave the connection open or disconnected. -/
theorem open_or_disconnected_kept : CallsKeep OpensNothingClosing OpenOrDisconnected where
  signal _ hu := hu
  close := trivial
  emission := by
    intro x emit u c hK hu e he
    cases c with
    | plain c => cases he
    | opens o =>
        obtain ⟨-, he⟩ := Option.ite_none_right_eq_some.1 he
        cases he
        exact hu.begin_open hK
    | connects connectedSocket o r =>
        obtain ⟨-, he⟩ := Option.ite_none_right_eq_some.1 he
        cases he
        exact OpenOrDisconnected.begin_open (x := x) (u := { u with connectedSocket }) hu hK
    | disconnects | closes =>
        obtain ⟨-, he⟩ := Option.ite_none_right_eq_some.1 he
        cases he
        exact .inl rfl
  made := by
    intro x emit u c v hK hu _ hemitted h
    cases c with
    | plain c =>
        cases h
        exact (keeps_status_call ..).open_or_disconnected hu
    | opens o =>
        obtain ⟨⟨ok, v⟩, hopened, rfl⟩ := Option.map_eq_some_iff.1 h
        exact hu.open_with hK (fun hbegins => hemitted (x, _) (if_pos hbegins)) hopened
    | connects connectedSocket o r =>
        obtain ⟨result, hconnected, rfl⟩ := Option.map_eq_some_iff.1 h
        obtain ⟨ok, w, hopened, hkept⟩ | hkept := keeps_status_connect_with hconnected
        · exact hkept.open_or_disconnected (OpenOrDisconnected.open_with (x := x)
            (u := { u with connectedSocket }) hu hK
            (fun hbegins => hemitted (x.connect, _) (if_pos hbegins)) hopened)
        · exact hkept.open_or_disconnected hu
    | disconnects | closes =>
        exact .inl (disconnected_of_close_channel (x := x) rfl
          (fun hshuts => hemitted (x.close, _) (if_pos hshuts)) h)

/-! ## Events -/

/-- An event of the timer that gets to the connect signal is one whose handlers open nothing while a
descriptor closes. -/
def KeepsTrying (u : UdpConnection) : UdpOp → Prop
  | .timer t =>
      u.timerEnabled = true → u.isClosedFlag = false → ∀ begun ∈ u.beginTimer t, begun.1 = true →
        t.signal.Each OpensNothingClosing {} begun.2
  | _ => True

instance (u : UdpConnection) : (op : UdpOp) → Decidable (u.KeepsTrying op)
  | .timer t =>
      inferInstanceAs (Decidable (_ → _ → ∀ begun ∈ u.beginTimer t, begun.1 = true →
        t.signal.Each OpensNothingClosing {} begun.2))
  | .calls .. | .fdCloses _ | .strayCloses .. | .orphanCloses _ | .written .. =>
      inferInstanceAs (Decidable True)

/-- Up to the connect signal `handle_timer` keeps trying, and where it gets there the connection is
open. -/
theorem Trying.begin_timer (hu : u.Trying {}) (henabled : u.timerEnabled = true) {t : TimerEvent}
    {ok : Bool} (h : u.beginTimer t = some (ok, v)) :
    v.Trying {} ∧ (ok = true → v.isConnected = true) := by
  unfold beginTimer at h
  split at h
  · next hopen =>
    cases h
    exact ⟨hu, fun _ => hopen⟩
  · obtain ⟨_, _, heq⟩ | ⟨name, socket, fdChannel, heq, -, hopen⟩ := u.open_socket_cases t.setup <;>
      rw [heq] at h
    · cases h
      exact ⟨⟨hu.disconnected, fun _ _ => .inr henabled⟩, fun h => by cases h⟩
    · obtain ⟨rfl, ⟨_, rfl⟩, -⟩ | ⟨rfl, -, hclosed⟩ := connect_again_cases _ h
      · exact ⟨⟨hu.disconnected, fun _ _ => .inr henabled⟩,
          fun _ => by simpa [isConnected] using hopen⟩
      · have hshut : ∀ x, { u with localAddr := name, socket, fdChannel }.shut.Trying x :=
          fun _ => ⟨hu.disconnected, fun _ _ => .inr henabled⟩
        exact ⟨Trying.close_channel (emit_reconnects t.closing) (hshut _)
          (fun _ ok w hemit => (hshut _).emit hemit) hclosed, fun h => by cases h⟩

/-- The close handler of the connection makes it try to reconnect, whatever state it is in. -/
theorem handle_fd_close_trying {s : ConnectSignal}
    (hu : u.isClosedFlag = true → u.isDisconnectedFlag = true)
    (h : handleFdClose (UdpConnection.emit s) u = some v) : v.Trying {} := by
  obtain ⟨⟨ok, w⟩, hemit, rfl⟩ := Option.map_eq_some_iff.1 h
  have hclosing : u.Trying { closing := true } := ⟨hu, fun h => by cases h⟩
  exact (hclosing.emit hemit).start_reconnecting (emit_reconnects s) hemit

/-- An event of the timer that meets the condition disables the timer of an open or disconnected
connection. -/
theorem Trying.finish_timer {signal : ConnectSignal} (hu : u.Trying {})
    (hopen : u.isConnected = true) (heach : signal.Each OpensNothingClosing {} u)
    (h : finishTimer signal (true, u) = some v) : v.Trying {} := by
  obtain ⟨⟨ok, w⟩, hemit, rfl⟩ := Option.map_eq_some_iff.1 h
  refine ⟨(hu.emit hemit).disconnected, fun _ hactive => ?_⟩
  have hstart : OpenOrDisconnected {} u := .inr ⟨rfl, hopen⟩
  obtain hdisconnected | ⟨-, hopen⟩ := open_or_disconnected_kept.emit heach hstart hemit
  · exact absurd (hdisconnected.symm.trans hactive) (by simp)
  · exact .inl hopen

/-- A connection that tries still does after a step. -/
theorem Trying.step {op : UdpOp} (hu : u.Trying {}) (hop : u.KeepsTrying op)
    (hstep : u.step op = some v) : v.Trying {} := by
  cases op with
  | calls c signal =>
      refine trying_kept.made trivial hu (emit_reconnects signal) (fun e he ok w hemit => ?_) hstep
      have hw :=
        @CallsKeep.emission _ _ trying_kept {} (UdpConnection.emit signal) u c trivial hu e he
      exact hw.emit hemit
  | fdCloses signal =>
      simp only [UdpConnection.step] at hstep
      split_ifs at hstep
      · cases hstep
        exact hu
      · exact handle_fd_close_trying (u := u.loseFd) hu.disconnected hstep
  | strayCloses closing signal =>
      simp only [UdpConnection.step] at hstep
      split_ifs at hstep
      · cases hstep
        exact hu
      · obtain ⟨w, hclosed, hstep⟩ := Option.bind_eq_some_iff.1 hstep
        have hshut : { u with strays := u.strays - 1 }.shut.Trying { closing := true } :=
          ⟨hu.disconnected, fun h => by cases h⟩
        have hw := Trying.close_channel (emit_reconnects closing) hshut
          (fun _ ok w hemit => hshut.emit hemit) hclosed
        exact handle_fd_close_trying hw.disconnected hstep
  | orphanCloses signal =>
      simp only [UdpConnection.step] at hstep
      split_ifs at hstep
      · cases hstep
        exact hu
      · obtain ⟨_, -, hstep⟩ := Option.bind_eq_some_iff.1 hstep
        have hrest : { u with orphans := u.orphans - 1 }.Trying {} := ⟨hu.disconnected, hu.retries⟩
        exact handle_fd_close_trying hrest.disconnected hstep
  | written dgrams signal =>
      simp only [UdpConnection.step] at hstep
      split_ifs at hstep
      · cases hstep
        exact hu
      · exact handle_fd_close_trying (u := (u.wrote dgrams).loseFd) hu.disconnected hstep
      · cases hstep
        exact ⟨hu.disconnected, hu.retries⟩
  | timer t =>
      simp only [UdpConnection.step, handleTimer] at hstep
      split_ifs at hstep with henabled hclosed
      · cases hstep
        -- the timer of a closed connection is disabled, which is not one that tries
        exact ⟨hu.disconnected, fun _ hactive =>
          absurd ((hu.disconnected hclosed).symm.trans hactive) (by simp)⟩
      · obtain ⟨⟨ok, w⟩, hbegin, hstep⟩ := Option.bind_eq_some_iff.1 hstep
        obtain ⟨hbegun, hopen⟩ := hu.begin_timer henabled hbegin
        cases ok with
        | false =>
            cases hstep
            exact hbegun
        | true =>
            -- the condition is about the emission with the new socket
            have heach := hop henabled (by simpa using hclosed) (true, w) hbegin rfl
            exact hbegun.finish_timer (hopen rfl) heach hstep
      · cases hstep
        exact hu

end UdpConnection

/-- In a run whose timer events meet the condition, a connection that is not disconnected is open or
has its timer enabled. -/
theorem never_gives_up (maxDgramLen : Nat) (isIpv6 : Bool) {ops : List UdpOp}
    (h : (create maxDgramLen isIpv6).Along KeepsTrying ops) :
    ∀ u ∈ (create maxDgramLen isIpv6).after ops,
      u.isDisconnectedFlag = false → u.isConnected = true ∨ u.timerEnabled = true := by
  intro u hu
  have htrying : u.Trying {} := by
    refine h.keeps (P := fun u => u.Trying {}) ⟨fun _ => rfl, fun _ h => by cases h⟩ ?_ u hu
    exact fun hu hop hstep => hu.step hop hstep
  exact htrying.retries rfl

namespace UdpSample

/-- A handler that disconnects its slot and opens the connection. -/
def openingLast : List ClientCall := [.plain (.disconnectSlot (some 0)), .opens opening]

/-- The connection has a slot, is opened, loses its socket and gets no new one. Then the timer opens
one and its handler fails, so that it is closed again; a client opens another. -/
def retry : List UdpOp :=
  [.calls (.plain .connectSlot) (.succeeds []), .calls (.opens opening) (.succeeds []),
    .fdCloses (.succeeds []),
    .timer ⟨{ setup with created := false }, true, .succeeds [], .succeeds []⟩,
    timer (.fails [] (.succeeds [])), .calls (.opens opening) (.succeeds [])]

/-- The socket is lost, and the timer opens one whose handler fails; in the emission of the socket
that is closed a handler opens another. -/
def reopenWhileClosing : List UdpOp :=
  [.calls (.plain .connectSlot) (.succeeds []), .calls (.opens opening) (.succeeds []),
    .fdCloses (.succeeds []), timer (.fails [] (.succeeds openingLast))]

end UdpSample

open UdpSample

/-- The connection of the sample tries until it is open. -/
theorem retried_until_open :
    start.Along KeepsTrying retry ∧
    (∃ u ∈ start.after retry, u.isDisconnectedFlag = false) ∧
    ∀ u ∈ start.after retry,
      u.isDisconnectedFlag = false → u.isConnected = true ∨ u.timerEnabled = true := by
  have h : start.Along KeepsTrying retry := by decide
  exact ⟨h, by decide, never_gives_up 1500 false h⟩

/-- The socket that was opened while the other closed is dropped, and then the timer is disabled. -/
theorem reopened_while_closing_gives_up :
    ¬∀ (maxDgramLen : Nat) (isIpv6 : Bool) (ops : List UdpOp),
      ∀ u ∈ (create maxDgramLen isIpv6).after ops,
        u.isDisconnectedFlag = false → u.isConnected = true ∨ u.timerEnabled = true := by
  intro h
  exact absurd (h 1500 false reopenWhileClosing) (by decide)

end Codon.Io
